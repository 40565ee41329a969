import DrogonStarter.Lib.Binary64

/-!
# Seconds and ticks of the clock

A duration is configured in seconds, as a `double`, and a time is a tick of a clock.
`ClockRates` holds the two conversions that the module relies on, and `steadyClock` is the
clock of the process: `std::chrono::steady_clock` counts nanoseconds in 64 bits.

* `nanoseconds_eq_floor` says what a duration is that fits, and `fitsClock_succ` that a tick of
  the clock is left then.
-/

namespace DrogonStarter.Observability

open CppNumber

/-- How long a number of seconds is in ticks of the clock: for the cooldown of
the circuit, and for a timer of the event loop. -/
structure ClockRates where
  durationCast : Double → Nat
  runAfter : Double → Nat

/-- A whole number of nanoseconds fits into the clock. -/
def FitsClock (ticks : Int) : Prop := ticks < 2 ^ 63

instance (ticks : Int) : Decidable (FitsClock ticks) :=
  inferInstanceAs (Decidable (ticks < 2 ^ 63))

/-- `duration_cast` to nanoseconds.  The product is rounded like every `double`, and the
conversion to an integer drops its fraction.  What does not fit has no value in C++.  The
processor makes a number of it that lies far in the past, which ends a pause at once: zero
ticks. -/
def nanoseconds : Double → Nat
  | .finite seconds =>
    let ticks := ⌊binary64.nearest (seconds * 10 ^ 9)⌋
    if FitsClock ticks then ticks.toNat else 0
  | .infinity _ | .nan => 0

/-- A clock that ticks in nanoseconds. -/
def steadyClock : ClockRates where
  durationCast := nanoseconds
  runAfter := nanoseconds

example : nanoseconds (.literal (mkRat 82 10)) = 8199999999 := by decide +kernel

example : nanoseconds (.finite (10 ^ 10)) = 0 := by decide +kernel

theorem floor_nearest_nonneg {seconds : ℚ} (hpos : 0 < seconds) :
    0 ≤ ⌊binary64.nearest (seconds * 10 ^ 9)⌋ :=
  Int.floor_nonneg.2 (FloatFormat.le_nearest FloatFormat.represents_zero (by positivity))

theorem nanoseconds_eq_floor {seconds : ℚ} (hpos : 0 < seconds)
    (hfits : FitsClock ⌊binary64.nearest (seconds * 10 ^ 9)⌋) :
    (nanoseconds (.finite seconds) : Int) = ⌊binary64.nearest (seconds * 10 ^ 9)⌋ := by
  simp only [nanoseconds, if_pos hfits]
  exact Int.toNat_of_nonneg (floor_nearest_nonneg hpos)

/-- The largest `double` that fits into the clock is not its last tick. -/
theorem fitsClock_succ {seconds : ℚ} (hpos : 0 < seconds)
    (hfits : FitsClock ⌊binary64.nearest (seconds * 10 ^ 9)⌋) :
    FitsClock (1 + nanoseconds (.finite seconds)) := by
  rw [nanoseconds_eq_floor hpos hfits]
  have hnonneg := floor_nearest_nonneg hpos
  have hrepresents := FloatFormat.represents_nearest (f := binary64) (seconds * 10 ^ 9)
  unfold FitsClock at hfits ⊢
  generalize binary64.nearest (seconds * 10 ^ 9) = ticks at *
  by_cases hlarge : (2 : ℚ) ^ (62 : Int) ≤ |ticks|
  · -- Up there every second number is missing, and more.
    obtain ⟨n, rfl⟩ := hrepresents.exists_multiple (k := 10) (by norm_num at hlarge ⊢; exact hlarge)
    have hfloor : ⌊(n : ℚ) * 2 ^ (10 : Int)⌋ = n * 1024 := by
      rw [show (n : ℚ) * 2 ^ (10 : Int) = ((n * 1024 : Int) : ℚ) by push_cast; norm_num,
        Int.floor_intCast]
    rw [hfloor] at hfits ⊢
    omega
  · have hsmall : ⌊ticks⌋ ≤ 2 ^ 62 := by
      have hle : ticks ≤ ((2 ^ 62 : Int) : ℚ) := by
        have hbound := (le_abs_self ticks).trans (not_le.1 hlarge).le
        exact_mod_cast hbound
      exact Int.cast_le.1 ((Int.floor_le ticks).trans hle)
    omega

end DrogonStarter.Observability
