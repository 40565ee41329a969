import Mathlib.Data.Int.Log
import Mathlib.Data.Rat.Floor
import Mathlib.Tactic.LinearCombination
import Mathlib.Tactic.Positivity

/-!
# Rounding to a floating-point format

A finite number of a binary floating-point format is an integer of a bounded number of bits
times a power of two, and the exponent of the power has a lower bound.  The format has no
upper bound here: a caller that needs one compares what was rounded with it.

* `roundHalfEven` rounds to an integer, and `FloatFormat.nearest` to a number of a format.
* `represents_nearest` and `abs_nearest_sub_le` say that it is a number of the format and
  that none is closer.
* `nearest_le` and `le_nearest` say that no number is rounded over a number of the format.
-/

/-- The nearest integer, and the even one of two. -/
def roundHalfEven (q : ℚ) : Int :=
  if q - ⌊q⌋ < 1 / 2 ∨ (q - ⌊q⌋ = 1 / 2 ∧ ⌊q⌋ % 2 = 0) then ⌊q⌋ else ⌊q⌋ + 1

/-! ## Rounding to an integer -/

theorem roundHalfEven_intCast (n : Int) : roundHalfEven n = n := by
  unfold roundHalfEven
  rw [Int.floor_intCast, sub_self, if_pos (Or.inl (by norm_num))]

theorem roundHalfEven_nonneg {q : ℚ} (hq : 0 ≤ q) : 0 ≤ roundHalfEven q := by
  have hfloor : 0 ≤ ⌊q⌋ := Int.floor_nonneg.2 hq
  unfold roundHalfEven
  split <;> omega

/-- No number is rounded over an integer. -/
theorem roundHalfEven_le {q : ℚ} {n : Int} (hq : q ≤ n) : roundHalfEven q ≤ n := by
  have hfloor : ⌊q⌋ ≤ n := Int.floor_le_iff.2 (by linarith)
  unfold roundHalfEven
  split
  · exact hfloor
  · rename_i hup
    have hlt : ⌊q⌋ < n := by
      refine lt_of_le_of_ne hfloor fun heq => hup (Or.inl ?_)
      rw [heq]
      linarith
    omega

theorem abs_roundHalfEven_sub (q : ℚ) : |(roundHalfEven q : ℚ) - q| ≤ 1 / 2 := by
  have hlow := Int.floor_le q
  have hhigh := Int.lt_floor_add_one q
  unfold roundHalfEven
  split
  · rename_i hdown
    rw [abs_le]
    rcases hdown with hdown | ⟨hdown, _⟩ <;> constructor <;> linarith
  · rename_i hup
    have hhalf : 1 / 2 ≤ q - ⌊q⌋ := not_lt.1 fun hlt => hup (Or.inl hlt)
    push_cast
    rw [abs_le]
    constructor <;> linarith

/-- Two integers that are both closer than one to a number and to each other are equal. -/
theorem roundHalfEven_eq {q : ℚ} {n : Int} (h : |q - n| < 1 / 2) : roundHalfEven q = n := by
  have hround := abs_le.1 (abs_roundHalfEven_sub q)
  have hnear := abs_lt.1 h
  have hlow : (-1 : ℚ) < ((roundHalfEven q - n : Int) : ℚ) := by
    push_cast
    linarith [hround.1, hnear.1]
  have hhigh : ((roundHalfEven q - n : Int) : ℚ) < 1 := by
    push_cast
    linarith [hround.2, hnear.2]
  have hlow' : -1 < roundHalfEven q - n := by exact_mod_cast hlow
  have hhigh' : roundHalfEven q - n < 1 := by exact_mod_cast hhigh
  omega

/-- No integer is closer than the one that is rounded to. -/
theorem abs_roundHalfEven_sub_le (q : ℚ) (n : Int) :
    |(roundHalfEven q : ℚ) - q| ≤ |(n : ℚ) - q| := by
  by_cases hnear : |q - n| < 1 / 2
  · rw [roundHalfEven_eq hnear]
  · rw [abs_sub_comm (n : ℚ)]
    exact (abs_roundHalfEven_sub q).trans (not_lt.1 hnear)

/-! ## Rounding to a binary place -/

/-- The nearest multiple of a power of two, and the even one of two. -/
def roundAt (place : Int) (q : ℚ) : ℚ := roundHalfEven (q / 2 ^ place) * 2 ^ place

theorem two_zpow_pos (place : Int) : (0 : ℚ) < 2 ^ place := zpow_pos (by norm_num) place

theorem roundAt_sub (place : Int) (q x : ℚ) :
    |x * 2 ^ place - q| = |x - q / 2 ^ place| * 2 ^ place := by
  have hpos := two_zpow_pos place
  rw [← abs_of_pos hpos, ← abs_mul, abs_of_pos hpos, sub_mul, div_mul_cancel₀ _ hpos.ne']

theorem abs_roundAt_sub (place : Int) (q : ℚ) : |roundAt place q - q| ≤ 2 ^ place / 2 := by
  unfold roundAt
  rw [roundAt_sub]
  have hpos := two_zpow_pos place
  calc |(roundHalfEven (q / 2 ^ place) : ℚ) - q / 2 ^ place| * 2 ^ place
      ≤ 1 / 2 * 2 ^ place := mul_le_mul_of_nonneg_right (abs_roundHalfEven_sub _) hpos.le
    _ = 2 ^ place / 2 := by ring

theorem abs_roundAt_sub_le (place : Int) (q : ℚ) (n : Int) :
    |roundAt place q - q| ≤ |(n : ℚ) * 2 ^ place - q| := by
  unfold roundAt
  rw [roundAt_sub, roundAt_sub]
  exact mul_le_mul_of_nonneg_right (abs_roundHalfEven_sub_le _ n) (two_zpow_pos place).le

/-- The multiple below is the nearest one up to half of the distance, which is included when
the multiple is even. -/
theorem roundAt_eq_of_even {place n : Int} {q : ℚ} (hn : n % 2 = 0) (hlow : (n : ℚ) * 2 ^ place ≤ q)
    (hhigh : q ≤ n * 2 ^ place + 2 ^ place / 2) : roundAt place q = n * 2 ^ place := by
  have hpos := two_zpow_pos place
  have hlow' : (n : ℚ) ≤ q / 2 ^ place := (le_div_iff₀ hpos).2 hlow
  have hhigh' : q / 2 ^ place ≤ n + 1 / 2 := by
    rw [div_le_iff₀ hpos]
    linarith
  have hfloor : ⌊q / 2 ^ place⌋ = n := Int.floor_eq_iff.2 ⟨hlow', by linarith⟩
  have hdown : roundHalfEven (q / 2 ^ place) = n := by
    unfold roundHalfEven
    rw [hfloor]
    refine if_pos ?_
    rcases lt_or_eq_of_le hhigh' with hlt | heq
    · exact Or.inl (by linarith)
    · exact Or.inr ⟨by linarith, hn⟩
  rw [roundAt, hdown]

/-- A rounding that keeps the first bit moves a number by at most a half of it. -/
theorem abs_roundAt_log_sub {q : ℚ} (hq : q ≠ 0) {place : Int} (hplace : place ≤ Int.log 2 |q|) :
    |roundAt place q - q| ≤ |q| / 2 := by
  have hbelow : (2 : ℚ) ^ Int.log 2 |q| ≤ |q| := by
    exact_mod_cast Int.zpow_log_le_self (by decide) (abs_pos.2 hq)
  have hpower : (2 : ℚ) ^ place ≤ 2 ^ Int.log 2 |q| := zpow_le_zpow_right₀ one_le_two hplace
  have hround := abs_roundAt_sub place q
  linarith

/-! ## Formats -/

/-- A format with a number of significant bits, and a last place that is never smaller. -/
structure FloatFormat where
  precision : Nat
  lowest : Int
  bits : 0 < precision

namespace FloatFormat

variable (f : FloatFormat)

/-- The numbers of the format. -/
def Represents (x : ℚ) : Prop :=
  ∃ m e : Int, |m| < 2 ^ f.precision ∧ f.lowest ≤ e ∧ x = m * 2 ^ e

/-- A number of the format that is large is a multiple of a large power of two. -/
theorem Represents.exists_multiple {f : FloatFormat} {x : ℚ} (hx : f.Represents x) {k : Int}
    (hlarge : (2 : ℚ) ^ (k + (f.precision - 1)) ≤ |x|) : ∃ n : Int, x = n * 2 ^ k := by
  obtain ⟨m, e, hm, _, rfl⟩ := hx
  have hcast : (|m| : ℚ) < 2 ^ f.precision := by exact_mod_cast hm
  have hpower : (2 : ℚ) ^ (k + (f.precision - 1)) < 2 ^ (f.precision + e) := by
    calc (2 : ℚ) ^ (k + (f.precision - 1)) ≤ |(m : ℚ) * 2 ^ e| := hlarge
      _ = |(m : ℚ)| * 2 ^ e := by rw [abs_mul, abs_of_pos (two_zpow_pos e)]
      _ < 2 ^ f.precision * 2 ^ e := mul_lt_mul_of_pos_right hcast (two_zpow_pos e)
      _ = 2 ^ (f.precision + e) := by rw [zpow_add₀ two_ne_zero, zpow_natCast]
  have hle : k ≤ e := by
    have := (zpow_lt_zpow_iff_right₀ one_lt_two).1 hpower
    omega
  obtain ⟨j, rfl⟩ := Int.le.dest hle
  refine ⟨m * 2 ^ j, ?_⟩
  rw [zpow_add₀ two_ne_zero, zpow_natCast]
  push_cast
  ring

/-- The place of the last bit of the numbers around `q`. -/
def place (q : ℚ) : Int := max (Int.log 2 |q| - (f.precision - 1)) f.lowest

/-- The nearest number of the format, and the even one of two. -/
def nearest (q : ℚ) : ℚ := roundAt (f.place q) q

variable {f} {q x : ℚ}

@[simp] theorem nearest_zero : f.nearest 0 = 0 := by
  have hzero := roundHalfEven_intCast 0
  rw [Int.cast_zero] at hzero
  simp [nearest, roundAt, hzero]

theorem abs_lt_place (q : ℚ) : |q| < 2 ^ f.precision * 2 ^ f.place q := by
  calc |q| < 2 ^ (Int.log 2 |q| + 1) := by
        exact_mod_cast Int.lt_zpow_succ_log_self (by decide) |q|
    _ ≤ 2 ^ ((f.precision : Int) + f.place q) :=
        zpow_le_zpow_right₀ (by norm_num) (by unfold place; omega)
    _ = 2 ^ f.precision * 2 ^ f.place q := by rw [zpow_add₀ two_ne_zero, zpow_natCast]

/-- The integer that is rounded to has the bits of the format, or one bit more and is a power
of two. -/
theorem abs_significand_le (q : ℚ) :
    |roundHalfEven (q / 2 ^ f.place q)| ≤ 2 ^ f.precision := by
  have hpos := two_zpow_pos (f.place q)
  have hless : |q / 2 ^ f.place q| < 2 ^ f.precision := by
    rw [abs_div, abs_of_pos hpos, div_lt_iff₀ hpos]
    exact abs_lt_place q
  have htriangle : |(roundHalfEven (q / 2 ^ f.place q) : ℚ)| < 2 ^ f.precision + 1 := by
    have hround := abs_roundHalfEven_sub (q / 2 ^ f.place q)
    have hdistance :=
      abs_sub_abs_le_abs_sub (roundHalfEven (q / 2 ^ f.place q) : ℚ) (q / 2 ^ f.place q)
    linarith
  have hcast : ((|roundHalfEven (q / 2 ^ f.place q)| : Int) : ℚ) <
      ((2 ^ f.precision + 1 : Int) : ℚ) := by
    push_cast
    exact htriangle
  exact Int.lt_add_one_iff.1 (Int.cast_lt.1 hcast)

theorem represents_nearest (q : ℚ) : f.Represents (f.nearest q) := by
  have hlowest : f.lowest ≤ f.place q := le_max_right _ _
  have hvalue : f.nearest q = (roundHalfEven (q / 2 ^ f.place q) : ℚ) * 2 ^ f.place q := rfl
  rcases lt_or_eq_of_le (abs_significand_le (f := f) q) with hlt | heq
  · exact ⟨_, f.place q, hlt, hlowest, hvalue⟩
  · -- A carry out of the first bit: half of the integer, one place up.
    rw [hvalue]
    generalize roundHalfEven (q / 2 ^ f.place q) = m at heq
    obtain ⟨p, hp⟩ := Nat.exists_eq_succ_of_ne_zero f.bits.ne'
    have hpower : (0 : Int) < 2 ^ p := by positivity
    have hdouble : (2 : Int) ^ f.precision = 2 ^ p * 2 := by rw [hp, pow_succ]
    rw [hdouble] at heq
    generalize (2 : Int) ^ p = power at *
    have hhalf : |m / 2| < power * 2 ∧ m = m / 2 * 2 := by
      rw [abs_lt]
      rcases abs_cases m with ⟨_, _⟩ | ⟨_, _⟩ <;> omega
    refine ⟨m / 2, f.place q + 1, by rw [hdouble]; exact hhalf.1, by omega, ?_⟩
    have hcast : (m : ℚ) = ((m / 2 : Int) : ℚ) * 2 := by exact_mod_cast hhalf.2
    rw [zpow_add_one₀ two_ne_zero]
    linear_combination hcast * (2 : ℚ) ^ f.place q

/-- No number of the format is closer. -/
theorem abs_nearest_sub_le (hx : f.Represents x) : |f.nearest q - q| ≤ |x - q| := by
  obtain ⟨m, e, hm, he, rfl⟩ := hx
  rcases eq_or_ne q 0 with rfl | hq
  · rw [nearest_zero, sub_zero, abs_zero]
    exact abs_nonneg _
  by_cases hfine : f.place q ≤ e
  · -- `x` is a multiple of the place.
    obtain ⟨k, rfl⟩ := Int.le.dest hfine
    have hmultiple : (m : ℚ) * 2 ^ (f.place q + k) =
        ((m * 2 ^ k : Int) : ℚ) * 2 ^ f.place q := by
      rw [zpow_add₀ two_ne_zero, zpow_natCast]
      push_cast
      ring
    rw [hmultiple]
    exact abs_roundAt_sub_le _ q _
  · -- `x` is under the power of two below `q`, and that is a multiple of the place.
    have hplace : f.place q + (f.precision - 1 : Nat) = Int.log 2 |q| := by
      have hbits := f.bits
      unfold place at hfine ⊢
      omega
    have hbelow : (2 : ℚ) ^ Int.log 2 |q| ≤ |q| := by
      exact_mod_cast Int.zpow_log_le_self (by decide) (abs_pos.2 hq)
    have hpower : ((2 ^ (f.precision - 1) : Int) : ℚ) * 2 ^ f.place q = 2 ^ Int.log 2 |q| := by
      rw [← hplace, zpow_add₀ two_ne_zero, zpow_natCast, mul_comm]
      push_cast
      rfl
    have hsmall : |(m : ℚ) * 2 ^ e| ≤ 2 ^ Int.log 2 |q| := by
      have hcast : (|m| : ℚ) ≤ 2 ^ f.precision := by exact_mod_cast hm.le
      calc |(m : ℚ) * 2 ^ e| = |(m : ℚ)| * 2 ^ e := by
            rw [abs_mul, abs_of_pos (two_zpow_pos e)]
        _ ≤ 2 ^ f.precision * 2 ^ e :=
            mul_le_mul_of_nonneg_right hcast (two_zpow_pos e).le
        _ = 2 ^ (f.precision + e) := by rw [zpow_add₀ two_ne_zero, zpow_natCast]
        _ ≤ 2 ^ Int.log 2 |q| := by
            have hbits := f.bits
            exact zpow_le_zpow_right₀ one_le_two (by omega)
    have hfar : |q| - 2 ^ Int.log 2 |q| ≤ |m * 2 ^ e - q| := by
      have htriangle := abs_sub_abs_le_abs_sub q ((m : ℚ) * 2 ^ e)
      rw [abs_sub_comm] at htriangle
      linarith
    refine le_trans ?_ hfar
    rcases lt_or_gt_of_ne hq with hneg | hpos
    · refine (abs_roundAt_sub_le _ q (-2 ^ (f.precision - 1))).trans_eq ?_
      rw [Int.cast_neg, neg_mul, hpower, abs_of_neg hneg] at *
      rw [abs_of_nonneg] <;> linarith
    · refine (abs_roundAt_sub_le _ q (2 ^ (f.precision - 1))).trans_eq ?_
      rw [hpower, abs_of_pos hpos] at *
      rw [abs_of_nonpos] <;> linarith

/-- No number is rounded over a number of the format. -/
theorem nearest_le (hx : f.Represents x) (h : q ≤ x) : f.nearest q ≤ x := by
  by_contra hover
  have hclosest := abs_nearest_sub_le (q := q) hx
  rw [not_le] at hover
  rw [abs_of_nonneg (by linarith), abs_of_nonneg (by linarith)] at hclosest
  linarith

/-- No number is rounded under a number of the format. -/
theorem le_nearest (hx : f.Represents x) (h : x ≤ q) : x ≤ f.nearest q := by
  by_contra hunder
  have hclosest := abs_nearest_sub_le (q := q) hx
  rw [not_le] at hunder
  rw [abs_of_nonpos (by linarith), abs_of_nonpos (by linarith)] at hclosest
  linarith

/-- A number over the middle of two others, of which the greater is one of the format, is
rounded over the smaller. -/
theorem lt_nearest (hx : f.Represents x) {low : ℚ} (hlow : low < x) (h : low + x < 2 * q) :
    low < f.nearest q := by
  by_contra hunder
  have hclosest := abs_nearest_sub_le (q := q) hx
  rw [not_lt] at hunder
  rw [abs_of_nonpos (by linarith : f.nearest q - q ≤ 0)] at hclosest
  rcases abs_cases (x - q) with ⟨hdistance, _⟩ | ⟨hdistance, _⟩ <;> linarith

theorem represents_zero : f.Represents 0 :=
  ⟨0, f.lowest, by simp, le_rfl, by simp⟩

/-- The rounding error is at most half of the last place of the numbers below a power of two. -/
theorem abs_nearest_sub {k : Int} (hq : |q| < 2 ^ k) (hk : f.lowest ≤ k - f.precision) :
    |f.nearest q - q| ≤ 2 ^ (k - f.precision) / 2 := by
  have hpos := two_zpow_pos (k - f.precision)
  rcases eq_or_ne q 0 with rfl | hne
  · rw [nearest_zero, sub_zero, abs_zero]
    positivity
  · have hlog : Int.log 2 |q| < k :=
      (Int.lt_zpow_iff_log_lt (by decide) (abs_pos.2 hne)).1 (by exact_mod_cast hq)
    have hplace : f.place q ≤ k - f.precision := by
      unfold place
      omega
    have hpower : (2 : ℚ) ^ f.place q ≤ 2 ^ (k - f.precision) :=
      zpow_le_zpow_right₀ one_le_two hplace
    have herror := abs_roundAt_sub (f.place q) q
    unfold nearest
    linarith

end FloatFormat
