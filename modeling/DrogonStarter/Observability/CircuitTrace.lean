import DrogonStarter.Lib.Trace
import DrogonStarter.Observability.CircuitState

/-!
# The circuit breaker and its past

The four fields of `CircuitState` stand for the calls so far.  `circuitCalls` is the
circuit as a server of its three calls, in any order, and the namespace `CircuitTrace`
says what of the past counts.

* `CircuitTrace.failures`, `lastFailure` and `probed` read it off a trace, and
  `CircuitTrace.Grants` is what `allow()` should answer.
* `CircuitState.Recalls` says how the fields stand for the trace.  Each call keeps it:
  `Recalls.allow`, `Recalls.success` and `Recalls.failure`.
* `allow_iff_grants` is about every `allow()` of every run.  The cooldown that counts is the
  one in ticks, and it says when that is the one that was configured.
-/

namespace DrogonStarter.Observability

open CppNumber Serving

inductive CircuitRequest where
  | allow
  | success
  | failure
deriving DecidableEq

/-- A circuit and its calls, each with the time that it reads.  Only `allow()` answers. -/
def circuitCalls (rates : ClockRates) :
    Server CircuitState (Nat × CircuitRequest) (Option Bool) where
  next c call :=
    match call.2 with
    | .allow => (c.allow call.1).2
    | .success => c.success
    | .failure => c.failure rates call.1
  answer c call :=
    match call.2 with
    | .allow => some (c.allow call.1).1
    | .success | .failure => none

/-- The calls so far, with their times and their answers. -/
abbrev CircuitTrace := List ((Nat × CircuitRequest) × Option Bool)

namespace CircuitTrace

def isSuccess (entry : (Nat × CircuitRequest) × Option Bool) : Bool := entry.1.2 = .success

def isFailure (entry : (Nat × CircuitRequest) × Option Bool) : Bool := entry.1.2 = .failure

/-- An `allow()` that returned true. -/
def isGrant (entry : (Nat × CircuitRequest) × Option Bool) : Bool :=
  entry.1.2 = .allow && entry.2 = some true

/-- How often `failure()` was called since the last `success()`. -/
def failures (trace : CircuitTrace) : Nat := (since isSuccess trace).countP isFailure

/-- The time of the last `failure()`. -/
def lastFailure (trace : CircuitTrace) : Option Nat := (latest isFailure trace).map (·.1.1)

/-- An `allow()` has returned true since the last `failure()`. -/
def probed (trace : CircuitTrace) : Bool := (since isFailure trace).any isGrant

/-- What `allow()` should answer at a time: the circuit has not failed often enough to open,
or its cooldown is over and nothing was granted after it.  The cooldown is a number of ticks,
whole or not. -/
def Grants (threshold : Nat) (cooldown : ℚ) (trace : CircuitTrace) (now : Nat) : Prop :=
  trace.failures < threshold ∨
    ∃ last ∈ trace.lastFailure, (last : ℚ) + cooldown ≤ now ∧ trace.probed = false

variable (trace : CircuitTrace) (now : Nat) (answer : Option Bool)

@[simp] theorem failures_allow :
    failures (trace ++ [((now, .allow), answer)]) = trace.failures := by
  simp [failures, since_concat, isSuccess, isFailure]

@[simp] theorem failures_success :
    failures (trace ++ [((now, .success), answer)]) = 0 := by
  simp [failures, since_concat, isSuccess]

@[simp] theorem failures_failure :
    failures (trace ++ [((now, .failure), answer)]) = trace.failures + 1 := by
  simp [failures, since_concat, isSuccess, isFailure]

@[simp] theorem lastFailure_allow :
    lastFailure (trace ++ [((now, .allow), answer)]) = trace.lastFailure := by
  simp [lastFailure, latest_concat, isFailure]

@[simp] theorem lastFailure_failure :
    lastFailure (trace ++ [((now, .failure), answer)]) = some now := by
  simp [lastFailure, latest_concat, isFailure]

@[simp] theorem probed_allow :
    probed (trace ++ [((now, .allow), answer)]) = (answer = some true || trace.probed) := by
  simp [probed, since_concat, isFailure, isGrant]

@[simp] theorem probed_failure :
    probed (trace ++ [((now, .failure), answer)]) = false := by
  simp [probed, since_concat, isFailure]

end CircuitTrace

namespace CircuitState

/-- The fields of the circuit stand for its past. -/
structure Recalls (rates : ClockRates) (threshold : Nat) (seconds : Double)
    (trace : CircuitTrace) (c : CircuitState) : Prop where
  sameThreshold : c.failureThreshold = threshold
  sameCooldown : c.cooldown = seconds
  failures : c.failures = trace.failures
  closed : trace.failures < threshold → c.openUntil = 0
  opened : threshold ≤ trace.failures →
    ∃ last ∈ trace.lastFailure, 0 < last ∧ c.openUntil = last + rates.durationCast seconds ∧
      c.probeInFlight = trace.probed

variable {rates : ClockRates} {threshold : Nat} {seconds : Double} {trace : CircuitTrace}
  {c : CircuitState}

theorem recalls_new (hthreshold : 0 < threshold) :
    Recalls rates threshold seconds []
      { failureThreshold := threshold, cooldown := seconds } where
  sameThreshold := rfl
  sameCooldown := rfl
  failures := rfl
  closed _ := rfl
  opened hfull := absurd hthreshold (by simpa [CircuitTrace.failures] using hfull)

/-- What `allow()` answers is what it should answer, for the cooldown in ticks. -/
theorem Recalls.allow_iff (h : Recalls rates threshold seconds trace c) (now : Nat) :
    (c.allow now).1 = true ↔ trace.Grants threshold (rates.durationCast seconds) now := by
  have hcast : ∀ last : Nat, (last : ℚ) + (rates.durationCast seconds : ℚ) ≤ now ↔
      last + rates.durationCast seconds ≤ now := fun last => by exact_mod_cast Iff.rfl
  unfold CircuitTrace.Grants
  simp only [hcast]
  by_cases hlow : trace.failures < threshold
  · have hopen := h.closed hlow
    refine iff_of_true ?_ (Or.inl hlow)
    rcases c.allow_cases now with ⟨_, hpause | hprobe⟩ | ⟨heq, _⟩ | ⟨heq, _⟩
    · omega
    · exact absurd hopen hprobe.1
    · rw [heq]
    · rw [heq]
  · obtain ⟨last, hlast, hpos, hopen, hflag⟩ := h.opened (Nat.not_lt.1 hlow)
    have hmem : ∀ other ∈ trace.lastFailure, other = last := fun other hother =>
      Option.mem_unique hother hlast
    rcases c.allow_cases now with ⟨heq, hrefused⟩ | ⟨_, hclosed⟩ | ⟨heq, _, hnow, hdown⟩
    · refine iff_of_false (by rw [heq]; exact Bool.false_ne_true) ?_
      rintro (hfew | ⟨other, hother, hover, hnone⟩)
      · exact hlow hfew
      · rw [hmem other hother] at hover
        rcases hrefused with hpause | ⟨_, hprobe⟩
        · omega
        · rw [hflag, hnone] at hprobe
          cases hprobe
    · omega
    · refine iff_of_true (by rw [heq]) (Or.inr ⟨last, hlast, by omega, ?_⟩)
      rw [← hflag, hdown]

theorem Recalls.allow (h : Recalls rates threshold seconds trace c) (now : Nat) :
    Recalls rates threshold seconds (trace ++ [((now, .allow), some (c.allow now).1)])
      (c.allow now).2 := by
  rcases c.allow_cases now with ⟨heq, _⟩ | ⟨heq, hclosed⟩ | ⟨heq, hopen, _, hdown⟩
  · rw [heq]
    refine ⟨h.sameThreshold, h.sameCooldown, by simpa using h.failures, fun hlow => ?_,
      fun hfull => ?_⟩
    · exact h.closed (by simpa using hlow)
    · simpa using h.opened (by simpa using hfull)
  · -- The circuit is closed, so the threshold is not reached.
    rw [heq]
    refine ⟨h.sameThreshold, h.sameCooldown, by simpa using h.failures, fun _ => hclosed,
      fun hfull => ?_⟩
    obtain ⟨last, _, hpos, hopen, _⟩ := h.opened (by simpa using hfull)
    omega
  · rw [heq]
    refine ⟨h.sameThreshold, h.sameCooldown, by simpa using h.failures, fun hlow => ?_,
      fun hfull => ?_⟩
    · exact h.closed (by simpa using hlow)
    · obtain ⟨last, hlast, hpos, huntil, _⟩ := h.opened (by simpa using hfull)
      exact ⟨last, by simpa using hlast, hpos, huntil, by simp⟩

theorem Recalls.success (h : Recalls rates threshold seconds trace c)
    (hthreshold : 0 < threshold) (now : Nat) :
    Recalls rates threshold seconds (trace ++ [((now, .success), none)]) c.success := by
  refine ⟨h.sameThreshold, h.sameCooldown, ?_, fun _ => rfl, fun hfull => ?_⟩
  · rw [CircuitTrace.failures_success]
    rfl
  · rw [CircuitTrace.failures_success] at hfull
    omega

theorem Recalls.failure (h : Recalls rates threshold seconds trace c) {now : Nat}
    (hnow : 0 < now) :
    Recalls rates threshold seconds (trace ++ [((now, .failure), none)])
      (c.failure rates now) := by
  have hcount := h.failures
  have hthreshold := h.sameThreshold
  rcases c.failure_cases rates now with ⟨hlow, heq⟩ | ⟨htrips, heq⟩
  · unfold Trips at hlow
    rw [heq]
    refine ⟨hthreshold, h.sameCooldown, ?_, fun _ => h.closed (by omega), fun hfull => ?_⟩
    · rw [CircuitTrace.failures_failure, ← hcount]
    · rw [CircuitTrace.failures_failure] at hfull
      omega
  · unfold Trips at htrips
    rw [heq]
    refine ⟨hthreshold, h.sameCooldown, ?_, fun hlow => ?_, fun _ => ?_⟩
    · rw [CircuitTrace.failures_failure, ← hcount]
    · rw [CircuitTrace.failures_failure] at hlow
      omega
    · refine ⟨now, CircuitTrace.lastFailure_failure .., hnow, ?_, ?_⟩
      · change now + rates.durationCast c.cooldown = now + rates.durationCast seconds
        rw [h.sameCooldown]
      · rw [CircuitTrace.probed_failure]

/-- Every call keeps the fields and the past together. -/
theorem Recalls.next (h : Recalls rates threshold seconds trace c) (hthreshold : 0 < threshold)
    {call : Nat × CircuitRequest} (hnow : 0 < call.1) :
    Recalls rates threshold seconds (trace ++ [(call, (circuitCalls rates).answer c call)])
      ((circuitCalls rates).next c call) := by
  obtain ⟨now, call⟩ := call
  cases call with
  | allow => exact h.allow now
  | success => exact h.success hthreshold now
  | failure => exact h.failure hnow

end CircuitState

/-! ## Every run -/

section Runs

variable (rates : ClockRates) (threshold : Nat) (seconds : Double)

/-- The circuit after its calls. -/
def circuitAfter (calls : List (Nat × CircuitRequest)) : CircuitState :=
  (circuitCalls rates).after { failureThreshold := threshold, cooldown := seconds } calls

/-- The calls with their answers. -/
def circuitTrace (calls : List (Nat × CircuitRequest)) : CircuitTrace :=
  (circuitCalls rates).trace { failureThreshold := threshold, cooldown := seconds } calls

/-- Every `allow()` of a run answers what it should answer for a cooldown in ticks. -/
def Follows (cooldown : ℚ) (calls : List (Nat × CircuitRequest)) : Prop :=
  ∀ before now rest, calls = before ++ (now, .allow) :: rest →
    ((circuitCalls rates).answer (circuitAfter rates threshold seconds before) (now, .allow) =
        some true ↔
      (circuitTrace rates threshold seconds before).Grants threshold cooldown now)

/-- The times of a run: they are positive and never go back, and no pause ends after the last
tick of the clock. -/
structure OnClock (calls : List (Nat × CircuitRequest)) : Prop where
  positive : ∀ call ∈ calls, 0 < call.1
  ordered : calls.Pairwise (·.1 ≤ ·.1)
  fits : ∀ call ∈ calls, FitsClock call.1
  paused : ∀ call ∈ calls, call.2 = .failure → FitsClock (call.1 + rates.durationCast seconds)

variable {rates threshold seconds} {calls : List (Nat × CircuitRequest)}

/-- The fields of a circuit always stand for its past. -/
theorem recalls_circuitAfter (hthreshold : 0 < threshold) (htimes : ∀ call ∈ calls, 0 < call.1) :
    CircuitState.Recalls rates threshold seconds (circuitTrace rates threshold seconds calls)
      (circuitAfter rates threshold seconds calls) := by
  refine Server.trace_invariant (CircuitState.Recalls rates threshold seconds)
    (fun _ call => 0 < call.1) (CircuitState.recalls_new hthreshold) ?_ ?_
  · intro _ c call h hnow
    exact h.next hthreshold hnow
  · rintro before call rest rfl
    exact htimes call (by simp)

theorem follows_ticks (rates : ClockRates) (seconds : Double) (hthreshold : 0 < threshold)
    (htimes : ∀ call ∈ calls, 0 < call.1) :
    Follows rates threshold seconds (rates.durationCast seconds) calls := by
  rintro before now rest rfl
  have hbefore : ∀ call ∈ before, 0 < call.1 := fun call hmem =>
    htimes call (List.mem_append_left _ hmem)
  rw [← (recalls_circuitAfter hthreshold hbefore).allow_iff now]
  exact Option.some_inj

/-- Failures at one time, as many as open the circuit, and a later `allow()`. -/
def openedAt (threshold now later : Nat) : List (Nat × CircuitRequest) :=
  List.replicate threshold (now, .failure) ++ [(later, .allow)]

theorem onClock_openedAt {now later : Nat} (hnow : 0 < now) (hlater : now ≤ later)
    (hfits : FitsClock later) (hpaused : FitsClock (now + rates.durationCast seconds)) :
    OnClock rates seconds (openedAt threshold now later) := by
  have hcases : ∀ call ∈ openedAt threshold now later,
      call = (now, .failure) ∨ call = (later, .allow) := by
    intro call hcall
    rcases List.mem_append.1 hcall with hcall | hcall
    · exact Or.inl (List.eq_of_mem_replicate hcall)
    · exact Or.inr (List.mem_singleton.1 hcall)
  refine ⟨fun call hcall => ?_, ?_, fun call hcall => ?_, fun call hcall hfailure => ?_⟩
  · rcases hcases call hcall with rfl | rfl <;> omega
  · refine List.pairwise_append.2 ⟨List.pairwise_replicate.2 (Or.inr le_rfl),
      List.pairwise_singleton _ _, fun call hcall other hother => ?_⟩
    rw [List.eq_of_mem_replicate hcall, List.mem_singleton.1 hother]
    exact hlater
  · unfold FitsClock at hfits ⊢
    rcases hcases call hcall with rfl | rfl <;> omega
  · rcases hcases call hcall with rfl | rfl
    · exact hpaused
    · cases hfailure

/-- After the failures only the cooldown decides. -/
theorem grants_openedAt (hthreshold : 0 < threshold) (now later : Nat) (cooldown : ℚ) :
    (circuitTrace rates threshold seconds
        (List.replicate threshold (now, .failure))).Grants threshold cooldown later ↔
      (now : ℚ) + cooldown ≤ later := by
  obtain ⟨n, rfl⟩ := Nat.exists_eq_succ_of_ne_zero hthreshold.ne'
  have htrace : ∀ (m : Nat) (c : CircuitState),
      (circuitCalls rates).trace c (List.replicate m (now, .failure)) =
        List.replicate m ((now, .failure), none) := by
    intro m
    induction m with
    | zero => exact fun _ => rfl
    | succ m ih => exact fun c => congrArg _ (ih _)
  have hcount : ∀ m : Nat, CircuitTrace.failures
      (List.replicate m ((now, CircuitRequest.failure), none)) = m := by
    intro m
    induction m with
    | zero => rfl
    | succ m ih => rw [List.replicate_succ', CircuitTrace.failures_failure, ih]
  unfold circuitTrace
  rw [htrace, CircuitTrace.Grants, hcount, List.replicate_succ', CircuitTrace.lastFailure_failure,
    CircuitTrace.probed_failure]
  simp

/-- A cooldown that is no whole number of ticks counts like the next one that is. -/
theorem grants_ceil (trace : CircuitTrace) (now : Nat) (cooldown : ℚ) :
    trace.Grants threshold cooldown now ↔ trace.Grants threshold (⌈cooldown⌉ : Int) now := by
  have hceil : ∀ last : Nat, (last : ℚ) + cooldown ≤ now ↔
      (last : ℚ) + ((⌈cooldown⌉ : Int) : ℚ) ≤ now := by
    intro last
    have hsub : ∀ x : ℚ, (last : ℚ) + x ≤ now ↔ x ≤ ((now - last : Int) : ℚ) := by
      intro x
      push_cast
      exact (le_sub_iff_add_le').symm
    rw [hsub, hsub, Int.cast_le, Int.ceil_le]
  simp only [CircuitTrace.Grants, hceil]

/-- The ticks mean what the cooldown means exactly when they are the cooldown, rounded up. -/
theorem follows_iff (hthreshold : 0 < threshold) {cooldown : ℚ} (hpos : 0 < cooldown)
    (hfits : FitsClock (1 + rates.durationCast seconds)) :
    (∀ calls, OnClock rates seconds calls → Follows rates threshold seconds cooldown calls) ↔
      (rates.durationCast seconds : Int) = ⌈cooldown⌉ := by
  constructor
  · intro hfollows
    -- The run in which the circuit opens at the first tick tells the two apart.
    have hdecides : ∀ later : Nat, 1 ≤ later → later ≤ 1 + rates.durationCast seconds →
        (1 + cooldown ≤ later ↔ 1 + rates.durationCast seconds ≤ later) := by
      intro later hlater hbound
      have hclock : OnClock rates seconds (openedAt threshold 1 later) := by
        refine onClock_openedAt one_pos hlater ?_ (by exact_mod_cast hfits)
        unfold FitsClock at hfits ⊢
        omega
      have hseconds := hfollows _ hclock _ later [] rfl
      have hticks := follows_ticks rates seconds hthreshold hclock.positive _ later [] rfl
      rw [grants_openedAt hthreshold] at hseconds hticks
      have hcast : ((1 : Nat) : ℚ) + (rates.durationCast seconds : ℚ) ≤ later ↔
          1 + rates.durationCast seconds ≤ later := by exact_mod_cast Iff.rfl
      rw [← hcast, ← hticks, hseconds, Nat.cast_one]
    have hceil : 0 < ⌈cooldown⌉ := Int.ceil_pos.2 hpos
    obtain ⟨n, hn⟩ := Int.eq_ofNat_of_zero_le hceil.le
    rw [hn]
    refine congrArg Int.ofNat (le_antisymm ?_ ?_)
    · by_contra hmore
      have hover := (hdecides (1 + n) (by omega) (by omega)).1 (by
        have hle := Int.le_ceil cooldown
        rw [hn] at hle
        push_cast at hle ⊢
        linarith)
      omega
    · have hle := (hdecides (1 + rates.durationCast seconds) (by omega) le_rfl).2 le_rfl
      have hceil_le : ⌈cooldown⌉ ≤ (rates.durationCast seconds : Int) := by
        refine Int.ceil_le.2 ?_
        push_cast at hle ⊢
        linarith
      omega
  · rintro hexact calls hclock before now rest heq
    rw [follows_ticks _ _ hthreshold hclock.positive before now rest heq, grants_ceil _ _ cooldown,
      ← hexact, Int.cast_natCast]

end Runs

/-- In every run of calls `allow()` returns true exactly when fewer than `threshold` failures
were counted since the last success, or the cooldown after the last failure is over and no
`allow()` has returned true since.  The cooldown that counts is the one in ticks, as
`duration_cast` makes it when it fits into the clock.  The one in seconds counts the same in
every run exactly when the ticks are the seconds, rounded up to the next tick. -/
theorem allow_iff_grants {threshold : Nat} (hthreshold : 0 < threshold) {seconds : ℚ}
    (hpos : 0 < seconds) (hfits : FitsClock ⌊binary64.nearest (seconds * 10 ^ 9)⌋) :
    (∀ calls, OnClock steadyClock (.finite seconds) calls →
      Follows steadyClock threshold (.finite seconds) (nanoseconds (.finite seconds)) calls) ∧
    ((∀ calls, OnClock steadyClock (.finite seconds) calls →
        Follows steadyClock threshold (.finite seconds) (seconds * 10 ^ 9) calls) ↔
      (nanoseconds (.finite seconds) : Int) = ⌈seconds * 10 ^ 9⌉) :=
  ⟨fun _ hclock => follows_ticks _ _ hthreshold hclock.positive,
    follows_iff hthreshold (by positivity) (fitsClock_succ hpos hfits)⟩

/-- A circuit that opens at its first failure, a pause of a second and a half, and one probe
after it. -/
theorem allow_iff_grants_probe :
    (circuitCalls steadyClock).answer
        (circuitAfter steadyClock 1 (.finite (3 / 2)) [(1, .allow), (2, .failure)])
        (1500000002, .allow) = some true ↔
      (circuitTrace steadyClock 1 (.finite (3 / 2)) [(1, .allow), (2, .failure)]).Grants 1
        (3 / 2 * 10 ^ 9) 1500000002 := by
  have hclock : OnClock steadyClock (.finite (3 / 2))
      [(1, .allow), (2, .failure), (1500000002, .allow)] :=
    ⟨by decide, by decide, by decide, by decide +kernel⟩
  exact (allow_iff_grants one_pos (by norm_num) (by decide +kernel)).2.2 (by decide +kernel)
    _ hclock [(1, .allow), (2, .failure)] 1500000002 [] rfl

/-- The pause of 8.2 seconds ends a tick before its seconds are over. -/
theorem pause_cut_short :
    ¬ ∀ threshold (seconds : ℚ) calls, 0 < threshold → 0 < seconds →
      OnClock steadyClock (.finite seconds) calls →
        Follows steadyClock threshold (.finite seconds) (seconds * 10 ^ 9) calls := by
  intro hall
  have hpos : (0 : ℚ) < binary64.nearest (mkRat 82 10) := by decide +kernel
  have hfollows : ∀ calls, OnClock steadyClock (.finite (binary64.nearest (mkRat 82 10))) calls →
      Follows steadyClock 1 (.finite (binary64.nearest (mkRat 82 10)))
        (binary64.nearest (mkRat 82 10) * 10 ^ 9) calls :=
    fun calls => hall 1 _ calls one_pos hpos
  have hexact := (follows_iff one_pos (by positivity) (by decide +kernel)).1 hfollows
  revert hexact
  decide +kernel

end DrogonStarter.Observability
