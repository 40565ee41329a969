import DrogonStarter.Lib.Transition
import DrogonStarter.Observability.Clock

/-!
# The circuit breaker

`CircuitState` is shared by every batch of a reporter.  A batch is granted by
`allow` and resolved, once, by `success` or by `failure`.  Each of the three
runs under the mutex of the circuit and reads the steady clock there, so it is
one atomic step at one time.

* `CircuitState.allow_cases` and `CircuitState.failure_cases` say everything
  that the calls do.  Later proofs use them and never unfold the calls.
* `Breaker` is a circuit together with the batches that it has granted, and
  `breaker` is the machine in which they are granted and resolved in any
  order.
* `atMostOneProbe_via` is about the batches granted while the circuit was
  open.  `probeInFlight` is one flag for all batches, so a late failure of an
  older batch clears it under an unresolved probe: `OvertakesProbe`.
-/

namespace DrogonStarter.Observability

open CppNumber Transition

/-- `struct CircuitState`.  Times are ticks of the steady clock, and a
`time_point{}` is zero.  `cooldown` is in seconds. -/
structure CircuitState where
  failures : Nat := 0
  failureThreshold : Nat
  openUntil : Nat := 0
  cooldown : Double
  probeInFlight : Bool := false
deriving DecidableEq

namespace CircuitState

def allow (c : CircuitState) (now : Nat) : Bool × CircuitState :=
  if now < c.openUntil then (false, c)
  else if c.openUntil ≠ 0 ∧ c.probeInFlight then (false, c)
  else if c.openUntil ≠ 0 then (true, { c with probeInFlight := true })
  else (true, c)

def success (c : CircuitState) : CircuitState :=
  { c with failures := 0, openUntil := 0, probeInFlight := false }

def failure (rates : ClockRates) (c : CircuitState) (now : Nat) : CircuitState :=
  let counted := { c with failures := c.failures + 1 }
  if counted.failureThreshold ≤ counted.failures then
    { counted with openUntil := now + rates.durationCast c.cooldown, probeInFlight := false }
  else counted

/-- A `failure()` that opens the circuit, or opens it again. -/
def Trips (c : CircuitState) : Prop := c.failureThreshold ≤ c.failures + 1

instance (c : CircuitState) : Decidable c.Trips :=
  inferInstanceAs (Decidable (c.failureThreshold ≤ c.failures + 1))

/-- `allow` refuses during the pause and behind a probe.  It grants freely
while the circuit is closed, and one probe after the pause. -/
theorem allow_cases (c : CircuitState) (now : Nat) :
    (c.allow now = (false, c) ∧
        (now < c.openUntil ∨ c.openUntil ≠ 0 ∧ c.probeInFlight = true)) ∨
      (c.allow now = (true, c) ∧ c.openUntil = 0) ∨
      (c.allow now = (true, { c with probeInFlight := true }) ∧
        c.openUntil ≠ 0 ∧ c.openUntil ≤ now ∧ c.probeInFlight = false) := by
  unfold allow
  split_ifs with hpause hprobe hopen
  · exact Or.inl ⟨rfl, Or.inl hpause⟩
  · exact Or.inl ⟨rfl, Or.inr hprobe⟩
  · refine Or.inr (Or.inr ⟨rfl, hopen, by omega, ?_⟩)
    cases hflag : c.probeInFlight with
    | false => rfl
    | true => exact absurd ⟨hopen, hflag⟩ hprobe
  · exact Or.inr (Or.inl ⟨rfl, by omega⟩)

theorem failure_cases (rates : ClockRates) (c : CircuitState) (now : Nat) :
    (¬ c.Trips ∧ c.failure rates now = { c with failures := c.failures + 1 }) ∨
      (c.Trips ∧ c.failure rates now =
        { c with failures := c.failures + 1, openUntil := now + rates.durationCast c.cooldown,
                 probeInFlight := false }) := by
  by_cases htrips : c.Trips
  · exact Or.inr ⟨htrips, if_pos htrips⟩
  · exact Or.inl ⟨htrips, if_neg htrips⟩

theorem allow_of_pause {c : CircuitState} {now : Nat} (h : now < c.openUntil) :
    c.allow now = (false, c) :=
  if_pos h

theorem allow_of_recovered {c : CircuitState} {now : Nat} (hnow : c.openUntil ≤ now)
    (hflag : c.probeInFlight = false) : (c.allow now).1 = true := by
  rcases allow_cases c now with ⟨_, hpause | ⟨_, hprobe⟩⟩ | ⟨heq, _⟩ | ⟨heq, _⟩
  · omega
  · simp [hflag] at hprobe
  · rw [heq]
  · rw [heq]

/-- What the fields say about one another: the flag is up only while the
circuit is open, and an open circuit has reached its threshold. -/
structure Coherent (c : CircuitState) : Prop where
  flag : c.probeInFlight = true → c.openUntil ≠ 0
  ripe : c.openUntil ≠ 0 → c.failureThreshold ≤ c.failures

theorem coherent_new (threshold : Nat) (cooldown : Double) :
    Coherent { failureThreshold := threshold, cooldown := cooldown } :=
  ⟨fun hflag => by simp at hflag, fun hopen => absurd rfl hopen⟩

theorem Coherent.allow {c : CircuitState} (h : c.Coherent) (now : Nat) :
    (c.allow now).2.Coherent := by
  rcases c.allow_cases now with ⟨heq, _⟩ | ⟨heq, _⟩ | ⟨heq, hopen, _⟩
  · rw [heq]
    exact h
  · rw [heq]
    exact h
  · rw [heq]
    exact ⟨fun _ => hopen, h.ripe⟩

theorem coherent_success (c : CircuitState) : c.success.Coherent :=
  ⟨fun hflag => by simp [success] at hflag, fun hopen => absurd rfl hopen⟩

theorem Coherent.failure {c : CircuitState} (h : c.Coherent) (rates : ClockRates) (now : Nat) :
    (c.failure rates now).Coherent := by
  rcases c.failure_cases rates now with ⟨_, heq⟩ | ⟨htrips, heq⟩
  · rw [heq]
    exact ⟨h.flag, fun hopen => Nat.le_succ_of_le (h.ripe hopen)⟩
  · rw [heq]
    exact ⟨fun hflag => by simp at hflag, fun _ => htrips⟩

/-- Whatever a probe ends in, the flag is down after it. -/
theorem Coherent.flag_failure {c : CircuitState} (h : c.Coherent) (rates : ClockRates)
    (now : Nat) : (c.failure rates now).probeInFlight = false := by
  rcases c.failure_cases rates now with ⟨hlow, heq⟩ | ⟨_, heq⟩
  · rw [heq]
    cases hflag : c.probeInFlight with
    | false => rfl
    | true => exact absurd (Nat.le_succ_of_le (h.ripe (h.flag hflag))) hlow
  · rw [heq]

theorem allow_cooldown (c : CircuitState) (now : Nat) :
    (c.allow now).2.cooldown = c.cooldown := by
  rcases c.allow_cases now with ⟨heq, _⟩ | ⟨heq, _⟩ | ⟨heq, _⟩ <;> rw [heq]

theorem failure_cooldown (rates : ClockRates) (c : CircuitState) (now : Nat) :
    (c.failure rates now).cooldown = c.cooldown := by
  rcases c.failure_cases rates now with ⟨_, heq⟩ | ⟨_, heq⟩ <;> rw [heq]

end CircuitState

/-! ## Batches that share a circuit -/

/-- A batch that `allow` has granted. -/
structure Batch where
  /-- `openUntil` was not zero when the batch was granted. -/
  whileOpen : Bool
  resolved : Bool := false
deriving DecidableEq

/-- A circuit and the batches that it has granted, in order. -/
structure Breaker where
  clock : Nat := 0
  circuit : CircuitState
  batches : List Batch := []
deriving DecidableEq

inductive BreakerAction where
  | allow
  | success (batch : Nat)
  | failure (batch : Nat)
  /-- Time passes without a call. -/
  | wait
deriving DecidableEq

namespace Breaker

/-- Batch `i` has been granted and not resolved. -/
def Unresolved (s : Breaker) (i : Nat) : Prop :=
  ∃ b ∈ s.batches[i]?, b.resolved = false

/-- Batch `i` was granted while the circuit was open and is not resolved. -/
def Probing (s : Breaker) (i : Nat) : Prop :=
  ∃ b ∈ s.batches[i]?, b.whileOpen = true ∧ b.resolved = false

instance (s : Breaker) (i : Nat) : Decidable (s.Unresolved i) :=
  inferInstanceAs (Decidable (∃ b ∈ s.batches[i]?, b.resolved = false))

instance (s : Breaker) (i : Nat) : Decidable (s.Probing i) :=
  inferInstanceAs (Decidable (∃ b ∈ s.batches[i]?, b.whileOpen = true ∧ b.resolved = false))

def resolve (s : Breaker) (i : Nat) : List Batch :=
  s.batches.modify i ({ · with resolved := true })

/-- The call `action` at time `now`. -/
def next (rates : ClockRates) (s : Breaker) : Nat × BreakerAction → Option Breaker
  | (now, action) =>
    if now < s.clock then none
    else
      match action with
      | .allow =>
        let answer := s.circuit.allow now
        let granted : List Batch :=
          if answer.1 then [{ whileOpen := decide (s.circuit.openUntil ≠ 0) }] else []
        some { clock := now, circuit := answer.2, batches := s.batches ++ granted }
      | .success i =>
        if s.Unresolved i then
          some { clock := now, circuit := s.circuit.success, batches := s.resolve i }
        else none
      | .failure i =>
        if s.Unresolved i then
          some { clock := now, circuit := s.circuit.failure rates now, batches := s.resolve i }
        else none
      | .wait => some { s with clock := now }

end Breaker

/-- A new circuit with its threshold and its cooldown. -/
def breaker (rates : ClockRates) (threshold : Nat) (cooldown : Double) :
    Machine Breaker (Nat × BreakerAction) where
  init := { circuit := { failureThreshold := threshold, cooldown := cooldown } }
  next := Breaker.next rates

namespace Breaker

variable {rates : ClockRates}

/-! ## What each call can do -/

theorem next_allow {s t : Breaker} {now : Nat} (h : s.next rates (now, .allow) = some t) :
    s.clock ≤ now ∧
      (t = { s with clock := now } ∨
        (s.circuit.openUntil = 0 ∧
          t = { clock := now, circuit := s.circuit,
                batches := s.batches ++ [{ whileOpen := false }] }) ∨
        (s.circuit.openUntil ≠ 0 ∧ s.circuit.openUntil ≤ now ∧
          s.circuit.probeInFlight = false ∧
          t = { clock := now, circuit := { s.circuit with probeInFlight := true },
                batches := s.batches ++ [{ whileOpen := true }] })) := by
  simp only [Breaker.next] at h
  split at h
  · simp at h
  · rename_i hclock
    refine ⟨by omega, ?_⟩
    rcases s.circuit.allow_cases now with ⟨heq, _⟩ | ⟨heq, hclosed⟩ | ⟨heq, hopen, hnow, hflag⟩
    · simp only [heq, Bool.false_eq_true, if_false, List.append_nil, Option.some.injEq] at h
      exact Or.inl h.symm
    · simp only [heq, if_true, hclosed, ne_eq, not_true_eq_false, decide_false,
        Option.some.injEq] at h
      exact Or.inr (Or.inl ⟨hclosed, h.symm⟩)
    · simp only [heq, if_true, ne_eq, hopen, not_false_eq_true, decide_true,
        Option.some.injEq] at h
      exact Or.inr (Or.inr ⟨hopen, hnow, hflag, h.symm⟩)

theorem next_allow_circuit {s t : Breaker} {now : Nat} (h : s.next rates (now, .allow) = some t) :
    t.circuit = (s.circuit.allow now).2 := by
  simp only [Breaker.next] at h
  split at h
  · simp at h
  · cases h
    rfl

/-- The end of a pause with no probe out grants one. -/
theorem next_allow_of_recovered (rates : ClockRates) {s : Breaker} {now : Nat}
    (hclock : s.clock ≤ now)
    (hopen : s.circuit.openUntil ≠ 0) (hnow : s.circuit.openUntil ≤ now)
    (hflag : s.circuit.probeInFlight = false) :
    s.next rates (now, .allow) =
      some { clock := now, circuit := { s.circuit with probeInFlight := true },
             batches := s.batches ++ [{ whileOpen := true }] } := by
  simp [Breaker.next, CircuitState.allow, hopen, hflag, Nat.not_lt.2 hclock,
    Nat.not_lt.2 hnow]

theorem next_success {s t : Breaker} {now : Nat} {i : Nat}
    (h : s.next rates (now, .success i) = some t) :
    s.clock ≤ now ∧ s.Unresolved i ∧
      t = { clock := now, circuit := s.circuit.success, batches := s.resolve i } := by
  simp only [Breaker.next] at h
  split at h
  · simp at h
  · split at h
    · rename_i hclock hi
      exact ⟨by omega, hi, by simpa using h.symm⟩
    · simp at h

theorem next_failure {s t : Breaker} {now : Nat} {i : Nat}
    (h : s.next rates (now, .failure i) = some t) :
    s.clock ≤ now ∧ s.Unresolved i ∧
      t = { clock := now, circuit := s.circuit.failure rates now, batches := s.resolve i } := by
  simp only [Breaker.next] at h
  split at h
  · simp at h
  · split at h
    · rename_i hclock hi
      exact ⟨by omega, hi, by simpa using h.symm⟩
    · simp at h

theorem next_wait {s t : Breaker} {now : Nat} (h : s.next rates (now, .wait) = some t) :
    s.clock ≤ now ∧ t = { s with clock := now } := by
  simp only [Breaker.next] at h
  split at h
  · simp at h
  · exact ⟨by omega, by simpa using h.symm⟩

/-- A resolved batch is no probe any more, and the others stay as they are. -/
theorem probing_resolve {s t : Breaker} {i j : Nat} (ht : t.batches = s.resolve i) :
    t.Probing j ↔ j ≠ i ∧ s.Probing j := by
  unfold Probing
  rw [ht, resolve, List.getElem?_modify]
  by_cases hij : i = j
  · subst hij
    cases s.batches[i]? <;> simp
  · cases s.batches[j]? with
    | none => simp
    | some b => simp [hij, Ne.symm hij]

/-- A granted batch is a probe when the circuit is open. -/
theorem probing_grant {s t : Breaker} {b : Batch} {j : Nat}
    (hb : b.resolved = false) (ht : t.batches = s.batches ++ [b]) :
    t.Probing j ↔ s.Probing j ∨ j = s.batches.length ∧ b.whileOpen = true := by
  unfold Probing
  rw [ht]
  rcases Nat.lt_trichotomy j s.batches.length with hlt | heq | hgt
  · rw [List.getElem?_append_left hlt]
    simp [Nat.ne_of_lt hlt]
  · subst heq
    simp [hb]
  · have hnone : (s.batches ++ [b])[j]? = none := by
      apply List.getElem?_eq_none
      rw [List.length_append, List.length_singleton]
      exact hgt
    have hnone' : s.batches[j]? = none := List.getElem?_eq_none (Nat.le_of_lt hgt)
    simp [hnone, hnone', Nat.ne_of_gt hgt]

/-! ## At most one recovery probe -/

/-- At most one batch that was granted while the circuit was open is still
unresolved. -/
def AtMostOneProbe (s : Breaker) : Prop :=
  ∀ i j, s.Probing i → s.Probing j → i = j

/-- A `failure()` of another batch opens the circuit again while a probe is
unresolved. -/
def OvertakesProbe (s : Breaker) : Nat × BreakerAction → Prop
  | (_, .failure i) => s.circuit.Trips ∧ ∃ j, j ≠ i ∧ s.Probing j
  | _ => False

theorem Probing.lt_length {s : Breaker} {i : Nat} (h : s.Probing i) :
    i < s.batches.length := by
  obtain ⟨b, hb, _⟩ := h
  exact (List.getElem?_eq_some_iff.1 hb).1

instance (s : Breaker) (i : Nat) : Decidable (∃ j, j ≠ i ∧ s.Probing j) :=
  decidable_of_iff (∃ j < s.batches.length, j ≠ i ∧ s.Probing j)
    ⟨fun ⟨j, _, h⟩ => ⟨j, h⟩, fun ⟨j, h⟩ => ⟨j, h.2.lt_length, h⟩⟩

instance (s : Breaker) (a : Nat × BreakerAction) : Decidable (s.OvertakesProbe a) :=
  match a with
  | (_, .failure i) =>
    inferInstanceAs (Decidable (s.circuit.Trips ∧ ∃ j, j ≠ i ∧ s.Probing j))
  | (_, .allow) | (_, .success _) | (_, .wait) => inferInstanceAs (Decidable False)

/-- While the circuit is open, an unresolved probe has the flag set.  This is
what keeps a second probe out. -/
structure ProbeFlagged (s : Breaker) : Prop where
  single : s.AtMostOneProbe
  flagged : s.circuit.openUntil ≠ 0 → ∀ j, s.Probing j → s.circuit.probeInFlight = true

theorem ProbeFlagged.allow {s t : Breaker} {now : Nat} (h : s.ProbeFlagged)
    (hnext : s.next rates (now, .allow) = some t) : t.ProbeFlagged := by
  rcases next_allow hnext with ⟨_, rfl | ⟨hclosed, rfl⟩ | ⟨hopen, _, hflag, rfl⟩⟩
  · exact ⟨h.single, h.flagged⟩
  · refine ⟨fun i j hi hj => ?_, fun hopen => absurd hclosed hopen⟩
    rw [probing_grant (b := { whileOpen := false }) rfl rfl] at hi hj
    exact h.single i j (by simpa using hi) (by simpa using hj)
  · -- The flag was clear, so no older probe is unresolved.
    have hnone : ∀ j, ¬ s.Probing j := by
      intro j hj
      have := h.flagged hopen j hj
      simp [hflag] at this
    refine ⟨fun i j hi hj => ?_, fun _ _ _ => rfl⟩
    rw [probing_grant (b := { whileOpen := true }) rfl rfl] at hi hj
    rcases hi with hi | hi
    · exact absurd hi (hnone i)
    · rcases hj with hj | hj
      · exact absurd hj (hnone j)
      · exact hi.1.trans hj.1.symm

theorem ProbeFlagged.success {s t : Breaker} {now : Nat} {i : Nat} (h : s.ProbeFlagged)
    (hnext : s.next rates (now, .success i) = some t) : t.ProbeFlagged := by
  obtain ⟨_, _, rfl⟩ := next_success hnext
  refine ⟨fun j k hj hk => ?_, fun hopen => absurd rfl hopen⟩
  exact h.single j k ((probing_resolve rfl).1 hj).2 ((probing_resolve rfl).1 hk).2

theorem ProbeFlagged.failure {s t : Breaker} {now : Nat} {i : Nat} (h : s.ProbeFlagged)
    (hnext : s.next rates (now, .failure i) = some t)
    (hok : ¬ s.OvertakesProbe (now, .failure i)) : t.ProbeFlagged := by
  obtain ⟨_, _, rfl⟩ := next_failure hnext
  refine ⟨fun j k hj hk => ?_, fun hopen j hj => ?_⟩
  · exact h.single j k ((probing_resolve rfl).1 hj).2 ((probing_resolve rfl).1 hk).2
  · obtain ⟨hji, hprobe⟩ := (probing_resolve rfl).1 hj
    rcases s.circuit.failure_cases rates now with ⟨_, heq⟩ | ⟨htrips, _⟩
    · rw [heq] at hopen ⊢
      exact h.flagged hopen j hprobe
    · exact absurd ⟨htrips, j, hji, hprobe⟩ hok

theorem ProbeFlagged.next {s t : Breaker} {a : Nat × BreakerAction} (h : s.ProbeFlagged)
    (hnext : s.next rates a = some t) (hok : ¬ s.OvertakesProbe a) : t.ProbeFlagged := by
  obtain ⟨now, action⟩ := a
  cases action with
  | allow => exact h.allow hnext
  | success i => exact h.success hnext
  | failure i => exact h.failure hnext hok
  | wait =>
    obtain ⟨_, rfl⟩ := next_wait hnext
    exact ⟨h.single, h.flagged⟩

theorem probeFlagged_init (threshold : Nat) (cooldown : Double) :
    (breaker rates threshold cooldown).init.ProbeFlagged := by
  have hnone : ∀ j, ¬ (breaker rates threshold cooldown).init.Probing j := by
    rintro j ⟨b, hb, _⟩
    simp [breaker] at hb
  exact ⟨fun i _ hi => absurd hi (hnone i), fun _ j hj => absurd hj (hnone j)⟩

/-- After an overtaken probe, the next `allow` at the end of the new pause
grants a second one. -/
theorem overtaken_probe_second {s t : Breaker} {now : Nat} {i : Nat}
    (hnext : s.next rates (now, .failure i) = some t)
    (hover : s.OvertakesProbe (now, .failure i))
    (hcooldown : 0 < rates.durationCast s.circuit.cooldown) :
    ∃ u, t.next rates (t.circuit.openUntil, .allow) = some u ∧ ¬ u.AtMostOneProbe := by
  obtain ⟨_, _, rfl⟩ := next_failure hnext
  obtain ⟨htrips, j, hji, hj⟩ := hover
  rcases s.circuit.failure_cases rates now with ⟨hlow, _⟩ | ⟨_, heq⟩
  · exact absurd htrips hlow
  · rw [heq]
    have hopen : now + rates.durationCast s.circuit.cooldown ≠ 0 := by omega
    have hgranted := next_allow_of_recovered rates
      (s := { clock := now, batches := s.resolve i,
              circuit := { s.circuit with
                failures := s.circuit.failures + 1,
                openUntil := now + rates.durationCast s.circuit.cooldown,
                probeInFlight := false } })
      (Nat.le_add_right _ _) hopen (Nat.le_refl _) rfl
    refine ⟨_, hgranted, fun hsingle => ?_⟩
    have hold := hj.lt_length
    have hlength : (s.resolve i).length = s.batches.length := List.length_modify ..
    have hsame := hsingle j (s.resolve i).length
      ((probing_grant rfl rfl).2 (Or.inl ((probing_resolve rfl).2 ⟨hji, hj⟩)))
      ((probing_grant rfl rfl).2 (Or.inr ⟨rfl, rfl⟩))
    omega

end Breaker

open Breaker

variable {rates : ClockRates} {threshold : Nat} {cooldown : Double}

theorem probeFlagged_of_reachableVia {s : Breaker}
    (h : (breaker rates threshold cooldown).ReachableVia (fun s a => ¬ s.OvertakesProbe a) s) :
    s.ProbeFlagged := by
  refine Machine.ReachableVia.invariant (probeFlagged_init threshold cooldown) ?_ h
  intro s a t _ hs hnext hok
  exact hs.next hnext hok

/-- What `allow`, `success` and `failure` keep holds of the circuit in every
state. -/
theorem circuit_of_reachable {P : CircuitState → Prop}
    (hinit : P { failureThreshold := threshold, cooldown := cooldown })
    (hallow : ∀ c now, P c → P (CircuitState.allow c now).2)
    (hsuccess : ∀ c, P c → P c.success) (hfailure : ∀ c now, P c → P (c.failure rates now))
    {s : Breaker} (h : (breaker rates threshold cooldown).Reachable s) : P s.circuit := by
  refine Machine.ReachableVia.invariant (P := fun s => P s.circuit) hinit ?_ h
  rintro s ⟨now, action⟩ t _ hs hnext _
  change s.next rates (now, action) = some t at hnext
  cases action with
  | allow =>
    rw [next_allow_circuit hnext]
    exact hallow _ now hs
  | success i =>
    obtain ⟨_, _, rfl⟩ := next_success hnext
    exact hsuccess _ hs
  | failure i =>
    obtain ⟨_, _, rfl⟩ := next_failure hnext
    exact hfailure _ now hs
  | wait =>
    obtain ⟨_, rfl⟩ := next_wait hnext
    exact hs

/-- The cooldown is fixed by the construction. -/
theorem circuit_cooldown {s : Breaker}
    (h : (breaker rates threshold cooldown).Reachable s) : s.circuit.cooldown = cooldown :=
  circuit_of_reachable (P := fun c => c.cooldown = cooldown) rfl
    (fun c now hc => (c.allow_cooldown now).trans hc) (fun _ hc => hc)
    (fun c now hc => (c.failure_cooldown rates now).trans hc) h

theorem circuit_coherent {s : Breaker}
    (h : (breaker rates threshold cooldown).Reachable s) : s.circuit.Coherent :=
  circuit_of_reachable (CircuitState.coherent_new threshold cooldown)
    (fun _ now hc => hc.allow now) (fun c _ => c.coherent_success)
    (fun _ now hc => hc.failure rates now) h

/-- At most one probe is out in the runs in which no failure of another batch
opens the circuit again under a probe, and every step that does so can lead to
a second probe. -/
theorem atMostOneProbe_via (rates : ClockRates) (threshold : Nat) (cooldown : Double) :
    (∀ s, (breaker rates threshold cooldown).ReachableVia (fun s a => ¬ s.OvertakesProbe a) s →
      s.AtMostOneProbe) ∧
    (0 < rates.durationCast cooldown → ∀ s t a, (breaker rates threshold cooldown).Reachable s →
      (breaker rates threshold cooldown).next s a = some t → s.OvertakesProbe a →
        ∃ as u, (breaker rates threshold cooldown).runFrom t as = some u ∧ ¬ u.AtMostOneProbe) := by
  refine ⟨fun s h => (probeFlagged_of_reachableVia h).single, ?_⟩
  rintro hcooldown s t ⟨now, action⟩ hreach hnext hover
  cases action with
  | allow | success | wait => exact absurd hover id
  | failure i =>
    obtain ⟨u, hu, hsecond⟩ :=
      overtaken_probe_second hnext hover (by rwa [circuit_cooldown hreach])
    exact ⟨[(t.circuit.openUntil, .allow)], u, Machine.runFrom_cons_of_next [] hu, hsecond⟩

/-- One failed batch opens the circuit and one probe follows the pause of ten seconds. -/
theorem atMostOneProbe_via_recovery :
    AtMostOneProbe
      { clock := 10000000002,
        circuit := { failureThreshold := 1, cooldown := .finite 10, failures := 1,
                     openUntil := 10000000002, probeInFlight := true },
        batches := [{ whileOpen := false, resolved := true }, { whileOpen := true }] } :=
  (atMostOneProbe_via steadyClock 1 (.finite 10)).1 _
    (Machine.reachableVia_of_run [(1, .allow), (2, .failure 0), (10000000002, .allow)]
      (by decide +kernel) (by decide +kernel))

/-- Two batches are granted while the circuit is closed.  The first one opens
it.  The second one fails while the probe is out, clears the flag, and the
next pause ends with a second probe. -/
theorem late_failure_second_probe :
    ¬ ∀ rates threshold cooldown, 0 < threshold → 0 < ClockRates.durationCast rates cooldown →
      ∀ s, (breaker rates threshold cooldown).Reachable s → s.AtMostOneProbe := by
  intro hall
  have hreach : (breaker steadyClock 1 (.finite 10)).Reachable
      { clock := 20000000003,
        circuit := { failureThreshold := 1, cooldown := .finite 10, failures := 2,
                     openUntil := 20000000003, probeInFlight := true },
        batches := [{ whileOpen := false, resolved := true },
                    { whileOpen := false, resolved := true },
                    { whileOpen := true }, { whileOpen := true }] } :=
    Machine.reachable_of_run [(1, .allow), (1, .allow), (2, .failure 0), (10000000002, .allow),
      (10000000003, .failure 1), (20000000003, .allow)] (by decide +kernel)
  have hsame := hall steadyClock 1 (.finite 10) (by decide) (by decide +kernel) _ hreach 2 3
    (by decide) (by decide)
  simp at hsame

end DrogonStarter.Observability
