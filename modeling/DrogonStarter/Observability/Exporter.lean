import DrogonStarter.Lib.Tally
import DrogonStarter.Observability.CircuitState
import DrogonStarter.Observability.Delivery

/-!
# All deliveries of one reporter

The deliveries of a reporter run side by side and share its circuit and the
metrics.  `Exporter` is what they share, with the deliveries themselves in the
order in which `allow()` has granted them.

* `exporter` is the machine.  It has one action for the gate of `flushQueue`,
  one for an exception between the gate and `deliver`, and one each for the
  body of `deliver` and the callback of `sendRequest`.
* `Exporter.Stepped` says what each action can do.  Every invariant of the
  exporter is a case analysis of it.
* `Exporter.breaker` forgets everything but the circuit and which deliveries
  are resolved, and reads a state of the breaker off each state.
-/

namespace DrogonStarter.Observability

open Transition

/-- The circuit, the deliveries and the counters.  `sent` and `openings`
record the past, and nothing reads them. -/
structure Exporter (β : Type) where
  clock : Nat := 0
  circuit : CircuitState
  deliveries : List (Delivery β) := []
  /-- `observability_retries_total`. -/
  retries : Nat := 0
  /-- `observability_failures_total`. -/
  failures : Nat := 0
  /-- When the requests were sent. -/
  sent : List Nat := []
  /-- When a `failure()` opened the circuit, and the `openUntil` it set. -/
  openings : List (Nat × Nat) := []
deriving DecidableEq

inductive ExporterAction (β : Type) where
  /-- A non-empty batch comes to the call of `allow()`. -/
  | submit (body : β)
  /-- An exception after `allow()` is swallowed by `flushQueue`. -/
  | abandon (i : Nat)
  /-- Delivery `i` enters `deliver`. -/
  | deliver (i : Nat) (throws : Bool)
  /-- The callback of delivery `i` runs. -/
  | respond (i : Nat) (reply : Reply)
deriving DecidableEq

namespace Exporter

variable {β : Type}

/-- The end of `flushQueue`, up to the call of `deliver`. -/
def submit (cfg : ReporterConfig) (now : Nat) (body : β) (s : Exporter β) :
    Bool × Exporter β :=
  let answer := s.circuit.allow now
  if answer.1 then
    let delivery : Delivery β :=
      { body := body, maxAttempts := cfg.maxAttempts,
        baseDelay := cfg.retryBaseDelaySeconds,
        whileOpen := decide (s.circuit.openUntil ≠ 0) }
    (true, { s with clock := now, circuit := answer.2,
                    deliveries := s.deliveries ++ [delivery] })
  else (false, { s with clock := now, circuit := answer.2 })

/-- What the step of a delivery does to the shared state. -/
def apply (rates : ClockRates) (s : Exporter β) (now : Nat) : Effect → Exporter β
  | .sent => { s with sent := s.sent ++ [now] }
  | .retry => { s with retries := s.retries + 1 }
  | .success => { s with circuit := s.circuit.success }
  | .failure =>
    let opened := s.circuit.failure rates now
    { s with
      failures := s.failures + 1
      circuit := opened
      openings :=
        if s.circuit.Trips then s.openings ++ [(now, opened.openUntil)] else s.openings }

/-- A step of delivery `i` with its effect. -/
def advance (rates : ClockRates) (s : Exporter β) (now i : Nat) (step : Delivery β × Effect) :
    Exporter β :=
  { s.apply rates now step.2 with clock := now, deliveries := s.deliveries.set i step.1 }

/-- The action `action` at time `now`. -/
def next (cfg : ReporterConfig) (rates : ClockRates) (s : Exporter β) :
    Nat × ExporterAction β → Option (Exporter β)
  | (now, action) =>
    if now < s.clock then none
    else
      match action with
      | .submit body => some (s.submit cfg now body).2
      | .abandon i =>
        s.deliveries[i]?.bind fun d =>
          if d.phase = .granted then
            some { s with clock := now,
                          deliveries := s.deliveries.set i { d with phase := .abandoned } }
          else none
      | .deliver i throws =>
        s.deliveries[i]?.bind fun d =>
          if d.MayDeliver now then some (s.advance rates now i (d.deliver throws)) else none
      | .respond i reply =>
        s.deliveries[i]?.bind fun d =>
          if d.phase = .awaiting then some (s.advance rates now i (d.callback rates now reply))
          else none

end Exporter

/-- A new reporter's circuit, without deliveries. -/
def exporter (β : Type) (cfg : ReporterConfig) (rates : ClockRates) :
    Machine (Exporter β) (Nat × ExporterAction β) where
  init :=
    { circuit :=
        { failureThreshold := cfg.circuitFailureThreshold
          cooldown := cfg.circuitOpenSeconds } }
  next := Exporter.next cfg rates

namespace Exporter

variable {β : Type} {cfg : ReporterConfig} {rates : ClockRates}

/-! ## What each action can do -/

/-- The delivery that a granted batch starts as. -/
def fresh (cfg : ReporterConfig) (s : Exporter β) (body : β) : Delivery β :=
  { body := body, maxAttempts := cfg.maxAttempts, baseDelay := cfg.retryBaseDelaySeconds,
    whileOpen := decide (s.circuit.openUntil ≠ 0) }

/-- The delivery whose step an action is. -/
def stepOf : ExporterAction β → Option Nat
  | .deliver i _ | .respond i _ => some i
  | .submit _ | .abandon _ => none

/-- The delivery whose step an action is, if that step calls `failure()`. -/
def failing (s : Exporter β) : ExporterAction β → Option Nat
  | .deliver i throws => if throws then some i else none
  | .respond i reply =>
    if reply.success = false ∧ ∃ d ∈ s.deliveries[i]?, d.maxAttempts ≤ d.attempt then some i
    else none
  | .submit _ | .abandon _ => none

theorem stepOf_of_failing {s : Exporter β} {a : ExporterAction β} {i : Nat}
    (h : s.failing a = some i) : stepOf a = some i := by
  cases a with
  | submit | abandon => simp [failing] at h
  | deliver j throws =>
    simp only [failing, Option.ite_none_right_eq_some] at h
    exact h.2
  | respond j reply =>
    simp only [failing, Option.ite_none_right_eq_some] at h
    exact h.2

/-- The states that an action at time `now` can lead to. -/
inductive Stepped (cfg : ReporterConfig) (rates : ClockRates) (s : Exporter β) (now : Nat) :
    ExporterAction β → Exporter β → Prop
  | refused (body : β) (hallow : s.circuit.allow now = (false, s.circuit)) :
      Stepped cfg rates s now (.submit body) { s with clock := now }
  | granted (body : β) (circuit : CircuitState)
      (hallow : s.circuit.allow now = (true, circuit)) :
      Stepped cfg rates s now (.submit body)
        { s with clock := now, circuit := circuit,
                 deliveries := s.deliveries ++ [s.fresh cfg body] }
  | abandoned (i : Nat) (d : Delivery β) (hd : s.deliveries[i]? = some d)
      (hphase : d.phase = .granted) :
      Stepped cfg rates s now (.abandon i)
        { s with clock := now,
                 deliveries := s.deliveries.set i { d with phase := .abandoned } }
  | moved (a : ExporterAction β) (i : Nat) (d d' : Delivery β) (e : Effect)
      (hd : s.deliveries[i]? = some d) (hmove : d.Move rates now d' e)
      (hof : stepOf a = some i) (hfails : e = .failure ↔ s.failing a = some i) :
      Stepped cfg rates s now a (s.advance rates now i (d', e))

theorem submit_stepped (s : Exporter β) (now : Nat) (body : β) :
    Stepped cfg rates s now (.submit body) (s.submit cfg now body).2 := by
  unfold submit
  rcases s.circuit.allow_cases now with ⟨heq, _⟩ | ⟨heq, _⟩ | ⟨heq, _⟩
  · rw [heq]
    exact .refused body heq
  · rw [heq]
    exact .granted body _ heq
  · rw [heq]
    exact .granted body _ heq

theorem deliver_stepped {s : Exporter β} {now i : Nat} {d : Delivery β}
    (hd : s.deliveries[i]? = some d) (hmay : d.MayDeliver now) (throws : Bool) :
    Stepped cfg rates s now (.deliver i throws) (s.advance rates now i (d.deliver throws)) := by
  refine .moved (.deliver i throws) i d (d.deliver throws).1 (d.deliver throws).2 hd
    (.deliver throws hmay) rfl ?_
  rcases d.deliver_cases throws with ⟨hthrows, heq⟩ | ⟨hthrows, heq⟩
  · rw [heq]
    simp [failing, hthrows]
  · rw [heq]
    simp [failing, hthrows]

theorem respond_stepped {s : Exporter β} {now i : Nat} {d : Delivery β}
    (hd : s.deliveries[i]? = some d) (hawaiting : d.phase = .awaiting) (reply : Reply) :
    Stepped cfg rates s now (.respond i reply)
      (s.advance rates now i (d.callback rates now reply)) := by
  refine .moved (.respond i reply) i d (d.callback rates now reply).1
    (d.callback rates now reply).2 hd (.callback reply hawaiting) rfl ?_
  rcases d.callback_cases rates now reply with
    ⟨hsuccess, heq⟩ | ⟨hfailed, hless, heq⟩ | ⟨hfailed, hlast, heq⟩
  · rw [heq]
    simp [failing, hsuccess]
  · rw [heq]
    simp [failing, hfailed, hd, hless]
  · rw [heq]
    simp [failing, hfailed, hd, hlast]

/-- Every enabled action steps as `Stepped` says. -/
theorem next_stepped {s t : Exporter β} {now : Nat} {a : ExporterAction β}
    (h : s.next cfg rates (now, a) = some t) :
    s.clock ≤ now ∧ Stepped cfg rates s now a t := by
  simp only [Exporter.next] at h
  split at h
  · simp at h
  · rename_i hclock
    refine ⟨by omega, ?_⟩
    cases a with
    | submit body =>
      cases h
      exact s.submit_stepped now body
    | abandon i =>
      obtain ⟨d, hd, hif⟩ := Option.bind_eq_some_iff.1 h
      split at hif
      · cases hif
        exact .abandoned i d hd ‹_›
      · simp at hif
    | deliver i throws =>
      obtain ⟨d, hd, hif⟩ := Option.bind_eq_some_iff.1 h
      split at hif
      · cases hif
        exact deliver_stepped hd ‹_› throws
      · simp at hif
    | respond i reply =>
      obtain ⟨d, hd, hif⟩ := Option.bind_eq_some_iff.1 h
      split at hif
      · cases hif
        exact respond_stepped hd ‹_› reply
      · simp at hif

/-- At the gate a batch is refused, and then only the clock has changed, or it
becomes a delivery. -/
theorem next_submit {s t : Exporter β} {now : Nat} {body : β}
    (h : s.next cfg rates (now, .submit body) = some t) :
    ((s.circuit.allow now).1 = false ∧ t.deliveries = s.deliveries) ∨
      ((s.circuit.allow now).1 = true ∧
        t.deliveries = s.deliveries ++ [s.fresh cfg body]) := by
  obtain ⟨_, hstep⟩ := next_stepped h
  cases hstep with
  | refused body hallow => exact Or.inl ⟨by rw [hallow], rfl⟩
  | granted body circuit hallow => exact Or.inr ⟨by rw [hallow], rfl⟩
  | moved a i d d' e hd hmove hof hfails => simp [stepOf] at hof

theorem submit_fst (cfg : ReporterConfig) (now : Nat) (body : β) (s : Exporter β) :
    (s.submit cfg now body).1 = (s.circuit.allow now).1 := by
  unfold submit
  rcases s.circuit.allow_cases now with ⟨heq, _⟩ | ⟨heq, _⟩ | ⟨heq, _⟩ <;> rw [heq] <;> rfl

/-! ## What holds of every delivery -/

theorem circuit_apply_cases (s : Exporter β) (now : Nat) (e : Effect) :
    (¬ e.Resolves ∧ (s.apply rates now e).circuit = s.circuit) ∨
      (e = .success ∧ (s.apply rates now e).circuit = s.circuit.success) ∨
      (e = .failure ∧ (s.apply rates now e).circuit = s.circuit.failure rates now) := by
  cases e with
  | sent | retry => exact Or.inl ⟨by simp [Effect.Resolves], rfl⟩
  | success => exact Or.inr (Or.inl ⟨rfl, rfl⟩)
  | failure => exact Or.inr (Or.inr ⟨rfl, rfl⟩)

/-- A property of one delivery that its own steps keep holds of them all. -/
theorem Stepped.forall_deliveries {P : Delivery β → Prop} {s t : Exporter β} {now : Nat}
    {a : ExporterAction β} (h : Stepped cfg rates s now a t)
    (hfresh : ∀ body, P (s.fresh cfg body))
    (habandon : ∀ d : Delivery β, P d → d.phase = .granted → P { d with phase := .abandoned })
    (hmove : ∀ d d' e, P d → d.Move rates now d' e → P d')
    (hs : ∀ d ∈ s.deliveries, P d) : ∀ d ∈ t.deliveries, P d := by
  intro b hb
  cases h with
  | refused body hallow => exact hs b hb
  | granted body circuit hallow =>
    rcases List.mem_append.1 hb with hold | hnew
    · exact hs b hold
    · rw [List.mem_singleton.1 hnew]
      exact hfresh body
  | abandoned i d hd hphase =>
    rcases List.mem_or_eq_of_mem_set hb with hold | rfl
    · exact hs b hold
    · exact habandon d (hs d (List.mem_of_getElem? hd)) hphase
  | moved a i d d' e hd hstep hof hfails =>
    rcases List.mem_or_eq_of_mem_set hb with hold | rfl
    · exact hs b hold
    · exact hmove d b e (hs d (List.mem_of_getElem? hd)) hstep

theorem wellFormed_fresh (s : Exporter β) (body : β) : (s.fresh cfg body).WellFormed cfg :=
  ⟨rfl, rfl, rfl, rfl, rfl, rfl, rfl⟩

theorem wellFormed_abandon {d : Delivery β} (h : d.WellFormed cfg)
    (hphase : d.phase = .granted) :
    Delivery.WellFormed cfg { d with phase := .abandoned } := by
  have hstage := h.stage
  unfold Delivery.Stage at hstage
  rw [hphase] at hstage
  exact ⟨h.attempts, h.base, h.waited, hstage⟩

/-- What holds of the deliveries and of the circuit in every state. -/
structure Sound (cfg : ReporterConfig) (s : Exporter β) : Prop where
  deliveries : ∀ d ∈ s.deliveries, d.WellFormed cfg
  circuit : s.circuit.Coherent
  cooldown : s.circuit.cooldown = cfg.circuitOpenSeconds

/-! ## The unresolved deliveries -/

/-- Delivery `i` is unresolved. -/
def Unresolved (s : Exporter β) (i : Nat) : Prop := ∃ d ∈ s.deliveries[i]?, d.Unresolved

instance (s : Exporter β) (i : Nat) : Decidable (s.Unresolved i) :=
  inferInstanceAs (Decidable (∃ d ∈ s.deliveries[i]?, d.Unresolved))

theorem Unresolved.lt_length {s : Exporter β} {i : Nat} (h : s.Unresolved i) :
    i < s.deliveries.length := by
  obtain ⟨d, hd, _⟩ := h
  exact (List.getElem?_eq_some_iff.1 hd).1

theorem exists_unresolved {s : Exporter β} :
    (∃ i, s.Unresolved i) ↔ ∃ d ∈ s.deliveries, d.Unresolved := by
  constructor
  · rintro ⟨i, d, hd, hlive⟩
    exact ⟨d, List.mem_of_getElem? hd, hlive⟩
  · rintro ⟨d, hd, hlive⟩
    obtain ⟨i, hi⟩ := List.getElem?_of_mem hd
    exact ⟨i, d, hi, hlive⟩

theorem unresolved_set {s t : Exporter β} {i j : Nat} {d d' : Delivery β}
    (hd : s.deliveries[i]? = some d) (ht : t.deliveries = s.deliveries.set i d') :
    t.Unresolved j ↔ (j = i ∧ d'.Unresolved) ∨ (j ≠ i ∧ s.Unresolved j) := by
  unfold Unresolved
  rw [ht, List.getElem?_set]
  by_cases hij : i = j
  · subst hij
    have hlength : i < s.deliveries.length := (List.getElem?_eq_some_iff.1 hd).1
    simp [hlength]
  · simp [hij, Ne.symm hij]

theorem unresolved_concat {s t : Exporter β} {j : Nat} {b : Delivery β}
    (ht : t.deliveries = s.deliveries ++ [b]) :
    t.Unresolved j ↔ s.Unresolved j ∨ (j = s.deliveries.length ∧ b.Unresolved) := by
  unfold Unresolved
  rw [ht]
  rcases Nat.lt_trichotomy j s.deliveries.length with hlt | rfl | hgt
  · rw [List.getElem?_append_left hlt]
    simp [Nat.ne_of_lt hlt]
  · simp
  · have hnone : (s.deliveries ++ [b])[j]? = none := by
      apply List.getElem?_eq_none
      rw [List.length_append, List.length_singleton]
      exact hgt
    have hnone' : s.deliveries[j]? = none := List.getElem?_eq_none (Nat.le_of_lt hgt)
    simp [hnone, hnone', Nat.ne_of_gt hgt]

theorem unresolved_fresh (cfg : ReporterConfig) (s : Exporter β) (body : β) :
    (s.fresh cfg body).Unresolved :=
  ⟨by simp [fresh], by simp [fresh]⟩

end Exporter

open Exporter

variable {β : Type} {cfg : ReporterConfig} {rates : ClockRates}

theorem exporter_wellFormed {s : Exporter β} (h : (exporter β cfg rates).Reachable s) :
    ∀ d ∈ s.deliveries, d.WellFormed cfg := by
  refine Machine.ReachableVia.invariant (P := fun s => ∀ d ∈ s.deliveries, d.WellFormed cfg)
    ?_ ?_ h
  · intro d hd
    simp [exporter] at hd
  · rintro s ⟨now, a⟩ t _ hs hnext _
    exact (next_stepped hnext).2.forall_deliveries s.wellFormed_fresh
      (fun _ => wellFormed_abandon) (fun _ _ _ hd hmove => hd.move hmove) hs

/-! ## The breaker inside the exporter -/

/-- What the breaker knows of a delivery. -/
def Delivery.batch (d : Delivery β) : Batch :=
  { whileOpen := d.whileOpen, resolved := decide (d.phase = .finished) }

/-- The circuit and the batches that it has granted. -/
def Exporter.breaker (s : Exporter β) : Breaker :=
  { clock := s.clock, circuit := s.circuit, batches := s.deliveries.map Delivery.batch }

theorem Delivery.batch_of_unresolved {d : Delivery β} (h : d.Unresolved) :
    d.batch = { whileOpen := d.whileOpen } := by
  simp [batch, h.1]

/-- A step that resolves a delivery resolves its batch. -/
theorem breaker_resolve {s : Exporter β} {i : Nat} {d d' : Delivery β}
    (hd : s.deliveries[i]? = some d) (hbatch : d'.batch = { d.batch with resolved := true }) :
    (s.deliveries.set i d').map Delivery.batch = s.breaker.resolve i := by
  apply List.ext_getElem?
  intro j
  rw [Breaker.resolve, List.getElem?_modify, List.getElem?_map, List.getElem?_set]
  by_cases hij : i = j
  · subst hij
    obtain ⟨hlength, rfl⟩ := List.getElem?_eq_some_iff.1 hd
    simp [Exporter.breaker, hlength, hbatch]
  · simp [Exporter.breaker, hij]

/-- Any other step leaves the batches as they are. -/
theorem batches_set {l : List (Delivery β)} {i : Nat} {d d' : Delivery β}
    (hd : l[i]? = some d) (hbatch : d'.batch = d.batch) :
    (l.set i d').map Delivery.batch = l.map Delivery.batch := by
  obtain ⟨hlength, rfl⟩ := List.getElem?_eq_some_iff.1 hd
  have hmap : i < (l.map Delivery.batch).length := by simpa using hlength
  have hsame : d'.batch = (l.map Delivery.batch)[i] := by simpa using hbatch
  rw [List.map_set, hsame, List.set_getElem_self]

theorem breaker_unresolved {s : Exporter β} {i : Nat} {d : Delivery β}
    (hd : s.deliveries[i]? = some d) (hlive : d.Unresolved) : s.breaker.Unresolved i := by
  refine ⟨d.batch, ?_, by rw [Delivery.batch_of_unresolved hlive]⟩
  simp [Exporter.breaker, hd]

theorem breaker_wait (rates : ClockRates) {s : Exporter β} {now : Nat} (hclock : s.clock ≤ now) :
    s.breaker.next rates (now, .wait) = some { s.breaker with clock := now } :=
  if_neg (Nat.not_lt.2 hclock)

theorem breaker_granted (rates : ClockRates) {s : Exporter β} {now : Nat} {circuit : CircuitState}
    (hclock : s.clock ≤ now) (hallow : s.circuit.allow now = (true, circuit)) (body : β) :
    s.breaker.next rates (now, .allow) =
      some { clock := now, circuit := circuit,
             batches := (s.deliveries ++ [s.fresh cfg body]).map Delivery.batch } := by
  have hlive : ¬ now < s.clock := Nat.not_lt.2 hclock
  simp only [Breaker.next, Exporter.breaker, if_neg hlive, hallow, if_true, List.map_append]
  rfl

theorem breaker_moved {s : Exporter β} {now i : Nat} {d d' : Delivery β} {e : Effect}
    (hclock : s.clock ≤ now) (hd : s.deliveries[i]? = some d) (hmove : d.Move rates now d' e) :
    ∃ b, s.breaker.next rates (now, b) = some (s.advance rates now i (d', e)).breaker := by
  have hlive : ¬ now < s.breaker.clock := Nat.not_lt.2 hclock
  have hopen := breaker_unresolved hd hmove.unresolved
  rcases hmove.phase with ⟨hresolves, hphase⟩ | ⟨hkeeps, hunresolved⟩
  · have hbatch : d'.batch = { d.batch with resolved := true } := by
      simp [Delivery.batch, hphase, hmove.same.2]
    have hbatches := breaker_resolve hd hbatch
    rcases hresolves with rfl | rfl
    · refine ⟨.success i, ?_⟩
      simp only [Breaker.next, if_neg hlive, if_pos hopen, ← hbatches]
      rfl
    · refine ⟨.failure i, ?_⟩
      simp only [Breaker.next, if_neg hlive, if_pos hopen, ← hbatches]
      rfl
  · have hbatch : d'.batch = d.batch := by
      rw [Delivery.batch_of_unresolved hunresolved,
        Delivery.batch_of_unresolved hmove.unresolved, hmove.same.2]
    have hcircuit : (s.apply rates now e).circuit = s.circuit := by
      rcases s.circuit_apply_cases now e with ⟨_, heq⟩ | ⟨rfl, _⟩ | ⟨rfl, _⟩
      · exact heq
      · exact absurd (Or.inl rfl) hkeeps
      · exact absurd (Or.inr rfl) hkeeps
    refine ⟨.wait, ?_⟩
    rw [breaker_wait rates hclock]
    simp only [Exporter.breaker, Exporter.advance, hcircuit, batches_set hd hbatch]

/-- Everything that happens to the circuit of a reporter is something that
happens to a breaker with its threshold and cooldown. -/
def exporterBreaker (β : Type) (cfg : ReporterConfig) (rates : ClockRates) :
    Simulation (exporter β cfg rates)
      (breaker rates cfg.circuitFailureThreshold cfg.circuitOpenSeconds) where
  abs := Exporter.breaker
  init := rfl
  step := by
    rintro s ⟨now, a⟩ t _ hnext
    obtain ⟨hclock, hstep⟩ := next_stepped hnext
    right
    cases hstep with
    | refused body hallow => exact ⟨(now, .wait), breaker_wait rates hclock⟩
    | granted body circuit hallow =>
      exact ⟨(now, .allow), breaker_granted rates hclock hallow body⟩
    | abandoned i d hd hphase =>
      have hbatch : Delivery.batch { d with phase := .abandoned } = d.batch := by
        simp [Delivery.batch, hphase]
      refine ⟨(now, .wait), (breaker_wait rates hclock).trans ?_⟩
      simp only [Exporter.breaker, batches_set hd hbatch]
    | moved a i d d' e hd hmove hof hfails =>
      obtain ⟨b, hb⟩ := breaker_moved hclock hd hmove
      exact ⟨(now, b), hb⟩

/-- The deliveries are well formed, and the circuit is that of a breaker. -/
theorem exporter_sound {s : Exporter β} (h : (exporter β cfg rates).Reachable s) :
    s.Sound cfg := by
  have hbreaker := (exporterBreaker β cfg rates).reachable h
  exact ⟨exporter_wellFormed h, circuit_coherent hbreaker, circuit_cooldown hbreaker⟩

end DrogonStarter.Observability
