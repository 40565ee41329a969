import DrogonStarter.Observability.Reporter
import DrogonStarter.Observability.RetryBounds

/-!
# The counters and the events they stand for

An event that `captureException` is given waits in the queue, is handed to
`deliver`, or is dropped.  The counters say so as long as the circuit refuses
no batch.  A refused batch is counted as submitted, because `flushQueue` counts
it before it asks the circuit, and as one dropped event, whatever its size.

* `Reporter.Balanced` is the equation that holds in every state.  It keeps the
  refused batches apart.
* `accounted_iff_steps` is about whole runs: between two flushes the counters
  account for every event exactly when no batch was refused.
-/

namespace DrogonStarter.Observability

open Transition

namespace Reporter

variable {ε : Type} {cfg : ReporterConfig} {rates : ClockRates}

/-- The events that have been handed to `deliver`. -/
def handed (s : Reporter ε) : Nat :=
  tally (fun d => if d.attempt = 0 then 0 else d.body.length) s.exporter.deliveries

/-- No call of `flushQueue` is in progress. -/
def Idle (s : Reporter ε) : Prop := s.telemetry.flushing = [] ∧ s.Settled

instance (s : Reporter ε) : Decidable s.Idle :=
  decidable_of_iff (s.telemetry.flushing.isEmpty = true ∧ s.Settled) (by simp [Idle])

/-- Every captured event is counted in exactly one of waiting, submitted and
dropped. -/
structure Accounted (s : Reporter ε) : Prop where
  captured : s.captured =
    s.telemetry.queue.length + s.handed + s.metrics.observabilityDropped
  submitted : s.metrics.observabilityBatchEvents = s.handed

/-- A `flushQueue` comes to an open circuit with its batch. -/
def Rejects (s : Reporter ε) : Nat × ReporterAction ε → Prop
  | (now, .submit _) => (s.exporter.circuit.allow now).1 = false
  | _ => False

instance (s : Reporter ε) (a : Nat × ReporterAction ε) : Decidable (s.Rejects a) :=
  match a with
  | (now, .submit _) => inferInstanceAs (Decidable ((s.exporter.circuit.allow now).1 = false))
  | (_, .queue _) | (_, .abandon _) | (_, .deliver _ _) | (_, .respond _ _) =>
    inferInstanceAs (Decidable False)

/-! ## What every step keeps -/

/-- The events in the batches of all deliveries. -/
def granted (s : Reporter ε) : Nat := tally (fun d => d.body.length) s.exporter.deliveries

/-- Where the captured events are, and what the counters say about them.  Each
refused batch has one dropped event, so the number of refused batches stands
on the left. -/
structure Balanced (s : Reporter ε) : Prop where
  captured : s.captured + s.rejected.length =
    s.telemetry.queue.length + tally List.length s.holding + s.granted +
      tally List.length s.rejected + s.metrics.observabilityDropped
  submitted : s.metrics.observabilityBatchEvents =
    s.granted + tally List.length s.rejected
  held : ∀ events ∈ s.holding, events ≠ []
  refused : ∀ events ∈ s.rejected, events ≠ []

/-- A captured event is dropped, or it waits. -/
theorem Balanced.capture {s : Reporter ε} (h : s.Balanced) (e : ε) :
    Balanced { s.observe cfg (.capture e) with
      telemetry := (s.telemetry.captureException cfg e).2 } := by
  have hcaptured := h.captured
  rcases TelemetryQueue.captureException_cases cfg e s.telemetry with
    ⟨_, heq⟩ | ⟨_, t, heq, hqueue, _⟩
  · refine ⟨?_, ?_, h.held, h.refused⟩
    · simp only [observe, heq, Metrics.recordCapture, Metrics.recordObservabilityDropped]
      show s.captured + 1 + s.rejected.length =
        s.telemetry.queue.length + tally List.length s.holding + s.granted +
          tally List.length s.rejected + (s.metrics.observabilityDropped + 1)
      omega
    · simp only [observe, heq, Metrics.recordCapture, Metrics.recordObservabilityDropped]
      exact h.submitted
  · refine ⟨?_, ?_, h.held, h.refused⟩
    · simp only [observe, heq, Metrics.recordCapture, Metrics.recordObservabilityQueued]
      show s.captured + 1 + s.rejected.length =
        t.queue.length + tally List.length s.holding + s.granted +
          tally List.length s.rejected + s.metrics.observabilityDropped
      rw [hqueue, List.length_append, List.length_singleton]
      omega
    · simp only [observe, heq, Metrics.recordCapture, Metrics.recordObservabilityQueued]
      exact h.submitted

/-- The queue is held as a batch, unless it is empty. -/
theorem tally_length_taken (holding : List (List ε)) (queue : List ε) :
    tally List.length (holding ++ if queue.isEmpty then [] else [queue]) =
      tally List.length holding + queue.length := by
  cases queue <;> simp

theorem Balanced.queue {s : Reporter ε} {telemetry : TelemetryQueue ε} {a : QueueAction ε}
    (h : s.Balanced) (hnext : s.telemetry.next cfg a = some telemetry) :
    Balanced { s.observe cfg a with telemetry := telemetry } := by
  have hcaptured := h.captured
  cases a with
  | capture e =>
    obtain ⟨_, rfl⟩ := TelemetryQueue.next_capture hnext
    exact h.capture e
  | flush =>
    obtain ⟨_, rfl⟩ := TelemetryQueue.next_flush hnext
    exact ⟨h.captured, h.submitted, h.held, h.refused⟩
  | fire id =>
    obtain ⟨_, rfl⟩ := TelemetryQueue.next_fire hnext
    exact ⟨h.captured, h.submitted, h.held, h.refused⟩
  | take who =>
    obtain ⟨_, rfl⟩ := TelemetryQueue.next_take hnext
    refine ⟨?_, h.submitted, ?_, h.refused⟩
    · show s.captured + s.rejected.length =
        0 + tally List.length
            (s.holding ++ if s.telemetry.queue.isEmpty then [] else [s.telemetry.queue]) +
          s.granted + tally List.length s.rejected + s.metrics.observabilityDropped
      rw [tally_length_taken]
      omega
    · intro events hevents
      rcases List.mem_append.1 hevents with hold | hnew
      · exact h.held events hold
      · split at hnew
        · simp at hnew
        · rename_i hnonempty
          rw [List.mem_singleton.1 hnew]
          simpa using hnonempty
  | destroy =>
    obtain ⟨_, _, rfl⟩ := TelemetryQueue.next_destroy hnext
    refine ⟨?_, h.submitted, h.held, h.refused⟩
    show s.captured + s.rejected.length =
      s.telemetry.destroy.queue.length + tally List.length s.holding + s.granted +
        tally List.length s.rejected + s.metrics.observabilityDropped
    rw [TelemetryQueue.destroy_queue]
    exact h.captured

/-- The steps of a delivery leave the batches as they are. -/
theorem granted_delivery {x y : Exporter (List ε)} {now : Nat}
    {b : ExporterAction (List ε)} (hb : ∀ events, b ≠ .submit events)
    (hnext : x.next cfg rates (now, b) = some y) :
    tally (fun d => d.body.length) y.deliveries =
      tally (fun d => d.body.length) x.deliveries := by
  obtain ⟨_, hstep⟩ := Exporter.next_stepped hnext
  cases hstep with
  | refused events | granted events => exact absurd rfl (hb events)
  | abandoned i d hd hphase =>
    have hset := tally_set (f := fun d : Delivery (List ε) => d.body.length)
      { d with phase := .abandoned } hd
    exact Nat.add_right_cancel hset
  | moved b i d d' e hd hmove hof hfails =>
    have hset := tally_set (f := fun d : Delivery (List ε) => d.body.length) d' hd
    simp only [hmove.same.1] at hset
    exact Nat.add_right_cancel hset

theorem Balanced.submit {s : Reporter ε} {now i : Nat} {events : List ε}
    {exporter : Exporter (List ε)} (h : s.Balanced) (hheld : s.holding[i]? = some events)
    (hnext : s.exporter.next cfg rates (now, .submit events) = some exporter) :
    Balanced { s.flushed (s.exporter.circuit.allow now).1 events with
      exporter := exporter, holding := s.holding.eraseIdx i } := by
  have hcaptured := h.captured
  have hsubmitted := h.submitted
  have htaken := tally_eraseIdx (f := List.length) hheld
  have hnonempty := h.held events (List.mem_of_getElem? hheld)
  have hrest : ∀ other ∈ s.holding.eraseIdx i, other ≠ [] := fun other hother =>
    h.held other (List.mem_of_mem_eraseIdx hother)
  rcases Exporter.next_submit hnext with ⟨hrefused, hdeliveries⟩ | ⟨hgranted, hdeliveries⟩
  · rw [hrefused]
    have hsame : tally (fun d => d.body.length) exporter.deliveries = s.granted := by
      rw [hdeliveries]
      rfl
    refine ⟨?_, ?_, hrest, ?_⟩
    · show s.captured + (s.rejected ++ [events]).length =
        s.telemetry.queue.length + tally List.length (s.holding.eraseIdx i) +
          tally (fun d => d.body.length) exporter.deliveries +
          tally List.length (s.rejected ++ [events]) + (s.metrics.observabilityDropped + 1)
      rw [List.length_append, List.length_singleton, tally_concat, hsame]
      omega
    · show s.metrics.observabilityBatchEvents + events.length =
        tally (fun d => d.body.length) exporter.deliveries +
          tally List.length (s.rejected ++ [events])
      rw [tally_concat, hsame]
      omega
    · intro other hother
      rcases List.mem_append.1 hother with hold | hnew
      · exact h.refused other hold
      · rw [List.mem_singleton.1 hnew]
        exact hnonempty
  · rw [hgranted]
    have hmore : tally (fun d => d.body.length) exporter.deliveries =
        s.granted + events.length := by
      rw [hdeliveries, tally_concat]
      rfl
    refine ⟨?_, ?_, hrest, h.refused⟩
    · show s.captured + s.rejected.length =
        s.telemetry.queue.length + tally List.length (s.holding.eraseIdx i) +
          tally (fun d => d.body.length) exporter.deliveries +
          tally List.length s.rejected + s.metrics.observabilityDropped
      rw [hmore]
      omega
    · show s.metrics.observabilityBatchEvents + events.length =
        tally (fun d => d.body.length) exporter.deliveries + tally List.length s.rejected
      rw [hmore]
      omega

theorem Balanced.stepped {s t : Reporter ε} {now : Nat} {a : ReporterAction ε}
    (h : s.Balanced) (hstep : Stepped cfg rates s now a t) : t.Balanced := by
  cases hstep with
  | queue b telemetry hnext => exact h.queue hnext
  | submit i events exporter hheld hnext => exact h.submit hheld hnext
  | delivery a b exporter hb hnext ha =>
    have hsame := granted_delivery hb hnext
    refine ⟨?_, ?_, h.held, h.refused⟩
    · show s.captured + s.rejected.length =
        s.telemetry.queue.length + tally List.length s.holding +
          tally (fun d => d.body.length) exporter.deliveries +
          tally List.length s.rejected + s.metrics.observabilityDropped
      rw [hsame]
      exact h.captured
    · show s.metrics.observabilityBatchEvents =
        tally (fun d => d.body.length) exporter.deliveries + tally List.length s.rejected
      rw [hsame]
      exact h.submitted

/-- A refused batch is the only thing that a step adds to `rejected`. -/
theorem Stepped.rejected {s t : Reporter ε} {now : Nat} {a : ReporterAction ε}
    (h : Stepped cfg rates s now a t) :
    (¬ s.Rejects (now, a) ∧ t.rejected = s.rejected) ∨
      (s.Rejects (now, a) ∧ ∃ events, t.rejected = s.rejected ++ [events]) := by
  cases h with
  | queue b telemetry hnext => exact Or.inl ⟨id, by cases b <;> rfl⟩
  | submit i events exporter hheld hnext =>
    cases hallow : (s.exporter.circuit.allow now).1 with
    | false => exact Or.inr ⟨hallow, events, rfl⟩
    | true => exact Or.inl ⟨by simp [Rejects, hallow], rfl⟩
  | delivery a b exporter hb hnext ha =>
    refine Or.inl ⟨?_, rfl⟩
    cases a with
    | submit i => exact absurd rfl (ha i)
    | queue | abandon | deliver | respond => exact id

/-! ## Where nothing is in progress -/

/-- When no `flushQueue` is in progress and none was cut short, every granted
batch has been handed to `deliver`. -/
theorem handed_eq_granted {s : Reporter ε} (hsound : s.exporter.Sound cfg)
    (hidle : s.Idle) (hquiet : ∀ d ∈ s.exporter.deliveries, d.phase ≠ .abandoned) :
    s.handed = s.granted := by
  apply tally_eq_of_forall
  intro d hd
  have hentered := (hsound.deliveries d hd).resolvedOnce.attempts (hidle.2.2 d hd) (hquiet d hd)
  have hpos : d.attempt ≠ 0 := by omega
  simp [hpos]

theorem accounted_iff_rejected {s : Reporter ε} (hsound : s.exporter.Sound cfg)
    (h : s.Balanced) (hidle : s.Idle)
    (hquiet : ∀ d ∈ s.exporter.deliveries, d.phase ≠ .abandoned) :
    s.Accounted ↔ s.rejected = [] := by
  have hhanded := handed_eq_granted hsound hidle hquiet
  have hcaptured := h.captured
  have hsubmitted := h.submitted
  constructor
  · intro hall
    have htotal := hall.submitted
    have hzero : tally List.length s.rejected = 0 := by omega
    apply List.eq_nil_iff_forall_not_mem.2
    intro events hevents
    exact h.refused events hevents (List.eq_nil_of_length_eq_zero (tally_eq_zero.1 hzero _ hevents))
  · intro hnone
    have hheld : tally List.length s.holding = 0 := by rw [hidle.2.1, tally_nil]
    have hlength : s.rejected.length = 0 := by rw [hnone, List.length_nil]
    have hzero : tally List.length s.rejected = 0 := by rw [hnone, tally_nil]
    exact ⟨by omega, by omega⟩

end Reporter

open Reporter

variable {ε : Type} {cfg : ReporterConfig} {rates : ClockRates}

theorem reporter_balanced {s : Reporter ε} (h : (reporter ε cfg rates).Reachable s) :
    s.Balanced := by
  refine Machine.ReachableVia.invariant ?_ ?_ h
  · exact ⟨rfl, rfl, by simp [reporter], by simp [reporter]⟩
  · intro s a t _ hs hnext _
    exact hs.stepped (next_stepped hnext)

/-- No batch was refused in a run exactly when no step refused one. -/
theorem rejected_clearedVia : (reporter ε cfg rates).ClearedVia
    (fun s a => ¬ s.Rejects a) (fun s => s.rejected = []) := by
  refine ⟨rfl, ?_, ?_, ?_⟩
  · intro s a t _ hnext hclean hok
    rcases (next_stepped hnext).rejected with ⟨_, hsame⟩ | ⟨hrejects, _⟩
    · exact hsame.trans hclean
    · exact absurd hrejects hok
  · intro s a t _ hnext hrejects
    rcases (next_stepped hnext).rejected with ⟨hok, _⟩ | ⟨_, events, hmore⟩
    · exact absurd hok hrejects
    · simp [hmore]
  · intro s a t _ hnext hdirty
    rcases (next_stepped hnext).rejected with ⟨_, hsame⟩ | ⟨_, events, hmore⟩
    · rw [hsame]
      exact hdirty
    · simp [hmore]

/-- Between two flushes the counters account for every captured event exactly
when the circuit has refused no batch. -/
theorem accounted_iff_steps (cfg : ReporterConfig) (rates : ClockRates)
    (as : List (Nat × ReporterAction ε)) (t : Reporter ε)
    (hrun : (reporter ε cfg rates).run as = some t) (hidle : t.Idle)
    (hquiet : ∀ d ∈ t.exporter.deliveries, d.phase ≠ .abandoned) :
    t.Accounted ↔ (reporter ε cfg rates).Steps (fun s a => ¬ s.Rejects a) as := by
  have hreach := Machine.reachable_of_run as hrun
  have hsound := exporter_sound ((reporterExporter ε cfg rates).reachable hreach)
  rw [accounted_iff_rejected hsound (reporter_balanced hreach) hidle hquiet]
  exact rejected_clearedVia.iff_steps hrun

/-- One event is dropped at a full queue, one is submitted and one waits. -/
theorem accounted_iff_steps_full :
    Accounted
      ({ telemetry :=
          { queue := [9], timerId := some 1, scheduled := [1], created := 2,
            accepted := [7, 9], batches := [[7]] }
         exporter :=
          { clock := 2
            circuit := { failureThreshold := 5, cooldown := .finite 30 }
            deliveries :=
              [{ body := [7], maxAttempts := 3, baseDelay := tenth,
                 attempt := 1, phase := .awaiting }]
            sent := [2] }
         metrics :=
          { observabilityQueued := 2, observabilityDropped := 1, observabilityBatches := 1,
            observabilityBatchEvents := 1 }
         captured := 3 } : Reporter Nat) :=
  (accounted_iff_steps { localCollector with maxQueueSize := 1, accepted := by decide }
    steadyClock
    [(0, .queue (.capture 7)), (0, .queue (.capture 8)), (1, .queue (.fire 0)),
     (1, .queue (.take (.timer 0))), (1, .submit 0), (2, .deliver 0 false),
     (3, .queue (.capture 9))]
    _ (by decide +kernel) (by decide) (by decide)).2 (by decide +kernel)

/-- A batch of two events is refused by the open circuit.  It is counted as
two submitted events and as one dropped event. -/
theorem refused_batch_miscounted :
    ¬ ∀ (cfg : ReporterConfig) (rates : ClockRates) (s : Reporter Nat),
      (reporter Nat cfg rates).Reachable s → s.Idle →
        (∀ d ∈ s.exporter.deliveries, d.phase ≠ .abandoned) → s.Accounted := by
  intro hall
  have hreach : (reporter Nat fragileCollector steadyClock).Reachable
      { telemetry := { created := 2, accepted := [7, 8, 9], batches := [[7], [8, 9]] }
        exporter :=
          { clock := 3
            circuit := { failureThreshold := 1, cooldown := .finite 30, failures := 1,
                         openUntil := 30000000002 }
            deliveries :=
              [{ body := [7], maxAttempts := 3, baseDelay := tenth,
                 attempt := 1, phase := .finished, outcomes := [.threw],
                 calls := [.failure] }]
            failures := 1
            openings := [(2, 30000000002)] }
        metrics :=
          { observabilityQueued := 3, observabilityDropped := 1, observabilityBatches := 2,
            observabilityBatchEvents := 3, observabilityCircuitOpen := 1 }
        captured := 3
        rejected := [[8, 9]] } :=
    Machine.reachable_of_run
      [(0, .queue (.capture 7)), (1, .queue (.fire 0)), (1, .queue (.take (.timer 0))),
       (1, .submit 0), (2, .deliver 0 true), (2, .queue (.capture 8)),
       (2, .queue (.capture 9)), (3, .queue (.fire 1)), (3, .queue (.take (.timer 1))),
       (3, .submit 0)] (by decide +kernel)
  have hsubmitted := (hall _ _ _ hreach (by decide) (by decide)).submitted
  revert hsubmitted
  decide

end DrogonStarter.Observability
