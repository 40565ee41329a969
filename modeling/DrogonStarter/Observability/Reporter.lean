import DrogonStarter.Observability.TelemetryQueue
import DrogonStarter.Observability.Exporter

/-!
# One reporter as a whole

`flushQueue` takes the events out of the queue, counts the batch and asks the
circuit whether it may be delivered.  `Reporter` puts the queue and the
exporter together, with the batches that are between the two and with the
counters of `Metrics` that the reporter bumps.

* `reporter` is the machine.  A step is one of the queue, the second half of a
  `flushQueue`, or one of a delivery.
* `Reporter.Stepped` says what each step can do.
* `reporterQueue` and `reporterExporter` are the two projections: a reporter
  does nothing to its queue and to its deliveries that their own machines do
  not do.
-/

namespace DrogonStarter.Observability

open Transition

/-- The counters that `captureException` and `flushQueue` bump. -/
structure Metrics where
  observabilityQueued : Nat := 0
  observabilityDropped : Nat := 0
  observabilityBatches : Nat := 0
  observabilityBatchEvents : Nat := 0
  observabilityCircuitOpen : Nat := 0
deriving DecidableEq

namespace Metrics

def recordObservabilityQueued (m : Metrics) : Metrics :=
  { m with observabilityQueued := m.observabilityQueued + 1 }

def recordObservabilityDropped (m : Metrics) : Metrics :=
  { m with observabilityDropped := m.observabilityDropped + 1 }

def recordObservabilityBatch (m : Metrics) (eventCount : Nat) : Metrics :=
  { m with
    observabilityBatches := m.observabilityBatches + 1
    observabilityBatchEvents := m.observabilityBatchEvents + eventCount }

def recordObservabilityCircuitOpen (m : Metrics) : Metrics :=
  { m with observabilityCircuitOpen := m.observabilityCircuitOpen + 1 }

/-- What `captureException` records of its event. -/
def recordCapture (m : Metrics) : CaptureResult → Metrics
  | .dropped => m.recordObservabilityDropped
  | .queued => m.recordObservabilityQueued

end Metrics

/-- The queue, the deliveries and what is between them.  `captured` and
`rejected` record the past, and nothing reads them. -/
structure Reporter (ε : Type) where
  telemetry : TelemetryQueue ε := {}
  exporter : Exporter (List ε)
  metrics : Metrics := {}
  /-- The non-empty batches that a `flushQueue` has taken and not submitted. -/
  holding : List (List ε) := []
  /-- How often `captureException` was called. -/
  captured : Nat := 0
  /-- The batches that the circuit has refused. -/
  rejected : List (List ε) := []
deriving DecidableEq

inductive ReporterAction (ε : Type) where
  | queue (a : QueueAction ε)
  /-- A `flushQueue` goes on with the batch at position `i` of `holding`. -/
  | submit (i : Nat)
  | abandon (i : Nat)
  | deliver (i : Nat) (throws : Bool)
  | respond (i : Nat) (reply : Reply)
deriving DecidableEq

namespace Reporter

variable {ε : Type}

/-- What a step of the queue does outside the queue. -/
def observe (cfg : ReporterConfig) (s : Reporter ε) : QueueAction ε → Reporter ε
  | .capture e =>
    { s with
      captured := s.captured + 1
      metrics := s.metrics.recordCapture (s.telemetry.captureException cfg e).1 }
  | .take _ =>
    -- `if (events.empty()) return;`
    { s with
      holding :=
        s.holding ++ if s.telemetry.queue.isEmpty then [] else [s.telemetry.queue] }
  | .flush | .fire _ | .destroy => s

/-- The second half of `flushQueue` outside the circuit: the batch is counted
first, and then what the circuit has said about it. -/
def flushed (s : Reporter ε) (granted : Bool) (events : List ε) : Reporter ε :=
  let counted := s.metrics.recordObservabilityBatch events.length
  if granted then { s with metrics := counted }
  else
    { s with
      metrics := counted.recordObservabilityCircuitOpen.recordObservabilityDropped
      rejected := s.rejected ++ [events] }

/-- No thread is between the two halves of a `flushQueue`, or between
`allow()` and `deliver`. -/
def Settled (s : Reporter ε) : Prop :=
  s.holding = [] ∧ ∀ d ∈ s.exporter.deliveries, d.phase ≠ .granted

instance (s : Reporter ε) : Decidable s.Settled :=
  decidable_of_iff (s.holding.isEmpty = true ∧ ∀ d ∈ s.exporter.deliveries, d.phase ≠ .granted)
    (by simp [Settled])

/-- The destructor runs while no thread is inside the reporter. -/
def mayRun (s : Reporter ε) : QueueAction ε → Bool
  | .destroy => decide s.Settled
  | .capture _ | .flush | .fire _ | .take _ => true

/-- The action `action` at time `now`. -/
def next (cfg : ReporterConfig) (rates : ClockRates) (s : Reporter ε) :
    Nat × ReporterAction ε → Option (Reporter ε)
  | (_, .queue a) =>
    if s.mayRun a then
      (s.telemetry.next cfg a).map fun telemetry =>
        { s.observe cfg a with telemetry := telemetry }
    else none
  | (now, .submit i) =>
    s.holding[i]?.bind fun events =>
      (s.exporter.next cfg rates (now, .submit events)).map fun exporter =>
        { s.flushed (s.exporter.submit cfg now events).1 events with
          exporter := exporter, holding := s.holding.eraseIdx i }
  | (now, .abandon i) =>
    (s.exporter.next cfg rates (now, .abandon i)).map ({ s with exporter := · })
  | (now, .deliver i throws) =>
    (s.exporter.next cfg rates (now, .deliver i throws)).map ({ s with exporter := · })
  | (now, .respond i reply) =>
    (s.exporter.next cfg rates (now, .respond i reply)).map ({ s with exporter := · })

end Reporter

/-- A reporter, from its construction on. -/
def reporter (ε : Type) (cfg : ReporterConfig) (rates : ClockRates) :
    Machine (Reporter ε) (Nat × ReporterAction ε) where
  init := { exporter := (exporter (List ε) cfg rates).init }
  next := Reporter.next cfg rates

namespace Reporter

variable {ε : Type} {cfg : ReporterConfig} {rates : ClockRates}

/-- The states that an action at time `now` can lead to. -/
inductive Stepped (cfg : ReporterConfig) (rates : ClockRates) (s : Reporter ε) (now : Nat) :
    ReporterAction ε → Reporter ε → Prop
  | queue (a : QueueAction ε) (telemetry : TelemetryQueue ε)
      (hnext : s.telemetry.next cfg a = some telemetry) :
      Stepped cfg rates s now (.queue a) { s.observe cfg a with telemetry := telemetry }
  | submit (i : Nat) (events : List ε) (exporter : Exporter (List ε))
      (hheld : s.holding[i]? = some events)
      (hnext : s.exporter.next cfg rates (now, .submit events) = some exporter) :
      Stepped cfg rates s now (.submit i)
        { s.flushed (s.exporter.circuit.allow now).1 events with
          exporter := exporter, holding := s.holding.eraseIdx i }
  | delivery (a : ReporterAction ε) (b : ExporterAction (List ε))
      (exporter : Exporter (List ε)) (hb : ∀ events, b ≠ .submit events)
      (hnext : s.exporter.next cfg rates (now, b) = some exporter)
      (ha : ∀ i, a ≠ .submit i) :
      Stepped cfg rates s now a { s with exporter := exporter }

/-- Every enabled action steps as `Stepped` says. -/
theorem next_stepped {s t : Reporter ε} {now : Nat} {a : ReporterAction ε}
    (h : s.next cfg rates (now, a) = some t) : Stepped cfg rates s now a t := by
  cases a with
  | queue a =>
    simp only [Reporter.next, Option.ite_none_right_eq_some] at h
    obtain ⟨telemetry, hnext, rfl⟩ := Option.map_eq_some_iff.1 h.2
    exact .queue a telemetry hnext
  | submit i =>
    obtain ⟨events, hheld, hmap⟩ := Option.bind_eq_some_iff.1 h
    obtain ⟨exporter, hnext, rfl⟩ := Option.map_eq_some_iff.1 hmap
    rw [Exporter.submit_fst]
    exact .submit i events exporter hheld hnext
  | abandon i =>
    obtain ⟨exporter, hnext, rfl⟩ := Option.map_eq_some_iff.1 h
    exact .delivery _ (.abandon i) exporter (by simp) hnext (by simp)
  | deliver i throws =>
    obtain ⟨exporter, hnext, rfl⟩ := Option.map_eq_some_iff.1 h
    exact .delivery _ (.deliver i throws) exporter (by simp) hnext (by simp)
  | respond i reply =>
    obtain ⟨exporter, hnext, rfl⟩ := Option.map_eq_some_iff.1 h
    exact .delivery _ (.respond i reply) exporter (by simp) hnext (by simp)

theorem observe_exporter (cfg : ReporterConfig) (s : Reporter ε) (a : QueueAction ε) :
    (s.observe cfg a).exporter = s.exporter := by
  cases a <;> rfl

theorem flushed_telemetry (s : Reporter ε) (granted : Bool) (events : List ε) :
    (s.flushed granted events).telemetry = s.telemetry := by
  cases granted <;> rfl

end Reporter

open Reporter

/-- A reporter does nothing to its queue that `telemetryQueue` does not do. -/
def reporterQueue (ε : Type) (cfg : ReporterConfig) (rates : ClockRates) :
    Simulation (reporter ε cfg rates) (telemetryQueue ε cfg) where
  abs := Reporter.telemetry
  init := rfl
  step := by
    intro s a t _ hnext
    obtain ⟨now, action⟩ := a
    cases next_stepped hnext with
    | queue b telemetry hqueue => exact Or.inr ⟨b, hqueue⟩
    | submit i events exporter hheld hsubmit =>
      exact Or.inl (s.flushed_telemetry _ _)
    | delivery _ b exporter _ hexporter _ => exact Or.inl rfl

/-- A reporter does nothing to its deliveries that `exporter` does not do. -/
def reporterExporter (ε : Type) (cfg : ReporterConfig) (rates : ClockRates) :
    Simulation (reporter ε cfg rates) (exporter (List ε) cfg rates) where
  abs := Reporter.exporter
  init := rfl
  step := by
    intro s a t _ hnext
    obtain ⟨now, action⟩ := a
    cases next_stepped hnext with
    | queue b telemetry hqueue => exact Or.inl (s.observe_exporter cfg b)
    | submit i events exporter hheld hsubmit =>
      exact Or.inr ⟨(now, .submit events), hsubmit⟩
    | delivery _ b exporter _ hexporter _ => exact Or.inr ⟨(now, b), hexporter⟩

end DrogonStarter.Observability
