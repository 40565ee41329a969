import DrogonStarter.Observability.TelemetryQueue

/-!
# The size of a batch

`captureException` compares the queue with `batchSize_` in its critical section, and the
flush that it decides on empties the queue in a later one.  What other threads push in
between is taken with it.

* `BatchesBounded` says that no batch so far had more than `batchSize_` events, and
  `Overfills` is the capture that pushes one more onto a queue of that many.
* `bounded_of_reachableVia` is the safety of the runs without such a capture.
* `overfilled_batch` is the other direction: each of these captures can be continued to a
  batch that is too large.
-/

namespace DrogonStarter.Observability

open Transition TelemetryQueue

namespace TelemetryQueue

variable {ε : Type}

/-- No `flushQueue` has taken more than `batchSize_` events. -/
def BatchesBounded (cfg : ReporterConfig) (s : TelemetryQueue ε) : Prop :=
  ∀ batch ∈ s.batches, batch.length ≤ cfg.batchSize

/-- A capture that is not dropped finds `batchSize_` events in the queue. -/
def Overfills (cfg : ReporterConfig) (s : TelemetryQueue ε) : QueueAction ε → Prop
  | .capture _ => cfg.batchSize ≤ s.queue.length ∧ s.queue.length < cfg.maxQueueSize
  | _ => False

instance (cfg : ReporterConfig) (s : TelemetryQueue ε) (a : QueueAction ε) :
    Decidable (s.Overfills cfg a) :=
  match a with
  | .capture _ =>
    inferInstanceAs
      (Decidable (cfg.batchSize ≤ s.queue.length ∧ s.queue.length < cfg.maxQueueSize))
  | .flush | .fire _ | .take _ | .destroy => inferInstanceAs (Decidable False)

/-- The thread of such a capture has seen a full batch. -/
theorem captureException_of_overfills {cfg : ReporterConfig} {s : TelemetryQueue ε} {e : ε}
    (h : s.Overfills cfg (.capture e)) :
    (s.captureException cfg e).2 =
      { s with
        queue := s.queue ++ [e]
        accepted := s.accepted ++ [e]
        flushing := .immediate :: s.flushing } := by
  obtain ⟨hfull, hroom⟩ := h
  have hflush : cfg.batchSize ≤ (s.queue ++ [e]).length := by
    rw [List.length_append, List.length_singleton]
    omega
  unfold captureException
  rw [if_neg (by omega)]
  exact congrArg Prod.snd (if_pos (decide_eq_true hflush))

theorem next_of_mem_flushing {cfg : ReporterConfig} {s : TelemetryQueue ε} {who : Flusher}
    (h : who ∈ s.flushing) :
    (telemetryQueue ε cfg).next s (.take who) =
      some { s.flushQueue with flushing := s.flushing.erase who } :=
  if_pos h

/-- The batches and the queue, which is the next batch. -/
structure Fits (cfg : ReporterConfig) (s : TelemetryQueue ε) : Prop where
  batches : s.BatchesBounded cfg
  queue : s.queue.length ≤ cfg.batchSize

variable {cfg : ReporterConfig}

theorem Fits.capture {s : TelemetryQueue ε} (h : s.Fits cfg) {e : ε}
    (hok : ¬ s.Overfills cfg (.capture e)) : (s.captureException cfg e).2.Fits cfg := by
  rcases captureException_cases cfg e s with
    ⟨_, heq⟩ | ⟨hroom, t, heq, hqueue, _, hbatches, _, _⟩
  · rw [heq]
    exact h
  · rw [heq]
    have hbelow : ¬ cfg.batchSize ≤ s.queue.length := fun hfull => hok ⟨hfull, hroom⟩
    refine ⟨?_, ?_⟩
    · intro batch hbatch
      rw [hbatches] at hbatch
      exact h.batches batch hbatch
    · rw [hqueue, List.length_append, List.length_singleton]
      omega

/-- What `flushQueue` takes is the queue. -/
theorem Fits.take {s : TelemetryQueue ε} (h : s.Fits cfg) (who : Flusher) :
    Fits cfg { s.flushQueue with flushing := s.flushing.erase who } := by
  refine ⟨?_, Nat.zero_le _⟩
  intro batch hbatch
  rcases List.mem_append.1 hbatch with hold | hnew
  · exact h.batches batch hold
  · rw [List.mem_singleton.1 hnew]
    exact h.queue

theorem Fits.next {s t : TelemetryQueue ε} {a : QueueAction ε} (h : s.Fits cfg)
    (hnext : s.next cfg a = some t) (hok : ¬ s.Overfills cfg a) : t.Fits cfg := by
  cases a with
  | capture e =>
    obtain ⟨_, rfl⟩ := next_capture hnext
    exact h.capture hok
  | flush =>
    obtain ⟨_, rfl⟩ := next_flush hnext
    exact ⟨h.batches, h.queue⟩
  | fire id =>
    obtain ⟨_, rfl⟩ := next_fire hnext
    exact ⟨h.batches, h.queue⟩
  | take who =>
    obtain ⟨_, rfl⟩ := next_take hnext
    exact h.take who
  | destroy =>
    obtain ⟨_, _, rfl⟩ := next_destroy hnext
    refine ⟨?_, ?_⟩
    · simpa only [BatchesBounded, destroy_batches] using h.batches
    · rw [destroy_queue]
      exact h.queue

end TelemetryQueue

variable {ε : Type} {cfg : ReporterConfig}

theorem bounded_of_reachableVia {s : TelemetryQueue ε}
    (h : (telemetryQueue ε cfg).ReachableVia (fun s a => ¬ s.Overfills cfg a) s) :
    s.BatchesBounded cfg := by
  have hfits : s.Fits cfg := by
    refine Machine.ReachableVia.invariant ?_ ?_ h
    · refine ⟨fun batch hbatch => ?_, Nat.zero_le _⟩
      simp [telemetryQueue] at hbatch
    · intro s a t _ hs hnext hok
      exact hs.next hnext hok
  exact hfits.batches

/-- A capture that overfills the queue has a flush on its way, which may come next. -/
theorem overfilled_batch {s t : TelemetryQueue ε} {e : ε}
    (hnext : (telemetryQueue ε cfg).next s (.capture e) = some t)
    (hover : s.Overfills cfg (.capture e)) :
    ∃ as u, (telemetryQueue ε cfg).runFrom t as = some u ∧ ¬ u.BatchesBounded cfg := by
  have hcapture : s.next cfg (.capture e) = some t := hnext
  obtain ⟨_, rfl⟩ := next_capture hcapture
  rw [captureException_of_overfills hover]
  refine ⟨[.take .immediate], _,
    Machine.runFrom_cons_of_next [] (next_of_mem_flushing List.mem_cons_self), ?_⟩
  intro hbounded
  have htaken := hbounded (s.queue ++ [e]) (List.mem_append_right _ List.mem_cons_self)
  have hfull := hover.1
  rw [List.length_append, List.length_singleton] at htaken
  omega

/-- No batch is larger than `batchSize_` in the runs in which no capture overfills the queue,
and every capture that does can lead to a batch that is. -/
theorem batchesBounded_via (cfg : ReporterConfig) :
    (∀ s : TelemetryQueue ε,
      (telemetryQueue ε cfg).ReachableVia (fun s a => ¬ s.Overfills cfg a) s →
        s.BatchesBounded cfg) ∧
    ∀ (s t : TelemetryQueue ε) (a : QueueAction ε), (telemetryQueue ε cfg).Reachable s →
      (telemetryQueue ε cfg).next s a = some t → s.Overfills cfg a →
        ∃ as u, (telemetryQueue ε cfg).runFrom t as = some u ∧ ¬ u.BatchesBounded cfg := by
  refine ⟨fun s h => bounded_of_reachableVia h, fun s t a _ hnext hover => ?_⟩
  cases a with
  | capture e => exact overfilled_batch hnext hover
  | flush | fire _ | take _ | destroy => exact absurd hover id

/-- A collector that wants two events in a batch. -/
def pairCollector : ReporterConfig := { localCollector with batchSize := 2, accepted := by decide }

/-- The second event completes a batch, and its thread takes both. -/
theorem batchesBounded_via_pair :
    BatchesBounded pairCollector
      ({ scheduled := [0], created := 1, accepted := [7, 8],
         batches := [[7, 8]] } : TelemetryQueue Nat) :=
  (batchesBounded_via pairCollector).1 _
    (Machine.reachableVia_of_run [.capture 7, .capture 8, .take .immediate] rfl (by decide))

/-- A third thread pushes its event before the second one takes the batch. -/
theorem three_in_a_pair :
    ¬ ∀ s : TelemetryQueue Nat,
      (telemetryQueue Nat pairCollector).Reachable s → s.BatchesBounded pairCollector := by
  intro hall
  have hreach : (telemetryQueue Nat pairCollector).Reachable
      { scheduled := [0], created := 1, flushing := [.immediate], accepted := [7, 8, 9],
        batches := [[7, 8, 9]] } :=
    Machine.reachable_of_run [.capture 7, .capture 8, .capture 9, .take .immediate] rfl
  have hbatch := hall _ hreach [7, 8, 9] List.mem_cons_self
  exact absurd hbatch (by decide)

end DrogonStarter.Observability
