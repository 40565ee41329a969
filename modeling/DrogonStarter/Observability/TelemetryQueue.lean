import DrogonStarter.Lib.Transition
import DrogonStarter.Observability.Settings

/-!
# The telemetry queue and the timers of its reporter

Everything that `HttpErrorReporter` keeps under `queueMutex_`, together with
the part of the event loop that it uses.  `captureException` has one critical
section and `flushQueue` has another one.  The decision to flush is taken in
the first and carried out in the second, so a thread can stand between them.

* `TelemetryQueue` is the state: the queue, `timerId_`, the timers of this
  reporter that the loop still holds, and the calls of `flushQueue` that have
  not reached their critical section.  `accepted` and `batches` record the
  past, and nothing reads them.
* `telemetryQueue` is the machine.  Its actions are the two critical sections,
  a call of `flush()`, the loop taking up a timer, and the destructor.
* `TelemetryQueue.Invariant` ties the queue to the timer and to the threads in
  between, and `telemetryQueue_invariant` is the induction over runs.
-/

namespace DrogonStarter.Observability

open Transition

/-- A valid `trantor::TimerId`.  `InvalidTimerId` is `none` in `timerId`. -/
abbrev TimerId := Nat

/-- Who calls `flushQueue`. -/
inductive Flusher where
  /-- `captureException`, which has observed `batchSize_` events. -/
  | immediate
  /-- `flush()`. -/
  | manual
  /-- The event loop, in the callback of a timer. -/
  | timer (id : TimerId)
deriving DecidableEq

/-- The queue, its timers and the threads on their way into `flushQueue`. -/
structure TelemetryQueue (ε : Type) where
  queue : List ε := []
  timerId : Option TimerId := none
  /-- The timers of this reporter that the event loop holds. -/
  scheduled : List TimerId := []
  /-- How many timers the reporter has scheduled so far. -/
  created : Nat := 0
  /-- The calls of `flushQueue` before their critical section. -/
  flushing : List Flusher := []
  destroyed : Bool := false
  /-- The events that `captureException` has pushed, in order. -/
  accepted : List ε := []
  /-- What `flushQueue` has moved out of the queue, in order. -/
  batches : List (List ε) := []
deriving DecidableEq

/-- What the critical section of `captureException` does with its event. -/
inductive CaptureResult where
  | dropped
  | queued
deriving DecidableEq

namespace TelemetryQueue

variable {ε : Type} (cfg : ReporterConfig)

/-- `timerId_ = client_->getLoop()->runAfter(...)`. -/
def runAfter (s : TelemetryQueue ε) : TelemetryQueue ε :=
  { s with
    timerId := some s.created
    scheduled := s.scheduled ++ [s.created]
    created := s.created + 1 }

/-- The critical section of `captureException`. -/
def captureException (e : ε) (s : TelemetryQueue ε) : CaptureResult × TelemetryQueue ε :=
  if cfg.maxQueueSize ≤ s.queue.length then (.dropped, s)
  else
    let pushed := { s with queue := s.queue ++ [e], accepted := s.accepted ++ [e] }
    let flushImmediately := decide (cfg.batchSize ≤ pushed.queue.length)
    if flushImmediately then
      (.queued, { pushed with flushing := .immediate :: pushed.flushing })
    else if pushed.timerId = none then (.queued, pushed.runAfter)
    else (.queued, pushed)

/-- The critical section of `flushQueue`. -/
def flushQueue (s : TelemetryQueue ε) : TelemetryQueue ε :=
  { s with timerId := none, queue := [], batches := s.batches ++ [s.queue] }

/-- `~HttpErrorReporter`, which cancels the timer that `timerId_` names. -/
def destroy (s : TelemetryQueue ε) : TelemetryQueue ε :=
  match s.timerId with
  | none => { s with destroyed := true }
  | some t => { s with destroyed := true, scheduled := s.scheduled.filter (· ≠ t) }

end TelemetryQueue

/-- The atomic steps of the reporter's threads and of the event loop. -/
inductive QueueAction (ε : Type) where
  /-- The critical section of a `captureException`. -/
  | capture (e : ε)
  /-- A thread calls `flush()`. -/
  | flush
  /-- The event loop takes up a timer and calls its callback. -/
  | fire (id : TimerId)
  /-- A call of `flushQueue` runs its critical section. -/
  | take (who : Flusher)
  /-- The reporter is destroyed while no thread is inside it. -/
  | destroy
deriving DecidableEq

/-- Only a timer that is still in the loop acts on a destroyed reporter. -/
def TelemetryQueue.next {ε : Type} (cfg : ReporterConfig) (s : TelemetryQueue ε) :
    QueueAction ε → Option (TelemetryQueue ε)
  | .capture e => if s.destroyed then none else some (s.captureException cfg e).2
  | .flush =>
    if s.destroyed then none else some { s with flushing := .manual :: s.flushing }
  | .fire id =>
    if id ∈ s.scheduled then
      some { s with scheduled := s.scheduled.erase id, flushing := .timer id :: s.flushing }
    else none
  | .take who =>
    if who ∈ s.flushing then
      some { s.flushQueue with flushing := s.flushing.erase who }
    else none
  | .destroy =>
    if s.destroyed = false ∧ s.flushing = [] then some s.destroy else none

/-- The queue of a reporter, from its construction on. -/
def telemetryQueue (ε : Type) (cfg : ReporterConfig) :
    Machine (TelemetryQueue ε) (QueueAction ε) where
  init := {}
  next := TelemetryQueue.next cfg

namespace TelemetryQueue

variable {ε : Type} {cfg : ReporterConfig}

/-! ## What each step can do -/

/-- The four outcomes of a captured event. -/
theorem captureException_cases (cfg : ReporterConfig) (e : ε) (s : TelemetryQueue ε) :
    (cfg.maxQueueSize ≤ s.queue.length ∧ s.captureException cfg e = (.dropped, s)) ∨
      s.queue.length < cfg.maxQueueSize ∧ ∃ t : TelemetryQueue ε,
        s.captureException cfg e = (.queued, t) ∧
        t.queue = s.queue ++ [e] ∧ t.accepted = s.accepted ++ [e] ∧
        t.batches = s.batches ∧ t.destroyed = s.destroyed ∧
        ((t.flushing = .immediate :: s.flushing ∧ t.timerId = s.timerId ∧
            t.scheduled = s.scheduled ∧ t.created = s.created) ∨
          (t.flushing = s.flushing ∧ s.timerId = none ∧ t.timerId = some s.created ∧
            t.scheduled = s.scheduled ++ [s.created] ∧ t.created = s.created + 1) ∨
          (t.flushing = s.flushing ∧ s.timerId ≠ none ∧ t.timerId = s.timerId ∧
            t.scheduled = s.scheduled ∧ t.created = s.created)) := by
  unfold captureException
  by_cases hfull : cfg.maxQueueSize ≤ s.queue.length
  · exact Or.inl ⟨hfull, if_pos hfull⟩
  · refine Or.inr ⟨by omega, ?_⟩
    rw [if_neg hfull]
    by_cases hflush : cfg.batchSize ≤ (s.queue ++ [e]).length
    · exact ⟨_, if_pos (decide_eq_true hflush), rfl, rfl, rfl, rfl,
        Or.inl ⟨rfl, rfl, rfl, rfl⟩⟩
    · simp only [decide_eq_false hflush, Bool.false_eq_true, if_false]
      by_cases htimer : s.timerId = none
      · exact ⟨_, if_pos htimer, rfl, rfl, rfl, rfl,
          Or.inr (Or.inl ⟨rfl, htimer, rfl, rfl, rfl⟩)⟩
      · exact ⟨_, if_neg htimer, rfl, rfl, rfl, rfl,
          Or.inr (Or.inr ⟨rfl, htimer, rfl, rfl, rfl⟩)⟩

/-- An event is refused exactly at a full queue, and then nothing changes. -/
theorem captureException_dropped_iff (cfg : ReporterConfig) (e : ε) (s : TelemetryQueue ε) :
    (s.captureException cfg e).1 = .dropped ↔ cfg.maxQueueSize ≤ s.queue.length := by
  rcases captureException_cases cfg e s with ⟨hfull, heq⟩ | ⟨hroom, t, heq, _⟩
  · rw [heq]
    exact iff_of_true rfl hfull
  · rw [heq]
    exact iff_of_false (by simp) (by omega)

theorem captureException_of_dropped {e : ε} {s : TelemetryQueue ε}
    (h : (s.captureException cfg e).1 = .dropped) : (s.captureException cfg e).2 = s := by
  rcases captureException_cases cfg e s with ⟨_, heq⟩ | ⟨_, t, heq, _⟩
  · rw [heq]
  · rw [heq] at h
    simp at h

theorem next_capture {s t : TelemetryQueue ε} {e : ε}
    (h : s.next cfg (.capture e) = some t) :
    s.destroyed = false ∧ t = (s.captureException cfg e).2 := by
  simp only [TelemetryQueue.next] at h
  split at h
  · simp at h
  · rename_i hd
    exact ⟨by simpa using hd, by simpa using h.symm⟩

theorem next_flush {s t : TelemetryQueue ε} (h : s.next cfg .flush = some t) :
    s.destroyed = false ∧ t = { s with flushing := .manual :: s.flushing } := by
  simp only [TelemetryQueue.next] at h
  split at h
  · simp at h
  · rename_i hd
    exact ⟨by simpa using hd, by simpa using h.symm⟩

theorem next_fire {s t : TelemetryQueue ε} {id : TimerId}
    (h : s.next cfg (.fire id) = some t) :
    id ∈ s.scheduled ∧
      t = { s with scheduled := s.scheduled.erase id,
                   flushing := .timer id :: s.flushing } := by
  simp only [TelemetryQueue.next] at h
  split at h
  · rename_i hid
    exact ⟨hid, by simpa using h.symm⟩
  · simp at h

theorem next_take {s t : TelemetryQueue ε} {who : Flusher}
    (h : s.next cfg (.take who) = some t) :
    who ∈ s.flushing ∧ t = { s.flushQueue with flushing := s.flushing.erase who } := by
  simp only [TelemetryQueue.next] at h
  split at h
  · rename_i hwho
    exact ⟨hwho, by simpa using h.symm⟩
  · simp at h

theorem next_destroy {s t : TelemetryQueue ε} (h : s.next cfg .destroy = some t) :
    s.destroyed = false ∧ s.flushing = [] ∧ t = s.destroy := by
  simp only [TelemetryQueue.next] at h
  split at h
  · rename_i hd
    exact ⟨hd.1, hd.2, by simpa using h.symm⟩
  · simp at h

@[simp] theorem destroy_destroyed (s : TelemetryQueue ε) : s.destroy.destroyed = true := by
  unfold destroy
  split <;> rfl

@[simp] theorem destroy_flushing (s : TelemetryQueue ε) :
    s.destroy.flushing = s.flushing := by
  unfold destroy
  split <;> rfl

@[simp] theorem destroy_queue (s : TelemetryQueue ε) : s.destroy.queue = s.queue := by
  unfold destroy
  split <;> rfl

@[simp] theorem destroy_accepted (s : TelemetryQueue ε) :
    s.destroy.accepted = s.accepted := by
  unfold destroy
  split <;> rfl

@[simp] theorem destroy_batches (s : TelemetryQueue ε) :
    s.destroy.batches = s.batches := by
  unfold destroy
  split <;> rfl

/-- The timers that are left after the destructor are those that `timerId_`
does not name. -/
theorem mem_scheduled_destroy {s : TelemetryQueue ε} {t : TimerId} :
    t ∈ s.destroy.scheduled ↔ t ∈ s.scheduled ∧ s.timerId ≠ some t := by
  unfold destroy
  cases s.timerId with
  | none => exact (and_iff_left (Option.some_ne_none t).symm).symm
  | some u =>
    simp only [List.mem_filter, decide_eq_true_eq, ne_eq, Option.some.injEq,
      eq_comm (a := u)]

/-! ## The invariant -/

/-- The timer that `timerId_` names is in the loop, or the loop is running
its callback. -/
def TimerPending (s : TelemetryQueue ε) (t : TimerId) : Prop :=
  t ∈ s.scheduled ∨ .timer t ∈ s.flushing

/-- What holds between any two steps.  The first two parts are about the
queue alone.  The other two are about a reporter that is not destroyed: a
valid `timerId_` is never a timer of the past, and a queue with events has a
timer or a thread that will flush it. -/
structure Invariant (cfg : ReporterConfig) (s : TelemetryQueue ε) : Prop where
  history : s.batches.flatten ++ s.queue = s.accepted
  bounded : s.queue.length ≤ cfg.maxQueueSize
  timer : s.destroyed = false → ∀ t, s.timerId = some t → s.TimerPending t
  covered : s.destroyed = false → s.queue ≠ [] →
    s.timerId ≠ none ∨ .immediate ∈ s.flushing

theorem Invariant.capture {s : TelemetryQueue ε} (h : s.Invariant cfg) (e : ε) :
    (s.captureException cfg e).2.Invariant cfg := by
  rcases captureException_cases cfg e s with
    ⟨_, heq⟩ | ⟨hroom, t, heq, hqueue, haccepted, hbatches, hdestroyed, hrest⟩
  · rw [heq]
    exact h
  · rw [heq]
    have hhistory : t.batches.flatten ++ t.queue = t.accepted := by
      rw [hqueue, haccepted, hbatches, ← List.append_assoc, h.history]
    have hbounded : t.queue.length ≤ cfg.maxQueueSize := by
      rw [hqueue, List.length_append, List.length_singleton]
      omega
    refine ⟨hhistory, hbounded, ?_, ?_⟩
    · intro hlive u hu
      rw [hdestroyed] at hlive
      unfold TimerPending
      rcases hrest with ⟨hflushing, htimer, hscheduled, _⟩ |
        ⟨hflushing, _, htimer, hscheduled, _⟩ | ⟨hflushing, _, htimer, hscheduled, _⟩
      · rw [hscheduled, hflushing]
        rcases h.timer hlive u (htimer ▸ hu) with hin | hfiring
        · exact Or.inl hin
        · exact Or.inr (List.mem_cons_of_mem _ hfiring)
      · rw [hscheduled]
        have hnew : s.created = u := by simpa [htimer] using hu
        exact Or.inl (by simp [hnew])
      · rw [hscheduled, hflushing]
        exact h.timer hlive u (htimer ▸ hu)
    · intro _ _
      rcases hrest with ⟨hflushing, _⟩ | ⟨_, _, htimer, _⟩ | ⟨_, hvalid, htimer, _⟩
      · exact Or.inr (by simp [hflushing])
      · exact Or.inl (by simp [htimer])
      · exact Or.inl (by rwa [htimer])

theorem Invariant.flush {s : TelemetryQueue ε} (h : s.Invariant cfg) :
    Invariant cfg { s with flushing := .manual :: s.flushing } := by
  refine ⟨h.history, h.bounded, ?_, ?_⟩
  · intro hlive t ht
    rcases h.timer hlive t ht with hin | hfiring
    · exact Or.inl hin
    · exact Or.inr (List.mem_cons_of_mem _ hfiring)
  · intro hlive hne
    rcases h.covered hlive hne with hvalid | hthread
    · exact Or.inl hvalid
    · exact Or.inr (List.mem_cons_of_mem _ hthread)

/-- The timer that fires moves from the loop to the calls of `flushQueue`. -/
theorem Invariant.fire {s : TelemetryQueue ε} (h : s.Invariant cfg) (id : TimerId) :
    Invariant cfg { s with scheduled := s.scheduled.erase id,
                           flushing := .timer id :: s.flushing } := by
  refine ⟨h.history, h.bounded, ?_, ?_⟩
  · intro hlive t ht
    by_cases hid : t = id
    · exact Or.inr (by simp [hid])
    · rcases h.timer hlive t ht with hin | hfiring
      · exact Or.inl ((List.mem_erase_of_ne hid).2 hin)
      · exact Or.inr (List.mem_cons_of_mem _ hfiring)
  · intro hlive hne
    rcases h.covered hlive hne with hvalid | hthread
    · exact Or.inl hvalid
    · exact Or.inr (List.mem_cons_of_mem _ hthread)

/-- The critical section of `flushQueue` leaves an empty queue and no timer,
so nothing has to be covered after it. -/
theorem Invariant.take {s : TelemetryQueue ε} (h : s.Invariant cfg) (who : Flusher) :
    Invariant cfg { s.flushQueue with flushing := s.flushing.erase who } := by
  refine ⟨?_, Nat.zero_le _, ?_, ?_⟩
  · show (s.batches ++ [s.queue]).flatten ++ [] = s.accepted
    rw [List.append_nil, List.flatten_concat]
    exact h.history
  · intro _ t ht
    simp [flushQueue] at ht
  · intro _ hne
    exact absurd rfl hne

theorem Invariant.destroy {s : TelemetryQueue ε} (h : s.Invariant cfg) :
    s.destroy.Invariant cfg := by
  refine ⟨?_, ?_, ?_, ?_⟩
  · simpa using h.history
  · simpa using h.bounded
  · intro hlive
    simp at hlive
  · intro hlive
    simp at hlive

theorem Invariant.next {s t : TelemetryQueue ε} {a : QueueAction ε} (h : s.Invariant cfg)
    (hnext : s.next cfg a = some t) : t.Invariant cfg := by
  cases a with
  | capture e =>
    obtain ⟨_, rfl⟩ := next_capture hnext
    exact h.capture e
  | flush =>
    obtain ⟨_, rfl⟩ := next_flush hnext
    exact h.flush
  | fire id =>
    obtain ⟨_, rfl⟩ := next_fire hnext
    exact h.fire id
  | take who =>
    obtain ⟨_, rfl⟩ := next_take hnext
    exact h.take who
  | destroy =>
    obtain ⟨_, _, rfl⟩ := next_destroy hnext
    exact h.destroy

end TelemetryQueue

open TelemetryQueue

variable {ε : Type} (cfg : ReporterConfig)

/-- The invariant holds in every reachable state. -/
theorem telemetryQueue_invariant {s : TelemetryQueue ε}
    (h : (telemetryQueue ε cfg).Reachable s) : s.Invariant cfg := by
  refine Machine.ReachableVia.invariant ?_ ?_ h
  · refine ⟨rfl, Nat.zero_le _, ?_, ?_⟩
    · intro _ t ht
      simp [telemetryQueue] at ht
    · intro _ hne
      exact absurd rfl hne
  · intro s a t _ hs hnext _
    exact hs.next hnext

/-- What the queue promises while its reporter is alive. -/
structure TelemetryQueue.Conserved (cfg : ReporterConfig) (s : TelemetryQueue ε) : Prop where
  /-- No event is lost, duplicated or reordered. -/
  history : s.batches.flatten ++ s.queue = s.accepted
  bounded : s.queue.length ≤ cfg.maxQueueSize
  /-- An event is refused exactly at a full queue, and then nothing changes. -/
  refuses : ∀ e, ((s.captureException cfg e).1 = .dropped ↔
      s.queue.length = cfg.maxQueueSize) ∧
    ((s.captureException cfg e).1 = .dropped → (s.captureException cfg e).2 = s)
  /-- Waiting events have a timer that is in the loop or firing, or a thread
  that has seen a full batch and is on its way to flush them. -/
  covered : s.queue ≠ [] →
    (∃ t, s.timerId = some t ∧ s.TimerPending t) ∨ .immediate ∈ s.flushing

end DrogonStarter.Observability
