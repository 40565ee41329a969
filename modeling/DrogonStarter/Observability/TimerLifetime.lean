import DrogonStarter.Observability.TelemetryQueue

/-!
# Timers and the destructor

The callback of a batch timer captures `this`, so a timer that is still in the
event loop after the destructor calls `flushQueue` on a reporter that is gone.
The destructor cancels the one timer that `timerId_` names.  `flushQueue`
resets `timerId_` and cancels nothing, so it forgets the timer whenever that
one is still in the loop: `ForgetsTimer`.

* `noTimerOutlives_via` is the safety of the runs that forget no timer.
* `forgotten_timer_outlives` is the other direction: every step that forgets a
  timer can be continued to a destroyed reporter with a timer in the loop.
-/

namespace DrogonStarter.Observability

open Transition TelemetryQueue

namespace TelemetryQueue

variable {ε : Type} {cfg : ReporterConfig}

/-- Once the reporter is destroyed, none of its timers is in the loop and no
`flushQueue` runs on it. -/
def NoTimerOutlives (s : TelemetryQueue ε) : Prop :=
  s.destroyed = true → s.scheduled = [] ∧ s.flushing = []

/-- A `flushQueue` of a live reporter resets `timerId_` while the timer it
names is still in the loop. -/
def ForgetsTimer (s : TelemetryQueue ε) : QueueAction ε → Prop
  | .take _ => s.destroyed = false ∧ ∃ t ∈ s.scheduled, s.timerId = some t
  | _ => False

instance (s : TelemetryQueue ε) (a : QueueAction ε) : Decidable (s.ForgetsTimer a) :=
  match a with
  | .take _ =>
    inferInstanceAs (Decidable (s.destroyed = false ∧ ∃ t ∈ s.scheduled, s.timerId = some t))
  | .capture _ | .flush | .fire _ | .destroy => inferInstanceAs (Decidable False)

/-- `timerId_` names every timer of a live reporter, and a destroyed reporter
has none. -/
structure Tracked (s : TelemetryQueue ε) : Prop where
  named : s.destroyed = false → ∀ t ∈ s.scheduled, s.timerId = some t
  gone : s.NoTimerOutlives

theorem Tracked.scheduled_eq_nil {s : TelemetryQueue ε} (h : s.Tracked)
    (hlive : s.destroyed = false) (htimer : s.timerId = none) : s.scheduled = [] := by
  apply List.eq_nil_iff_forall_not_mem.2
  intro t ht
  have := h.named hlive t ht
  simp [htimer] at this

theorem Tracked.capture {s : TelemetryQueue ε} (h : s.Tracked)
    (hlive : s.destroyed = false) (e : ε) : (s.captureException cfg e).2.Tracked := by
  rcases captureException_cases cfg e s with
    ⟨_, heq⟩ | ⟨_, t, heq, _, _, _, hdestroyed, hrest⟩
  · rw [heq]
    exact h
  · rw [heq]
    have htlive : t.destroyed = false := hdestroyed.trans hlive
    refine ⟨fun _ u hu => ?_, fun hgone => absurd hgone (by simp [htlive])⟩
    rcases hrest with ⟨_, htimer, hscheduled, _⟩ | ⟨_, hnone, htimer, hscheduled, _⟩ |
      ⟨_, _, htimer, hscheduled, _⟩
    · rw [htimer]
      exact h.named hlive u (hscheduled ▸ hu)
    · -- The new timer is the only one, because no timer was named before.
      rw [hscheduled, h.scheduled_eq_nil hlive hnone] at hu
      rw [htimer]
      simpa [eq_comm] using hu
    · rw [htimer]
      exact h.named hlive u (hscheduled ▸ hu)

theorem Tracked.fire {s : TelemetryQueue ε} (h : s.Tracked) {id : TimerId}
    (hid : id ∈ s.scheduled) :
    Tracked { s with scheduled := s.scheduled.erase id,
                     flushing := .timer id :: s.flushing } := by
  refine ⟨fun hlive u hu => h.named hlive u (List.mem_of_mem_erase hu), fun hgone => ?_⟩
  have hnil := (h.gone hgone).1
  simp [hnil] at hid

theorem Tracked.take {s : TelemetryQueue ε} (h : s.Tracked) {who : Flusher}
    (hwho : who ∈ s.flushing) (hok : ¬ s.ForgetsTimer (.take who)) :
    Tracked { s.flushQueue with flushing := s.flushing.erase who } := by
  refine ⟨fun hlive u hu => ?_, fun hgone => ?_⟩
  · have hnamed : s.timerId = some u := h.named hlive u hu
    exact absurd ⟨hlive, u, hu, hnamed⟩ hok
  · have hnil := (h.gone hgone).2
    simp [hnil] at hwho

theorem Tracked.destroy {s : TelemetryQueue ε} (h : s.Tracked)
    (hlive : s.destroyed = false) (hidle : s.flushing = []) : s.destroy.Tracked := by
  refine ⟨fun hgone => by simp at hgone, fun _ => ⟨?_, by simpa using hidle⟩⟩
  apply List.eq_nil_iff_forall_not_mem.2
  intro t ht
  obtain ⟨hin, hother⟩ := mem_scheduled_destroy.1 ht
  exact hother (h.named hlive t hin)

theorem Tracked.next {s t : TelemetryQueue ε} {a : QueueAction ε} (h : s.Tracked)
    (hnext : s.next cfg a = some t) (hok : ¬ s.ForgetsTimer a) : t.Tracked := by
  cases a with
  | capture e =>
    obtain ⟨hlive, rfl⟩ := next_capture hnext
    exact h.capture hlive e
  | flush =>
    obtain ⟨hlive, rfl⟩ := next_flush hnext
    exact ⟨h.named, fun hgone => absurd hgone (by simp [hlive])⟩
  | fire id =>
    obtain ⟨hid, rfl⟩ := next_fire hnext
    exact h.fire hid
  | take who =>
    obtain ⟨hwho, rfl⟩ := next_take hnext
    exact h.take hwho hok
  | destroy =>
    obtain ⟨hlive, hidle, rfl⟩ := next_destroy hnext
    exact h.destroy hlive hidle

end TelemetryQueue

variable {ε : Type} {cfg : ReporterConfig}

theorem tracked_of_reachableVia {s : TelemetryQueue ε}
    (h : (telemetryQueue ε cfg).ReachableVia (fun s a => ¬ s.ForgetsTimer a) s) :
    s.Tracked := by
  refine Machine.ReachableVia.invariant ?_ ?_ h
  · refine ⟨fun _ t ht => ?_, fun hgone => ?_⟩
    · simp [telemetryQueue] at ht
    · simp [telemetryQueue] at hgone
  · intro s a t _ hs hnext hok
    exact hs.next hnext hok

/-- The calls under way can run to completion.  They cancel no timer. -/
theorem flushing_drains (cfg : ReporterConfig) (s : TelemetryQueue ε) (htimer : s.timerId = none) :
    ∃ as t, (telemetryQueue ε cfg).runFrom s as = some t ∧ t.flushing = [] ∧
      t.timerId = none ∧ t.scheduled = s.scheduled ∧ t.destroyed = s.destroyed := by
  generalize hflushing : s.flushing = callers
  induction callers generalizing s with
  | nil => exact ⟨[], s, rfl, hflushing, htimer, rfl, rfl⟩
  | cons who callers ih =>
    let r : TelemetryQueue ε := { s.flushQueue with flushing := s.flushing.erase who }
    have hnext : (telemetryQueue ε cfg).next s (.take who) = some r :=
      if_pos (by simp [hflushing])
    have hrest : r.flushing = callers := by
      show s.flushing.erase who = callers
      rw [hflushing, List.erase_cons_head]
    obtain ⟨as, t, hrun, hidle, hnone, hscheduled, hdestroyed⟩ := ih r rfl hrest
    refine ⟨.take who :: as, t, ?_, hidle, hnone, hscheduled, hdestroyed⟩
    rw [Machine.runFrom_cons_of_next as hnext]
    exact hrun

/-- A forgotten timer is not cancelled any more: the reporter can be
destroyed while it is in the loop. -/
theorem forgotten_timer_outlives {s t : TelemetryQueue ε} {who : Flusher}
    (hnext : (telemetryQueue ε cfg).next s (.take who) = some t)
    (hforgets : s.ForgetsTimer (.take who)) :
    ∃ as u, (telemetryQueue ε cfg).runFrom t as = some u ∧ ¬ u.NoTimerOutlives := by
  obtain ⟨hlive, id, hid, _⟩ := hforgets
  have htake : s.next cfg (.take who) = some t := hnext
  obtain ⟨_, rfl⟩ := next_take htake
  obtain ⟨as, r, hrun, hidle, hnone, hscheduled, hdestroyed⟩ :=
    flushing_drains cfg
      ({ s.flushQueue with flushing := s.flushing.erase who } : TelemetryQueue ε) rfl
  have hend : (telemetryQueue ε cfg).runFrom r [.destroy] = some r.destroy :=
    Machine.runFrom_cons_of_next [] (if_pos ⟨hdestroyed.trans hlive, hidle⟩)
  refine ⟨as ++ [.destroy], r.destroy, ?_, ?_⟩
  · rw [Machine.runFrom_append, hrun]
    exact hend
  · intro hsafe
    have hleft : id ∈ r.destroy.scheduled :=
      mem_scheduled_destroy.2 ⟨by rw [hscheduled]; exact hid, by simp [hnone]⟩
    have hnil := (hsafe (destroy_destroyed r)).1
    rw [hnil] at hleft
    simp at hleft

/-- No timer outlives its reporter in the runs in which no `flushQueue`
forgets a timer, and every step that forgets one can lead to a timer that
does. -/
theorem noTimerOutlives_via (cfg : ReporterConfig) :
    (∀ s : TelemetryQueue ε,
      (telemetryQueue ε cfg).ReachableVia (fun s a => ¬ s.ForgetsTimer a) s →
        s.NoTimerOutlives) ∧
    ∀ (s t : TelemetryQueue ε) (a : QueueAction ε), (telemetryQueue ε cfg).Reachable s →
      (telemetryQueue ε cfg).next s a = some t → s.ForgetsTimer a →
        ∃ as u, (telemetryQueue ε cfg).runFrom t as = some u ∧ ¬ u.NoTimerOutlives := by
  refine ⟨fun s h => (tracked_of_reachableVia h).gone, fun s t a _ hnext hforgets => ?_⟩
  cases a with
  | capture | flush | fire | destroy => exact absurd hforgets id
  | take who => exact forgotten_timer_outlives hnext hforgets

/-- A timer that flushes its own events is not forgotten, and the destructor
cancels the one after it. -/
theorem noTimerOutlives_via_timer_flush :
    NoTimerOutlives
      ({ queue := [8], timerId := some 1, created := 2, destroyed := true,
         accepted := [7, 8], batches := [[7]] } : TelemetryQueue Nat) :=
  (noTimerOutlives_via localCollector).1 _
    (Machine.reachableVia_of_run
      [.capture 7, .fire 0, .take (.timer 0), .capture 8, .destroy] rfl (by decide))

/-- A manual flush forgets the timer of the first event, and the destructor
leaves it in the loop. -/
theorem manual_flush_leaves_timer :
    ¬ ∀ s : TelemetryQueue Nat,
      (telemetryQueue Nat localCollector).Reachable s → s.NoTimerOutlives := by
  intro hall
  have hreach : (telemetryQueue Nat localCollector).Reachable
      { scheduled := [0], created := 1, destroyed := true, accepted := [7],
        batches := [[7]] } :=
    Machine.reachable_of_run [.capture 7, .flush, .take .manual, .destroy] rfl
  have hnil := (hall _ hreach rfl).1
  simp at hnil

end DrogonStarter.Observability
