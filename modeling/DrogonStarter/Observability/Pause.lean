import DrogonStarter.Observability.Exporter

/-!
# The pause of an open circuit

A `failure()` that opens the circuit sets `openUntil`, and `allow()` refuses
every batch until then.  The deliveries that are already granted are not held
back: a first attempt or a retry is sent without another look at the circuit,
and a late success clears `openUntil` for everybody.

* `Exporter.PauseKept` says that no request was sent inside a pause.
* `Exporter.Quiet` is what carries it: while a pause lasts, no granted
  delivery has a step to take before its end.
* `Exporter.cut_pause_sends` is the other direction: whenever the circuit opens
  over a delivery that can act during the pause, a request can be sent in it.
-/

namespace DrogonStarter.Observability

open Transition

namespace Delivery

variable {β : Type}

/-- The delivery has a step to take before `deadline`. -/
def ActsBefore (d : Delivery β) (deadline : Nat) : Prop :=
  match d.phase with
  | .granted | .awaiting => True
  | .backoff due => due < deadline
  | .finished | .abandoned => False

instance (d : Delivery β) (deadline : Nat) : Decidable (d.ActsBefore deadline) :=
  match h : d.phase with
  | .granted | .awaiting => isTrue (by simp [ActsBefore, h])
  | .backoff due => decidable_of_iff (due < deadline) (by simp [ActsBefore, h])
  | .finished | .abandoned => isFalse (by simp [ActsBefore, h])

theorem Move.actsBefore {rates : ClockRates} {now deadline : Nat} {d d' : Delivery β}
    {e : Effect} (hmove : d.Move rates now d' e) (hnow : now < deadline) :
    d.ActsBefore deadline := by
  cases hmove with
  | deliver throws hmay =>
    unfold MayDeliver at hmay
    unfold ActsBefore
    cases hphase : d.phase with
    | granted => trivial
    | backoff due =>
      simp only [hphase] at hmay
      show due < deadline
      omega
    | awaiting | finished | abandoned => simp [hphase] at hmay
  | callback reply hawaiting => simp [ActsBefore, hawaiting]

theorem not_actsBefore_of_finished {d : Delivery β} (h : d.phase = .finished)
    (deadline : Nat) : ¬ d.ActsBefore deadline := by
  simp [ActsBefore, h]

end Delivery

namespace Exporter

variable {β : Type} {cfg : ReporterConfig} {rates : ClockRates}

/-- No request was sent strictly inside a pause. -/
def PauseKept (s : Exporter β) : Prop :=
  ∀ pause ∈ s.openings, ∀ time ∈ s.sent, ¬ (pause.1 < time ∧ time < pause.2)

/-- Delivery `i` has a step to take before `deadline`. -/
def ActsBefore (s : Exporter β) (i deadline : Nat) : Prop :=
  ∃ d ∈ s.deliveries[i]?, d.ActsBefore deadline

instance (s : Exporter β) (i deadline : Nat) : Decidable (s.ActsBefore i deadline) :=
  inferInstanceAs (Decidable (∃ d ∈ s.deliveries[i]?, d.ActsBefore deadline))

theorem ActsBefore.lt_length {s : Exporter β} {i deadline : Nat}
    (h : s.ActsBefore i deadline) : i < s.deliveries.length := by
  obtain ⟨d, hd, _⟩ := h
  exact (List.getElem?_eq_some_iff.1 hd).1

/-- A `failure()` opens the circuit while another delivery has a step to take
before the end of the pause. -/
def CutsPause (rates : ClockRates) (s : Exporter β) : Nat × ExporterAction β → Prop
  | (now, action) =>
    s.circuit.Trips ∧ ∃ i ∈ s.failing action,
      ∃ j, j ≠ i ∧ s.ActsBefore j (now + rates.durationCast s.circuit.cooldown)

instance (s : Exporter β) (i deadline : Nat) :
    Decidable (∃ j, j ≠ i ∧ s.ActsBefore j deadline) :=
  decidable_of_iff (∃ j < s.deliveries.length, j ≠ i ∧ s.ActsBefore j deadline)
    ⟨fun ⟨j, _, h⟩ => ⟨j, h⟩, fun ⟨j, h⟩ => ⟨j, h.2.lt_length, h⟩⟩

instance (s : Exporter β) (a : Nat × ExporterAction β) :
    Decidable (s.CutsPause rates a) :=
  inferInstanceAs (Decidable (s.circuit.Trips ∧ ∃ i ∈ s.failing a.2,
    ∃ j, j ≠ i ∧ s.ActsBefore j (a.1 + rates.durationCast s.circuit.cooldown)))

/-- Requests of the past are in the past, and a pause that lasts finds every
delivery at rest until its end. -/
structure Quiet (s : Exporter β) : Prop where
  past : ∀ time ∈ s.sent, time ≤ s.clock
  kept : s.PauseKept
  still : ∀ pause ∈ s.openings, s.clock < pause.2 →
    pause.2 ≤ s.circuit.openUntil ∧ ∀ i, ¬ s.ActsBefore i pause.2

theorem actsBefore_of_finished {s t : Exporter β} {i deadline : Nat} {d' : Delivery β}
    (ht : t.deliveries = s.deliveries.set i d') (hfinished : d'.phase = .finished)
    {j : Nat} (hj : t.ActsBefore j deadline) : j ≠ i ∧ s.ActsBefore j deadline := by
  obtain ⟨d, hd, hacts⟩ := hj
  rw [ht, List.getElem?_set] at hd
  split at hd
  · split at hd
    · cases hd
      exact absurd hacts (Delivery.not_actsBefore_of_finished hfinished deadline)
    · simp at hd
  · rename_i hij
    exact ⟨Ne.symm hij, d, hd, hacts⟩

/-- During a pause the only thing that happens is that `allow()` refuses. -/
theorem Quiet.refused_during {s t : Exporter β} {now : Nat} {a : ExporterAction β}
    (h : s.Quiet) (hclock : s.clock ≤ now) (hstep : Stepped cfg rates s now a t)
    {pause : Nat × Nat} (hpause : pause ∈ s.openings) (hnow : now < pause.2) :
    t = { s with clock := now } := by
  obtain ⟨huntil, hrest⟩ := h.still pause hpause (by omega)
  cases hstep with
  | refused body hallow => rfl
  | granted body circuit hallow =>
    have hrefused : s.circuit.allow now = (false, s.circuit) :=
      CircuitState.allow_of_pause (by omega)
    simp [hrefused] at hallow
  | abandoned i d hd hphase =>
    exact absurd ⟨d, hd, by simp [Delivery.ActsBefore, hphase]⟩ (hrest i)
  | moved a i d d' e hd hmove hof hfails =>
    exact absurd ⟨d, hd, hmove.actsBefore hnow⟩ (hrest i)

/-- Outside every pause, a step that opens none may send at its own time. -/
theorem Quiet.of_same_openings {s t : Exporter β} (h : s.Quiet) (hclock : s.clock ≤ t.clock)
    (hafter : ∀ pause ∈ s.openings, pause.2 ≤ t.clock) (hopenings : t.openings = s.openings)
    (hsent : ∀ time ∈ t.sent, time ∈ s.sent ∨ time = t.clock) : t.Quiet := by
  refine ⟨?_, ?_, ?_⟩
  · intro time htime
    rcases hsent time htime with hold | hnew
    · exact Nat.le_trans (h.past time hold) hclock
    · exact Nat.le_of_eq hnew
  · unfold PauseKept
    rw [hopenings]
    intro pause hpause time htime hinside
    rcases hsent time htime with hold | hnew
    · exact h.kept pause hpause time hold hinside
    · have hend := hafter pause hpause
      omega
  · rw [hopenings]
    intro pause hpause hnow
    have hend := hafter pause hpause
    omega

/-- Outside every pause, a step that opens one keeps it when nothing acts
before its end. -/
theorem Quiet.of_opening {s t : Exporter β} {deadline : Nat} (h : s.Quiet)
    (hclock : s.clock ≤ t.clock) (hafter : ∀ pause ∈ s.openings, pause.2 ≤ t.clock)
    (hopenings : t.openings = s.openings ++ [(t.clock, deadline)]) (hsent : t.sent = s.sent)
    (huntil : deadline ≤ t.circuit.openUntil) (hrest : ∀ i, ¬ t.ActsBefore i deadline) :
    t.Quiet := by
  have hpast : ∀ time ∈ t.sent, time ≤ t.clock := by
    rw [hsent]
    exact fun time htime => Nat.le_trans (h.past time htime) hclock
  refine ⟨hpast, ?_, ?_⟩
  · unfold PauseKept
    rw [hopenings]
    intro pause hpause time htime hinside
    rcases List.mem_append.1 hpause with hold | hnew
    · exact h.kept pause hold time (hsent ▸ htime) hinside
    · rw [List.mem_singleton.1 hnew] at hinside
      exact absurd hinside.1 (Nat.not_lt.2 (hpast time htime))
  · rw [hopenings]
    intro pause hpause hnow
    rcases List.mem_append.1 hpause with hold | hnew
    · exact absurd hnow (Nat.not_lt.2 (hafter pause hold))
    · rw [List.mem_singleton.1 hnew]
      exact ⟨huntil, hrest⟩

/-- A step outside every pause stays outside: what it sends is not in a pause,
and the pause it may open is kept by all other deliveries. -/
theorem Quiet.stepped_after {s t : Exporter β} {now : Nat} {a : ExporterAction β}
    (h : s.Quiet) (hclock : s.clock ≤ now) (hstep : Stepped cfg rates s now a t)
    (hok : ¬ s.CutsPause rates (now, a)) (hafter : ∀ pause ∈ s.openings, pause.2 ≤ now) :
    t.Quiet := by
  cases hstep with
  | refused body hallow => exact h.of_same_openings hclock hafter rfl fun _ => Or.inl
  | granted body circuit hallow => exact h.of_same_openings hclock hafter rfl fun _ => Or.inl
  | abandoned i d hd hphase => exact h.of_same_openings hclock hafter rfl fun _ => Or.inl
  | moved a i d d' e hd hmove hof hfails =>
    cases e with
    | retry | success => exact h.of_same_openings hclock hafter rfl fun _ => Or.inl
    | sent =>
      refine h.of_same_openings hclock hafter rfl fun time htime => ?_
      exact (List.mem_append.1 htime).imp_right List.mem_singleton.1
    | failure =>
      rcases s.circuit.failure_cases rates now with ⟨hlow, _⟩ | ⟨htrips, heq⟩
      · have hsame : (s.advance rates now i (d', .failure)).openings = s.openings := if_neg hlow
        exact h.of_same_openings hclock hafter hsame fun _ => Or.inl
      · have hopened : (s.advance rates now i (d', .failure)).openings =
            s.openings ++ [(now, now + rates.durationCast s.circuit.cooldown)] := by
          show (if s.circuit.Trips then _ else _) = _
          rw [if_pos htrips, heq]
        have huntil : now + rates.durationCast s.circuit.cooldown ≤
            (s.circuit.failure rates now).openUntil := by
          rw [heq]
        have hfinished : d'.phase = .finished := by
          rcases hmove.phase with ⟨_, hphase⟩ | ⟨hkeeps, _⟩
          · exact hphase
          · exact absurd (Or.inr rfl) hkeeps
        refine h.of_opening hclock hafter hopened rfl huntil fun j hj => ?_
        exact hok ⟨htrips, i, hfails.1 rfl, j, actsBefore_of_finished rfl hfinished hj⟩

theorem Quiet.stepped {s t : Exporter β} {now : Nat} {a : ExporterAction β}
    (h : s.Quiet) (hclock : s.clock ≤ now) (hstep : Stepped cfg rates s now a t)
    (hok : ¬ s.CutsPause rates (now, a)) : t.Quiet := by
  by_cases hduring : ∃ pause ∈ s.openings, now < pause.2
  · obtain ⟨pause, hpause, hnow⟩ := hduring
    rw [h.refused_during hclock hstep hpause hnow]
    refine ⟨fun time htime => Nat.le_trans (h.past time htime) hclock, h.kept, ?_⟩
    intro pause' hpause' hnow'
    exact h.still pause' hpause' (Nat.lt_of_le_of_lt hclock hnow')
  · refine h.stepped_after hclock hstep hok fun pause hpause => ?_
    by_contra hlate
    exact hduring ⟨pause, hpause, by omega⟩

/-! ## A pause that another delivery can cut -/

/-- A delivery that may enter `deliver` sends its request. -/
theorem sends_of_mayDeliver (cfg : ReporterConfig) (rates : ClockRates) {s : Exporter β}
    {i time : Nat} {d : Delivery β} (hclock : s.clock ≤ time)
    (hd : s.deliveries[i]? = some d) (hmay : d.MayDeliver time) :
    ∃ t, (exporter β cfg rates).runFrom s [(time, .deliver i false)] = some t ∧
      time ∈ t.sent ∧ t.openings = s.openings := by
  have hnext : (exporter β cfg rates).next s (time, .deliver i false) =
      some (s.advance rates time i (d.deliver false)) := by
    show s.next cfg rates (time, .deliver i false) = _
    simp only [Exporter.next, if_neg (Nat.not_lt.2 hclock), hd, Option.bind_some, if_pos hmay]
  exact ⟨_, Machine.runFrom_cons_of_next [] hnext, List.mem_concat_self, rfl⟩

/-- A closed circuit lets the next batch through at any time. -/
theorem sends_of_closed (cfg : ReporterConfig) (rates : ClockRates) {s : Exporter β}
    {time : Nat} (hclock : s.clock ≤ time) (hclosed : s.circuit.openUntil = 0) (body : β) :
    ∃ as t, (exporter β cfg rates).runFrom s as = some t ∧
      time ∈ t.sent ∧ t.openings = s.openings := by
  have hallow : s.circuit.allow time = (true, s.circuit) := by
    simp [CircuitState.allow, hclosed]
  let r : Exporter β :=
    { s with clock := time, deliveries := s.deliveries ++ [s.fresh cfg body] }
  have hsubmit : (exporter β cfg rates).next s (time, .submit body) = some r := by
    show s.next cfg rates (time, .submit body) = _
    simp only [Exporter.next, if_neg (Nat.not_lt.2 hclock), Exporter.submit, hallow, if_true]
    rfl
  have hnew : r.deliveries[s.deliveries.length]? = some (s.fresh cfg body) :=
    List.getElem?_concat_length
  obtain ⟨t, hrun, hsent, hopenings⟩ :=
    sends_of_mayDeliver cfg rates (Nat.le_refl time) hnew trivial
  refine ⟨[(time, .submit body), (time, .deliver s.deliveries.length false)], t, ?_, hsent,
    hopenings⟩
  rw [Machine.runFrom_cons_of_next _ hsubmit]
  exact hrun

/-- A delivery that acts before `deadline` can bring about a request after
`now` and before `deadline`. -/
theorem sends_of_actsBefore (cfg : ReporterConfig) (rates : ClockRates) {s : Exporter β}
    {now deadline i : Nat} (hclock : s.clock ≤ now) (hroom : now + 1 < deadline)
    (hacts : s.ActsBefore i deadline) :
    ∃ as t time, (exporter β cfg rates).runFrom s as = some t ∧ time ∈ t.sent ∧
      now < time ∧ time < deadline ∧ t.openings = s.openings := by
  obtain ⟨d, hd, hbefore⟩ := hacts
  unfold Delivery.ActsBefore at hbefore
  cases hphase : d.phase with
  | granted =>
    have hmay : d.MayDeliver (now + 1) := by simp [Delivery.MayDeliver, hphase]
    obtain ⟨t, hrun, hsent, hopenings⟩ :=
      sends_of_mayDeliver cfg rates (Nat.le_succ_of_le hclock) hd hmay
    exact ⟨_, t, now + 1, hrun, hsent, by omega, hroom, hopenings⟩
  | backoff due =>
    simp only [hphase] at hbefore
    have hmay : d.MayDeliver (max (now + 1) due) := by simp [Delivery.MayDeliver, hphase]
    have htime : s.clock ≤ max (now + 1) due := by omega
    obtain ⟨t, hrun, hsent, hopenings⟩ := sends_of_mayDeliver cfg rates htime hd hmay
    exact ⟨_, t, max (now + 1) due, hrun, hsent, by omega, by omega, hopenings⟩
  | awaiting =>
    -- A late success closes the circuit, and the next batch goes out.
    have hd' : s.deliveries[i]? = some d := hd
    let reply : Reply := { ok := true, statusCode := some 200 }
    let r := s.advance rates (now + 1) i (d.callback rates (now + 1) reply)
    have hrespond : (exporter β cfg rates).next s (now + 1, .respond i reply) = some r := by
      have hlive : ¬ now + 1 < s.clock := by omega
      show s.next cfg rates (now + 1, .respond i reply) = _
      simp only [Exporter.next, if_neg hlive, hd', Option.bind_some, if_pos hphase]
      rfl
    have hclosed : r.circuit.openUntil = 0 := rfl
    obtain ⟨as, t, hrun, hsent, hopenings⟩ :=
      sends_of_closed cfg rates (Nat.le_refl (now + 1)) hclosed d.body
    refine ⟨(now + 1, .respond i reply) :: as, t, now + 1, ?_, hsent, by omega, hroom,
      hopenings⟩
    rw [Machine.runFrom_cons_of_next _ hrespond]
    exact hrun
  | finished | abandoned => simp [hphase] at hbefore

/-- Whenever a pause starts that another delivery can cut, a request can be
sent inside it. -/
theorem cut_pause_sends {s t : Exporter β} {a : Nat × ExporterAction β}
    (hnext : (exporter β cfg rates).next s a = some t) (hcuts : s.CutsPause rates a)
    (hroom : 1 < rates.durationCast s.circuit.cooldown) :
    ∃ as u, (exporter β cfg rates).runFrom t as = some u ∧ ¬ u.PauseKept := by
  obtain ⟨now, action⟩ := a
  obtain ⟨htrips, i, hfails, j, hji, d, hd, hacts⟩ := hcuts
  obtain ⟨_, hstep⟩ := next_stepped hnext
  cases hstep with
  | refused | granted | abandoned => simp [failing] at hfails
  | moved a k b b' e hb hmove hof hiff =>
    have hki : some i = some k := (stepOf_of_failing hfails).symm.trans hof
    cases hki
    obtain rfl := hiff.2 hfails
    have hopened : (s.advance rates now i (b', .failure)).openings =
        s.openings ++ [(now, now + rates.durationCast s.circuit.cooldown)] := by
      show (if s.circuit.Trips then _ else _) = _
      rcases s.circuit.failure_cases rates now with ⟨hlow, _⟩ | ⟨_, heq⟩
      · exact absurd htrips hlow
      · rw [if_pos htrips, heq]
    have hkept : (s.advance rates now i (b', .failure)).deliveries[j]? = some d := by
      show (s.deliveries.set i b')[j]? = some d
      rw [List.getElem?_set_ne (Ne.symm hji)]
      exact hd
    have hsoon : now + 1 < now + rates.durationCast s.circuit.cooldown := by omega
    have hlater : (s.advance rates now i (b', .failure)).ActsBefore j
        (now + rates.durationCast s.circuit.cooldown) := ⟨d, hkept, hacts⟩
    obtain ⟨as, u, time, hrun, hsent, hlow, hhigh, hopenings⟩ :=
      sends_of_actsBefore cfg rates (Nat.le_refl now) hsoon hlater
    refine ⟨as, u, hrun, fun hpaused => ?_⟩
    refine hpaused (now, now + rates.durationCast s.circuit.cooldown) ?_ time hsent
      ⟨hlow, hhigh⟩
    rw [hopenings, hopened]
    exact List.mem_concat_self

end Exporter

open Exporter

variable {β : Type}

theorem quiet_of_reachableVia {cfg : ReporterConfig} {rates : ClockRates} {s : Exporter β}
    (h : (exporter β cfg rates).ReachableVia (fun s a => ¬ s.CutsPause rates a) s) : s.Quiet := by
  refine Machine.ReachableVia.invariant ?_ ?_ h
  · exact ⟨by simp [exporter], by simp [PauseKept, exporter], by simp [exporter]⟩
  · rintro s ⟨now, a⟩ t _ hs hnext hok
    obtain ⟨hclock, hstep⟩ := next_stepped hnext
    exact hs.stepped hclock hstep hok

/-- No request is sent inside a pause in the runs in which the circuit never
opens over a delivery that can act before the end of the pause, and every step
that does so can lead to a request inside the pause. -/
theorem pauseKept_via (cfg : ReporterConfig) (rates : ClockRates) :
    (∀ s : Exporter β,
      (exporter β cfg rates).ReachableVia (fun s a => ¬ s.CutsPause rates a) s → s.PauseKept) ∧
    (1 < rates.durationCast cfg.circuitOpenSeconds → ∀ (s t : Exporter β) a,
      (exporter β cfg rates).Reachable s → (exporter β cfg rates).next s a = some t →
        s.CutsPause rates a →
          ∃ as u, (exporter β cfg rates).runFrom t as = some u ∧ ¬ u.PauseKept) := by
  refine ⟨fun s h => (quiet_of_reachableVia h).kept, fun hroom s t a hreach hnext hcuts => ?_⟩
  refine cut_pause_sends hnext hcuts ?_
  rw [(exporter_sound hreach).cooldown]
  exact hroom

/-- One failed batch opens the circuit, the next batch is refused, and the
probe goes out at the end of the pause. -/
theorem pauseKept_via_probe :
    PauseKept
      ({ clock := 30000000003
         circuit := { failureThreshold := 1, cooldown := .finite 30, failures := 1,
                      openUntil := 30000000003, probeInFlight := true }
         deliveries :=
          [{ body := 7, maxAttempts := 1, baseDelay := tenth, attempt := 1,
             phase := .finished, outcomes := [.replied ⟨false, none⟩], calls := [.failure] },
           { body := 9, maxAttempts := 1, baseDelay := tenth, attempt := 1,
             phase := .awaiting, whileOpen := true }]
         failures := 1, sent := [2, 30000000003],
         openings := [(3, 30000000003)] } : Exporter Nat) :=
  (pauseKept_via { fragileCollector with maxAttempts := 1, accepted := by decide }
    steadyClock).1 _
    (Machine.reachableVia_of_run
      [(1, .submit 7), (2, .deliver 0 false), (3, .respond 0 ⟨false, none⟩), (4, .submit 8),
       (30000000003, .submit 9), (30000000003, .deliver 1 false)]
      (by decide +kernel) (by decide +kernel))

/-- A retry that waits in its backoff is sent while the circuit is open. -/
theorem retry_sent_in_pause :
    ¬ ∀ (cfg : ReporterConfig) (rates : ClockRates) (s : Exporter Nat),
      (exporter Nat cfg rates).Reachable s → s.PauseKept := by
  intro hall
  have hreach : (exporter Nat fragileCollector steadyClock).Reachable
      { clock := 100000003
        circuit := { failureThreshold := 1, cooldown := .finite 30, failures := 1,
                     openUntil := 30000000005 }
        deliveries :=
          [{ body := 7, maxAttempts := 3, baseDelay := tenth, attempt := 2,
             phase := .awaiting, outcomes := [.replied ⟨false, none⟩],
             waits := [(0, tenth)] },
           { body := 8, maxAttempts := 3, baseDelay := tenth, attempt := 1,
             phase := .finished, outcomes := [.threw], calls := [.failure] }]
        retries := 1, failures := 1, sent := [2, 100000003],
        openings := [(5, 30000000005)] } :=
    Machine.reachable_of_run
      [(1, .submit 7), (2, .deliver 0 false), (3, .respond 0 ⟨false, none⟩), (4, .submit 8),
       (5, .deliver 1 true), (100000003, .deliver 0 false)] (by decide +kernel)
  have hkept := hall _ _ _ hreach (5, 30000000005) (by simp) 100000003 (by simp)
  exact hkept (by decide)

end DrogonStarter.Observability
