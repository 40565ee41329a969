import DrogonStarter.Observability.Exporter

/-!
# Bounded retries, resolved once

What the invariant of one delivery and the counters of the exporter say
together, in every interleaving of any number of deliveries.

* `Delivery.ResolvedOnce` is about one delivery: its attempts, its waits and
  its one call of `success()` or `failure()`.
* `Exporter.RetriesBounded` adds the totals of the metrics.
* `Delivery.Move.counts` says what one step adds to each total.
-/

namespace DrogonStarter.Observability

open Transition

namespace Delivery

variable {β : Type} {cfg : ReporterConfig} {rates : ClockRates}

/-- The attempts that have started, and the one that a timer will start. -/
def starts (d : Delivery β) : Nat :=
  match d.phase with
  | .backoff _ => d.attempt + 1
  | .granted | .awaiting | .finished | .abandoned => d.attempt

/-- One for a delivery that has entered `deliver`. -/
def started (d : Delivery β) : Nat := if d.attempt = 0 then 0 else 1

/-- How often the delivery has called `failure()`. -/
def failed (d : Delivery β) : Nat := d.calls.count .failure

/-- The attempts, the waits and the end of one delivery. -/
structure ResolvedOnce (cfg : ReporterConfig) (d : Delivery β) : Prop where
  attempts : d.phase ≠ .granted → d.phase ≠ .abandoned →
    1 ≤ d.attempt ∧ d.attempt ≤ cfg.maxAttempts
  unresolved : d.phase ≠ .finished → d.calls = []
  once : d.phase = .finished → d.calls = [.success] ∨ d.calls = [.failure]
  /-- The last outcome is the one of the last attempt. -/
  outcomes : d.phase = .finished → d.outcomes.length = d.attempt
  success : d.phase = .finished →
    (d.calls = [.success] ↔ ∃ last, d.outcomes.getLast? = some last ∧ last.succeeded = true)
  failure : d.phase = .finished →
    (d.calls = [.failure] ↔
      d.outcomes.getLast? = some .threw ∨
        d.attempt = cfg.maxAttempts ∧
          ∃ last, d.outcomes.getLast? = some last ∧ last.succeeded = false)
  /-- Every attempt but the first one has its wait. -/
  spaced : 1 ≤ d.attempt → d.waits.length + 1 = d.starts
  waits : ∀ k exponent delay, 1 ≤ k → d.waits[k - 1]? = some (exponent, delay) →
    exponent = k - 1 ∧ exponent < 64 ∧
      delay = cfg.retryBaseDelaySeconds.scale (2 ^ (k - 1))

/-- There are fewer waits than attempts allowed. -/
theorem WellFormed.waits_lt {d : Delivery β} (h : d.WellFormed cfg) :
    d.waits.length < cfg.maxAttempts := by
  have hstage := h.stage
  have hbounds := cfg.bounds
  unfold Stage at hstage
  cases hphase : d.phase with
  | granted | abandoned =>
    simp only [hphase] at hstage
    have hnone : d.waits.length = 0 := by rw [hstage.2.2.1, List.length_nil]
    omega
  | awaiting | backoff due | finished =>
    simp only [hphase] at hstage
    obtain ⟨_, hle, _, hwaits, _⟩ := hstage
    omega

theorem Ended.success_iff {d : Delivery β} {last : Outcome} (h : d.Ended cfg last) :
    d.calls = [.success] ↔ last.succeeded = true := by
  rcases h with ⟨hcalls, hlast⟩ | ⟨hcalls, hlast, _⟩
  · exact iff_of_true hcalls hlast
  · exact iff_of_false (by simp [hcalls]) (by simp [hlast])

theorem Ended.failure_iff {d : Delivery β} {last : Outcome} (h : d.Ended cfg last) :
    d.calls = [.failure] ↔
      last = .threw ∨ d.attempt = cfg.maxAttempts ∧ last.succeeded = false := by
  rcases h with ⟨hcalls, hlast⟩ | ⟨hcalls, hlast, hend⟩
  · refine iff_of_false (by simp [hcalls]) ?_
    rintro (rfl | ⟨_, hfailed⟩)
    · simp [Outcome.succeeded] at hlast
    · simp [hlast] at hfailed
  · refine iff_of_true hcalls ?_
    rcases hend with hthrew | hmax
    · exact Or.inl hthrew
    · exact Or.inr ⟨hmax, hlast⟩

/-- The shift of a wait is its place, and is defined. -/
theorem WellFormed.wait_eq {d : Delivery β} (h : d.WellFormed cfg) {place exponent : Nat}
    {delay : CppNumber.Double} (hwait : d.waits[place]? = some (exponent, delay)) :
    exponent = place ∧ exponent < 64 ∧ delay = cfg.retryBaseDelaySeconds.scale (2 ^ place) := by
  have hbounds := cfg.bounds
  have hfew := h.waits_lt
  have hlength : place < d.waits.length := (List.getElem?_eq_some_iff.1 hwait).1
  rw [h.waited, List.getElem?_map, List.getElem?_range hlength] at hwait
  have hpair : place = exponent ∧ cfg.retryBaseDelaySeconds.scale (2 ^ place) = delay := by
    simpa using hwait
  exact ⟨hpair.1.symm, by omega, hpair.2.symm⟩

theorem WellFormed.resolvedOnce {d : Delivery β} (h : d.WellFormed cfg) :
    d.ResolvedOnce cfg := by
  have hwaits : ∀ k exponent delay, 1 ≤ k → d.waits[k - 1]? = some (exponent, delay) →
      exponent = k - 1 ∧ exponent < 64 ∧
        delay = cfg.retryBaseDelaySeconds.scale (2 ^ (k - 1)) := fun _ _ _ _ => h.wait_eq
  have hstage := h.stage
  unfold Stage at hstage
  cases hphase : d.phase with
  | granted | abandoned =>
    simp only [hphase] at hstage
    obtain ⟨hattempt, _, _, hcalls⟩ := hstage
    exact {
      attempts := by simp [hphase]
      unresolved := fun _ => hcalls
      once := by simp [hphase]
      outcomes := by simp [hphase]
      success := by simp [hphase]
      failure := by simp [hphase]
      spaced := by omega
      waits := hwaits }
  | awaiting | backoff due =>
    simp only [hphase] at hstage
    obtain ⟨hpos, hle, _, hlength, hcalls⟩ := hstage
    exact {
      attempts := fun _ _ => ⟨hpos, by omega⟩
      unresolved := fun _ => hcalls
      once := by simp [hphase]
      outcomes := by simp [hphase]
      success := by simp [hphase]
      failure := by simp [hphase]
      spaced := fun _ => by simp only [starts, hphase]; omega
      waits := hwaits }
  | finished =>
    simp only [hphase] at hstage
    obtain ⟨hpos, hle, houtcomes, hlength, last, hlast, hended⟩ := hstage
    exact {
      attempts := fun _ _ => ⟨hpos, hle⟩
      unresolved := fun hne => absurd hphase hne
      once := fun _ => by
        rcases hended with ⟨hcalls, _⟩ | ⟨hcalls, _⟩
        · exact Or.inl hcalls
        · exact Or.inr hcalls
      outcomes := fun _ => houtcomes
      success := fun _ => by simp [hended.success_iff, hlast]
      failure := fun _ => by simp [hended.failure_iff, hlast]
      spaced := fun _ => by simp only [starts, hphase]; omega
      waits := hwaits }

/-! ## What one step adds to the totals -/

/-- A scheduled retry is one more attempt.  Entering `deliver` for the first
time is one more delivery with its first attempt, and entering it again is the
attempt that the timer stood for. -/
theorem Move.counts {now : Nat} {d d' : Delivery β} {e : Effect} (h : d.WellFormed cfg)
    (hmove : d.Move rates now d' e) :
    d'.starts + d.started = d.starts + d'.started + (if e = .retry then 1 else 0) := by
  have hstage := h.stage
  unfold Stage at hstage
  cases hmove with
  | deliver throws hmay =>
    have hstarts : (d.deliver throws).1.starts = d.attempt + 1 := by
      rcases d.deliver_cases throws with ⟨_, heq⟩ | ⟨_, heq⟩ <;> rw [heq] <;> rfl
    have hstarted : (d.deliver throws).1.started = 1 := by
      rcases d.deliver_cases throws with ⟨_, heq⟩ | ⟨_, heq⟩ <;> rw [heq] <;> rfl
    have heffect : (d.deliver throws).2 ≠ .retry := by
      rcases d.deliver_cases throws with ⟨_, heq⟩ | ⟨_, heq⟩ <;> rw [heq] <;> simp
    rw [hstarts, hstarted, if_neg heffect]
    unfold MayDeliver at hmay
    unfold starts started
    cases hphase : d.phase with
    | granted =>
      simp only [hphase] at hstage
      simp [hstage.1]
    | backoff due =>
      simp only [hphase] at hstage
      have hpos : d.attempt ≠ 0 := by omega
      simp [hpos]
    | awaiting | finished | abandoned => simp [hphase] at hmay
  | callback reply hawaiting =>
    rcases d.callback_cases rates now reply with ⟨_, heq⟩ | ⟨_, _, heq⟩ | ⟨_, _, heq⟩
    · rw [heq]
      simp [starts, started, hawaiting]
    · rw [heq]
      simp only [starts, started, hawaiting, if_true]
      omega
    · rw [heq]
      simp [starts, started, hawaiting]

theorem Move.failed {now : Nat} {d d' : Delivery β} {e : Effect}
    (hmove : d.Move rates now d' e) :
    d'.failed = d.failed + (if e = .failure then 1 else 0) := by
  unfold Delivery.failed
  cases hmove with
  | deliver throws hmay =>
    rcases d.deliver_cases throws with ⟨_, heq⟩ | ⟨_, heq⟩ <;> rw [heq] <;> simp
  | callback reply hawaiting =>
    rcases d.callback_cases rates now reply with ⟨_, heq⟩ | ⟨_, _, heq⟩ | ⟨_, _, heq⟩ <;>
      rw [heq] <;> simp

end Delivery

namespace Exporter

variable {β : Type} {cfg : ReporterConfig} {rates : ClockRates}

/-- The retry counter counts the attempts beyond the first ones, scheduled ones
included, and the failure counter counts the deliveries that failed. -/
structure Counted (s : Exporter β) : Prop where
  retries : s.retries + tally Delivery.started s.deliveries =
    tally Delivery.starts s.deliveries
  failures : s.failures = tally Delivery.failed s.deliveries

theorem apply_retries (s : Exporter β) (now : Nat) (e : Effect) :
    (s.apply rates now e).retries = s.retries + (if e = .retry then 1 else 0) := by
  cases e <;> rfl

theorem apply_failures (s : Exporter β) (now : Nat) (e : Effect) :
    (s.apply rates now e).failures = s.failures + (if e = .failure then 1 else 0) := by
  cases e <;> rfl

theorem Counted.stepped {s t : Exporter β} {now : Nat} {a : ExporterAction β}
    (h : s.Counted) (hsound : s.Sound cfg) (hstep : Stepped cfg rates s now a t) :
    t.Counted := by
  cases hstep with
  | refused body hallow => exact ⟨h.retries, h.failures⟩
  | granted body circuit hallow =>
    refine ⟨?_, ?_⟩
    · rw [tally_concat, tally_concat]
      exact h.retries
    · rw [tally_concat]
      exact h.failures
  | abandoned i d hd hphase =>
    -- An abandoned batch has made no attempt, so it counts as before.
    have hretries := h.retries
    have hstarted := tally_set (f := Delivery.started) { d with phase := .abandoned } hd
    have hstarts := tally_set (f := Delivery.starts) { d with phase := .abandoned } hd
    have hfailed := tally_set (f := Delivery.failed) { d with phase := .abandoned } hd
    have hsame : Delivery.starts { d with phase := .abandoned } = d.starts := by
      simp [Delivery.starts, hphase]
    have hsame' : Delivery.started { d with phase := .abandoned } = d.started := rfl
    have hsame'' : Delivery.failed { d with phase := .abandoned } = d.failed := rfl
    refine ⟨?_, ?_⟩
    · show s.retries + tally Delivery.started (s.deliveries.set i _) =
        tally Delivery.starts (s.deliveries.set i _)
      omega
    · show s.failures = tally Delivery.failed (s.deliveries.set i _)
      have hfailures := h.failures
      omega
  | moved a i d d' e hd hmove hof hfails =>
    have hcounts := hmove.counts (hsound.deliveries d (List.mem_of_getElem? hd))
    have hcount := hmove.failed
    have hstarted := tally_set (f := Delivery.started) d' hd
    have hstarts := tally_set (f := Delivery.starts) d' hd
    have hfailed := tally_set (f := Delivery.failed) d' hd
    refine ⟨?_, ?_⟩
    · show (s.apply rates now e).retries + tally Delivery.started (s.deliveries.set i d') =
        tally Delivery.starts (s.deliveries.set i d')
      have hretries := h.retries
      rw [apply_retries]
      omega
    · show (s.apply rates now e).failures = tally Delivery.failed (s.deliveries.set i d')
      have hfailures := h.failures
      rw [apply_failures]
      omega

/-- Every delivery is resolved once, and the counters add up. -/
structure RetriesBounded (cfg : ReporterConfig) (s : Exporter β) : Prop extends Counted s where
  deliveries : ∀ d ∈ s.deliveries, d.ResolvedOnce cfg

end Exporter

open Exporter

variable {β : Type}

theorem exporter_counted {cfg : ReporterConfig} {rates : ClockRates} {s : Exporter β}
    (h : (exporter β cfg rates).Reachable s) : s.Counted := by
  refine Machine.ReachableVia.invariant (P := Exporter.Counted) ⟨rfl, rfl⟩ ?_ h
  rintro s ⟨now, a⟩ t hreach hs hnext _
  exact hs.stepped (exporter_sound hreach) (next_stepped hnext).2

end DrogonStarter.Observability
