import DrogonStarter.Observability.Exporter

/-!
# Recovery of the circuit

`allow()` sets `probeInFlight` and `deliver` gives the permission back, in
every way a delivery can end.  Between the two calls `flushQueue` makes a
`Delivery`, and an exception there is swallowed by its `catch (...)` without a
call of `success()` or `failure()`: `LosesProbe`.  After that the flag stays up
with nobody left to clear it, and `allow()` refuses every later batch.

* `Exporter.Stuck` is this state, and `Exporter.recoverable_iff` says that
  there is no other way not to be `Recoverable`.
* `recoverable_iff_steps` is about whole runs: the circuit of a run can recover
  exactly when no step of the run lost a probe.
-/

namespace DrogonStarter.Observability

open Transition

namespace Exporter

variable {β : Type} {cfg : ReporterConfig} {rates : ClockRates}

/-- A set flag stands for a batch that will still call `success()` or
`failure()`, and an idle circuit grants the next batch after its pause. -/
def Recoverable (rates : ClockRates) (s : Exporter β) : Prop :=
  (s.circuit.probeInFlight = true → ∃ d ∈ s.deliveries, d.WillResolve rates) ∧
    ((∀ d ∈ s.deliveries, ¬ d.Unresolved) →
      ∀ now, s.circuit.openUntil ≤ now → (s.circuit.allow now).1 = true)

/-- An exception between `allow()` and `deliver` while `probeInFlight` is set
and no other batch is unresolved. -/
def LosesProbe (s : Exporter β) : Nat × ExporterAction β → Prop
  | (_, .abandon i) => s.circuit.probeInFlight = true ∧ ¬ ∃ j, j ≠ i ∧ s.Unresolved j
  | _ => False

instance (s : Exporter β) (i : Nat) : Decidable (∃ j, j ≠ i ∧ s.Unresolved j) :=
  decidable_of_iff (∃ j < s.deliveries.length, j ≠ i ∧ s.Unresolved j)
    ⟨fun ⟨j, _, h⟩ => ⟨j, h⟩, fun ⟨j, h⟩ => ⟨j, h.2.lt_length, h⟩⟩

instance (s : Exporter β) (a : Nat × ExporterAction β) : Decidable (s.LosesProbe a) :=
  match a with
  | (_, .abandon i) =>
    inferInstanceAs
      (Decidable (s.circuit.probeInFlight = true ∧ ¬ ∃ j, j ≠ i ∧ s.Unresolved j))
  | (_, .submit _) | (_, .deliver _ _) | (_, .respond _ _) =>
    inferInstanceAs (Decidable False)

/-- The flag is up and nobody is left to clear it. -/
def Stuck (s : Exporter β) : Prop :=
  s.circuit.probeInFlight = true ∧ ¬ ∃ i, s.Unresolved i

theorem recoverable_iff {s : Exporter β} (h : s.Sound cfg) :
    s.Recoverable rates ↔ ¬ s.Stuck := by
  constructor
  · rintro ⟨hprobe, _⟩ ⟨hflag, hnone⟩
    obtain ⟨d, hd, hwill⟩ := hprobe hflag
    exact hnone (exists_unresolved.2 ⟨d, hd, hwill.unresolved⟩)
  · intro hfree
    refine ⟨fun hflag => ?_, fun hidle now hnow => ?_⟩
    · have hlive : ∃ i, s.Unresolved i := by
        by_contra hnone
        exact hfree ⟨hflag, hnone⟩
      obtain ⟨d, hd, hunresolved⟩ := exists_unresolved.1 hlive
      exact ⟨d, hd, Delivery.willResolve rates (h.deliveries d hd) hunresolved⟩
    · apply CircuitState.allow_of_recovered hnow
      cases hflag : s.circuit.probeInFlight with
      | false => rfl
      | true =>
        refine absurd ⟨hflag, fun hlive => ?_⟩ hfree
        obtain ⟨d, hd, hunresolved⟩ := exists_unresolved.1 hlive
        exact hidle d hd hunresolved

/-- A step that keeps the flag up keeps somebody who will clear it, unless it
loses the probe. -/
theorem Stepped.not_stuck {s t : Exporter β} {now : Nat} {a : ExporterAction β}
    (h : Stepped cfg rates s now a t) (hcoherent : s.circuit.Coherent) (hfree : ¬ s.Stuck)
    (hok : ¬ s.LosesProbe (now, a)) : ¬ t.Stuck := by
  rintro ⟨hflag, hnone⟩
  cases h with
  | refused body hallow => exact hfree ⟨hflag, hnone⟩
  | granted body circuit hallow =>
    exact hnone ⟨s.deliveries.length,
      (unresolved_concat rfl).2 (Or.inr ⟨rfl, unresolved_fresh cfg s body⟩)⟩
  | abandoned i d hd hphase =>
    refine hok ⟨hflag, ?_⟩
    rintro ⟨j, hji, hj⟩
    exact hnone ⟨j, (unresolved_set hd rfl).2 (Or.inr ⟨hji, hj⟩)⟩
  | moved a i d d' e hd hmove hof hfails =>
    rcases hmove.phase with ⟨hresolves | hresolves, _⟩ | ⟨_, hlive⟩
    · subst hresolves
      have hclear : s.circuit.success.probeInFlight = true := hflag
      simp [CircuitState.success] at hclear
    · subst hresolves
      have hclear : (s.circuit.failure rates now).probeInFlight = true := hflag
      rw [hcoherent.flag_failure rates now] at hclear
      simp at hclear
    · exact hnone ⟨i, (unresolved_set hd rfl).2 (Or.inl ⟨rfl, hlive⟩)⟩

/-- A lost probe leaves the exporter stuck. -/
theorem Stepped.stuck_of_losesProbe {s t : Exporter β} {now : Nat} {a : ExporterAction β}
    (h : Stepped cfg rates s now a t) (hloses : s.LosesProbe (now, a)) : t.Stuck := by
  cases h with
  | refused | granted => exact absurd hloses id
  | abandoned i d hd hphase =>
    obtain ⟨hflag, hnone⟩ := hloses
    refine ⟨hflag, ?_⟩
    rintro ⟨j, hj⟩
    rcases (unresolved_set hd rfl).1 hj with ⟨_, hlive⟩ | ⟨hji, hold⟩
    · exact hlive.2 rfl
    · exact hnone ⟨j, hji, hold⟩
  | moved a i d d' e hd hmove hof hfails =>
    -- No step of a delivery is an exception outside `deliver`.
    cases a with
    | submit | deliver | respond => exact absurd hloses id
    | abandon j => simp [stepOf] at hof

/-- A stuck exporter grants nothing and has no step of a delivery left. -/
theorem Stepped.stuck {s t : Exporter β} {now : Nat} {a : ExporterAction β}
    (h : Stepped cfg rates s now a t) (hcoherent : s.circuit.Coherent) (hstuck : s.Stuck) :
    t.Stuck := by
  obtain ⟨hflag, hnone⟩ := hstuck
  cases h with
  | refused body hallow => exact ⟨hflag, hnone⟩
  | granted body circuit hallow =>
    have hopen := hcoherent.flag hflag
    rcases s.circuit.allow_cases now with ⟨heq, _⟩ | ⟨_, hclosed⟩ | ⟨_, _, _, hclear⟩
    · simp [heq] at hallow
    · exact absurd hclosed hopen
    · simp [hflag] at hclear
  | abandoned i d hd hphase =>
    exact absurd ⟨i, d, hd, by simp [hphase], by simp [hphase]⟩ hnone
  | moved a i d d' e hd hmove hof hfails =>
    exact absurd ⟨i, d, hd, hmove.unresolved⟩ hnone

end Exporter

open Exporter

variable {β : Type}

/-- The circuit of a reporter can recover after the steps `as` exactly when
none of them is an exception that loses a probe. -/
theorem recoverable_iff_steps (cfg : ReporterConfig) (rates : ClockRates)
    (as : List (Nat × ExporterAction β)) (t : Exporter β)
    (hrun : (exporter β cfg rates).run as = some t) :
    t.Recoverable rates ↔ (exporter β cfg rates).Steps (fun s a => ¬ s.LosesProbe a) as := by
  have hcleared : (exporter β cfg rates).ClearedVia (fun s a => ¬ s.LosesProbe a)
      (fun s => ¬ s.Stuck) := by
    refine ⟨fun hstuck => ?_, ?_, ?_, ?_⟩
    · exact absurd hstuck.1 (by simp [exporter])
    · rintro s ⟨now, a⟩ t hreach hnext hfree hok
      exact (next_stepped hnext).2.not_stuck (exporter_sound hreach).circuit hfree hok
    · rintro s ⟨now, a⟩ t _ hnext hloses hfree
      exact hfree ((next_stepped hnext).2.stuck_of_losesProbe (not_not.1 hloses))
    · rintro s ⟨now, a⟩ t hreach hnext hstuck hfree
      exact hfree
        ((next_stepped hnext).2.stuck (exporter_sound hreach).circuit (not_not.1 hstuck))
  rw [recoverable_iff (exporter_sound (Machine.reachable_of_run as hrun))]
  exact hcleared.iff_steps hrun

/-- An exception while the circuit is closed loses nothing: the circuit opens
for the other batch and grants the next one as its probe. -/
theorem recoverable_iff_steps_closed :
    Recoverable steadyClock
      ({ clock := 30000000004
         circuit := { failureThreshold := 1, cooldown := .finite 30, failures := 1,
                      openUntil := 30000000004, probeInFlight := true }
         deliveries :=
          [{ body := 7, maxAttempts := 3, baseDelay := tenth,
             phase := .abandoned },
           { body := 8, maxAttempts := 3, baseDelay := tenth, attempt := 1,
             phase := .finished, outcomes := [.threw], calls := [.failure] },
           { body := 9, maxAttempts := 3, baseDelay := tenth,
             whileOpen := true }]
         failures := 1, openings := [(4, 30000000004)] } : Exporter Nat) :=
  (recoverable_iff_steps fragileCollector steadyClock
    [(1, .submit 7), (2, .abandon 0), (3, .submit 8), (4, .deliver 1 true),
     (30000000004, .submit 9)] _ (by decide +kernel)).2 (by decide +kernel)

/-- The probe is lost to an exception in `payload()`, and `allow()` refuses
every batch from then on. -/
theorem lost_probe_blocks_circuit :
    ¬ ∀ (cfg : ReporterConfig) (rates : ClockRates) (s : Exporter Nat),
      (exporter Nat cfg rates).Reachable s → s.Recoverable rates := by
  intro hall
  have hreach : (exporter Nat fragileCollector steadyClock).Reachable
      { clock := 30000000002
        circuit := { failureThreshold := 1, cooldown := .finite 30, failures := 1,
                     openUntil := 30000000002, probeInFlight := true }
        deliveries :=
          [{ body := 7, maxAttempts := 3, baseDelay := tenth, attempt := 1,
             phase := .finished, outcomes := [.threw], calls := [.failure] },
           { body := 8, maxAttempts := 3, baseDelay := tenth,
             phase := .abandoned, whileOpen := true }]
        failures := 1, openings := [(2, 30000000002)] } :=
    Machine.reachable_of_run
      [(1, .submit 7), (2, .deliver 0 true), (30000000002, .submit 8),
       (30000000002, .abandon 1)] (by decide +kernel)
  have hgranted := (hall _ _ _ hreach).2 (by decide) 60000000000 (by decide)
  revert hgranted
  decide

end DrogonStarter.Observability
