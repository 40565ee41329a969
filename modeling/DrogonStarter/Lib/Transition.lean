import Mathlib.Data.List.Basic

/-!
# Labelled machines, their runs and their invariants

A `Machine` has one initial state and a partial step function: `next s a` is
the state after the action `a`, and it is `none` when `a` is not enabled in
`s`.  All nondeterminism is in the choice of the actions, so a run is a list
of actions and `Machine.run` computes where it ends.

* `Machine.ReachableVia ok` are the states of the runs whose every step
  satisfies `ok`, and `Machine.Reachable` are the states of all runs.
* `ReachableVia.invariant` is the one induction that safety proofs use: a
  predicate that the initial state has and every step keeps holds of every
  reachable state.  The step may use that the source is reachable.
* `reachableVia_of_run` turns a computed run into a reachable state.
* `ClearedVia.iff_steps` is for a property that a good step keeps and that a
  bad step loses for the rest of the run.
* `Settles` is for a phase that comes to an end: a rank that every step lowers.
* `Simulation` carries reachability from a machine to a coarser one.
-/

namespace Transition

universe u v w x

/-- A labelled machine with a partial step function. -/
structure Machine (σ : Type u) (α : Type v) where
  init : σ
  next : σ → α → Option σ

namespace Machine

variable {σ : Type u} {α : Type v} (m : Machine σ α)

/-- The state after the actions `as` from `s`, if each one is enabled. -/
def runFrom : σ → List α → Option σ
  | s, [] => some s
  | s, a :: as =>
    match m.next s a with
    | none => none
    | some t => runFrom t as

/-- The state after the actions `as` from the initial state. -/
def run (as : List α) : Option σ := m.runFrom m.init as

/-- Every step of the run `as` from `s` satisfies `ok`. -/
def StepsFrom (ok : σ → α → Prop) : σ → List α → Prop
  | _, [] => True
  | s, a :: as =>
    ok s a ∧
      match m.next s a with
      | none => True
      | some t => StepsFrom ok t as

/-- Every step of the run `as` satisfies `ok`. -/
def Steps (ok : σ → α → Prop) (as : List α) : Prop := m.StepsFrom ok m.init as

instance StepsFrom.decidable (ok : σ → α → Prop) [∀ s a, Decidable (ok s a)] :
    ∀ (s : σ) (as : List α), Decidable (m.StepsFrom ok s as)
  | _, [] => inferInstanceAs (Decidable True)
  | s, a :: as =>
    match h : m.next s a with
    | none => decidable_of_iff (ok s a) (by simp [StepsFrom, h])
    | some t =>
      have := StepsFrom.decidable ok t as
      decidable_of_iff (ok s a ∧ m.StepsFrom ok t as) (by simp [StepsFrom, h])

instance (ok : σ → α → Prop) [∀ s a, Decidable (ok s a)] (as : List α) :
    Decidable (m.Steps ok as) :=
  StepsFrom.decidable m ok m.init as

/-- The states of the runs whose every step satisfies `ok`. -/
inductive ReachableVia (ok : σ → α → Prop) : σ → Prop
  | init : ReachableVia ok m.init
  | step {s t : σ} {a : α} (reach : ReachableVia ok s) (hnext : m.next s a = some t)
      (hok : ok s a) : ReachableVia ok t

/-- The states of all runs. -/
abbrev Reachable (s : σ) : Prop := m.ReachableVia (fun _ _ => True) s

variable {m}

/-- The induction of every safety proof. -/
theorem ReachableVia.invariant {ok : σ → α → Prop} {P : σ → Prop}
    (hinit : P m.init)
    (hstep : ∀ s a t, m.ReachableVia ok s → P s → m.next s a = some t → ok s a → P t)
    {s : σ} (h : m.ReachableVia ok s) : P s := by
  induction h with
  | init => exact hinit
  | step reach hnext hok ih => exact hstep _ _ _ reach ih hnext hok

/-- A weaker condition on the steps reaches at least as much. -/
theorem ReachableVia.mono {ok ok' : σ → α → Prop} (hle : ∀ s a, ok s a → ok' s a)
    {s : σ} (h : m.ReachableVia ok s) : m.ReachableVia ok' s := by
  induction h with
  | init => exact .init
  | step _ hnext hok ih => exact .step ih hnext (hle _ _ hok)

theorem ReachableVia.reachable {ok : σ → α → Prop} {s : σ} (h : m.ReachableVia ok s) :
    m.Reachable s :=
  h.mono fun _ _ _ => trivial

theorem Reachable.next {s t : σ} {a : α} (h : m.Reachable s) (hnext : m.next s a = some t) :
    m.Reachable t :=
  .step h hnext trivial

theorem runFrom_cons_of_next {s t : σ} {a : α} (as : List α) (h : m.next s a = some t) :
    m.runFrom s (a :: as) = m.runFrom t as := by
  rw [runFrom, h]

/-- The first step of a run, and the run after it. -/
theorem exists_next_of_runFrom_cons {s t : σ} {a : α} {as : List α}
    (hrun : m.runFrom s (a :: as) = some t) :
    ∃ r, m.next s a = some r ∧ m.runFrom r as = some t := by
  cases hnext : m.next s a with
  | none =>
    rw [runFrom, hnext] at hrun
    cases hrun
  | some r =>
    rw [runFrom_cons_of_next as hnext] at hrun
    exact ⟨r, rfl, hrun⟩

theorem stepsFrom_cons_of_next {ok : σ → α → Prop} {s t : σ} {a : α} (as : List α)
    (h : m.next s a = some t) :
    m.StepsFrom ok s (a :: as) ↔ ok s a ∧ m.StepsFrom ok t as := by
  rw [StepsFrom, h]

theorem runFrom_append (s : σ) (as bs : List α) :
    m.runFrom s (as ++ bs) = (m.runFrom s as).bind fun t => m.runFrom t bs := by
  induction as generalizing s with
  | nil => rfl
  | cons a as ih =>
    rw [List.cons_append, runFrom, runFrom]
    cases m.next s a with
    | none => rfl
    | some t => exact ih t

/-- A run whose steps satisfy `ok` ends in a state that is reachable via `ok`. -/
theorem ReachableVia.runFrom {ok : σ → α → Prop} {s t : σ} {as : List α}
    (h : m.ReachableVia ok s) (hrun : m.runFrom s as = some t) (hsteps : m.StepsFrom ok s as) :
    m.ReachableVia ok t := by
  induction as generalizing s with
  | nil =>
    cases hrun
    exact h
  | cons a as ih =>
    obtain ⟨r, hnext, hrest⟩ := exists_next_of_runFrom_cons hrun
    obtain ⟨hok, hsteps⟩ := (stepsFrom_cons_of_next as hnext).1 hsteps
    exact ih (.step h hnext hok) hrest hsteps

theorem reachableVia_of_run {ok : σ → α → Prop} {t : σ} (as : List α)
    (hrun : m.run as = some t) (hsteps : m.Steps ok as) : m.ReachableVia ok t :=
  ReachableVia.init.runFrom hrun hsteps

theorem stepsFrom_true (s : σ) (as : List α) : m.StepsFrom (fun _ _ => True) s as := by
  induction as generalizing s with
  | nil => trivial
  | cons a as ih =>
    refine ⟨trivial, ?_⟩
    split
    · trivial
    · exact ih _

theorem reachable_of_run {t : σ} (as : List α) (hrun : m.run as = some t) : m.Reachable t :=
  reachableVia_of_run as hrun (stepsFrom_true _ _)

/-- The reachable states are closed under further actions. -/
theorem Reachable.runFrom {s t : σ} {as : List α} (h : m.Reachable s)
    (hrun : m.runFrom s as = some t) : m.Reachable t :=
  ReachableVia.runFrom h hrun (stepsFrom_true _ _)

/-! ## Properties that a bad step loses for good -/

/-- `clean` marks the states that are still good.  A step from a clean state
stays clean exactly when it satisfies `ok`, and no step makes a state clean
again. -/
structure ClearedVia (m : Machine σ α) (ok : σ → α → Prop) (clean : σ → Prop) : Prop where
  init : clean m.init
  keeps : ∀ s a t, m.Reachable s → m.next s a = some t → clean s → ok s a → clean t
  loses : ∀ s a t, m.Reachable s → m.next s a = some t → ¬ ok s a → ¬ clean t
  stays : ∀ s a t, m.Reachable s → m.next s a = some t → ¬ clean s → ¬ clean t

theorem ClearedVia.not_clean_of_runFrom {ok : σ → α → Prop} {clean : σ → Prop}
    (h : ClearedVia m ok clean) {s t : σ} {as : List α} (hreach : m.Reachable s)
    (hrun : m.runFrom s as = some t) (hs : ¬ clean s) : ¬ clean t := by
  induction as generalizing s with
  | nil =>
    cases hrun
    exact hs
  | cons a as ih =>
    obtain ⟨r, hnext, hrest⟩ := exists_next_of_runFrom_cons hrun
    exact ih (hreach.next hnext) hrest (h.stays s a r hreach hnext hs)

theorem ClearedVia.iff_stepsFrom {ok : σ → α → Prop} {clean : σ → Prop}
    (h : ClearedVia m ok clean) {s t : σ} {as : List α} (hreach : m.Reachable s)
    (hrun : m.runFrom s as = some t) (hs : clean s) : clean t ↔ m.StepsFrom ok s as := by
  induction as generalizing s with
  | nil =>
    cases hrun
    exact iff_of_true hs trivial
  | cons a as ih =>
    obtain ⟨r, hnext, hrest⟩ := exists_next_of_runFrom_cons hrun
    have hr : m.Reachable r := hreach.next hnext
    rw [stepsFrom_cons_of_next as hnext]
    by_cases hok : ok s a
    · have hclean : clean r := h.keeps s a r hreach hnext hs hok
      rw [ih hr hrest hclean]
      exact (and_iff_right hok).symm
    · have hdirty : ¬ clean t :=
        h.not_clean_of_runFrom hr hrest (h.loses s a r hreach hnext hok)
      exact iff_of_false hdirty fun hsteps => hok hsteps.1

/-- A run ends clean exactly when every one of its steps is good. -/
theorem ClearedVia.iff_steps {ok : σ → α → Prop} {clean : σ → Prop}
    (h : ClearedVia m ok clean) {t : σ} {as : List α} (hrun : m.run as = some t) :
    clean t ↔ m.Steps ok as :=
  h.iff_stepsFrom .init hrun h.init

/-! ## Phases that come to an end -/

/-- In the busy states some action is enabled, and every action lowers the rank. -/
structure Settles (m : Machine σ α) (busy : σ → Prop) (rank : σ → Nat) : Prop where
  enabled : ∀ s, m.Reachable s → busy s → ∃ a t, m.next s a = some t
  lowers : ∀ s a t, m.Reachable s → busy s → m.next s a = some t → rank t < rank s

/-- No run stays busy for more steps than the rank says, whatever is scheduled: one of the
first steps leaves the busy states. -/
theorem Settles.exists_leaving {busy : σ → Prop} {rank : σ → Nat} (h : m.Settles busy rank)
    {s t : σ} {as : List α} (hreach : m.Reachable s) (hbusy : busy s)
    (hrun : m.runFrom s as = some t) (hlong : rank s ≤ as.length) :
    ∃ before a rest r u, as = before ++ a :: rest ∧ m.runFrom s before = some r ∧ busy r ∧
      m.next r a = some u ∧ ¬ busy u := by
  induction as generalizing s with
  | nil =>
    obtain ⟨a, r, hnext⟩ := h.enabled s hreach hbusy
    have hlower := h.lowers s a r hreach hbusy hnext
    exact absurd (Nat.lt_of_lt_of_le hlower hlong) (Nat.not_lt_zero _)
  | cons a as ih =>
    obtain ⟨r, hnext, hrest⟩ := exists_next_of_runFrom_cons hrun
    by_cases hr : busy r
    case neg => exact ⟨[], a, as, s, r, rfl, rfl, hbusy, hnext, hr⟩
    case pos =>
      have hlower := h.lowers s a r hreach hbusy hnext
      have hshort : rank r ≤ as.length := by
        rw [List.length_cons] at hlong
        omega
      obtain ⟨before, b, rest, q, u, hsplit, hbefore, hq, hlast, hu⟩ :=
        ih (hreach.next hnext) hr hrest hshort
      refine ⟨a :: before, b, rest, q, u, by rw [hsplit]; rfl, ?_, hq, hlast, hu⟩
      rw [runFrom_cons_of_next before hnext]
      exact hbefore

end Machine

/-! ## Simulations -/

/-- A functional simulation with stuttering: `abs` reads a state of `coarse`
off a state of `fine`, and a step of `fine` is a step of `coarse` or changes
nothing that `abs` sees. -/
structure Simulation {σ : Type u} {α : Type v} {τ : Type w} {β : Type x}
    (fine : Machine σ α) (coarse : Machine τ β) where
  abs : σ → τ
  init : abs fine.init = coarse.init
  step : ∀ s a t, fine.Reachable s → fine.next s a = some t →
    abs t = abs s ∨ ∃ b, coarse.next (abs s) b = some (abs t)

/-- What the coarse machine reaches covers the fine one. -/
theorem Simulation.reachable {σ : Type u} {α : Type v} {τ : Type w} {β : Type x}
    {fine : Machine σ α} {coarse : Machine τ β} (sim : Simulation fine coarse) {s : σ}
    (h : fine.Reachable s) : coarse.Reachable (sim.abs s) := by
  refine Machine.ReachableVia.invariant (P := fun s => coarse.Reachable (sim.abs s)) ?_ ?_ h
  · rw [sim.init]
    exact .init
  · intro s a t hreach hs hnext _
    rcases sim.step s a t hreach hnext with hstutter | ⟨b, hb⟩
    · rw [hstutter]
      exact hs
    · exact hs.next hb

end Transition
