import Mathlib.Logic.Basic

/-!
# Handlers that answer through a callback

A handler of a request works on a store, hands its answers to a callback and may throw.
Neither the store nor the answers are rolled back by an exception, which is what `EStateM`
says about its state, so a `Handler` is a computation in it on a `Session`.

* `callback`, `query`, `command` and `change` are the steps of a handler, and `within` runs a
  handler on a part of a larger store.
* `Answers` says that a handler returns after exactly one answer, and `Escapes` that an
  exception leaves it before it does anything.  The rules say how the two pass through the
  steps, through `tryCatch` and through `within`.
* `Reads` says that a handler leaves the store as it is, and `Serves` what its caller sees.
-/

namespace Serving

/-- The store, and the answers that the callback got so far. -/
structure Session (σ ρ : Type) where
  store : σ
  sent : List ρ := []

/-- A handler that may throw an `ε`. -/
abbrev Handler (ε σ ρ α : Type) : Type := EStateM ε (Session σ ρ) α

namespace Handler

variable {ε σ τ ρ α : Type}

def callback (answer : ρ) : Handler ε σ ρ Unit :=
  modify fun session => { session with sent := session.sent ++ [answer] }

/-- A look at the store. -/
def query (f : σ → Except ε α) : Handler ε σ ρ α := fun session =>
  match f session.store with
  | .ok value => .ok value session
  | .error thrown => .error thrown session

/-- A call that changes the store unless it throws. -/
def command (f : σ → Except ε (α × σ)) : Handler ε σ ρ α := fun session =>
  match f session.store with
  | .ok done => .ok done.1 { session with store := done.2 }
  | .error thrown => .error thrown session

def change (f : σ → σ) : Handler ε σ ρ Unit :=
  modify fun session => { session with store := f session.store }

/-- A handler on a part of the store. -/
def within (part : σ → τ) (put : τ → σ → σ) (x : Handler ε τ ρ α) : Handler ε σ ρ α :=
  fun session =>
    match x { store := part session.store, sent := session.sent } with
    | .ok value inner => .ok value ⟨put inner.store session.store, inner.sent⟩
    | .error thrown inner => .error thrown ⟨put inner.store session.store, inner.sent⟩

/-! ## One answer, or an exception -/

/-- From a store, the handler returns, after one answer, with a store. -/
def Answers (x : Handler ε σ ρ Unit) (s : σ) (answer : ρ) (next : σ) : Prop :=
  ∀ sent, x.run ⟨s, sent⟩ = .ok () ⟨next, sent ++ [answer]⟩

/-- From a store, an exception leaves the handler, without an answer and with the store as
it was. -/
def Escapes (x : Handler ε σ ρ α) (s : σ) (thrown : ε) : Prop :=
  ∀ sent, x.run ⟨s, sent⟩ = .error thrown ⟨s, sent⟩

theorem answers_callback (answer : ρ) (s : σ) :
    Answers (callback answer : Handler ε σ ρ Unit) s answer s :=
  fun _ => rfl

/-- A handler does one thing. -/
theorem Escapes.not_answers {x : Handler ε σ ρ Unit} {s : σ} {thrown : ε}
    (h : Escapes x s thrown) (answer : ρ) (next : σ) : ¬ Answers x s answer next := by
  intro hanswers
  have hboth := (h []).symm.trans (hanswers [])
  cases hboth

section steps

variable {s next : σ} {answer : ρ}

theorem run_query (f : σ → Except ε α) (sent : List ρ) :
    (query f : Handler ε σ ρ α).run ⟨s, sent⟩ =
      match f s with
      | .ok value => .ok value ⟨s, sent⟩
      | .error thrown => .error thrown ⟨s, sent⟩ := rfl

theorem run_command (f : σ → Except ε (α × σ)) (sent : List ρ) :
    (command f : Handler ε σ ρ α).run ⟨s, sent⟩ =
      match f s with
      | .ok done => .ok done.1 ⟨done.2, sent⟩
      | .error thrown => .error thrown ⟨s, sent⟩ := rfl

theorem answers_query_bind {f : σ → Except ε α} {value : α} (hvalue : f s = .ok value)
    {rest : α → Handler ε σ ρ Unit} (h : Answers (rest value) s answer next) :
    Answers (query f >>= rest) s answer next := by
  intro sent
  rw [EStateM.run_bind, run_query, hvalue]
  exact h sent

theorem escapes_query_bind {f : σ → Except ε α} {thrown : ε} (hthrown : f s = .error thrown)
    (rest : α → Handler ε σ ρ Unit) : Escapes (query f >>= rest) s thrown := by
  intro sent
  rw [EStateM.run_bind, run_query, hthrown]

theorem answers_command_bind {f : σ → Except ε (α × σ)} {done : α × σ} (hdone : f s = .ok done)
    {rest : α → Handler ε σ ρ Unit} (h : Answers (rest done.1) done.2 answer next) :
    Answers (command f >>= rest) s answer next := by
  intro sent
  rw [EStateM.run_bind, run_command, hdone]
  exact h sent

theorem escapes_command_bind {f : σ → Except ε (α × σ)} {thrown : ε}
    (hthrown : f s = .error thrown) (rest : α → Handler ε σ ρ Unit) :
    Escapes (command f >>= rest) s thrown := by
  intro sent
  rw [EStateM.run_bind, run_command, hthrown]

theorem answers_change_bind {f : σ → σ} {rest : Unit → Handler ε σ ρ Unit}
    (h : Answers (rest ()) (f s) answer next) :
    Answers (change f >>= rest) s answer next :=
  fun sent => h sent

end steps

/-! ## Exceptions -/

theorem run_tryCatch (x : Handler ε σ ρ α) (handle : ε → Handler ε σ ρ α)
    (session : Session σ ρ) :
    (tryCatch x handle).run session =
      match x.run session with
      | .ok value after => .ok value after
      | .error thrown after => (handle thrown).run after := by
  change EStateM.tryCatch x handle session = _
  unfold EStateM.tryCatch EStateM.run
  cases x session <;> rfl

/-- A handler that answers has nothing to catch. -/
theorem Answers.tryCatch {x : Handler ε σ ρ Unit} {s next : σ} {answer : ρ}
    (h : Answers x s answer next) (handle : ε → Handler ε σ ρ Unit) :
    Answers (tryCatch x handle) s answer next := by
  intro sent
  rw [run_tryCatch, h sent]

/-- An exception that is caught. -/
theorem Escapes.tryCatch {x : Handler ε σ ρ Unit} {s next : σ} {answer : ρ} {thrown : ε}
    (h : Escapes x s thrown) {handle : ε → Handler ε σ ρ Unit}
    (hhandle : Answers (handle thrown) s answer next) :
    Answers (tryCatch x handle) s answer next := by
  intro sent
  rw [run_tryCatch, h sent]
  exact hhandle sent

/-! ## Handlers that only read -/

/-- The session when a handler is over, whether it returned or threw. -/
def after (x : Handler ε σ ρ α) (session : Session σ ρ) : Session σ ρ :=
  match x.run session with
  | .ok _ after => after
  | .error _ after => after

/-- The answers of a handler to its caller, who answers for it when it throws. -/
def answered (x : Handler ε σ ρ Unit) (s : σ) (unhandled : ρ) : List ρ :=
  match x.run { store := s } with
  | .ok _ after => after.sent
  | .error _ after => after.sent ++ [unhandled]

/-- A handler that leaves the store as it is. -/
def Reads (x : Handler ε σ ρ α) : Prop := ∀ session, (after x session).store = session.store

theorem reads_pure (value : α) : Reads (pure value : Handler ε σ ρ α) := fun _ => rfl

theorem reads_callback (answer : ρ) : Reads (callback answer : Handler ε σ ρ Unit) := fun _ => rfl

theorem reads_query (f : σ → Except ε α) : Reads (query f : Handler ε σ ρ α) := by
  intro session
  unfold after
  rw [run_query]
  cases f session.store <;> rfl

theorem Reads.bind {β : Type} {x : Handler ε σ ρ α} (h : Reads x)
    {rest : α → Handler ε σ ρ β} (hrest : ∀ value, Reads (rest value)) : Reads (x >>= rest) := by
  intro session
  have hx := h session
  unfold after at hx ⊢
  rw [EStateM.run_bind]
  cases hrun : x.run session with
  | error thrown next =>
    rw [hrun] at hx
    exact hx
  | ok value next =>
    rw [hrun] at hx
    have hnext := hrest value next
    unfold after at hnext
    exact hnext.trans hx

theorem Answers.answered {x : Handler ε σ ρ Unit} {s next : σ} {answer : ρ}
    (h : Answers x s answer next) (unhandled : ρ) : answered x s unhandled = [answer] := by
  unfold Handler.answered
  rw [h []]
  rfl

theorem answered_query_bind {f : σ → Except ε α} {s : σ} {value : α} (hvalue : f s = .ok value)
    (rest : α → Handler ε σ ρ Unit) (unhandled : ρ) :
    answered (query f >>= rest) s unhandled = answered (rest value) s unhandled := by
  unfold answered
  rw [EStateM.run_bind, run_query, hvalue]

theorem answered_query_bind_error {f : σ → Except ε α} {s : σ} {thrown : ε}
    (hthrown : f s = .error thrown) (rest : α → Handler ε σ ρ Unit) (unhandled : ρ) :
    answered (query f >>= rest) s unhandled = [unhandled] := by
  unfold answered
  rw [EStateM.run_bind, run_query, hthrown]
  rfl

/-- The caller of a handler sees one answer, its own when an exception leaves the handler, and
the store afterwards. -/
structure Serves (x : Handler ε σ ρ Unit) (s : σ) (unhandled answer : ρ) (next : σ) : Prop where
  answered : answered x s unhandled = [answer]
  store : (after x { store := s }).store = next

theorem Answers.serves {x : Handler ε σ ρ Unit} {s next : σ} {answer : ρ}
    (h : Answers x s answer next) (unhandled : ρ) : Serves x s unhandled answer next where
  answered := h.answered unhandled
  store := by
    unfold after
    rw [h []]

theorem Escapes.serves {x : Handler ε σ ρ Unit} {s : σ} {thrown : ε} (h : Escapes x s thrown)
    (unhandled : ρ) : Serves x s unhandled unhandled s where
  answered := by
    unfold Handler.answered
    rw [h []]
    rfl
  store := by
    unfold after
    rw [h []]

/-! ## A part of the store -/

theorem run_within (part : σ → τ) (put : τ → σ → σ) (x : Handler ε τ ρ α) (s : σ)
    (sent : List ρ) :
    (within part put x).run ⟨s, sent⟩ =
      match x.run ⟨part s, sent⟩ with
      | .ok value inner => .ok value ⟨put inner.store s, inner.sent⟩
      | .error thrown inner => .error thrown ⟨put inner.store s, inner.sent⟩ := rfl

theorem Answers.within {part : σ → τ} {x : Handler ε τ ρ Unit} {s : σ} {next : τ} {answer : ρ}
    (h : Answers x (part s) answer next) (put : τ → σ → σ) :
    Answers (within part put x) s answer (put next s) := by
  intro sent
  rw [run_within, h sent]

/-- The part is put back as it was, so the store is as it was. -/
theorem Escapes.within {part : σ → τ} {x : Handler ε τ ρ α} {s : σ} {thrown : ε}
    (h : Escapes x (part s) thrown) (put : τ → σ → σ) (hput : put (part s) s = s) :
    Escapes (within part put x) s thrown := by
  intro sent
  rw [run_within, h sent]
  simp only [hput]

end Handler

end Serving
