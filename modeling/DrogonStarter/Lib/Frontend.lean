import DrogonStarter.Lib.Unwinding

/-!
# A server in front of another one

A `Frontend` passes some of its requests on, in another form, and answers the others itself.
Which ones it passes on may depend on its state.

* `Server.passed` are the requests that are passed on in a run, and `Server.passedAnswers` the
  answers to them.
* `Frontend.run` is the simulation: the two servers stay alike, and the answers are those of
  the server behind.
* `exists_of_passed` finds the request behind one that was passed on.
-/

namespace Serving

universe u v w

namespace Server

variable {σ : Type u} {ι : Type v} {ο : Type w} {κ : Type v} (m : Server σ ι ο)
  (pass : σ → ι → Option κ)

/-- What is passed on of the requests. -/
def passed : σ → List ι → List κ
  | _, [] => []
  | s, i :: rest => (pass s i).toList ++ passed (m.next s i) rest

/-- The answers to the requests that are passed on. -/
def passedAnswers : σ → List ι → List ο
  | _, [] => []
  | s, i :: rest => ((pass s i).map fun _ => m.answer s i).toList ++
      passedAnswers (m.next s i) rest

variable {m pass}

theorem passed_append (s : σ) (before rest : List ι) :
    m.passed pass s (before ++ rest) =
      m.passed pass s before ++ m.passed pass (m.after s before) rest := by
  induction before generalizing s with
  | nil => rfl
  | cons i before ih => simp only [List.cons_append, passed, after_cons, ih, List.append_assoc]

theorem passed_singleton (s : σ) (i : ι) : m.passed pass s [i] = (pass s i).toList :=
  List.append_nil _

/-- A request that was passed on came from one of the requests, and those before it from the
requests before. -/
theorem exists_of_passed {s : σ} {requests : List ι} {before rest : List κ} {j : κ}
    (h : m.passed pass s requests = before ++ j :: rest) :
    ∃ early i late, requests = early ++ i :: late ∧ m.passed pass s early = before ∧
      pass (m.after s early) i = some j := by
  induction requests generalizing s before with
  | nil => cases before <;> cases h
  | cons i requests ih =>
    cases hpass : pass s i with
    | none =>
      rw [passed, hpass] at h
      obtain ⟨early, k, late, rfl, hearly, hk⟩ := ih h
      exact ⟨i :: early, k, late, rfl, by rw [passed, hpass]; exact hearly, hk⟩
    | some first =>
      rw [passed, hpass] at h
      cases before with
      | nil =>
        obtain ⟨rfl, _⟩ := List.cons.inj h
        exact ⟨[], i, requests, rfl, rfl, hpass⟩
      | cons other before =>
        obtain ⟨rfl, htail⟩ := List.cons.inj h
        obtain ⟨early, k, late, rfl, hearly, hk⟩ := ih htail
        refine ⟨i :: early, k, late, rfl, ?_, hk⟩
        rw [passed, hpass, hearly]
        rfl

end Server

/-- A server that passes requests on to another: a request that is not passed on leaves what
`same` relates, and one that is passed on does what the other server does. -/
structure Frontend {σ τ : Type u} {ι κ : Type v} {ο π : Type w} (m : Server σ ι ο)
    (m' : Server τ κ π) (same : σ → τ → Prop) (pass : σ → ι → Option κ) (shown : π → ο) :
    Prop where
  own : ∀ s t i, same s t → pass s i = none → same (m.next s i) t
  next : ∀ s t i j, same s t → pass s i = some j → same (m.next s i) (m'.next t j)
  answer : ∀ s t i j, same s t → pass s i = some j → m.answer s i = shown (m'.answer t j)

/-- A run, and the run of what is passed on. -/
theorem Frontend.run {σ τ : Type u} {ι κ : Type v} {ο π : Type w} {m : Server σ ι ο}
    {m' : Server τ κ π} {same : σ → τ → Prop} {pass : σ → ι → Option κ} {shown : π → ο}
    (h : Frontend m m' same pass shown) {s : σ} {t : τ} (hsame : same s t) (requests : List ι) :
    same (m.after s requests) (m'.after t (m.passed pass s requests)) ∧
      m.passedAnswers pass s requests =
        (m'.answers t (m.passed pass s requests)).map shown := by
  induction requests generalizing s t with
  | nil => exact ⟨hsame, rfl⟩
  | cons i rest ih =>
    cases hpass : pass s i with
    | none =>
      rw [Server.passed, Server.passedAnswers, hpass]
      exact ih (h.own s t i hsame hpass)
    | some j =>
      obtain ⟨hafter, hanswers⟩ := ih (h.next s t i j hsame hpass)
      rw [Server.passed, Server.passedAnswers, hpass]
      exact ⟨hafter, congrArg₂ List.cons (h.answer s t i j hsame hpass) hanswers⟩

end Serving
