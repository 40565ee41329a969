import Mathlib.Data.List.Basic

/-!
# Servers, their answers and what the answers depend on

A `Server` takes one request after another: each request gets an answer and
leads to the next state.  `Server.answers` are the answers to a list of
requests.

* `Server.Along ok` says that every request of a list meets `ok` in the state
  that it finds, and `along_iff_splits` says it without the recursion.
* `Server.answers_forall` is the induction for what is true of every answer.
* `Unwinding` is the argument for two runs: a relation that every request
  keeps, and under which a request that meets `ok` gets one answer.
* `Purging` is the argument for a run and its visible requests alone: the other
  requests lead to a state that looks like the one before.
-/

namespace Serving

universe u v w

/-- A server that answers every request. -/
structure Server (σ : Type u) (ι : Type v) (ο : Type w) where
  next : σ → ι → σ
  answer : σ → ι → ο

namespace Server

variable {σ : Type u} {ι : Type v} {ο : Type w} (m : Server σ ι ο)

/-- The state after the requests. -/
def after (s : σ) (requests : List ι) : σ := requests.foldl m.next s

/-- The answers to the requests, in order. -/
def answers : σ → List ι → List ο
  | _, [] => []
  | s, i :: rest => m.answer s i :: answers (m.next s i) rest

/-- Every request meets `ok` in the state that it finds. -/
def Along (ok : σ → ι → Prop) : σ → List ι → Prop
  | _, [] => True
  | s, i :: rest => ok s i ∧ Along ok (m.next s i) rest

variable {m}

@[simp] theorem after_cons (s : σ) (i : ι) (rest : List ι) :
    m.after s (i :: rest) = m.after (m.next s i) rest := rfl

theorem length_answers (s : σ) (requests : List ι) :
    (m.answers s requests).length = requests.length := by
  induction requests generalizing s with
  | nil => rfl
  | cons i rest ih => simp only [answers, List.length_cons, ih]

theorem answers_append (s : σ) (before rest : List ι) :
    m.answers s (before ++ rest) = m.answers s before ++ m.answers (m.after s before) rest := by
  induction before generalizing s with
  | nil => rfl
  | cons i before ih => simp only [List.cons_append, answers, after_cons, ih]

theorem after_append (s : σ) (before rest : List ι) :
    m.after s (before ++ rest) = m.after (m.after s before) rest :=
  List.foldl_append

theorem along_append (ok : σ → ι → Prop) (s : σ) (before rest : List ι) :
    m.Along ok s (before ++ rest) ↔ m.Along ok s before ∧ m.Along ok (m.after s before) rest := by
  induction before generalizing s with
  | nil => exact (iff_of_eq (true_and _)).symm
  | cons i before ih => exact (and_congr_right fun _ => ih (m.next s i)).trans and_assoc.symm

/-- A condition along a run is a condition on each of its requests. -/
theorem along_iff_splits (ok : σ → ι → Prop) {s : σ} {requests : List ι} :
    m.Along ok s requests ↔
      ∀ before i rest, requests = before ++ i :: rest → ok (m.after s before) i := by
  induction requests generalizing s with
  | nil =>
    refine iff_of_true trivial ?_
    intro before i rest hsplit
    simp at hsplit
  | cons j tail ih =>
    rw [Along, ih]
    constructor
    · intro h before i rest hsplit
      cases before with
      | nil =>
        cases hsplit
        exact h.1
      | cons k before =>
        cases hsplit
        exact h.2 before i rest rfl
    · intro h
      refine ⟨h [] j tail rfl, ?_⟩
      intro before i rest hsplit
      exact h (j :: before) i rest (by rw [hsplit]; rfl)

/-- The answers of a run, when an invariant holds where it starts. -/
theorem answers_forall {ok : σ → ι → Prop} (inv : σ → Prop) {good : ο → Prop}
    (hnext : ∀ s i, inv s → ok s i → inv (m.next s i))
    (hanswer : ∀ s i, inv s → ok s i → good (m.answer s i)) {s : σ} {requests : List ι}
    (hinv : inv s) (halong : m.Along ok s requests) :
    ∀ o ∈ m.answers s requests, good o := by
  induction requests generalizing s with
  | nil =>
    intro o ho
    simp [answers] at ho
  | cons i rest ih =>
    intro o ho
    rcases List.mem_cons.1 ho with rfl | htail
    · exact hanswer s i hinv halong.1
    · exact ih (hnext s i hinv halong.1) halong.2 o htail

/-- The answer to each request is among the answers. -/
theorem answer_mem_answers (s : σ) (before : List ι) (i : ι) (rest : List ι) :
    m.answer (m.after s before) i ∈ m.answers s (before ++ i :: rest) := by
  rw [answers_append]
  exact List.mem_append_right _ List.mem_cons_self

/-- Two runs with the same answers give each request the same answer. -/
theorem answer_eq_of_answers_eq {m' : Server σ ι ο} {s s' : σ} {before : List ι} {i : ι}
    {rest : List ι}
    (h : m.answers s (before ++ i :: rest) = m'.answers s' (before ++ i :: rest)) :
    m.answer (m.after s before) i = m'.answer (m'.after s' before) i := by
  rw [answers_append, answers_append] at h
  have hlength : (m.answers s before).length = (m'.answers s' before).length := by
    rw [length_answers, length_answers]
  have htails := List.append_inj_right h hlength
  exact (List.cons.inj htails).1

end Server

open Server

/-- Two servers that cannot be told apart by the answers to the requests that
meet `ok`: `same` relates the states that look alike. -/
structure Unwinding {σ : Type u} {ι : Type v} {ο : Type w} (m m' : Server σ ι ο)
    (same : σ → σ → Prop) (ok : σ → ι → Prop) : Prop where
  next : ∀ s s' i, same s s' → same (m.next s i) (m'.next s' i)
  answer : ∀ s s' i, same s s' → ok s i → m.answer s i = m'.answer s' i

namespace Unwinding

variable {σ : Type u} {ι : Type v} {ο : Type w} {m m' : Server σ ι ο}
  {same : σ → σ → Prop} {ok : σ → ι → Prop}

theorem after (h : Unwinding m m' same ok) {s s' : σ} (hsame : same s s')
    (requests : List ι) : same (m.after s requests) (m'.after s' requests) := by
  induction requests generalizing s s' with
  | nil => exact hsame
  | cons i rest ih => exact ih (h.next s s' i hsame)

/-- Runs from states that look alike have the same answers. -/
theorem answers_eq (h : Unwinding m m' same ok) {s s' : σ} (hsame : same s s')
    {requests : List ι} (halong : m.Along ok s requests) :
    m.answers s requests = m'.answers s' requests := by
  induction requests generalizing s s' with
  | nil => rfl
  | cons i rest ih =>
    rw [answers, answers, h.answer s s' i hsame halong.1,
      ih (h.next s s' i hsame) halong.2]

end Unwinding

/-! ## Requests that leave no trace -/

/-- The answers to the requests that `visible` picks out, in the run of all of them. -/
def Server.answersTo (m : Server σ ι ο) (visible : ι → Bool) : σ → List ι → List ο
  | _, [] => []
  | s, i :: rest =>
    if visible i then m.answer s i :: m.answersTo visible (m.next s i) rest
    else m.answersTo visible (m.next s i) rest

/-- A server on which the requests that are not `visible` and are `quiet` leave no trace for
the others: `same` relates the states that look alike to the visible requests. -/
structure Purging {σ : Type u} {ι : Type v} {ο : Type w} (m : Server σ ι ο)
    (same : σ → σ → Prop) (visible : ι → Bool) (quiet : ι → Prop) : Prop where
  next : ∀ s s' i, same s s' → visible i = true → same (m.next s i) (m.next s' i)
  answer : ∀ s s' i, same s s' → visible i = true → m.answer s i = m.answer s' i
  hidden : ∀ s s' i, same s s' → visible i = false → quiet i → same (m.next s i) s'

namespace Purging

variable {σ : Type u} {ι : Type v} {ο : Type w} {m : Server σ ι ο} {same : σ → σ → Prop}
  {visible : ι → Bool} {quiet : ι → Prop}

/-- A run, and the run of its visible requests alone. -/
theorem run (h : Purging m same visible quiet) {s s' : σ} (hsame : same s s')
    {requests : List ι} (hquiet : ∀ i ∈ requests, visible i = false → quiet i) :
    same (m.after s requests) (m.after s' (requests.filter visible)) ∧
      m.answersTo visible s requests = m.answers s' (requests.filter visible) := by
  induction requests generalizing s s' with
  | nil => exact ⟨hsame, rfl⟩
  | cons i rest ih =>
    have hrest : ∀ j ∈ rest, visible j = false → quiet j :=
      fun j hj => hquiet j (List.mem_cons_of_mem i hj)
    cases hvisible : visible i with
    | true =>
      obtain ⟨hafter, hanswers⟩ := ih (h.next s s' i hsame hvisible) hrest
      rw [List.filter_cons_of_pos hvisible, Server.answersTo, if_pos hvisible, Server.answers,
        h.answer s s' i hsame hvisible, hanswers]
      exact ⟨hafter, rfl⟩
    | false =>
      have hnext := h.hidden s s' i hsame hvisible (hquiet i List.mem_cons_self hvisible)
      have hskip : ¬ visible i = true := by rw [hvisible]; exact Bool.false_ne_true
      rw [List.filter_cons_of_neg hskip, Server.answersTo, if_neg hskip]
      exact ih hnext hrest

end Purging

end Serving
