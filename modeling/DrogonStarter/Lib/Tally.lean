import Mathlib.Algebra.GroupWithZero.Nat
import Mathlib.Data.List.Count

/-!
# Totals over a list

`tally f l` adds up a number for each element of `l`.  A step that appends an
element or replaces one changes the total by that element alone, which is what
`tally_concat` and `tally_set` say.  `countP_lt_countP` compares two counts.
-/

universe u

variable {α : Type u}

/-- The sum of `f` over the elements of `l`. -/
def tally (f : α → Nat) (l : List α) : Nat := (l.map f).sum

@[simp] theorem tally_nil (f : α → Nat) : tally f [] = 0 := rfl

@[simp] theorem tally_cons (f : α → Nat) (a : α) (l : List α) :
    tally f (a :: l) = f a + tally f l := by
  simp [tally]

@[simp] theorem tally_append (f : α → Nat) (l l' : List α) :
    tally f (l ++ l') = tally f l + tally f l' := by
  simp [tally]

theorem tally_concat (f : α → Nat) (l : List α) (a : α) :
    tally f (l ++ [a]) = tally f l + f a := by
  rw [tally_append, tally_cons, tally_nil, Nat.add_zero]

/-- The element `a` at position `i` is exchanged for `b`. -/
theorem tally_set {f : α → Nat} {l : List α} {i : Nat} {a : α} (b : α)
    (h : l[i]? = some a) : tally f (l.set i b) + f a = tally f l + f b := by
  induction l generalizing i with
  | nil => simp at h
  | cons x l ih =>
    cases i with
    | zero =>
      have hx : x = a := by simpa using h
      simp only [List.set_cons_zero, tally_cons, hx]
      omega
    | succ i =>
      have hrest := ih (i := i) (by simpa using h)
      simp only [List.set_cons_succ, tally_cons]
      omega

/-- The element at position `i` is taken out. -/
theorem tally_eraseIdx {f : α → Nat} {l : List α} {i : Nat} {a : α} (h : l[i]? = some a) :
    tally f (l.eraseIdx i) + f a = tally f l := by
  induction l generalizing i with
  | nil => simp at h
  | cons x l ih =>
    cases i with
    | zero =>
      have hx : x = a := by simpa using h
      simp only [List.eraseIdx_cons_zero, tally_cons, hx]
      omega
    | succ i =>
      have hrest := ih (i := i) (by simpa using h)
      simp only [List.eraseIdx_cons_succ, tally_cons]
      omega

theorem tally_eq_of_forall {f g : α → Nat} {l : List α} (h : ∀ a ∈ l, f a = g a) :
    tally f l = tally g l := by
  unfold tally
  rw [List.map_congr_left h]

theorem tally_le_of_forall {f g : α → Nat} {l : List α} (h : ∀ a ∈ l, f a ≤ g a) :
    tally f l ≤ tally g l := by
  induction l with
  | nil => exact Nat.le_refl _
  | cons a l ih =>
    rw [tally_cons, tally_cons]
    exact Nat.add_le_add (h a List.mem_cons_self) (ih fun b hb => h b (List.mem_cons_of_mem a hb))

theorem tally_eq_zero {f : α → Nat} {l : List α} : tally f l = 0 ↔ ∀ a ∈ l, f a = 0 := by
  induction l with
  | nil => simp
  | cons a l ih => simp [ih]

/-- A weaker test counts more as soon as it accepts something new. -/
theorem countP_lt_countP {p q : α → Bool} {l : List α} (hle : ∀ a ∈ l, p a = true → q a = true)
    {a : α} (ha : a ∈ l) (hq : q a = true) (hp : p a = false) : l.countP p < l.countP q := by
  have hsame : l.countP p = (l.filter q).countP p := by
    rw [List.countP_filter]
    refine List.countP_congr fun b hb => ?_
    rw [Bool.and_eq_true]
    exact ⟨fun h => ⟨h, hle b hb h⟩, fun h => h.1⟩
  rw [hsame, List.countP_eq_length_filter (p := q), List.countP_lt_length_iff]
  exact ⟨a, List.mem_filter.2 ⟨ha, hq⟩, hp⟩
