import DrogonStarter.Lib.Unwinding
import Mathlib.Data.List.Nodup
import Mathlib.Logic.Function.Basic

/-!
# Rows with a key, as a map

A table is a list of rows, and each row has at most one key.  `view` reads the list
as a partial map from keys to rows.

* `Keyed` says that every row has a key and no two have the same.
* `view_map` and `view_filter` say that an update and a deletion of the rows with a
  key are `Function.update` on the map, and `Keyed` is kept by both and by an insertion.
* `store` is the map as a server: it looks up, changes and erases one record.
-/

namespace KeyedRows

open Serving

universe u v

section Rows

variable {ρ : Type u} {κ : Type v}

/-- Every row has a key of its own. -/
structure Keyed (key : ρ → Option κ) (rows : List ρ) : Prop where
  total : ∀ row ∈ rows, (key row).isSome
  distinct : (rows.map key).Nodup

section Keys

variable {key : ρ → Option κ}

theorem Keyed.nil : Keyed key ([] : List ρ) := ⟨by simp, by simp⟩

theorem Keyed.filter {rows : List ρ} (h : Keyed key rows) (keep : ρ → Bool) :
    Keyed key (rows.filter keep) where
  total row hrow := h.total row (List.mem_filter.1 hrow).1
  distinct := h.distinct.sublist (List.filter_sublist.map key)

theorem Keyed.concat {rows : List ρ} (h : Keyed key rows) {row : ρ} (hrow : (key row).isSome)
    (hnew : ∀ old ∈ rows, key old ≠ key row) : Keyed key (rows ++ [row]) := by
  constructor
  · intro other hother
    rcases List.mem_append.1 hother with hold | hlast
    · exact h.total other hold
    · rw [List.mem_singleton.1 hlast]
      exact hrow
  · rw [List.map_append, List.nodup_append]
    refine ⟨h.distinct, List.nodup_singleton _, ?_⟩
    intro a ha b hb
    obtain ⟨old, hold, rfl⟩ := List.mem_map.1 ha
    rw [List.map_singleton, List.mem_singleton] at hb
    rw [hb]
    exact hnew old hold

end Keys

variable [DecidableEq κ]

/-- The first row with the key. -/
def view (key : ρ → Option κ) (rows : List ρ) : κ → Option ρ := fun k =>
  rows.find? (key · = some k)

variable {key : ρ → Option κ}

theorem view_cons (row : ρ) (rows : List ρ) (k : κ) :
    view key (row :: rows) k = if key row = some k then some row else view key rows k := by
  rw [view, List.find?_cons]
  by_cases hkey : key row = some k
  · simp [hkey]
  · simp [hkey, view]

theorem key_of_view {rows : List ρ} {k : κ} {row : ρ} (h : view key rows k = some row) :
    key row = some k := by
  simpa using List.find?_some h

theorem view_eq_none_iff {rows : List ρ} {k : κ} :
    view key rows k = none ↔ ∀ row ∈ rows, key row ≠ some k := by
  simp [view, List.find?_eq_none]

/-- The rows with a key are the one that the map has for it. -/
theorem Keyed.filter_eq {rows : List ρ} (h : Keyed key rows) (k : κ) :
    rows.filter (key · = some k) = (view key rows k).toList := by
  have hdistinct := h.distinct
  clear h
  induction rows with
  | nil => rfl
  | cons row rows ih =>
    rw [List.map_cons, List.nodup_cons] at hdistinct
    rw [List.filter_cons, view_cons]
    by_cases hkey : key row = some k
    · have hrest : rows.filter (key · = some k) = [] := by
        refine List.filter_eq_nil_iff.2 fun other hother hsame => ?_
        have hother' : key other = key row := by
          rw [hkey]
          simpa using hsame
        exact hdistinct.1 (hother' ▸ List.mem_map_of_mem hother)
      rw [if_pos (decide_eq_true hkey), if_pos hkey, hrest]
      rfl
    · rw [if_neg (by simpa using hkey), if_neg hkey]
      exact ih hdistinct.2

theorem Keyed.countP_eq {rows : List ρ} (h : Keyed key rows) (k : κ) :
    rows.countP (key · = some k) = (view key rows k).toList.length := by
  rw [List.countP_eq_length_filter, h.filter_eq]

/-- A change of the rows with a key, which leaves the keys as they are. -/
theorem view_map {change : ρ → ρ} (hchange : ∀ row, key (change row) = key row)
    (rows : List ρ) (k : κ) :
    view key (rows.map fun row => if key row = some k then change row else row) =
      Function.update (view key rows) k ((view key rows k).map change) := by
  funext other
  induction rows with
  | nil =>
    by_cases hother : other = k
    · rw [hother, Function.update_self]
      rfl
    · rw [Function.update_of_ne hother]
      rfl
  | cons row rows ih =>
    have hhead : key (if key row = some k then change row else row) = key row := by
      split
      · exact hchange row
      · rfl
    rw [List.map_cons, view_cons, hhead, ih]
    by_cases hother : other = k
    · subst hother
      rw [Function.update_self, Function.update_self, view_cons]
      by_cases hkey : key row = some other
      · rw [if_pos hkey, if_pos hkey, if_pos hkey, Option.map_some]
      · rw [if_neg hkey, if_neg hkey]
    · rw [Function.update_of_ne hother, Function.update_of_ne hother, view_cons]
      by_cases hkey : key row = some other
      · have hne : key row ≠ some k := fun hk => hother (Option.some.inj (hkey.symm.trans hk))
        rw [if_pos hkey, if_pos hkey, if_neg hne]
      · rw [if_neg hkey, if_neg hkey]

/-- A deletion of the rows with a key. -/
theorem view_filter (rows : List ρ) (k : κ) :
    view key (rows.filter (key · ≠ some k)) = Function.update (view key rows) k none := by
  funext other
  by_cases hother : other = k
  · rw [hother, Function.update_self, view_eq_none_iff]
    intro row hrow
    simpa using (List.mem_filter.1 hrow).2
  · rw [Function.update_of_ne hother, view, view, List.find?_filter]
    congr 1
    funext row
    by_cases hkey : key row = some other
    · have hne : some other ≠ some k := fun h => hother (Option.some.inj h)
      simp [hkey, hne]
    · simp [hkey]

/-- A key that no row has. -/
theorem filter_of_view_none {rows : List ρ} {k : κ} (h : view key rows k = none) :
    rows.filter (key · ≠ some k) = rows :=
  List.filter_eq_self.2 fun row hrow => decide_eq_true (view_eq_none_iff.1 h row hrow)

theorem Keyed.map {rows : List ρ} (h : Keyed key rows) {change : ρ → ρ}
    (hchange : ∀ row, key (change row) = key row) (k : κ) :
    Keyed key (rows.map fun row => if key row = some k then change row else row) := by
  have hkey : ∀ row, key (if key row = some k then change row else row) = key row := by
    intro row
    split
    · exact hchange row
    · rfl
  constructor
  · intro row hrow
    obtain ⟨old, hold, rfl⟩ := List.mem_map.1 hrow
    rw [hkey]
    exact h.total old hold
  · have hkeys : (rows.map fun row => if key row = some k then change row else row).map key =
        rows.map key := by
      rw [List.map_map]
      exact List.map_congr_left fun row _ => hkey row
    rw [hkeys]
    exact h.distinct

end Rows

/-! ## The map as a server -/

/-- A request to the map. -/
inductive Call (ρ : Type u) (κ : Type v) where
  | get (k : κ)
  | update (k : κ) (change : ρ → ρ)
  | delete (k : κ)

/-- The key that a request names. -/
def Call.key {ρ : Type u} {κ : Type v} : Call ρ κ → κ
  | .get k => k
  | .update k _ => k
  | .delete k => k

/-- What the map answers. -/
inductive Reply (ρ : Type u) where
  | absent
  | found (record : ρ)
  | updated
  | deleted

/-- The map after a request: a change and a deletion of a key that is not there leave it as
it is. -/
def apply {ρ : Type u} {κ : Type v} [DecidableEq κ] (m : κ → Option ρ) :
    Call ρ κ → (κ → Option ρ)
  | .get _ => m
  | .update k change => Function.update m k ((m k).map change)
  | .delete k => Function.update m k none

def reply {ρ : Type u} {κ : Type v} (m : κ → Option ρ) (call : Call ρ κ) : Reply ρ :=
  match m call.key with
  | none => .absent
  | some record =>
    match call with
    | .get _ => .found record
    | .update _ _ => .updated
    | .delete _ => .deleted

/-- A store of records under their keys. -/
def store (ρ : Type u) (κ : Type v) [DecidableEq κ] : Server (κ → Option ρ) (Call ρ κ) (Reply ρ)
    where
  next := apply
  answer := reply

end KeyedRows
