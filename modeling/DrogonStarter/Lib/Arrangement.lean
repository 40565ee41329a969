import Mathlib.Data.List.Sort
import Mathlib.Logic.Equiv.Basic

/-!
# The orders of rows whose keys may tie

Rows that are sorted by a key can stand in several orders when two of them share a key.
An `Arrangement` is one of these orders, and `slice` is a part of it by position.

* `Arrangement.slice_keys` says that the keys of a slice do not depend on the arrangement.
* `Arrangement.swap` is the arrangement with two rows of one key exchanged.
* `slices_agree_iff` says when a slice is the same in every arrangement: no row in it
  shares its key.
-/

namespace Ties

universe u v

variable {ρ : Type u} {τ : Type v} [LinearOrder τ] {key : ρ → τ} {rows order order' : List ρ}

/-- The rows in an order that their keys allow. -/
structure Arrangement (key : ρ → τ) (rows order : List ρ) : Prop where
  perm : order.Perm rows
  sorted : order.Pairwise (key · ≤ key ·)

/-- At most `limit` entries, after the first `offset`. -/
def slice {α : Type*} (offset limit : Nat) (l : List α) : List α := (l.drop offset).take limit

/-- The keys of the rows in order. -/
def sortedKeys (key : ρ → τ) (rows : List ρ) : List τ := (rows.map key).insertionSort (· ≤ ·)

/-- At most one of the rows has the key. -/
def Untied (key : ρ → τ) (rows : List ρ) (k : τ) : Prop :=
  ∀ a ∈ rows, ∀ b ∈ rows, key a = k → key b = k → a = b

theorem map_slice {α β : Type*} (f : α → β) (offset limit : Nat) (l : List α) :
    (slice offset limit l).map f = slice offset limit (l.map f) := by
  rw [slice, slice, List.map_take, List.map_drop]

theorem mem_of_mem_slice {α : Type*} {offset limit : Nat} {l : List α} {a : α}
    (h : a ∈ slice offset limit l) : a ∈ l :=
  List.mem_of_mem_drop (List.mem_of_mem_take h)

/-- Lists with the same values under `f` are the same where `f` tells their entries apart. -/
theorem eq_of_map_eq {α β : Type*} {f : α → β} {l l' : List α} (hmap : l.map f = l'.map f)
    (hinj : ∀ a ∈ l, ∀ b ∈ l', f a = f b → a = b) : l = l' := by
  induction l generalizing l' with
  | nil => exact (List.map_eq_nil_iff.1 hmap.symm).symm
  | cons a l ih =>
    cases l' with
    | nil => cases hmap
    | cons b l' =>
      obtain ⟨hhead, htail⟩ := List.cons.inj hmap
      have hab := hinj a List.mem_cons_self b List.mem_cons_self hhead
      have hrest := ih htail fun c hc d hd =>
        hinj c (List.mem_cons_of_mem a hc) d (List.mem_cons_of_mem b hd)
      rw [hab, hrest]

/-- A map that keeps a list keeps each of its entries. -/
theorem apply_eq_of_map_eq {α : Type*} {f : α → α} {l : List α} (h : l.map f = l) {a : α}
    (ha : a ∈ l) : f a = a := by
  have hsame : ∀ b ∈ l, f b = id b := List.map_inj_left.1 (by rw [h, List.map_id])
  exact hsame a ha

/-- Sorting the rows by their keys arranges them. -/
theorem arrangement_insertionSort (key : ρ → τ) (rows : List ρ) :
    Arrangement key rows (rows.insertionSort (key · ≤ key ·)) := by
  have htotal : Std.Total fun a b : ρ => key a ≤ key b := ⟨fun a b => le_total (key a) (key b)⟩
  have htrans : IsTrans ρ fun a b => key a ≤ key b := ⟨fun _ _ _ => le_trans⟩
  exact ⟨List.perm_insertionSort _ rows, List.pairwise_insertionSort _ rows⟩

theorem Arrangement.map_key (h : Arrangement key rows order) :
    order.map key = sortedKeys key rows := by
  have hsorted : (order.map key).Pairwise (· ≤ ·) := List.pairwise_map.2 h.sorted
  have hperm : (order.map key).Perm (sortedKeys key rows) :=
    (h.perm.map key).trans (List.perm_insertionSort _ _).symm
  exact hperm.eq_of_pairwise' hsorted (List.pairwise_insertionSort _ _)

/-- Every arrangement has the same keys in a slice. -/
theorem Arrangement.slice_keys (h : Arrangement key rows order) (offset limit : Nat) :
    (slice offset limit order).map key = slice offset limit (sortedKeys key rows) := by
  rw [map_slice, h.map_key]

section Swap

variable [DecidableEq ρ]

/-- Rows of one key may be exchanged. -/
theorem Arrangement.swap (h : Arrangement key rows order) (hrows : rows.Nodup) {a b : ρ}
    (ha : a ∈ rows) (hb : b ∈ rows) (hkey : key a = key b) :
    Arrangement key rows (order.map (Equiv.swap a b)) := by
  have hsame : ∀ c, key (Equiv.swap a b c) = key c := by
    intro c
    by_cases hca : c = a
    · rw [hca, Equiv.swap_apply_left, hkey]
    · by_cases hcb : c = b
      · rw [hcb, Equiv.swap_apply_right, hkey]
      · rw [Equiv.swap_apply_of_ne_of_ne hca hcb]
  have hmem : ∀ c ∈ rows, Equiv.swap a b c ∈ rows := by
    intro c hc
    by_cases hca : c = a
    · rw [hca, Equiv.swap_apply_left]
      exact hb
    · by_cases hcb : c = b
      · rw [hcb, Equiv.swap_apply_right]
        exact ha
      · rwa [Equiv.swap_apply_of_ne_of_ne hca hcb]
  have hnodup : (order.map (Equiv.swap a b)).Nodup :=
    (h.perm.nodup_iff.2 hrows).map (Equiv.swap a b).injective
  refine ⟨(List.perm_ext_iff_of_nodup hnodup hrows).2 fun c => ?_, ?_⟩
  · rw [List.mem_map]
    constructor
    · rintro ⟨d, hd, rfl⟩
      exact hmem d (h.perm.mem_iff.1 hd)
    · intro hc
      exact ⟨Equiv.swap a b c, h.perm.mem_iff.2 (hmem c hc), Equiv.swap_apply_self a b c⟩
  · rw [List.pairwise_map]
    simpa only [hsame] using h.sorted

end Swap

/-- A slice is the same in every arrangement exactly when no row in it shares its key. -/
theorem slices_agree_iff (key : ρ → τ) (hrows : rows.Nodup) (offset limit : Nat) :
    (∀ order order', Arrangement key rows order → Arrangement key rows order' →
        slice offset limit order = slice offset limit order') ↔
      ∀ k ∈ slice offset limit (sortedKeys key rows), Untied key rows k := by
  classical
  constructor
  · intro hagree k hk a ha b hb hka hkb
    have harranged := arrangement_insertionSort key rows
    rw [← harranged.slice_keys] at hk
    obtain ⟨c, hc, rfl⟩ := List.mem_map.1 hk
    have hcrows := harranged.perm.mem_iff.1 (mem_of_mem_slice hc)
    -- A row of the slice stays where it is when it is exchanged with one of its key.
    have hfixed : ∀ d ∈ rows, key d = key c → d = c := by
      intro d hd hkey
      have hslice := hagree _ _ (harranged.swap hrows hcrows hd hkey.symm) harranged
      rw [← map_slice] at hslice
      have hswap := apply_eq_of_map_eq hslice hc
      rwa [Equiv.swap_apply_left] at hswap
    rw [hfixed a ha hka, hfixed b hb hkb]
  · intro huntied order order' h h'
    refine eq_of_map_eq (f := key) (by rw [h.slice_keys, h'.slice_keys]) ?_
    intro a ha b hb hkey
    refine huntied (key b) ?_ a (h.perm.mem_iff.1 (mem_of_mem_slice ha)) b
      (h'.perm.mem_iff.1 (mem_of_mem_slice hb)) hkey rfl
    rw [← h'.slice_keys]
    exact List.mem_map_of_mem hb

end Ties
