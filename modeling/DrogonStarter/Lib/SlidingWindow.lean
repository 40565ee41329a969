import Mathlib.Algebra.Order.Monoid.Defs
import Mathlib.Data.List.Count
import Mathlib.Data.List.Induction
import Mathlib.Data.List.TakeWhile

/-!
# Sliding windows over readings of a clock

A window of width `W` that ends at `t` holds the readings `r` with
`t - W < r ≤ t`.  Readings are points of any ordered additive type, so the
window is written without a subtraction.

* `Within` is membership in a window, and `load` counts the readings of a list
  that are in one.
* `Bounded` says that no window holds more than `n` readings.
* `Near` says that some window holds both of two readings.  `Bounded.concat`
  is the one step that a limiter has to justify: a new reading is harmless
  when fewer than `n` readings are near it.
* `expire` drops the front of a queue that a window has left behind.
-/

namespace SlidingWindow

variable {τ : Type*} [AddCommMonoid τ] [LinearOrder τ]

/-- The reading `r` is in the window of width `W` that ends at `t`. -/
def Within (W t r : τ) : Prop := r ≤ t ∧ t < r + W

/-- Some window of width `W` holds both readings. -/
def Near (W a b : τ) : Prop := a < b + W ∧ b < a + W

instance (W t r : τ) : Decidable (Within W t r) := inferInstanceAs (Decidable (_ ∧ _))

instance (W a b : τ) : Decidable (Near W a b) := inferInstanceAs (Decidable (_ ∧ _))

/-- How many of the readings are in the window that ends at `t`. -/
def load (W t : τ) (readings : List τ) : Nat := readings.countP (Within W t ·)

/-- No window holds more than `n` of the readings. -/
def Bounded (n : Nat) (W : τ) (readings : List τ) : Prop := ∀ t, load W t readings ≤ n

/-- What is left of a queue when the window ends at `now`. -/
def expire (W now : τ) (queue : List τ) : List τ := queue.dropWhile (· + W ≤ now)

theorem Within.near {W t a b : τ} (ha : Within W t a) (hb : Within W t b) : Near W a b :=
  ⟨lt_of_le_of_lt ha.1 hb.2, lt_of_le_of_lt hb.1 ha.2⟩

theorem Near.symm {W a b : τ} (h : Near W a b) : Near W b a := ⟨h.2, h.1⟩

@[simp] theorem load_nil (W t : τ) : load W t [] = 0 := rfl

theorem load_append (W t : τ) (left right : List τ) :
    load W t (left ++ right) = load W t left + load W t right :=
  List.countP_append

theorem load_singleton (W t r : τ) : load W t [r] = if Within W t r then 1 else 0 := by
  rw [load, List.countP_singleton]
  by_cases h : Within W t r <;> simp [h]

theorem bounded_nil (n : Nat) (W : τ) : Bounded n W [] := fun _ => Nat.zero_le n

/-- A window without width is empty. -/
theorem not_within_zero (t r : τ) : ¬ Within 0 t r := fun h =>
  absurd h.2 (by rw [add_zero]; exact not_lt.2 h.1)

theorem bounded_zero (n : Nat) (readings : List τ) : Bounded n 0 readings := by
  intro t
  have hnone : load 0 t readings = 0 := by
    rw [load, List.countP_eq_zero]
    intro r _
    simpa using not_within_zero t r
  rw [hnone]
  exact Nat.zero_le n

/-- A reading that is near fewer than `n` of the others keeps the bound. -/
theorem Bounded.concat {n : Nat} {W now : τ} {readings : List τ} (h : Bounded n W readings)
    (hnear : readings.countP (Near W now ·) < n) : Bounded n W (readings ++ [now]) := by
  intro t
  rw [load_append, load_singleton]
  by_cases hnow : Within W t now
  · -- The window holds `now`, so everything else in it is near `now`.
    have hle : load W t readings ≤ readings.countP (Near W now ·) := by
      refine List.countP_mono_left fun r _ hr => ?_
      simp only [decide_eq_true_eq] at hr ⊢
      exact hnow.near hr
    rw [if_pos hnow]
    omega
  · rw [if_neg hnow]
    exact h t

/-- Readings that are a window apart never share one. -/
theorem bounded_one_of_spaced {W : τ} {readings : List τ}
    (h : readings.Pairwise (· + W ≤ ·)) : Bounded 1 W readings := by
  induction readings using List.reverseRecOn with
  | nil => exact bounded_nil 1 W
  | append_singleton before now ih =>
    rw [List.pairwise_append] at h
    refine (ih h.1).concat ?_
    have hnone : before.countP (Near W now ·) = 0 := by
      rw [List.countP_eq_zero]
      intro r hr
      simpa using fun hnear : Near W now r =>
        absurd hnear.1 (not_lt.2 (h.2.2 r hr now List.mem_cons_self))
    rw [hnone]
    exact Nat.one_pos

/-- Only the readings of `live` can be near `now` when all others are far from it. -/
theorem countP_near_le {W now : τ} {dropped live : List τ}
    (hfar : ∀ r ∈ dropped, ¬ Near W now r) :
    (dropped ++ live).countP (Near W now ·) ≤ live.length := by
  have hdropped : dropped.countP (Near W now ·) = 0 := by
    rw [List.countP_eq_zero]
    intro r hr
    simpa using hfar r hr
  rw [List.countP_append, hdropped, Nat.zero_add]
  exact List.countP_le_length

/-- An expired queue is a queue without its front, and the window has left the front behind. -/
theorem expire_split (W now : τ) (queue : List τ) :
    ∃ front, queue = front ++ expire W now queue ∧ ∀ r ∈ front, r + W ≤ now := by
  refine ⟨queue.takeWhile (· + W ≤ now), (List.takeWhile_append_dropWhile).symm, ?_⟩
  intro r hr
  simpa using List.mem_takeWhile_imp hr

/-- Nothing in the front is near the end of the window that it was dropped for. -/
theorem not_near_of_add_le {W now r : τ} (h : r + W ≤ now) : ¬ Near W now r := fun hnear =>
  absurd hnear.1 (not_lt.2 h)

/-- In a queue in the order of its readings every reading that is left is in the window. -/
theorem lt_of_mem_expire [IsOrderedAddMonoid τ] {W now : τ} {queue : List τ}
    (hsorted : queue.Pairwise (· ≤ ·)) {r : τ} (hr : r ∈ expire W now queue) : now < r + W := by
  induction queue with
  | nil => cases hr
  | cons first rest ih =>
    rw [List.pairwise_cons] at hsorted
    unfold expire at hr
    rw [List.dropWhile_cons] at hr
    split_ifs at hr with hfirst
    · exact ih hsorted.2 hr
    · rw [decide_eq_true_eq, not_le] at hfirst
      rcases List.mem_cons.1 hr with rfl | hrest
      · exact hfirst
      · exact lt_of_lt_of_le hfirst (by gcongr; exact hsorted.1 r hrest)

/-- All that is left of a queue in order is in the window. -/
theorem load_expire [IsOrderedAddMonoid τ] {W now : τ} {queue : List τ}
    (hsorted : queue.Pairwise (· ≤ ·)) (hpast : ∀ r ∈ queue, r ≤ now) :
    load W now (expire W now queue) = (expire W now queue).length := by
  rw [load, List.countP_eq_length]
  intro r hr
  have hwithin : Within W now r :=
    ⟨hpast r ((List.dropWhile_sublist _).subset hr), lt_of_mem_expire hsorted hr⟩
  simpa using hwithin

/-- A window holds nothing that it has left behind. -/
theorem load_of_left_behind {W now : τ} {gone : List τ} (h : ∀ r ∈ gone, r + W ≤ now) :
    load W now gone = 0 := by
  rw [load, List.countP_eq_zero]
  intro r hr
  simpa using fun hwithin : Within W now r => absurd hwithin.2 (not_lt.2 (h r hr))

/-- What is left of a queue is as much as the window holds of all the readings, when those
that are not in the queue are left behind. -/
theorem load_eq_length_expire [IsOrderedAddMonoid τ] {W now : τ} {gone queue : List τ}
    (hgone : ∀ r ∈ gone, r + W ≤ now) (hsorted : queue.Pairwise (· ≤ ·))
    (hpast : ∀ r ∈ queue, r ≤ now) :
    load W now (gone ++ queue) = (expire W now queue).length := by
  obtain ⟨front, hsplit, hfront⟩ := expire_split W now queue
  have hqueue : load W now queue = load W now front + load W now (expire W now queue) := by
    conv_lhs => rw [hsplit]
    exact load_append ..
  rw [load_append, load_of_left_behind hgone, hqueue, load_of_left_behind hfront,
    load_expire hsorted hpast, Nat.zero_add, Nat.zero_add]

end SlidingWindow
