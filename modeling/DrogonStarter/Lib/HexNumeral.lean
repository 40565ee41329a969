import DrogonStarter.Lib.Number
import Mathlib.Data.List.Basic

/-!
# Hexadecimal numerals

What `std::hex` prints for a number: lower-case digits.

* `isLowerHexDigit` are these digits, and `isLowerHexDigit_of_mem_toDigits` says that a numeral
  has no other characters.
* `eq_zero_of_toDigits` says that only zero is printed as zeros.
-/

namespace CppNumber

/-- A digit that `std::hex` prints. -/
def isLowerHexDigit (c : Char) : Bool := c.isDigit || ('a' ≤ c && c ≤ 'f')

theorem isHexDigit_of_isLowerHexDigit {c : Char} (h : isLowerHexDigit c = true) :
    isHexDigit c = true := by
  unfold isLowerHexDigit at h
  rw [isHexDigit, h, Bool.true_or]

theorem isLowerHexDigit_of_isHexDigit {c : Char} (h : isHexDigit c = true)
    (hupper : ¬ ('A' ≤ c ∧ c ≤ 'F')) : isLowerHexDigit c = true := by
  have hnot : ('A' ≤ c && c ≤ 'F') = false := by simpa using hupper
  rw [isHexDigit, hnot, Bool.or_false] at h
  exact h

/-- An upper-case digit is not one of the others. -/
theorem not_upper_of_isLowerHexDigit {c : Char} (h : isLowerHexDigit c = true) :
    ¬ ('A' ≤ c ∧ c ≤ 'F') := by
  rintro ⟨hfirst, hlast⟩
  simp only [isLowerHexDigit, Char.isDigit, Bool.or_eq_true, Bool.and_eq_true, decide_eq_true_eq,
    Char.le_def, UInt32.le_iff_toNat_le, UInt32.reduceToNat, Char.reduceVal] at h hfirst hlast
  omega

/-- The sixteen digits. -/
theorem digitChar_hex {d : Nat} (hd : d < 16) :
    isLowerHexDigit d.digitChar = true ∧ (d.digitChar = '0' → d = 0) := by
  have hall : ∀ d : Fin 16, isLowerHexDigit (d : Nat).digitChar = true ∧
      ((d : Nat).digitChar = '0' → (d : Nat) = 0) := by decide
  exact hall ⟨d, hd⟩

theorem isLowerHexDigit_of_mem_toDigits {c : Char} {n : Nat} (h : c ∈ Nat.toDigits 16 n) :
    isLowerHexDigit c = true := by
  induction n using Nat.strongRecOn with
  | _ n ih =>
    by_cases hsmall : n < 16
    · rw [Nat.toDigits_of_lt_base hsmall, List.mem_singleton] at h
      rw [h]
      exact (digitChar_hex hsmall).1
    · rw [Nat.toDigits_of_base_le (by decide) (not_lt.1 hsmall), List.mem_append,
        List.mem_singleton] at h
      rcases h with hrest | rfl
      · exact ih (n / 16) (Nat.div_lt_self (by omega) (by decide)) hrest
      · exact (digitChar_hex (Nat.mod_lt n (by decide))).1

/-- Only zero has no other digit. -/
theorem eq_zero_of_toDigits {n : Nat} (h : ∀ c ∈ Nat.toDigits 16 n, c = '0') : n = 0 := by
  induction n using Nat.strongRecOn with
  | _ n ih =>
    by_cases hsmall : n < 16
    · rw [Nat.toDigits_of_lt_base hsmall] at h
      exact (digitChar_hex hsmall).2 (h _ List.mem_cons_self)
    · rw [Nat.toDigits_of_base_le (by decide) (not_lt.1 hsmall)] at h
      have hquotient : n / 16 = 0 := ih (n / 16) (Nat.div_lt_self (by omega) (by decide))
        fun c hc => h c (List.mem_append_left _ hc)
      omega

end CppNumber
