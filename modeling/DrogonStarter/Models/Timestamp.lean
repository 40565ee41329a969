import DrogonStarter.Lib.FixedPoint
import DrogonStarter.Models.ModelClasses

/-!
# The fraction of a second

Every date column reads its microseconds in one way: the text after the point is filled with
zeros up to six characters, and `atol` reads the number at its start.

* `decimalNum_eq` is what is read from digits and what follows them.
* `readDate_exact_iff` says for which texts that is the fraction that the digits write.
-/

namespace DrogonStarter

open CppNumber

namespace ModelLibrary

theorem naturalValue_append_zeros (digits : List Char) (n : Nat) :
    naturalValue 10 (digits ++ List.replicate n '0') = naturalValue 10 digits * 10 ^ n := by
  have hzeros : List.replicate n '0' = paddedDigits n 0 := by
    induction n with
    | zero => rfl
    | succ n ih => rw [List.replicate_succ', ih]; rfl
  rw [hzeros, naturalValue_append_padded, Nat.zero_mod, Nat.add_zero]

theorem sum_utf8Size_of_digits {digits : List Char} (h : ∀ c ∈ digits, c.isDigit = true) :
    (digits.map Char.utf8Size).sum = digits.length := by
  induction digits with
  | nil => rfl
  | cons c digits ih =>
    obtain ⟨hc, hdigits⟩ := List.forall_mem_cons.1 h
    have hsize : c.utf8Size = 1 := by
      have hrange : 48 ≤ c.val.toNat ∧ c.val.toNat ≤ 57 := by
        simpa [Char.isDigit, UInt32.le_iff_toNat_le] using hc
      rw [Char.utf8Size_eq_one_iff, UInt32.le_iff_toNat_le]
      exact hrange.2.trans (by decide)
    rw [List.map_cons, List.sum_cons, hsize, ih hdigits, List.length_cons, Nat.add_comm]

/-- `atol` of a text that starts with digits. -/
theorem atol_of_digits {text digits rest : List Char} (htext : text = digits ++ rest)
    (hne : digits ≠ []) (hdigits : ∀ c ∈ digits, c.isDigit = true)
    (hrest : ∀ c ∈ rest.head?, c.isDigit = false) :
    atol (String.ofList text) = min (2 ^ 63 - 1) (naturalValue 10 digits : Int) := by
  obtain ⟨c, tail, rfl⟩ := List.exists_cons_of_ne_nil hne
  have hc : c.isDigit = true := hdigits c List.mem_cons_self
  have hspace : text.dropWhile isSpace = text := by
    rw [htext, List.cons_append, List.dropWhile_cons, (not_space_not_sign hc).1,
      if_neg Bool.false_ne_true]
  have hsign : takeSign text = (false, text) := by
    rw [htext, List.cons_append]
    exact takeSign_of_digit hc _
  have htake : text.takeWhile Char.isDigit = c :: tail := by
    rw [htext, List.takeWhile_append_of_pos hdigits]
    cases rest with
    | nil => rw [List.takeWhile_nil, List.append_nil]
    | cons d rest =>
      have hd : ¬ d.isDigit = true := by simp [hrest d rfl]
      rw [List.takeWhile_cons_of_neg hd, List.append_nil]
  have hparsed : signedDigits (String.ofList text) = (false, c :: tail) := by
    rw [signedDigits, String.toList_ofList, hspace, hsign, htake]
  rw [atol, hparsed]
  simp only [applySign, Bool.false_eq_true, if_false]
  omega

variable {digits zone : List Char}

/-- The zeros fill the fraction when nothing follows it, and are not read otherwise. -/
theorem decimalNum_eq (hne : digits ≠ []) (hdigits : ∀ c ∈ digits, c.isDigit = true)
    (hzone : ∀ c ∈ zone.head?, c.isDigit = false) :
    decimalNum ('.' :: (digits ++ zone)) =
      min (2 ^ 63 - 1) ((naturalValue 10 digits *
        10 ^ (if zone = [] then 6 - digits.length else 0) : Nat) : Int) := by
  rw [decimalNum]
  cases zone with
  | nil =>
    have hzeros : ∀ c ∈ digits ++ List.replicate (6 - digits.length) '0', c.isDigit = true := by
      intro c hc
      rcases List.mem_append.1 hc with hc | hc
      · exact hdigits c hc
      · rw [List.eq_of_mem_replicate hc]
        decide
    rw [List.append_nil, padded, sum_utf8Size_of_digits hdigits,
      atol_of_digits (List.append_nil _).symm (List.append_ne_nil_of_left_ne_nil hne _) hzeros
        nofun, naturalValue_append_zeros, if_pos rfl]
  | cons c zone =>
    rw [padded, atol_of_digits (List.append_assoc _ _ _) hne hdigits hzone, if_neg (by simp),
      Nat.pow_zero, Nat.mul_one]

/-- A number that is read without the zeros is the fraction when it has six digits. -/
theorem min_mul_pow_iff {value length : Nat} (hbound : value < 10 ^ length) :
    min (2 ^ 63 - 1) (value : Int) * 10 ^ length = value * 10 ^ 6 ↔ value = 0 ∨ length = 6 := by
  have hpower : (0 : Int) < 10 ^ length := by positivity
  have hvalue : (value : Int) < 10 ^ length := by exact_mod_cast hbound
  constructor
  · intro heq
    by_contra hne
    obtain ⟨hzero, hlength⟩ := not_or.1 hne
    rcases le_total (value : Int) (2 ^ 63 - 1) with hsmall | hlarge
    · rw [min_eq_right hsmall] at heq
      have hpowers : (10 : Int) ^ length = 10 ^ 6 :=
        mul_left_cancel₀ (by exact_mod_cast hzero) heq
      exact hlength (Nat.pow_right_injective (le_refl 10 |>.trans' (by decide))
        (by exact_mod_cast hpowers))
    · rw [min_eq_left hlarge] at heq
      nlinarith
  · rintro (rfl | rfl)
    · simp
    · rw [min_eq_right (by omega)]

/-- The number that is read is the fraction in microseconds when there are six digits, or fewer
and nothing after them. -/
theorem decimalNum_exact_iff (hne : digits ≠ []) (hdigits : ∀ c ∈ digits, c.isDigit = true)
    (hzone : ∀ c ∈ zone.head?, c.isDigit = false) :
    decimalNum ('.' :: (digits ++ zone)) * 10 ^ digits.length =
        naturalValue 10 digits * 10 ^ 6 ↔
      naturalValue 10 digits = 0 ∨ digits.length = 6 ∨ (zone = [] ∧ digits.length < 6) := by
  have hbound := naturalValue_lt hdigits
  rw [decimalNum_eq hne hdigits hzone]
  generalize naturalValue 10 digits = value at *
  generalize digits.length = length at *
  by_cases hfilled : zone = [] ∧ length < 6
  · obtain ⟨rfl, hshort⟩ := hfilled
    have hsplit : 10 ^ length * 10 ^ (6 - length) = 10 ^ 6 := by
      rw [← Nat.pow_add, Nat.add_sub_cancel' hshort.le]
    have hsmall : value * 10 ^ (6 - length) < 10 ^ 6 := by
      rw [← hsplit]
      exact Nat.mul_lt_mul_of_pos_right hbound (by positivity)
    refine iff_of_true ?_ (Or.inr (Or.inr ⟨rfl, hshort⟩))
    rw [if_pos rfl, min_eq_right (by omega)]
    have hproduct : value * 10 ^ (6 - length) * 10 ^ length = value * 10 ^ 6 := by
      rw [Nat.mul_assoc, Nat.mul_comm (10 ^ (6 - length)), hsplit]
    exact_mod_cast hproduct
  · have hexponent : (if zone = [] then 6 - length else 0) = 0 := by
      split
      · rename_i hnil
        exact Nat.sub_eq_zero_of_le (not_lt.1 fun hshort => hfilled ⟨hnil, hshort⟩)
      · rfl
    rw [hexponent, Nat.pow_zero, Nat.mul_one, min_mul_pow_iff hbound]
    simp only [hfilled, or_false]

/-- The microseconds after a second, in 64 bits, are what was read or lie before the second. -/
theorem microseconds_cases {t decimals : Int} (ht : |t| ≤ 2 ^ 40) (hdecimals : 0 ≤ decimals)
    (hmax : decimals ≤ 2 ^ 63 - 1) :
    microseconds t decimals = t * 1000000 + decimals ∨
      (microseconds t decimals < t * 1000000 ∧ 2 ^ 62 < decimals) := by
  obtain ⟨hlow, hhigh⟩ := abs_le.1 ht
  unfold microseconds
  by_cases hfits : t * 1000000 + decimals < 2 ^ 63
  · left
    exact Int.bmod_eq_of_le (by omega) (by omega)
  · right
    have hwrapped : Int.bmod (t * 1000000 + decimals) (2 ^ 64) =
        t * 1000000 + decimals - 2 ^ 64 := by
      refine (Int.bmod_eq_iff (by decide)).2 ⟨by omega, by omega, -1, by omega⟩
    rw [hwrapped]
    constructor <;> omega

end ModelLibrary

end DrogonStarter
