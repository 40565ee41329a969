import DrogonStarter.Lib.Decimal
import Mathlib.Tactic.IntervalCases

/-!
# Texts that are a decimal number

The conversion functions read a number at the start of a text.  `wholeInteger` and
`wholeDecimal` are defined only on texts that are a decimal number from the first character
to the last.  Where they are defined the conversion functions read that number.

* `stoi_of_wholeInteger`, `stoul_of_wholeInteger` and `stodWith_of_wholeDecimal` are the
  comparisons.
-/

namespace CppNumber

/-- An optional sign and digits. -/
def wholeInteger (text : String) : Option Int :=
  let signed := takeSign text.toList
  if signed.2 ≠ [] ∧ signed.2.all Char.isDigit then
    some (applySign signed.1 (naturalValue 10 signed.2))
  else none

/-- Nothing, or an exponent. -/
def endsDecimal : List Char → Bool
  | [] => true
  | c :: rest => c.toLower = 'e' && (takeSign rest).2 ≠ [] && (takeSign rest).2.all Char.isDigit

/-- An optional sign, digits with at most one point among them, and an optional exponent. -/
def wholeDecimal (text : String) : Option ℚ :=
  let signed := takeSign text.toList
  let mantissa := takeMantissa Char.isDigit signed.2
  let digits := mantissa.1 ++ mantissa.2.1
  if digits ≠ [] ∧ endsDecimal mantissa.2.2 then
    let value := scaleByPower (naturalValue 10 digits) 10
      (takeExponent 'e' mantissa.2.2 - mantissa.2.1.length)
    some (if signed.1 then -value else value)
  else none

/-! ## The first character -/

theorem takeSign_cases (text : List Char) :
    (∃ rest, text = '-' :: rest ∧ takeSign text = (true, rest)) ∨
      (∃ rest, text = '+' :: rest ∧ takeSign text = (false, rest)) ∨
      takeSign text = (false, text) := by
  unfold takeSign
  split
  · exact Or.inl ⟨_, rfl, rfl⟩
  · exact Or.inr (Or.inl ⟨_, rfl, rfl⟩)
  · exact Or.inr (Or.inr rfl)

/-- A text that starts with a number does not start with a space. -/
theorem dropWhile_isSpace_eq {text : List Char} {c : Char} {rest : List Char}
    (hsigned : (takeSign text).2 = c :: rest) (hc : isSpace c = false) :
    text.dropWhile isSpace = text := by
  have hfirst : ∀ {d : Char} {tail : List Char}, text = d :: tail → isSpace d = false →
      text.dropWhile isSpace = text := by
    rintro d tail rfl hd
    rw [List.dropWhile_cons, hd, if_neg Bool.false_ne_true]
  rcases takeSign_cases text with ⟨tail, htext, _⟩ | ⟨tail, htext, _⟩ | hsame
  · exact hfirst htext (by decide)
  · exact hfirst htext (by decide)
  · rw [hsame] at hsigned
    exact hfirst hsigned hc

/-- A digit, or the point, is no letter. -/
theorem toLower_of_digit_or_point {c : Char} (hc : c.isDigit = true ∨ c = '.') :
    c.toLower ∉ ['n', 'i', 'x', 'e'] ∧ isSpace c = false := by
  have hmem : c ∈ ['0', '1', '2', '3', '4', '5', '6', '7', '8', '9', '.'] := by
    rcases hc with hdigit | rfl
    · have hrange : 48 ≤ c.val.toNat ∧ c.val.toNat ≤ 57 := by
        simpa [Char.isDigit, UInt32.le_iff_toNat_le] using hdigit
      have hvalue : c = Char.ofNat c.val.toNat := (Char.ofNat_toNat c).symm
      rw [hvalue]
      obtain ⟨hlow, hhigh⟩ := hrange
      generalize c.val.toNat = n at hlow hhigh
      interval_cases n <;> decide
    · decide
  simp only [List.mem_cons, List.not_mem_nil, or_false] at hmem
  rcases hmem with rfl | rfl | rfl | rfl | rfl | rfl | rfl | rfl | rfl | rfl | rfl <;> decide

/-- A mantissa with a digit starts with a digit or the point. -/
theorem exists_cons_of_mantissa {text : List Char}
    (h : (takeMantissa Char.isDigit text).1 ++ (takeMantissa Char.isDigit text).2.1 ≠ []) :
    ∃ c rest, text = c :: rest ∧ (c.isDigit = true ∨ c = '.') := by
  cases text with
  | nil => exact absurd rfl h
  | cons c rest =>
    refine ⟨c, rest, rfl, ?_⟩
    by_contra hneither
    obtain ⟨hdigit, hpoint⟩ := not_or.1 hneither
    refine h ?_
    have hdrop : (c :: rest).dropWhile Char.isDigit = c :: rest := by
      rw [List.dropWhile_cons, if_neg hdigit]
    have htake : (c :: rest).takeWhile Char.isDigit = [] := by
      rw [List.takeWhile_cons, if_neg hdigit]
    unfold takeMantissa
    rw [hdrop, htake]
    split
    · rename_i heq
      exact absurd (List.cons.inj heq).1 hpoint
    · rfl

/-! ## The conversion functions -/

/-- The digits of a text that is an integer are all that follows the sign. -/
theorem signedDigits_of_wholeInteger {text : String} {n : Int}
    (h : wholeInteger text = some n) :
    (signedDigits text).2 ≠ [] ∧
      applySign (signedDigits text).1 (naturalValue 10 (signedDigits text).2) = n := by
  unfold wholeInteger at h
  simp only [Option.ite_none_right_eq_some, Option.some.injEq] at h
  obtain ⟨⟨hsome, hall⟩, hvalue⟩ := h
  obtain ⟨c, rest, hcons⟩ := List.exists_cons_of_ne_nil hsome
  have hdigit : c.isDigit = true := List.all_eq_true.1 hall c (by rw [hcons]; simp)
  have hspace : text.toList.dropWhile isSpace = text.toList :=
    dropWhile_isSpace_eq hcons (toLower_of_digit_or_point (Or.inl hdigit)).2
  have htake : (takeSign text.toList).2.takeWhile Char.isDigit = (takeSign text.toList).2 :=
    List.takeWhile_eq_self_iff.2 (List.all_eq_true.1 hall)
  unfold signedDigits
  simp only [hspace, htake]
  exact ⟨hsome, hvalue⟩

theorem stoi_of_wholeInteger {text : String} {n : Int} (h : wholeInteger text = some n) :
    stoi text =
      if n < -2147483648 ∨ 2147483647 < n then .error .outOfRange else .ok n := by
  obtain ⟨hsome, hvalue⟩ := signedDigits_of_wholeInteger h
  unfold stoi
  simp only [if_neg hsome, hvalue]

/-- A positive number has no minus sign to wrap around. -/
theorem stoul_of_wholeInteger {text : String} {n : Int} (h : wholeInteger text = some n)
    (hpositive : 0 < n) :
    stoul text = if 2 ^ 64 ≤ n then .error .outOfRange else .ok n.toNat := by
  obtain ⟨hsome, hvalue⟩ := signedDigits_of_wholeInteger h
  have hsign : (signedDigits text).1 = false := by
    cases hnegative : (signedDigits text).1 with
    | false => rfl
    | true =>
      rw [hnegative] at hvalue
      simp only [applySign, if_true] at hvalue
      omega
  rw [hsign] at hvalue
  simp only [applySign, Bool.false_eq_true, if_false] at hvalue
  subst hvalue
  unfold stoul
  simp only [if_neg hsome, hsign, Bool.false_eq_true, if_false, Int.toNat_natCast]
  by_cases hlarge : 2 ^ 64 ≤ naturalValue 10 (signedDigits text).2
  · rw [if_pos hlarge, if_pos (by exact_mod_cast hlarge)]
  · rw [if_neg hlarge, if_neg (by exact_mod_cast hlarge)]

/-- A word does not start a text whose first character is another one. -/
theorem not_hasPrefix_of_head {word : String} {first c : Char} {tail rest : List Char}
    (hword : word.toList = first :: tail) (hc : c.toLower ≠ first) :
    hasPrefixIgnoringCase word (c :: rest) = false := by
  unfold hasPrefixIgnoringCase
  rw [hword]
  simp [hc]

/-- An `x` does not follow the digits of a decimal number. -/
theorem not_hex_of_endsDecimal {c : Char} {rest : List Char} (hc : c.isDigit = true ∨ c = '.')
    (hends : endsDecimal (takeMantissa Char.isDigit (c :: rest)).2.2 = true) :
    hasPrefixIgnoringCase "0x" (c :: rest) = false := by
  by_contra hprefix
  rw [Bool.not_eq_false] at hprefix
  unfold hasPrefixIgnoringCase at hprefix
  cases rest with
  | nil => simp at hprefix
  | cons d rest =>
    have hletters : c.toLower = '0' ∧ d.toLower = 'x' := by simpa using hprefix
    have hdigit : c.isDigit = true := by
      refine hc.resolve_right ?_
      rintro rfl
      exact absurd hletters.1 (by decide)
    have hmarker : ¬ (d.isDigit = true ∨ d = '.') := by
      intro hd
      have hnot := (toLower_of_digit_or_point hd).1
      rw [hletters.2] at hnot
      exact hnot (by decide)
    obtain ⟨hstop, hpoint⟩ := not_or.1 hmarker
    -- The digits before the `x` are the whole mantissa.
    have hrest : (takeMantissa Char.isDigit (c :: d :: rest)).2.2 = d :: rest := by
      unfold takeMantissa
      rw [List.dropWhile_cons, if_pos hdigit, List.dropWhile_cons, if_neg hstop]
      split
      · rename_i heq
        exact absurd (List.cons.inj heq).1 hpoint
      · rfl
    rw [hrest] at hends
    simp [endsDecimal, hletters.2] at hends

theorem stodWith_of_wholeDecimal (convert : ℚ → Except ConversionError Double) {text : String}
    {q : ℚ} (h : wholeDecimal text = some q) : stodWith convert text = convert q := by
  unfold wholeDecimal at h
  simp only [Option.ite_none_right_eq_some, Option.some.injEq] at h
  obtain ⟨⟨hsome, hends⟩, hvalue⟩ := h
  obtain ⟨c, rest, hcons, hc⟩ := exists_cons_of_mantissa hsome
  obtain ⟨hletters, hblank⟩ := toLower_of_digit_or_point hc
  have hspace : text.toList.dropWhile isSpace = text.toList := dropWhile_isSpace_eq hcons hblank
  have hnan : hasPrefixIgnoringCase "nan" (takeSign text.toList).2 = false := by
    rw [hcons]
    refine not_hasPrefix_of_head (rfl : "nan".toList = ['n', 'a', 'n']) fun heq => hletters ?_
    rw [heq]
    decide
  have hinf : hasPrefixIgnoringCase "inf" (takeSign text.toList).2 = false := by
    rw [hcons]
    refine not_hasPrefix_of_head (rfl : "inf".toList = ['i', 'n', 'f']) fun heq => hletters ?_
    rw [heq]
    decide
  have hhex : hasPrefixIgnoringCase "0x" (takeSign text.toList).2 = false := by
    rw [hcons] at hends ⊢
    exact not_hex_of_endsDecimal hc hends
  unfold stodWith
  simp only [hspace, hnan, hinf, hhex, Bool.false_and,
    Bool.false_eq_true, if_false]
  unfold decimalDouble signedDouble
  simp only [if_neg hsome, hvalue]

end CppNumber
