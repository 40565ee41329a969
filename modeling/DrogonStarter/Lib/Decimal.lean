import DrogonStarter.Lib.Number
import Mathlib.Data.List.Induction
import Mathlib.Data.List.TakeWhile

/-!
# Decimal numerals

What the library prints for a number, and that it reads the same number back.

* The characters of `toString n` are digits, so a numeral ends where the next
  separator begins.  `append_cons_toString_inj` takes a text apart there.
* `stoi_toString` and `stoul_toString` are the round trips of `std::to_string`
  on integers.
-/

namespace CppNumber

theorem toList_toString (n : Nat) : (toString n).toList = Nat.toDigits 10 n := Nat.toList_repr

theorem isDigit_of_mem_toDigits {c : Char} {n : Nat} (h : c ∈ Nat.toDigits 10 n) :
    c.isDigit = true :=
  Nat.isDigit_of_mem_toDigits (by decide) (by decide) h

/-- A separator that is not a digit is not in a numeral. -/
theorem not_mem_toDigits {c : Char} (hc : c.isDigit = false) (n : Nat) :
    c ∉ Nat.toDigits 10 n := by
  intro h
  rw [isDigit_of_mem_toDigits h] at hc
  cases hc

theorem naturalValue_append (base : Nat) (left right : List Char) :
    naturalValue base (left ++ right) =
      right.foldl (fun n c => base * n + digitValue c) (naturalValue base left) := by
  rw [naturalValue, List.foldl_append]
  rfl

/-- Decimal digits write a number that is below the power of their count. -/
theorem naturalValue_lt {digits : List Char} (h : ∀ c ∈ digits, c.isDigit = true) :
    naturalValue 10 digits < 10 ^ digits.length := by
  induction digits using List.reverseRecOn with
  | nil => exact Nat.one_pos
  | append_singleton digits c ih =>
    have hrest := ih fun d hd => h d (List.mem_append_left _ hd)
    have hc : c.isDigit = true := h c (by simp)
    have hdigit : digitValue c < 10 := by
      have hrange : 48 ≤ c.val.toNat ∧ c.val.toNat ≤ 57 := by
        simpa [Char.isDigit, UInt32.le_iff_toNat_le] using hc
      have hvalue : digitValue c = c.val.toNat - 48 := if_pos hc
      omega
    rw [naturalValue_append, List.foldl_cons, List.foldl_nil, List.length_append,
      List.length_singleton, Nat.pow_succ]
    omega

/-- The digits of a number write it. -/
theorem naturalValue_toDigits (n : Nat) : naturalValue 10 (Nat.toDigits 10 n) = n := by
  have hdigits : ∀ (digits : List Char) (start : Nat), (∀ c ∈ digits, c.isDigit = true) →
      digits.foldl (fun n c => 10 * n + digitValue c) start = Nat.ofDigitChars 10 digits start := by
    intro digits
    induction digits with
    | nil =>
      intro start _
      exact Nat.ofDigitChars_nil.symm
    | cons c digits ih =>
      intro start hall
      have hvalue : digitValue c = c.toNat - '0'.toNat := if_pos (hall c List.mem_cons_self)
      rw [List.foldl_cons, hvalue, Nat.ofDigitChars_cons]
      exact ih _ fun d hd => hall d (List.mem_cons_of_mem c hd)
  rw [naturalValue, hdigits _ 0 fun c hc => isDigit_of_mem_toDigits hc]
  exact Nat.ofDigitChars_ten_toDigits

theorem toDigits_injective {n m : Nat} (h : Nat.toDigits 10 n = Nat.toDigits 10 m) : n = m := by
  rw [← naturalValue_toDigits n, h, naturalValue_toDigits]

/-- Two texts that are cut at their first `c` are equal part by part. -/
theorem append_cons_inj {c : Char} {left left' right right' : List Char} (hleft : c ∉ left)
    (hleft' : c ∉ left') (h : left ++ c :: right = left' ++ c :: right') :
    left = left' ∧ right = right' := by
  rcases List.append_eq_append_iff.1 h with ⟨between, hlong, hrest⟩ | ⟨between, hlong, hrest⟩
  · cases between with
    | nil =>
      rw [List.append_nil] at hlong
      exact ⟨hlong.symm, (List.cons.inj hrest).2⟩
    | cons d between =>
      rw [hlong, (List.cons.inj hrest).1] at hleft'
      simp at hleft'
  · cases between with
    | nil =>
      rw [List.append_nil] at hlong
      exact ⟨hlong, (List.cons.inj hrest).2.symm⟩
    | cons d between =>
      rw [hlong, (List.cons.inj hrest).1] at hleft
      simp at hleft

/-- Two texts that are cut at their last `c` are equal part by part. -/
theorem append_cons_inj_last {c : Char} {left left' right right' : List Char}
    (hright : c ∉ right) (hright' : c ∉ right')
    (h : left ++ c :: right = left' ++ c :: right') : left = left' ∧ right = right' := by
  have hreverse := congrArg List.reverse h
  simp only [List.reverse_append, List.reverse_cons, List.append_assoc,
    List.singleton_append] at hreverse
  obtain ⟨hends, hbegins⟩ := append_cons_inj (fun hmem => hright (List.mem_reverse.1 hmem))
    (fun hmem => hright' (List.mem_reverse.1 hmem)) hreverse
  exact ⟨List.reverse_inj.1 hbegins, List.reverse_inj.1 hends⟩

/-- The last separator of a text ends what stands before its last numeral. -/
theorem append_cons_toDigits_inj {c : Char} (hc : c.isDigit = false) {stem stem' : List Char}
    {n m : Nat} (h : stem ++ c :: Nat.toDigits 10 n = stem' ++ c :: Nat.toDigits 10 m) :
    stem = stem' ∧ n = m := by
  obtain ⟨hstem, hdigits⟩ :=
    append_cons_inj_last (not_mem_toDigits hc n) (not_mem_toDigits hc m) h
  exact ⟨hstem, toDigits_injective hdigits⟩

/-! ## Signed numerals -/

theorem toList_toString_negSucc (n : Nat) :
    (toString (Int.negSucc n)).toList = '-' :: Nat.toDigits 10 (n + 1) := by
  change ("-" ++ (n + 1).repr).toList = _
  rw [String.toList_append, Nat.toList_repr]
  rfl

/-- A signed numeral has digits and at most a minus sign. -/
theorem not_mem_toString_int {c : Char} (hc : c.isDigit = false) (hminus : c ≠ '-') (n : Int) :
    c ∉ (toString n).toList := by
  cases n with
  | ofNat n =>
    change c ∉ (toString n).toList
    rw [toList_toString]
    exact not_mem_toDigits hc n
  | negSucc n =>
    rw [toList_toString_negSucc, List.mem_cons, not_or]
    exact ⟨hminus, not_mem_toDigits hc (n + 1)⟩

/-- A numeral without a sign is not one with a sign. -/
theorem toDigits_ne_minus {n : Nat} {rest : List Char} : Nat.toDigits 10 n ≠ '-' :: rest := by
  intro h
  exact not_mem_toDigits (c := '-') (by decide) n (h ▸ List.mem_cons_self)

theorem toString_int_injective {n m : Int} (h : toString n = toString m) : n = m := by
  have hchars := congrArg String.toList h
  cases n with
  | ofNat n =>
    cases m with
    | ofNat m =>
      change (toString n).toList = (toString m).toList at hchars
      rw [toList_toString, toList_toString] at hchars
      exact congrArg Int.ofNat (toDigits_injective hchars)
    | negSucc m =>
      change (toString n).toList = _ at hchars
      rw [toList_toString, toList_toString_negSucc] at hchars
      exact absurd hchars toDigits_ne_minus
  | negSucc n =>
    cases m with
    | ofNat m =>
      change _ = (toString m).toList at hchars
      rw [toList_toString, toList_toString_negSucc] at hchars
      exact absurd hchars.symm toDigits_ne_minus
    | negSucc m =>
      rw [toList_toString_negSucc, toList_toString_negSucc] at hchars
      have hvalue := toDigits_injective (List.cons.inj hchars).2
      have hsame : n = m := by omega
      rw [hsame]

/-! ## Integers -/

/-- A digit is not a space and not a sign. -/
theorem not_space_not_sign {c : Char} (hc : c.isDigit = true) :
    isSpace c = false ∧ c ≠ '-' ∧ c ≠ '+' := by
  have hrange : 48 ≤ c.val.toNat ∧ c.val.toNat ≤ 57 := by
    simpa [Char.isDigit, UInt32.le_iff_toNat_le] using hc
  refine ⟨?_, ?_, ?_⟩
  · have hspace : c ≠ ' ' := by
      rintro rfl
      exact absurd hrange (by decide)
    have hcontrol : ¬ c ≤ '\r' := by
      rw [Char.le_def, UInt32.le_iff_toNat_le]
      have hvalue : '\r'.val.toNat = 13 := rfl
      omega
    simp [isSpace, hspace, hcontrol]
  · rintro rfl
    exact absurd hrange (by decide)
  · rintro rfl
    exact absurd hrange (by decide)

theorem takeSign_of_digit {c : Char} (hc : c.isDigit = true) (rest : List Char) :
    takeSign (c :: rest) = (false, c :: rest) := by
  obtain ⟨_, hminus, hplus⟩ := not_space_not_sign hc
  unfold takeSign
  split
  · simp_all
  · simp_all
  · rfl

/-- A numeral is not a space and not a sign, so it is its own digits. -/
theorem signedDigits_toString (n : Nat) :
    signedDigits (toString n) = (false, Nat.toDigits 10 n) := by
  have htake : (Nat.toDigits 10 n).takeWhile Char.isDigit = Nat.toDigits 10 n :=
    List.takeWhile_eq_self_iff.2 fun c hc => isDigit_of_mem_toDigits hc
  have hhead : ∃ c rest, Nat.toDigits 10 n = c :: rest :=
    List.exists_cons_of_ne_nil Nat.toDigits_ne_nil
  obtain ⟨c, rest, hdigits⟩ := hhead
  have hc : c.isDigit = true := isDigit_of_mem_toDigits (n := n) (by rw [hdigits]; simp)
  have hspace : (Nat.toDigits 10 n).dropWhile isSpace = Nat.toDigits 10 n := by
    rw [hdigits, List.dropWhile_cons, (not_space_not_sign hc).1, if_neg Bool.false_ne_true]
  have hsign : takeSign (Nat.toDigits 10 n) = (false, Nat.toDigits 10 n) := by
    rw [hdigits]
    exact takeSign_of_digit hc rest
  rw [signedDigits, toList_toString, hspace, hsign, htake]

theorem stoi_toString {n : Nat} (hn : n ≤ 2147483647) : stoi (toString n) = .ok n := by
  rw [stoi, signedDigits_toString]
  simp only [Nat.toDigits_ne_nil, if_false, naturalValue_toDigits, applySign, Bool.false_eq_true]
  rw [if_neg (by omega)]

theorem stoul_toString {n : Nat} (hn : n < 2 ^ 64) : stoul (toString n) = .ok n := by
  rw [stoul, signedDigits_toString]
  simp only [Nat.toDigits_ne_nil, if_false, naturalValue_toDigits, Bool.false_eq_true]
  rw [if_neg (by omega)]

end CppNumber
