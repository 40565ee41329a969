import DrogonStarter.Lib.Binary64
import DrogonStarter.Lib.WholeNumber

/-!
# Floating-point numbers as the C++ standard library prints them

`std::to_string` prints a `double` with six decimals, and rounds what it cannot print to
the nearest of them, and to the even one of two.

* `naturalValue_append_padded` says which number padded digits write.
* `stod_toString` says which number is read back: what is nearest to the multiple of a millionth
  that was printed.
-/

namespace CppNumber

/-- The last digits of a number, with zeros before them. -/
def paddedDigits : Nat → Nat → List Char
  | 0, _ => []
  | width + 1, n => paddedDigits width (n / 10) ++ [Nat.digitChar (n % 10)]

namespace Double

/-- The magnitude in millionths. -/
def millionths (q : ℚ) : Nat := (roundHalfEven (|q| * 10 ^ 6)).toNat

/-- `std::to_string`. -/
def print : Double → String
  | finite q =>
    let digits :=
      Nat.toDigits 10 (millionths q / 10 ^ 6) ++ '.' :: paddedDigits 6 (millionths q)
    String.ofList (if q < 0 then '-' :: digits else digits)
  | infinity negative => if negative then "-inf" else "inf"
  | nan => "nan"

instance : ToString Double := ⟨print⟩

/-- The number that is printed for a finite value. -/
def sixDecimals (q : ℚ) : ℚ :=
  let magnitude := mkRat (millionths q) (10 ^ 6)
  if q < 0 then -magnitude else magnitude

end Double

/-! ## Padded digits -/

theorem digitValue_digitChar {n : Nat} (hn : n < 10) : digitValue (Nat.digitChar n) = n := by
  interval_cases n <;> rfl

theorem isDigit_digitChar {n : Nat} (hn : n < 10) : (Nat.digitChar n).isDigit = true := by
  interval_cases n <;> rfl

theorem isDigit_of_mem_paddedDigits {c : Char} {width n : Nat} (h : c ∈ paddedDigits width n) :
    c.isDigit = true := by
  induction width generalizing n with
  | zero => cases h
  | succ width ih =>
    rcases List.mem_append.1 h with h | h
    · exact ih h
    · rw [List.mem_singleton.1 h]
      exact isDigit_digitChar (Nat.mod_lt n (by decide))

theorem length_paddedDigits (width n : Nat) : (paddedDigits width n).length = width := by
  induction width generalizing n with
  | zero => rfl
  | succ width ih => simp [paddedDigits, ih]

theorem naturalValue_append_padded (digits : List Char) (width n : Nat) :
    naturalValue 10 (digits ++ paddedDigits width n) =
      naturalValue 10 digits * 10 ^ width + n % 10 ^ width := by
  induction width generalizing n with
  | zero => simp [paddedDigits, Nat.mod_one]
  | succ width ih =>
    have hlast : n % 10 ^ (width + 1) = 10 * (n / 10 % 10 ^ width) + n % 10 := by
      rw [Nat.pow_succ, Nat.mul_comm, Nat.mod_mul]
      omega
    rw [paddedDigits, ← List.append_assoc, naturalValue_append, ih, hlast, List.foldl_cons,
      List.foldl_nil, digitValue_digitChar (Nat.mod_lt n (by decide)), Nat.pow_succ]
    ring

/-! ## The round trip -/

theorem takeMantissa_point {whole fraction : List Char} (hwhole : ∀ c ∈ whole, c.isDigit = true)
    (hfraction : ∀ c ∈ fraction, c.isDigit = true) :
    takeMantissa Char.isDigit (whole ++ '.' :: fraction) = (whole, fraction, []) := by
  have hpoint : ¬ '.'.isDigit = true := by decide
  have htake : (whole ++ '.' :: fraction).takeWhile Char.isDigit = whole := by
    rw [List.takeWhile_append_of_pos hwhole, List.takeWhile_cons_of_neg hpoint, List.append_nil]
  have hdrop : (whole ++ '.' :: fraction).dropWhile Char.isDigit = '.' :: fraction := by
    rw [List.dropWhile_append_of_pos hwhole, List.dropWhile_cons_of_neg hpoint]
  unfold takeMantissa
  simp only [htake, hdrop, List.takeWhile_eq_self_iff.2 hfraction,
    List.dropWhile_eq_nil_iff.2 hfraction]

/-- What is printed is a decimal number, namely the nearest one with six decimals. -/
theorem wholeDecimal_toString (q : ℚ) :
    wholeDecimal (toString (Double.finite q)) = some (Double.sixDecimals q) := by
  have hdigits : Nat.toDigits 10 (Double.millionths q / 10 ^ 6) ≠ [] := Nat.toDigits_ne_nil
  have hsign : takeSign (toString (Double.finite q)).toList =
      (decide (q < 0), Nat.toDigits 10 (Double.millionths q / 10 ^ 6) ++
        '.' :: paddedDigits 6 (Double.millionths q)) := by
    change takeSign (String.ofList _).toList = _
    rw [String.toList_ofList]
    by_cases hq : q < 0
    · simp only [hq, if_true, decide_true]
      rfl
    · obtain ⟨c, rest, hcons⟩ := List.exists_cons_of_ne_nil hdigits
      have hc : c.isDigit = true :=
        isDigit_of_mem_toDigits (n := Double.millionths q / 10 ^ 6) (by rw [hcons]; simp)
      simp only [hq, if_false, decide_false, hcons, List.cons_append]
      exact takeSign_of_digit hc _
  have hmantissa := takeMantissa_point
    (fun c hc => isDigit_of_mem_toDigits (n := Double.millionths q / 10 ^ 6) hc)
    (fun c hc => @isDigit_of_mem_paddedDigits c 6 (Double.millionths q) hc)
  have hvalue : naturalValue 10 (Nat.toDigits 10 (Double.millionths q / 10 ^ 6) ++
      paddedDigits 6 (Double.millionths q)) = Double.millionths q := by
    rw [naturalValue_append_padded, naturalValue_toDigits]
    exact Nat.div_add_mod' _ _
  unfold wholeDecimal
  simp only [hsign, hmantissa, hvalue, length_paddedDigits]
  rw [if_pos ⟨by simp, rfl⟩]
  have hscale : scaleByPower (Double.millionths q) 10 (takeExponent 'e' [] - (6 : Nat)) =
      mkRat (Double.millionths q) (10 ^ 6) := by
    rfl
  simp only [hscale, decide_eq_true_eq, Double.sixDecimals]

theorem stod_toString (d : Double) :
    stod (toString d) =
      match d with
      | .finite q => toDouble (Double.sixDecimals q)
      | .infinity negative => .ok (.infinity negative)
      | .nan => .ok .nan := by
  cases d with
  | finite q => exact stodWith_of_wholeDecimal toDouble (wholeDecimal_toString q)
  | infinity negative => cases negative <;> rfl
  | nan => rfl

/-! ## What the round trip keeps -/

namespace Double

variable {q : ℚ}

theorem sixDecimals_of_nonneg (hq : 0 ≤ q) :
    sixDecimals q = (millionths q : ℚ) / 10 ^ 6 ∧
      (millionths q : Int) = roundHalfEven (q * 10 ^ 6) := by
  constructor
  · simp only [sixDecimals, if_neg (not_lt.2 hq), Rat.mkRat_eq_div]
    norm_num
  · rw [millionths, abs_of_nonneg hq]
    exact Int.toNat_of_nonneg (roundHalfEven_nonneg (by positivity))

/-- What is printed is a multiple of a millionth, and the one that the number is close to. -/
theorem sixDecimals_eq (hq : 0 ≤ q) {n : Nat} (hn : |q * 10 ^ 6 - n| < 1 / 2) :
    sixDecimals q = n / 10 ^ 6 := by
  obtain ⟨hvalue, hround⟩ := sixDecimals_of_nonneg hq
  have hsame : roundHalfEven (q * 10 ^ 6) = (n : Int) :=
    roundHalfEven_eq (by rw [Int.cast_natCast]; exact hn)
  rw [hsame] at hround
  rw [hvalue, Nat.cast_inj.1 hround]

/-- A number that is not large is read back as what is nearest to the number printed. -/
theorem toDouble_sixDecimals (hq : 0 ≤ q) (hsmall : q ≤ 2 ^ 20) :
    toDouble (sixDecimals q) = .ok (.finite (binary64.nearest (sixDecimals q))) := by
  obtain ⟨hvalue, hround⟩ := sixDecimals_of_nonneg hq
  rcases Nat.eq_zero_or_pos (millionths q) with hzero | hpos
  · rw [hvalue, hzero, Nat.cast_zero, zero_div, toDouble_zero, FloatFormat.nearest_zero]
  · refine toDouble_eq (not_unrepresentable ?_ ?_)
    · have hone : (1 : ℚ) ≤ millionths q := Nat.one_le_cast.2 hpos
      have hlow : (2 : ℚ) ^ (-100 : Int) ≤ 1 / 10 ^ 6 := by norm_num
      rw [hvalue]
      exact hlow.trans (div_le_div_of_nonneg_right hone (by norm_num))
    · have hle : (millionths q : Int) ≤ 2 ^ 20 * 10 ^ 6 := by
        rw [hround]
        refine roundHalfEven_le ?_
        push_cast
        linarith
      have hcast : (millionths q : ℚ) ≤ 2 ^ 20 * 10 ^ 6 := by exact_mod_cast hle
      rw [hvalue, div_le_iff₀ (by norm_num)]
      exact hcast.trans (by norm_num)

end Double

end CppNumber
