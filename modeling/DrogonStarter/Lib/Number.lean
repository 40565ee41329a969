import DrogonStarter.Lib.FloatFormat

/-!
# Numbers as the C++ standard library reads them

`std::stoi`, `std::stoul` and `std::stod` skip leading white space, read the
longest prefix that is a number and ignore the rest of the text.  They throw
`std::invalid_argument` when there is no such prefix and `std::out_of_range`
when the number does not fit.

A `double` is one of the special values or a rational.  `toDouble` makes the
nearest number of the format binary64 of the number that a text writes, and
`stod` reads with it.  `stodExact` keeps the number as it is written.
-/

namespace CppNumber

/-- The two exceptions of the conversion functions. -/
inductive ConversionError where
  | invalidArgument
  | outOfRange
deriving DecidableEq, Repr

/-! ## Floating-point values -/

/-- A `double`.  The finite values are rationals, those of the format and the
others. -/
inductive Double where
  | finite (value : ℚ)
  | infinity (negative : Bool)
  | nan
deriving DecidableEq

namespace Double

/-- `a < b`, which is false as soon as one side is not a number. -/
def less : Double → Double → Bool
  | finite a, finite b => decide (a < b)
  | infinity negative, finite _ => negative
  | finite _, infinity negative => !negative
  | infinity left, infinity right => left && !right
  | nan, _ => false
  | _, nan => false

/-- `a <= b`, which is false as soon as one side is not a number. -/
def lessEqual (a b : Double) : Bool :=
  less a b || (a != nan && a == b)

instance : LT Double := ⟨fun a b => less a b = true⟩

instance : LE Double := ⟨fun a b => lessEqual a b = true⟩

instance (a b : Double) : Decidable (a < b) :=
  inferInstanceAs (Decidable (less a b = true))

instance (a b : Double) : Decidable (a ≤ b) :=
  inferInstanceAs (Decidable (lessEqual a b = true))

instance : Zero Double := ⟨finite 0⟩

@[simp] theorem finite_lt_finite {a b : ℚ} : finite a < finite b ↔ a < b := decide_eq_true_iff

@[simp] theorem finite_le_finite {a b : ℚ} : finite a ≤ finite b ↔ a ≤ b := by
  change lessEqual (finite a) (finite b) = true ↔ a ≤ b
  simp [lessEqual, less, le_iff_lt_or_eq]

@[simp] theorem finite_le_zero {a : ℚ} : finite a ≤ 0 ↔ a ≤ 0 := finite_le_finite

@[simp] theorem zero_lt_finite {a : ℚ} : 0 < finite a ↔ 0 < a := finite_lt_finite

/-- The product with an unsigned integer. -/
def scale (a : Double) (n : Nat) : Double :=
  match a with
  | finite value => finite (value * n)
  | infinity negative => if n = 0 then nan else infinity negative
  | nan => nan

end Double

/-! ## The characters of a number -/

/-- `std::isspace` in the default locale. -/
def isSpace (c : Char) : Bool :=
  c = ' ' || ('\t' ≤ c && c ≤ '\r')

def isHexDigit (c : Char) : Bool :=
  c.isDigit || ('a' ≤ c && c ≤ 'f') || ('A' ≤ c && c ≤ 'F')

/-- The value of a decimal or hexadecimal digit. -/
def digitValue (c : Char) : Nat :=
  if c.isDigit then c.toNat - '0'.toNat else c.toLower.toNat - 'a'.toNat + 10

/-- The number that a list of digits writes in a base. -/
def naturalValue (base : Nat) (digits : List Char) : Nat :=
  digits.foldl (fun n c => base * n + digitValue c) 0

/-- An optional sign and what follows it. -/
def takeSign : List Char → Bool × List Char
  | '-' :: rest => (true, rest)
  | '+' :: rest => (false, rest)
  | text => (false, text)

/-- The sign and the leading decimal digits of a text. -/
def signedDigits (text : String) : Bool × List Char :=
  let signed := takeSign (text.toList.dropWhile isSpace)
  (signed.1, signed.2.takeWhile Char.isDigit)

def applySign (negative : Bool) (n : Nat) : Int :=
  if negative then -(n : Int) else n

/-! ## Integers -/

/-- `std::stoi` in base ten, with a 32-bit `int`. -/
def stoi (text : String) : Except ConversionError Int :=
  let parsed := signedDigits text
  if parsed.2 = [] then .error .invalidArgument
  else
    let value := applySign parsed.1 (naturalValue 10 parsed.2)
    if value < -2147483648 ∨ 2147483647 < value then .error .outOfRange
    else .ok value

/-- `std::stoul` in base ten, with a 64-bit `unsigned long`.  A leading minus
sign negates the number modulo `2 ^ 64`. -/
def stoul (text : String) : Except ConversionError Nat :=
  let parsed := signedDigits text
  if parsed.2 = [] then .error .invalidArgument
  else
    let value := naturalValue 10 parsed.2
    if 2 ^ 64 ≤ value then .error .outOfRange
    else .ok (if parsed.1 then (2 ^ 64 - value) % 2 ^ 64 else value)

/-- What is left of an integer in a 32-bit `int`, in two's complement. -/
def int32 (n : Int) : Int := Int.bmod n (2 ^ 32)

/-- `static_cast<std::size_t>` of an integer. -/
def toSize (n : Int) : Nat := (n % 2 ^ 64).toNat

/-! ## Floating-point texts -/

def hasPrefixIgnoringCase (word : String) (text : List Char) : Bool :=
  (text.take word.toList.length).map Char.toLower == word.toList

/-- The digits before the point, the digits after it and what follows. -/
def takeMantissa (isDigit : Char → Bool) (text : List Char) :
    List Char × List Char × List Char :=
  let whole := text.takeWhile isDigit
  match text.dropWhile isDigit with
  | '.' :: rest => (whole, rest.takeWhile isDigit, rest.dropWhile isDigit)
  | rest => (whole, [], rest)

/-- The exponent that `marker` introduces, or zero when there is none. -/
def takeExponent (marker : Char) : List Char → Int
  | [] => 0
  | c :: rest =>
    if c.toLower = marker then
      let signed := takeSign rest
      applySign signed.1 (naturalValue 10 (signed.2.takeWhile Char.isDigit))
    else 0

/-- `mantissa * base ^ exponent`. -/
def scaleByPower (mantissa base : Nat) (exponent : Int) : ℚ :=
  if 0 ≤ exponent then (mantissa * base ^ exponent.toNat : Nat)
  else mkRat mantissa (base ^ (-exponent).toNat)

/-- The format of a `double`, without its upper bound. -/
def binary64 : FloatFormat where
  precision := 53
  lowest := -1074
  bits := by decide

/-- The number with 53 significant bits, however small it is. -/
def significant (value : ℚ) : ℚ := roundAt (Int.log 2 |value| - 52) value

/-- What was rounded is too large for a `double`, or is below the smallest
normal number and was not exact. -/
def Unrepresentable (value : ℚ) : Prop :=
  (2 ^ 1024 : ℚ) ≤ |binary64.nearest value| ∨
    |significant value| < mkRat 1 (2 ^ 1022) ∧ binary64.nearest value ≠ value

instance (value : ℚ) : Decidable (Unrepresentable value) :=
  inferInstanceAs (Decidable (_ ∨ _))

/-- The nearest `double`, as `strtod` gives it.  `ERANGE` becomes an
exception. -/
def toDouble (value : ℚ) : Except ConversionError Double :=
  if Unrepresentable value then .error .outOfRange
  else .ok (.finite (binary64.nearest value))

/-- The number as it is, in the range of the normal numbers. -/
def exactDouble (value : ℚ) : Except ConversionError Double :=
  if (2 ^ 1024 - 2 ^ 970 : ℚ) ≤ |value| ∨ (value ≠ 0 ∧ |value| < mkRat 1 (2 ^ 1022)) then
    .error .outOfRange
  else .ok (.finite value)

/-- The value of a literal. -/
def Double.literal (value : ℚ) : Double := .finite (binary64.nearest value)

section Reading

variable (convert : ℚ → Except ConversionError Double)

def signedDouble (negative : Bool) (value : ℚ) : Except ConversionError Double :=
  convert (if negative then -value else value)

/-- The decimal floating-point number at the start of a text. -/
def decimalDouble (negative : Bool) (text : List Char) : Except ConversionError Double :=
  let mantissa := takeMantissa Char.isDigit text
  let digits := mantissa.1 ++ mantissa.2.1
  if digits = [] then .error .invalidArgument
  else
    let exponent := takeExponent 'e' mantissa.2.2
    signedDouble convert negative
      (scaleByPower (naturalValue 10 digits) 10 (exponent - mantissa.2.1.length))

/-- The hexadecimal floating-point number whose digits start a text. -/
def hexDouble (negative : Bool) (text : List Char) : Except ConversionError Double :=
  let mantissa := takeMantissa isHexDigit text
  let exponent := takeExponent 'p' mantissa.2.2
  signedDouble convert negative
    (scaleByPower (naturalValue 16 (mantissa.1 ++ mantissa.2.1)) 2
      (exponent - 4 * mantissa.2.1.length))

/-- A text after `0x` is hexadecimal only when a digit follows. -/
def startsHex (text : List Char) : Bool :=
  let mantissa := takeMantissa isHexDigit text
  mantissa.1 ++ mantissa.2.1 != []

/-- `std::stod`, with what it makes of a finite number. -/
def stodWith (text : String) : Except ConversionError Double :=
  let signed := takeSign (text.toList.dropWhile isSpace)
  if hasPrefixIgnoringCase "nan" signed.2 then .ok .nan
  else if hasPrefixIgnoringCase "inf" signed.2 then .ok (.infinity signed.1)
  else if hasPrefixIgnoringCase "0x" signed.2 && startsHex (signed.2.drop 2) then
    hexDouble convert signed.1 (signed.2.drop 2)
  else decimalDouble convert signed.1 signed.2

end Reading

/-- `std::stod`. -/
def stod : String → Except ConversionError Double := stodWith toDouble

/-- `std::stod` over exact decimals. -/
def stodExact : String → Except ConversionError Double := stodWith exactDouble

end CppNumber
