import DrogonStarter.Lib.InsertStatement
import DrogonStarter.Lib.Json

/-!
# The generated classes of the tables

Each class under `models/` is generated from one table, and the classes differ in
their columns.  A `Column` is what the generated code of a class says about one
column, and `ModelClass` is a class.

* `Cell` is a member of an object with its dirty flag, and `Cells` are the members of
  an object, one of the type of each column.
* `ModelLibrary` is what the code leaves to the libraries: the conversions of a JSON
  value, and the reading and the printing of a date.
* `Cells.read` is the sequence of assignments from a JSON value, which the constructors
  and the updates share.
-/

namespace DrogonStarter

/-- The type of the member of a column. -/
inductive ColumnType where
  | string
  | bool
  | date
deriving DecidableEq

/-- The values of the type.  Dates are microseconds. -/
abbrev ColumnType.Value : ColumnType → Type
  | .string => String
  | .bool => Bool
  | .date => Int

/-- A column, as the generated code treats it. -/
structure Column where
  name : String
  type : ColumnType
  /-- The length of a `character varying`. -/
  limit : Option Nat := none
  notNull : Bool := false
  primaryKey : Bool := false
  /-- The database makes up the value that an object does not set. -/
  generated : Bool := false
deriving DecidableEq

/-- A generated class. -/
structure ModelClass where
  tableName : String
  columns : List Column
  table_identifier : Sql.IsIdentifier tableName.toList
  identifiers : ∀ column ∈ columns, Sql.IsIdentifier column.name.toList
  names_nodup : (columns.map Column.name).Nodup

/-- A member and its dirty flag. -/
structure Cell (α : Type) where
  value : Option α := none
  dirty : Bool := false
deriving DecidableEq

/-- The member after its setter, and after `set…ToNull` for `none`. -/
def Cell.set {α : Type} (value : Option α) : Cell α := { value, dirty := true }

/-- The members of an object, in the order of the columns. -/
inductive Cells : List Column → Type
  | nil : Cells []
  | cons {column : Column} {columns : List Column} (cell : Cell column.type.Value)
      (rest : Cells columns) : Cells (column :: columns)

/-- A column with the member for it. -/
abbrev Entry : Type := (column : Column) × Cell column.type.Value

namespace Cells

/-- The members of a new object. -/
def empty : (columns : List Column) → Cells columns
  | [] => .nil
  | _ :: rest => .cons {} (empty rest)

def entries : {columns : List Column} → Cells columns → List Entry
  | _, .nil => []
  | _, @cons column _ cell rest => ⟨column, cell⟩ :: rest.entries

@[simp] theorem entries_cons {column : Column} {columns : List Column}
    (cell : Cell column.type.Value) (rest : Cells columns) :
    (cons cell rest).entries = ⟨column, cell⟩ :: rest.entries := rfl

theorem map_fst_entries {columns : List Column} (cells : Cells columns) :
    cells.entries.map Sigma.fst = columns := by
  induction cells with
  | nil => rfl
  | cons cell rest ih => rw [entries, List.map_cons, ih]

end Cells

/-! ## Values from JSON -/

/-- What the generated code leaves to the libraries. -/
structure ModelLibrary where
  /-- `asString` of a number with a fraction or an exponent. -/
  realText : String → String
  /-- `asBool` of such a number. -/
  realTruth : String → Bool
  /-- The texts of `Json::LogicError`: a member of what is no object, and a value without the
  conversion. -/
  notObject : String
  notConvertible : Json → String
  /-- `strptime` with `"%Y-%m-%d %H:%M:%S"` and `mktime`: the time in seconds, and the text
  after it. -/
  strptime : String → Option (Int × List Char)
  toDbStringLocal : Int → String
  /-- `as<bool>` of a field of a result. -/
  fieldTruth : String → Bool

namespace ModelLibrary

variable (lib : ModelLibrary)

/-- `isMember`. -/
def isMember (json : Json) (name : String) : Except String Bool :=
  match json with
  | .null => .ok false
  | .object members => .ok (members.lookup name).isSome
  | _ => .error lib.notObject

/-- `asString`. -/
def asString (json : Json) : Except String String :=
  match json with
  | .null => .ok ""
  | .bool value => .ok (if value then "true" else "false")
  | .int value => .ok (toString value)
  | .real digits => .ok (lib.realText digits)
  | .string text => .ok text
  | .array _ | .object _ => .error (lib.notConvertible json)

/-- `asBool`. -/
def asBool (json : Json) : Except String Bool :=
  match json with
  | .null => .ok false
  | .bool value => .ok value
  | .int value => .ok (value != 0)
  | .real digits => .ok (lib.realTruth digits)
  | .string _ | .array _ | .object _ => .error (lib.notConvertible json)

/-- `atol`, which stays in the range of a `long`. -/
def atol (text : String) : Int :=
  let parsed := CppNumber.signedDigits text
  let value := CppNumber.applySign parsed.1 (CppNumber.naturalValue 10 parsed.2)
  max (-2 ^ 63) (min (2 ^ 63 - 1) value)

/-- `decimals`, with zeros up to six bytes. -/
def padded (decimals : List Char) : List Char :=
  decimals ++ List.replicate (6 - (decimals.map Char.utf8Size).sum) '0'

/-- `decimalNum`, from the text after the seconds. -/
def decimalNum (rest : List Char) : Int :=
  match rest with
  | '.' :: decimals => atol (String.ofList (padded decimals))
  | _ => 0

/-- `t*1000000+decimalNum`, in 64 bits. -/
def microseconds (t decimalNum : Int) : Int := Int.bmod (t * 1000000 + decimalNum) (2 ^ 64)

/-- The date that a text is read as. -/
def readDate (timeStr : String) : Option Int :=
  (lib.strptime timeStr).map fun (t, rest) => microseconds t (decimalNum rest)

/-- The value for a member that is not null.  A text that is no date has none. -/
def convert (type : ColumnType) (json : Json) : Except String (Option type.Value) :=
  match type with
  | .string => (lib.asString json).map some
  | .bool => (lib.asBool json).map some
  | .date => (lib.asString json).map lib.readDate

/-- The JSON form of a value. -/
def toJson (type : ColumnType) (value : type.Value) : Json :=
  match type with
  | .string => .string value
  | .bool => .bool value
  | .date => .string (lib.toDbStringLocal value)

end ModelLibrary

/-- `isMember` and the member, for a name that is looked up. -/
def ModelLibrary.member (lib : ModelLibrary) (json : Json) (key : Option String) :
    Except String (Option Json) :=
  match key with
  | none => .ok none
  | some name => do
    if ← lib.isMember json name then return some ((json.get? name).getD .null)
    return none

/-- The assignment to a member from what was found under its name: the member after it, and
what it threw.  `marks` says that the dirty flag is set. -/
def Cell.read (lib : ModelLibrary) (type : ColumnType) (marks : Bool)
    (found : Except String (Option Json)) (cell : Cell type.Value) :
    Cell type.Value × Option String :=
  match found with
  | .error what => (cell, some what)
  | .ok none => (cell, none)
  | .ok (some json) =>
    let cell := if marks then { cell with dirty := true } else cell
    if json.isNull then (cell, none)
    else
      match lib.convert type json with
      | .error what => (cell, some what)
      | .ok value => ({ cell with value := value.or cell.value }, none)

/-- The assignments to the members in order, up to one that throws.  A column without a key is
not looked up. -/
def Cells.read (lib : ModelLibrary) (marks : Column → Bool) (json : Json) :
    {columns : List Column} → (keys : List (Option String)) → Cells columns →
      Cells columns × Option String
  | _, key :: keys, @cons column _ cell rest =>
    match cell.read lib column.type (marks column) (lib.member json key) with
    | (cell, some what) => (.cons cell rest, some what)
    | (cell, none) =>
      let (rest, thrown) := rest.read lib marks json keys
      (.cons cell rest, thrown)
  | _, _, cells => (cells, none)

end DrogonStarter
