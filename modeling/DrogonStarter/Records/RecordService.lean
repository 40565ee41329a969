import DrogonStarter.Lib.JsonText
import DrogonStarter.Orm.Mapper
import DrogonStarter.Users.UserService

/-!
# Services over one table

`UserService` and `RoleService` make the same calls of the mapper.  They differ in
the table, in the check of a body and in the columns that they set, which is what
a `RecordService` is.

* The functions in the namespace `RecordService` are the five calls.
* `UserService.records` is the user service as a member of the family, and the
  theorems after it say that its functions are the ones of `UserService`.
-/

namespace DrogonStarter

/-- What a service does besides the calls of the mapper. -/
structure RecordService (ρ : Type) where
  table : Table ρ
  /-- The check of a request body. -/
  validateInput : Json → Except Thrown Unit
  /-- What a create inserts, at a time and with a salt. -/
  created : (now : Int) → (salt : Nat) → (input : Json) → ρ
  /-- What an update assigns and returns. -/
  updated : (now : Int) → (salt : Nat) → (id : String) → (input : Json) → ρ

namespace RecordService

variable {ρ : Type} (service : RecordService ρ)

def list (db : Database ρ) (rows : List ρ) (request : PageRequest) :
    Except Thrown (PageResult ρ) := do
  let total ← Mapper.count db rows
  let items ← Mapper.findAll service.table db rows request.pageSize request.offset
  return { items, total, request }

def findById (db : Database ρ) (rows : List ρ) (id : String) : Except Thrown (Option ρ) := do
  let record ← Mapper.findByPrimaryKey service.table db rows id
  if (service.table.id record).isNone then return none
  return some record

/-- The record that a create returns, and the table. -/
def create (db : Database ρ) (now : Int) (salt : Nat) (rows : List ρ) (input : Json) :
    Except Thrown (ρ × List ρ) := do
  service.validateInput input
  Mapper.insert service.table db rows (service.created now salt input)

/-- The record that an update returns, and the table. -/
def update (db : Database ρ) (now : Int) (salt : Nat) (rows : List ρ) (id : String)
    (input : Json) : Except Thrown (ρ × List ρ) := do
  service.validateInput input
  let record := service.updated now salt id input
  let done ← Mapper.update service.table db rows record
  return (record, done.2)

/-- Whether a delete deleted a row, and the table. -/
def delete (db : Database ρ) (rows : List ρ) (id : String) : Except Thrown (Bool × List ρ) := do
  let done ← Mapper.deleteByPrimaryKey service.table db rows id
  return (decide (done.1 ≠ 0), done.2)

end RecordService

namespace UserService

instance : Inhabited BcryptHash :=
  ⟨⟨String.ofList (List.replicate 60 ' '), by rw [String.length_ofList, List.length_replicate]⟩⟩

/-- The user service as a member of the family. -/
def records (generateHash : GenerateHash) : RecordService Users where
  table := Users.table
  validateInput := validateUserInput
  created now salt input :=
    created now input (some (generateHash salt (field input "password").asString).val)
  updated now salt id input :=
    updated now id input (some (generateHash salt (field input "password").asString).val)

variable (generateHash : GenerateHash)

theorem listUsers_eq : listUsers = (records generateHash).list := rfl

theorem findById_eq : findById = (records generateHash).findById := rfl

theorem createUser_eq_create : createUser generateHash = (records generateHash).create := rfl

theorem updateUser_eq_update : updateUser generateHash = (records generateHash).update := rfl

theorem deleteUser_eq : deleteUser = (records generateHash).delete := rfl

end UserService

/-- A database for a few rows, which orders the keys `a`, `b` and `c`. -/
def letterDatabase (ρ : Type) : Database ρ where
  newId := "d"
  now := 0
  uuid text := some text
  rank key := if key = "a" then 0 else if key = "b" then 1 else 2
  violation _ := "ERROR:  duplicate key value violates unique constraint"
  invalidKey _ := "ERROR:  invalid input syntax for type uuid"
  negativeOffset := "ERROR:  OFFSET must not be negative"

/-- The writer and the reader of compact texts, and the dates of the first ten seconds of 1970.
A document with a fraction is not written. -/
def compactPlatform : Platform where
  writeString body := if body.isPlain then Json.compact.writeString body else ""
  parse := Json.compact.parse
  parse_written := by
    intro body parsed h
    cases hplain : body.isPlain with
    | true =>
      rw [hplain, if_pos rfl,
        Json.parse_writeString_compact (Json.plain_of_isPlain body hplain)] at h
      exact (Option.some.inj h).symm
    | false =>
      rw [hplain] at h
      cases h
  toDbString micros := "1970-01-01 00:00:0" ++ toString (micros / 1000000)
  toDbStringLocal micros := "1970-01-01 00:00:0" ++ toString (micros / 1000000)

/-- A document without fractions is read back. -/
theorem parse_writeString_compactPlatform {body : Json} (h : body.isPlain = true) :
    compactPlatform.parse (compactPlatform.writeString body) = some body := by
  change Json.compact.parse (if body.isPlain then Json.compact.writeString body else "") = some body
  rw [if_pos h]
  exact Json.parse_writeString_compact (Json.plain_of_isPlain body h)

theorem writeString_compactPlatform_ne {body : Json} (h : body.isPlain = true) :
    compactPlatform.writeString body ≠ "" := by
  intro hempty
  have hparse := parse_writeString_compactPlatform h
  rw [hempty] at hparse
  cases hparse

end DrogonStarter
