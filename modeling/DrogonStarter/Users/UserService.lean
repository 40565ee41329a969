import DrogonStarter.Lib.Json
import DrogonStarter.Orm.Mapper

/-!
# The users table and its service

`Users` is the generated model of a row and `Users.toJson` is its own JSON form,
with every column.  `UserService` reads and writes rows through the mapper and
has a JSON form of its own, `UserService.toPublicJson`.
-/

namespace DrogonStarter

/-- `drogon_model::drogon_user_service::Users`.  A column that is not set, or
is null, is `none`.  Dates are microseconds. -/
structure Users where
  id : Option String := none
  firstName : Option String := none
  lastName : Option String := none
  email : Option String := none
  password : Option String := none
  isDeleted : Option Bool := none
  createdAt : Option Int := none
  updatedAt : Option Int := none
  deletedAt : Option Int := none
deriving DecidableEq

/-- What the handlers use of the JSON and the date library.  The text that is
written for a value reads back as that value, if it reads back at all. -/
structure Platform where
  writeString : Json → String
  parse : String → Option Json
  parse_written : ∀ {body parsed : Json}, parse (writeString body) = some parsed → parsed = body
  toDbString : Int → String
  toDbStringLocal : Int → String

/-- What `bcrypt::generateHash` returns: a text of 60 characters. -/
abbrev BcryptHash : Type := { text : String // text.length = 60 }

/-- `bcrypt::generateHash`, on its random salt and the password. -/
abbrev GenerateHash : Type := (salt : Nat) → (password : String) → BcryptHash

namespace Users

/-- A column as a member of `toJson`. -/
def column {α : Type} (value : Option α) (toJson : α → Json) : Json :=
  match value with
  | some v => toJson v
  | none => .null

/-- `Users::toJson`. -/
def toJson (p : Platform) (user : Users) : Json :=
  Json.ofMembers
    [("id", column user.id .string),
      ("first_name", column user.firstName .string),
      ("last_name", column user.lastName .string),
      ("email", column user.email .string),
      ("password", column user.password .string),
      ("is_deleted", column user.isDeleted .bool),
      ("created_at", column user.createdAt (.string ∘ p.toDbStringLocal)),
      ("updated_at", column user.updatedAt (.string ∘ p.toDbStringLocal)),
      ("deleted_at", column user.deletedAt (.string ∘ p.toDbStringLocal))]

/-- The `VARCHAR(255)` columns. -/
def fits (user : Users) : Bool :=
  [user.firstName, user.lastName, user.email, user.password].all fun value =>
    decide ((value.getD "").length ≤ 255)

/-- `public.users`. -/
def table : Table Users where
  id := Users.id
  createdAt := Users.createdAt
  withDefaults newId now user :=
    { user with
      id := user.id.or (some newId)
      isDeleted := user.isDeleted.or (some false)
      createdAt := user.createdAt.or (some now) }
  assign object row :=
    { id := row.id
      firstName := object.firstName.or row.firstName
      lastName := object.lastName.or row.lastName
      email := object.email.or row.email
      password := object.password.or row.password
      isDeleted := object.isDeleted.or row.isDeleted
      createdAt := object.createdAt.or row.createdAt
      updatedAt := object.updatedAt.or row.updatedAt
      deletedAt := object.deletedAt.or row.deletedAt }
  fits := fits
  clash row other := decide (row.email = other.email)

end Users

namespace UserService

/-- `input[name]`, which is null when there is no such member. -/
def field (input : Json) (name : String) : Json := (input.get? name).getD .null

/-- `validateUserInput`. -/
def validateUserInput (input : Json) : Except Thrown Unit :=
  if !input.isObject || !(field input "first_name").isString ||
      !(field input "last_name").isString || !(field input "email").isString ||
      !(field input "password").isString then
    .error (.invalidArgument
      "Request body must contain first_name, last_name, email and password")
  else .ok ()

/-- `listUsers`. -/
def listUsers (db : Database Users) (rows : List Users) (request : PageRequest) :
    Except Thrown (PageResult Users) := do
  let total ← Mapper.count db rows
  let items ← Mapper.findAll Users.table db rows request.pageSize request.offset
  return { items, total, request }

/-- `findById`. -/
def findById (db : Database Users) (rows : List Users) (id : String) :
    Except Thrown (Option Users) := do
  let user ← Mapper.findByPrimaryKey Users.table db rows id
  if user.id.isNone then return none
  return some user

/-- What `createUser` inserts, with the hash of the password. -/
def created (now : Int) (input : Json) (password : Option String) : Users where
  firstName := some (field input "first_name").asString
  lastName := some (field input "last_name").asString
  email := some (field input "email").asString
  isDeleted := some true
  password := password
  createdAt := some now
  updatedAt := some now

/-- `createUser`: the user it returns, and the table. -/
def createUser (generateHash : GenerateHash) (db : Database Users) (now : Int) (salt : Nat)
    (rows : List Users) (input : Json) : Except Thrown (Users × List Users) := do
  validateUserInput input
  let hash := generateHash salt (field input "password").asString
  Mapper.insert Users.table db rows (created now input (some hash.val))

/-- What `updateUser` assigns and returns. -/
def updated (now : Int) (id : String) (input : Json) (password : Option String) : Users where
  id := some id
  firstName := some (field input "first_name").asString
  lastName := some (field input "last_name").asString
  email := some (field input "email").asString
  password := password
  updatedAt := some now

/-- `updateUser`: the user it returns, and the table. -/
def updateUser (generateHash : GenerateHash) (db : Database Users) (now : Int) (salt : Nat)
    (rows : List Users) (id : String) (input : Json) : Except Thrown (Users × List Users) := do
  validateUserInput input
  let hash := generateHash salt (field input "password").asString
  let user := updated now id input (some hash.val)
  let done ← Mapper.update Users.table db rows user
  return (user, done.2)

/-- `deleteUser`: whether it deleted a row, and the table. -/
def deleteUser (db : Database Users) (rows : List Users) (id : String) :
    Except Thrown (Bool × List Users) := do
  let done ← Mapper.deleteByPrimaryKey Users.table db rows id
  return (decide (done.1 ≠ 0), done.2)

/-- `toPublicJson`. -/
def toPublicJson (p : Platform) (user : Users) : Json :=
  Json.ofMembers
    [("id", .string (user.id.getD "")),
      ("first_name", .string (user.firstName.getD "")),
      ("last_name", .string (user.lastName.getD "")),
      ("email", .string (user.email.getD "")),
      ("created_at", .string (p.toDbString (user.createdAt.getD 0))),
      ("updated_at", .string (p.toDbString (user.updatedAt.getD 0)))]

/-- The public form has six members, and the password is not among them. -/
theorem not_hasMember_toPublicJson (p : Platform) (user : Users) :
    ¬ (toPublicJson p user).HasMember "password" := by
  refine Json.not_hasMember_ofMembers fun member hmember => ?_
  simp only [List.mem_cons, List.not_mem_nil, or_false] at hmember
  rcases hmember with rfl | rfl | rfl | rfl | rfl | rfl
  all_goals exact ⟨by simp, Json.not_hasMember_string _ _⟩

end UserService

/-- The generated form shows the stored password. -/
theorem Users.get?_toJson_password (p : Platform) (user : Users) :
    (user.toJson p).get? "password" = some (Users.column user.password .string) := by
  unfold toJson
  exact Json.get?_ofMembers [_, _, _, _] (by simp)

end DrogonStarter
