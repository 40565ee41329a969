import DrogonStarter.Records.RecordService

/-!
# The roles table and its service

`Roles` is the generated model of a row, with `Roles.toJson` for every column, and
`RoleService` is the service.  Its calls are those of every `RecordService`.
-/

namespace DrogonStarter

/-- `drogon_model::drogon_user_service::Roles`.  A column that is not set, or is
null, is `none`.  Dates are microseconds. -/
structure Roles where
  id : Option String := none
  name : Option String := none
  description : Option String := none
  metadata : Option String := none
  isDeleted : Option Bool := none
  createdAt : Option Int := none
  updatedAt : Option Int := none
  deletedAt : Option Int := none
deriving DecidableEq

namespace Roles

/-- `Roles::toJson`. -/
def toJson (p : Platform) (role : Roles) : Json :=
  Json.ofMembers
    [("id", Users.column role.id .string),
      ("name", Users.column role.name .string),
      ("description", Users.column role.description .string),
      ("meta", Users.column role.metadata .string),
      ("is_deleted", Users.column role.isDeleted .bool),
      ("created_at", Users.column role.createdAt (.string ∘ p.toDbStringLocal)),
      ("updated_at", Users.column role.updatedAt (.string ∘ p.toDbStringLocal)),
      ("deleted_at", Users.column role.deletedAt (.string ∘ p.toDbStringLocal))]

/-- The `VARCHAR(255)` columns. -/
def fits (role : Roles) : Bool :=
  [role.name, role.description].all fun value => decide ((value.getD "").length ≤ 255)

/-- `public.roles`. -/
def table : Table Roles where
  id := Roles.id
  createdAt := Roles.createdAt
  withDefaults newId now role :=
    { role with
      id := role.id.or (some newId)
      isDeleted := role.isDeleted.or (some false)
      createdAt := role.createdAt.or (some now) }
  assign object row :=
    { id := row.id
      name := object.name.or row.name
      description := object.description.or row.description
      metadata := object.metadata.or row.metadata
      isDeleted := object.isDeleted.or row.isDeleted
      createdAt := object.createdAt.or row.createdAt
      updatedAt := object.updatedAt.or row.updatedAt
      deletedAt := object.deletedAt.or row.deletedAt }
  fits := fits
  clash row other := decide (row.name = other.name)

end Roles

namespace RoleService

/-- `validateRoleInput`. -/
def validateRoleInput (input : Json) : Except Thrown Unit :=
  if !input.isObject || !(UserService.field input "name").isString ||
      !(UserService.field input "description").isString then
    .error (.invalidArgument "Request body must contain name and description")
  else .ok ()

/-- What `createRole` inserts. -/
def created (now : Int) (input : Json) : Roles where
  name := some (UserService.field input "name").asString
  description := some (UserService.field input "description").asString
  isDeleted := some true
  createdAt := some now
  updatedAt := some now

/-- What `updateRole` assigns and returns. -/
def updated (now : Int) (id : String) (input : Json) : Roles where
  id := some id
  name := some (UserService.field input "name").asString
  description := some (UserService.field input "description").asString
  updatedAt := some now

/-- The role service as a member of the family. -/
def records : RecordService Roles where
  table := Roles.table
  validateInput := validateRoleInput
  created now _ input := created now input
  updated now _ id input := updated now id input

/-- `listRoles`. -/
def listRoles : Database Roles → List Roles → PageRequest → Except Thrown (PageResult Roles) :=
  records.list

/-- `findById`. -/
def findById : Database Roles → List Roles → String → Except Thrown (Option Roles) :=
  records.findById

/-- `createRole`, which uses no salt. -/
def createRole (db : Database Roles) (now : Int) (rows : List Roles) (input : Json) :
    Except Thrown (Roles × List Roles) :=
  records.create db now 0 rows input

/-- `updateRole`, which uses no salt. -/
def updateRole (db : Database Roles) (now : Int) (rows : List Roles) (id : String)
    (input : Json) : Except Thrown (Roles × List Roles) :=
  records.update db now 0 rows id input

/-- `deleteRole`. -/
def deleteRole : Database Roles → List Roles → String → Except Thrown (Bool × List Roles) :=
  records.delete

/-- `toPublicJson`. -/
def toPublicJson (p : Platform) (role : Roles) : Json :=
  Json.ofMembers
    [("id", .string (role.id.getD "")),
      ("name", .string (role.name.getD "")),
      ("description", .string (role.description.getD "")),
      ("created_at", .string (p.toDbString (role.createdAt.getD 0))),
      ("updated_at", .string (p.toDbString (role.updatedAt.getD 0)))]

end RoleService

end DrogonStarter
