import DrogonStarter.Models.Column

/-!
# The five generated classes

`Users`, `Roles`, `Permissions`, `UserPermissions` and `RolePermissions`, each with the columns
of its table.
-/

namespace DrogonStarter

namespace Column

/-- The key that the database makes up. -/
def generatedKey : Column where
  name := "id"
  type := .string
  notNull := true
  primaryKey := true
  generated := true

/-- A `character varying` of 255 characters. -/
def varchar (name : String) (notNull : Bool) : Column :=
  { name, type := .string, limit := some 255, notNull }

def isDeleted : Column := { name := "is_deleted", type := .bool }

def createdAt : Column := { name := "created_at", type := .date, notNull := true }

/-- A time that may be null. -/
def timestamp (name : String) : Column := { name, type := .date }

end Column

def Users.modelClass : ModelClass where
  tableName := "users"
  columns := [.generatedKey, .varchar "first_name" true, .varchar "last_name" true,
    .varchar "email" true, .varchar "password" true, .isDeleted, .createdAt,
    .timestamp "updated_at", .timestamp "deleted_at"]
  table_identifier := by decide
  identifiers := by decide
  names_nodup := by decide

def Roles.modelClass : ModelClass where
  tableName := "roles"
  columns := [.generatedKey, .varchar "name" true, .varchar "description" false,
    { name := "meta", type := .string }, .isDeleted, .createdAt, .timestamp "updated_at",
    .timestamp "deleted_at"]
  table_identifier := by decide
  identifiers := by decide
  names_nodup := by decide

def Permissions.modelClass : ModelClass where
  tableName := "permissions"
  columns := Roles.modelClass.columns
  table_identifier := by decide
  identifiers := Roles.modelClass.identifiers
  names_nodup := Roles.modelClass.names_nodup

def UserPermissions.modelClass : ModelClass where
  tableName := "user_permissions"
  columns := [{ name := "user_id", type := .string }, { name := "permission_id", type := .string },
    .createdAt, .timestamp "updated_at"]
  table_identifier := by decide
  identifiers := by decide
  names_nodup := by decide

def RolePermissions.modelClass : ModelClass where
  tableName := "role_permissions"
  columns := [{ name := "user_id", type := .string, notNull := true, primaryKey := true },
    { name := "role_id", type := .string, notNull := true, primaryKey := true },
    .createdAt, .timestamp "updated_at"]
  table_identifier := by decide
  identifiers := by decide
  names_nodup := by decide

/-- A library that knows one second, in UTC. -/
def ModelLibrary.utc : ModelLibrary where
  realText := id
  realTruth _ := true
  notObject := "in Json::Value::find(begin, end): requires objectValue or nullValue"
  notConvertible _ := "Value is not convertible to string."
  strptime text :=
    if text.toList.take 19 = "2024-01-02 03:04:05".toList then
      some (1704164645, text.toList.drop 19)
    else none
  toDbStringLocal _ := "2024-01-02 03:04:05"
  fieldTruth text := text == "t"

/-- A role of a user, as it is stored. -/
def storedRole : Cells RolePermissions.modelClass.columns :=
  .cons { value := some "u" } (.cons { value := some "r" } (.cons { value := some (5 : Int) }
    (.cons { value := some (7 : Int) } .nil)))

end DrogonStarter
