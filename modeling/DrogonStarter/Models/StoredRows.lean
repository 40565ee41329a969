import DrogonStarter.Models.ResultRow
import DrogonStarter.Models.Schema
import DrogonStarter.Roles.RoleService

/-!
# Stored rows

The objects that the services write have their columns set by setters.  What their statements
do to the database is what `Users.table` and `Roles.table` say of the tables.

* `Cells.SetOnly` is an object of setters, and `Cells.merge` its columns with those of another
  object where they are not set.
* `stored_of_insert` and `stored_of_update` say which row a statement stores.
* `read_of_insert` is what the mapper gives back, and `statements_refine_tables` is the
  connection with the two tables.
-/

namespace DrogonStarter

/-- A member after its setter when there is a value, and as it was made otherwise. -/
def Cell.ofSet {α : Type} (value : Option α) : Cell α := { value, dirty := value.isSome }

/-- The value of a column in a row. -/
def ColumnType.ofArgument (type : ColumnType) (argument : Argument) : Option type.Value :=
  match type, argument with
  | .string, .text value => some value
  | .bool, .truth value => some value
  | .date, .date value => some value
  | _, _ => none

theorem ColumnType.ofArgument_argument (type : ColumnType) (value : type.Value) :
    type.ofArgument (type.argument value) = some value := by
  cases type <;> rfl

@[simp] theorem ColumnType.ofArgument_null (type : ColumnType) : type.ofArgument .null = none := by
  cases type <;> rfl

/-- A row agrees with an entry, and with another row where the member is not marked. -/
def Entry.Shown (row other : List Char → Argument) (entry : Entry) : Prop :=
  row entry.1.name.toList = if entry.dirty then entry.argument else other entry.1.name.toList

namespace Cells

/-- The object with the columns of a row. -/
def ofRow : (columns : List Column) → (row : List Char → Argument) → Cells columns
  | [], _ => .nil
  | column :: columns, row =>
    .cons (.ofSet (column.type.ofArgument (row column.name.toList))) (ofRow columns row)

/-- A stored row, by the names of its columns. -/
def toRow {columns : List Column} (cells : Cells columns) (name : List Char) : Argument :=
  ((cells.entries.map fun entry => (entry.1.name.toList, entry.argument)).lookup name).getD .null

/-- The columns of an object, and those of another where they have no value. -/
def merge : {columns : List Column} → Cells columns → Cells columns → Cells columns
  | _, .nil, .nil => .nil
  | _, .cons cell rest, .cons cell' rest' =>
    .cons (.ofSet (cell.value.or cell'.value)) (rest.merge rest')

/-- The object was made by setters of values. -/
def SetOnly {columns : List Column} (cells : Cells columns) : Prop :=
  ∀ entry ∈ cells.entries, entry.2 = Cell.ofSet entry.2.value

theorem SetOnly.nil : SetOnly .nil := List.forall_mem_nil _

theorem SetOnly.cons {column : Column} {columns : List Column}
    (value : Option column.type.Value) {rest : Cells columns} (h : rest.SetOnly) :
    SetOnly (@cons column columns (.ofSet value) rest) :=
  List.forall_mem_cons.2 ⟨rfl, h⟩

theorem ofRow_of_shown {row other : List Char → Argument} {columns : List Column}
    {cells : Cells columns} (hset : cells.SetOnly)
    (h : ∀ entry ∈ cells.entries, entry.Shown row other) :
    ofRow columns row = cells.merge (ofRow columns other) := by
  induction cells with
  | nil => rfl
  | @cons column columns cell rest ih =>
    obtain ⟨hcell, hrest⟩ := List.forall_mem_cons.1 hset
    obtain ⟨hshown, hothers⟩ := List.forall_mem_cons.1 h
    have hcolumn : column.type.ofArgument (row column.name.toList) =
        cell.value.or (column.type.ofArgument (other column.name.toList)) := by
      obtain ⟨value, dirty⟩ := cell
      rw [Entry.Shown] at hshown
      cases value with
      | none =>
        obtain rfl : dirty = false := congrArg Cell.dirty hcell
        exact congrArg column.type.ofArgument hshown
      | some value =>
        obtain rfl : dirty = true := congrArg Cell.dirty hcell
        exact (congrArg column.type.ofArgument hshown).trans
          (column.type.ofArgument_argument value)
    rw [ofRow, ofRow, merge, hcolumn, ih hrest hothers]
    rfl

theorem merge_null {columns : List Column} {cells : Cells columns} (hset : cells.SetOnly) :
    cells.merge (ofRow columns fun _ => .null) = cells := by
  induction cells with
  | nil => rfl
  | cons cell rest ih =>
    obtain ⟨hcell, hrest⟩ := List.forall_mem_cons.1 hset
    rw [ofRow, merge, ih hrest, ColumnType.ofArgument_null]
    change cons (.ofSet (cell.value.or none)) rest = cons cell rest
    rw [Option.or_none]
    exact congrArg (Cells.cons · rest) hcell.symm

end Cells

namespace ModelClass

variable (m : ModelClass)

/-- A stored row is read back as the object. -/
theorem ofRow_toRow {cells : Cells m.columns} (hset : cells.SetOnly) :
    Cells.ofRow m.columns cells.toRow = cells := by
  have hnames : ((cells.entries.map fun entry =>
      (entry.1.name.toList, entry.argument)).map Prod.fst).Nodup := by
    rw [List.map_map]
    exact m.nodup_names cells
  have hshown : ∀ entry ∈ cells.entries, entry.Shown cells.toRow fun _ => .null := by
    intro entry hentry
    have hmem := List.mem_map_of_mem (f := fun entry : Entry =>
      (entry.1.name.toList, entry.argument)) hentry
    rw [Entry.Shown, Cells.toRow, Sql.lookup_of_mem hnames hmem, Option.getD_some]
    cases hdirty : entry.dirty with
    | true => rw [if_pos rfl]
    | false =>
      have hnull : entry.2.value = none := by
        cases hvalue : entry.2.value with
        | none => rfl
        | some value =>
          rw [Entry.dirty, hset entry hentry, hvalue] at hdirty
          cases hdirty
      rw [if_neg Bool.false_ne_true, Entry.argument, hnull]
      rfl
  rw [Cells.ofRow_of_shown hset hshown, Cells.merge_null hset]

/-- An `INSERT` stores the columns of the object, with the defaults elsewhere. -/
theorem stored_of_insert {cells : Cells m.columns} (hset : cells.SetOnly)
    (hlisted : ∃ entry ∈ cells.entries, entry.1.generated = true ∨ entry.dirty = true)
    (defaults : List Char → Argument) :
    ∃ statement row, Sql.Insert.parse (m.sqlForInserting cells).1 = some statement ∧
      statement.run defaults cells.outputArgs = some row ∧
      Cells.ofRow m.columns row = cells.merge (Cells.ofRow m.columns defaults) := by
  obtain ⟨hparse, hrow⟩ := m.row_of_sqlForInserting cells defaults
  obtain ⟨statement, hstatement⟩ := Option.isSome_iff_exists.1 (hparse.2 hlisted)
  obtain ⟨_, _, row, hrun, hentries⟩ := hrow statement hstatement
  exact ⟨statement, row, hstatement, hrun, Cells.ofRow_of_shown hset hentries⟩

/-- An `UPDATE` stores the columns of the object, with those of the row elsewhere. -/
theorem stored_of_update {cells stored : Cells m.columns} (hset : cells.SetOnly)
    (hstored : stored.SetOnly) :
    Cells.ofRow m.columns (Sql.update (m.assignments cells) stored.toRow) =
      cells.merge stored := by
  rw [Cells.ofRow_of_shown hset (m.row_of_update cells stored.toRow), m.ofRow_toRow hstored]

/-- What the mapper gives back for an `INSERT` that ends with `returning *`: the columns of the
object and the defaults elsewhere, exactly when each value of the row is read back. -/
theorem read_of_insert {lib : ModelLibrary} (htruth : lib.ReadsTruth) (render : Rendering)
    (cells : Cells m.columns) (hset : cells.SetOnly)
    (hlisted : ∃ entry ∈ cells.entries, entry.1.generated = true ∨ entry.dirty = true)
    (defaults : List Char → Argument) :
    ∃ statement row read, Sql.Insert.parse (m.sqlForInserting cells).1 = some statement ∧
      statement.run defaults cells.outputArgs = some row ∧
      m.ofResult lib ((Cells.ofRow m.columns row).selected render) 0 = some read ∧
      (∀ entry ∈ read.entries, entry.dirty = false) ∧
      (read.values = (cells.merge (Cells.ofRow m.columns defaults)).values ↔
        ∀ entry ∈ (cells.merge (Cells.ofRow m.columns defaults)).entries,
          entry.ReadBack lib render) := by
  obtain ⟨statement, row, hparse, hrun, hrow⟩ := m.stored_of_insert hset hlisted defaults
  obtain ⟨read, hread, _, hentries, hvalues⟩ :=
    m.ofResult_selected htruth render (Cells.ofRow m.columns row)
  refine ⟨statement, row, read, hparse, hrun, hread, ?_, hrow ▸ hvalues⟩
  rw [hentries, List.forall_mem_map]
  exact fun _ _ => rfl

/-- A new role with a value for `meta`. -/
def newRole (metadata : Option String) : Cells Roles.modelClass.columns :=
  .cons (.ofSet none) <| .cons (.ofSet (some "editor")) <| .cons (.ofSet none) <|
    .cons (.ofSet metadata) <| .cons (.ofSet none) <| .cons (.ofSet none) <|
      .cons (.ofSet none) <| .cons (.ofSet none) .nil

def newRoleDefaults : List Char → Argument :=
  schemaDefaults "1b4e28ba-2fa1-11d2-883f-0016d3cca427" 1704164645000000

theorem setOnly_newRole (metadata : Option String) : (newRole metadata).SetOnly :=
  .cons _ <| .cons _ <| .cons _ <| .cons _ <| .cons _ <| .cons _ <| .cons _ <| .cons _ .nil

/-- A `JSONB` is written with a space after each colon. -/
def jsonbRendering : Rendering where
  time _ := "2024-01-02 03:04:05+00"
  text column value :=
    if column = "meta" then
      String.ofList (value.toList.flatMap fun c => if c = ':' then [':', ' '] else [c])
    else value

/-- The values of a role without `meta` come back, and those of one with it do not. -/
theorem read_of_inserted_role :
    (∃ statement row read,
      Sql.Insert.parse (Roles.modelClass.sqlForInserting (newRole none)).1 = some statement ∧
      statement.run newRoleDefaults [.text "editor"] = some row ∧
      Roles.modelClass.ofResult .utc
        ((Cells.ofRow Roles.modelClass.columns row).selected jsonbRendering) 0 = some read ∧
      read.values =
        ((newRole none).merge (Cells.ofRow Roles.modelClass.columns newRoleDefaults)).values) ∧
    ∃ statement row read,
      Sql.Insert.parse (Roles.modelClass.sqlForInserting (newRole (some "\x7b\"a\":1\x7d"))).1 =
        some statement ∧
      statement.run newRoleDefaults [.text "editor", .text "\x7b\"a\":1\x7d"] = some row ∧
      Roles.modelClass.ofResult .utc
        ((Cells.ofRow Roles.modelClass.columns row).selected jsonbRendering) 0 = some read ∧
      read.values ≠ ((newRole (some "\x7b\"a\":1\x7d")).merge
        (Cells.ofRow Roles.modelClass.columns newRoleDefaults)).values := by
  have hread := fun metadata => Roles.modelClass.read_of_insert
    (⟨rfl, rfl⟩ : ModelLibrary.utc.ReadsTruth) jsonbRendering (newRole metadata)
    (setOnly_newRole metadata) ⟨_, List.mem_cons_self, Or.inl rfl⟩ newRoleDefaults
  constructor
  · obtain ⟨statement, row, read, hparse, hrun, hresult, _, hvalues⟩ := hread none
    refine ⟨statement, row, read, hparse, hrun, hresult, hvalues.2 ?_⟩
    have htext : ∀ (column value : String), column ≠ "meta" → ∀ text ∈ some value,
        jsonbRendering.text column text = text := fun column value hcolumn text _ =>
      if_neg hcolumn
    have htime : ∀ date ∈ some (1704164645000000 : Int),
        ModelLibrary.utc.readDate (jsonbRendering.time date) = some date := by
      rintro date ⟨⟩
      rfl
    exact List.forall_mem_cons.2 ⟨⟨nofun, htext "id" _ (by decide)⟩,
      List.forall_mem_cons.2 ⟨⟨nofun, htext "name" _ (by decide)⟩,
        List.forall_mem_cons.2 ⟨⟨nofun, nofun⟩, List.forall_mem_cons.2 ⟨⟨nofun, nofun⟩,
          List.forall_mem_cons.2 ⟨⟨nofun, nofun⟩, List.forall_mem_cons.2 ⟨⟨htime, nofun⟩,
            List.forall_mem_cons.2 ⟨⟨nofun, nofun⟩,
              List.forall_mem_cons.2 ⟨⟨nofun, nofun⟩, nofun⟩⟩⟩⟩⟩⟩⟩⟩
  · obtain ⟨statement, row, read, hparse, hrun, hresult, _, hvalues⟩ :=
      hread (some "\x7b\"a\":1\x7d")
    refine ⟨statement, row, read, hparse, hrun, hresult, fun hsame => ?_⟩
    have hback := hvalues.1 hsame _ (List.mem_cons_of_mem _ (List.mem_cons_of_mem _
      (List.mem_cons_of_mem _ List.mem_cons_self)))
    have htext := hback.text "\x7b\"a\":1\x7d" rfl
    exact absurd htext (by decide)

end ModelClass

/-! ## The objects of the services -/

namespace Users

/-- The object on which the setters of the columns with a value were called. -/
def cells (user : Users) : Cells modelClass.columns :=
  .cons (.ofSet user.id) <| .cons (.ofSet user.firstName) <| .cons (.ofSet user.lastName) <|
    .cons (.ofSet user.email) <| .cons (.ofSet user.password) <| .cons (.ofSet user.isDeleted) <|
      .cons (.ofSet user.createdAt) <| .cons (.ofSet user.updatedAt) <|
        .cons (.ofSet user.deletedAt) .nil

/-- The columns of an object. -/
def ofCells : Cells modelClass.columns → Users
  | .cons id (.cons firstName (.cons lastName (.cons email (.cons password (.cons isDeleted
      (.cons createdAt (.cons updatedAt (.cons deletedAt .nil)))))))) =>
    { id := id.value
      firstName := firstName.value
      lastName := lastName.value
      email := email.value
      password := password.value
      isDeleted := isDeleted.value
      createdAt := createdAt.value
      updatedAt := updatedAt.value
      deletedAt := deletedAt.value }

def ofRow (row : List Char → Argument) : Users := ofCells (Cells.ofRow modelClass.columns row)

theorem setOnly_cells (user : Users) : user.cells.SetOnly :=
  .cons _ <| .cons _ <| .cons _ <| .cons _ <| .cons _ <| .cons _ <| .cons _ <| .cons _ <|
    .cons _ .nil

theorem ofCells_merge (object stored : Users) :
    ofCells (object.cells.merge stored.cells) =
      { id := object.id.or stored.id
        firstName := object.firstName.or stored.firstName
        lastName := object.lastName.or stored.lastName
        email := object.email.or stored.email
        password := object.password.or stored.password
        isDeleted := object.isDeleted.or stored.isDeleted
        createdAt := object.createdAt.or stored.createdAt
        updatedAt := object.updatedAt.or stored.updatedAt
        deletedAt := object.deletedAt.or stored.deletedAt } := rfl

/-- An `INSERT` of an object with the columns that a service sets stores the row that
`Users.table` stores, and the mapper reads the row back when the key is made up. -/
theorem insert_refines (newId : String) (now : Int) (user : Users) :
    ∃ statement row, Sql.Insert.parse (modelClass.sqlForInserting user.cells).1 = some statement ∧
      statement.run (schemaDefaults newId now) user.cells.outputArgs = some row ∧
      ofRow row = table.withDefaults newId now user ∧
      (modelClass.sqlForInserting user.cells).2 = user.id.isNone := by
  obtain ⟨statement, row, hparse, hrun, hrow⟩ := modelClass.stored_of_insert user.setOnly_cells
    ⟨_, List.mem_cons_self, Or.inl rfl⟩ (schemaDefaults newId now)
  have hdefaults : Cells.ofRow modelClass.columns (schemaDefaults newId now) =
      cells { id := some newId, isDeleted := some false, createdAt := some now } := rfl
  refine ⟨statement, row, hparse, hrun, ?_, ?_⟩
  · rw [ofRow, hrow, hdefaults, ofCells_merge]
    simp only [table, Option.or_none]
  · obtain ⟨id, _, _, _, _, _, _, _, _⟩ := user
    cases id <;> rfl

/-- An `UPDATE` with an object changes the row with its key as `Users.table` does. -/
theorem update_refines {object stored : Users} (hid : object.id = stored.id) :
    ofRow (Sql.update (modelClass.assignments object.cells) stored.cells.toRow) =
      table.assign object stored := by
  have hkey : object.id.or stored.id = stored.id := by rw [hid, Option.or_self]
  rw [ofRow, modelClass.stored_of_update object.setOnly_cells stored.setOnly_cells,
    ofCells_merge, hkey]
  rfl

end Users

namespace Roles

/-- The object on which the setters of the columns with a value were called. -/
def cells (role : Roles) : Cells modelClass.columns :=
  .cons (.ofSet role.id) <| .cons (.ofSet role.name) <| .cons (.ofSet role.description) <|
    .cons (.ofSet role.metadata) <| .cons (.ofSet role.isDeleted) <|
      .cons (.ofSet role.createdAt) <| .cons (.ofSet role.updatedAt) <|
        .cons (.ofSet role.deletedAt) .nil

/-- The columns of an object. -/
def ofCells : Cells modelClass.columns → Roles
  | .cons id (.cons name (.cons description (.cons metadata (.cons isDeleted (.cons createdAt
      (.cons updatedAt (.cons deletedAt .nil))))))) =>
    { id := id.value
      name := name.value
      description := description.value
      metadata := metadata.value
      isDeleted := isDeleted.value
      createdAt := createdAt.value
      updatedAt := updatedAt.value
      deletedAt := deletedAt.value }

def ofRow (row : List Char → Argument) : Roles := ofCells (Cells.ofRow modelClass.columns row)

theorem setOnly_cells (role : Roles) : role.cells.SetOnly :=
  .cons _ <| .cons _ <| .cons _ <| .cons _ <| .cons _ <| .cons _ <| .cons _ <| .cons _ .nil

theorem ofCells_merge (object stored : Roles) :
    ofCells (object.cells.merge stored.cells) =
      { id := object.id.or stored.id
        name := object.name.or stored.name
        description := object.description.or stored.description
        metadata := object.metadata.or stored.metadata
        isDeleted := object.isDeleted.or stored.isDeleted
        createdAt := object.createdAt.or stored.createdAt
        updatedAt := object.updatedAt.or stored.updatedAt
        deletedAt := object.deletedAt.or stored.deletedAt } := rfl

/-- An `INSERT` of an object stores the row that `Roles.table` stores, and the mapper reads the
row back when the key is made up. -/
theorem insert_refines (newId : String) (now : Int) (role : Roles) :
    ∃ statement row, Sql.Insert.parse (modelClass.sqlForInserting role.cells).1 = some statement ∧
      statement.run (schemaDefaults newId now) role.cells.outputArgs = some row ∧
      ofRow row = table.withDefaults newId now role ∧
      (modelClass.sqlForInserting role.cells).2 = role.id.isNone := by
  obtain ⟨statement, row, hparse, hrun, hrow⟩ := modelClass.stored_of_insert role.setOnly_cells
    ⟨_, List.mem_cons_self, Or.inl rfl⟩ (schemaDefaults newId now)
  have hdefaults : Cells.ofRow modelClass.columns (schemaDefaults newId now) =
      cells { id := some newId, isDeleted := some false, createdAt := some now } := rfl
  refine ⟨statement, row, hparse, hrun, ?_, ?_⟩
  · rw [ofRow, hrow, hdefaults, ofCells_merge]
    simp only [table, Option.or_none]
  · obtain ⟨id, _, _, _, _, _, _, _⟩ := role
    cases id <;> rfl

/-- An `UPDATE` with an object changes the row with its key as `Roles.table` does. -/
theorem update_refines {object stored : Roles} (hid : object.id = stored.id) :
    ofRow (Sql.update (modelClass.assignments object.cells) stored.cells.toRow) =
      table.assign object stored := by
  have hkey : object.id.or stored.id = stored.id := by rw [hid, Option.or_self]
  rw [ofRow, modelClass.stored_of_update object.setOnly_cells stored.setOnly_cells,
    ofCells_merge, hkey]
  rfl

end Roles

/-- The statements of the objects that the two services write do to the database what the tables
of the services say: an `INSERT` stores the object with the defaults of the schema, and an
`UPDATE` the object over the row with its key. -/
theorem statements_refine_tables :
    (∀ newId now user, ∃ statement row,
      Sql.Insert.parse (Users.modelClass.sqlForInserting user.cells).1 = some statement ∧
        statement.run (schemaDefaults newId now) user.cells.outputArgs = some row ∧
        Users.ofRow row = Users.table.withDefaults newId now user ∧
        (Users.modelClass.sqlForInserting user.cells).2 = user.id.isNone) ∧
    (∀ object stored : Users, object.id = stored.id →
      Users.ofRow (Sql.update (Users.modelClass.assignments object.cells) stored.cells.toRow) =
        Users.table.assign object stored) ∧
    (∀ newId now role, ∃ statement row,
      Sql.Insert.parse (Roles.modelClass.sqlForInserting role.cells).1 = some statement ∧
        statement.run (schemaDefaults newId now) role.cells.outputArgs = some row ∧
        Roles.ofRow row = Roles.table.withDefaults newId now role ∧
        (Roles.modelClass.sqlForInserting role.cells).2 = role.id.isNone) ∧
    ∀ object stored : Roles, object.id = stored.id →
      Roles.ofRow (Sql.update (Roles.modelClass.assignments object.cells) stored.cells.toRow) =
        Roles.table.assign object stored :=
  ⟨Users.insert_refines, fun _ _ => Users.update_refines, Roles.insert_refines,
    fun _ _ => Roles.update_refines⟩

theorem statements_refine_tables_role :
    Roles.ofRow (Sql.update
        (Roles.modelClass.assignments (Roles.cells { id := some "r", name := some "editor" }))
        (Roles.cells { id := some "r", name := some "author", createdAt := some 7 }).toRow) =
      Roles.table.assign { id := some "r", name := some "editor" }
        { id := some "r", name := some "author", createdAt := some 7 } :=
  statements_refine_tables.2.2.2 _ _ rfl

end DrogonStarter
