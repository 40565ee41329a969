import DrogonStarter.Models.Statements

/-!
# The tables of the schema

The classes were generated from the tables of `001_initial_schema.sql`, and they do not repeat
all that a table asks: `is_deleted` and the key of `user_permissions` are not null in their
tables, and may be null in their classes.

* `TableColumn` is a column of a `CREATE TABLE`, and `SchemaTable` a table with its class.
* `Stores` says that the `INSERT` of an object makes a row that the table takes.
* `takes_written_iff` compares the check of one column with what the table asks of it, and
  `stores_of_checkAll` puts the columns together.
-/

namespace DrogonStarter

/-- A column of a `CREATE TABLE`. -/
structure TableColumn where
  name : String
  /-- `NOT NULL`, or in the primary key. -/
  notNull : Bool := false
  hasDefault : Bool := false
  /-- The characters of a `VARCHAR`. -/
  limit : Option Nat := none

namespace TableColumn

/-- `id UUID PRIMARY KEY DEFAULT uuid_generate_v4()`. -/
def id : TableColumn := { name := "id", notNull := true, hasDefault := true }

/-- `VARCHAR(255)`. -/
def varchar (name : String) (notNull : Bool) : TableColumn := { name, notNull, limit := some 255 }

/-- `UUID NOT NULL REFERENCES`. -/
def reference (name : String) : TableColumn := { name, notNull := true }

def isDeleted : TableColumn := { name := "is_deleted", notNull := true, hasDefault := true }

def createdAt : TableColumn := { name := "created_at", notNull := true, hasDefault := true }

/-- A column that may be null. -/
def nullable (name : String) : TableColumn := { name }

end TableColumn

/-- A table with the class that was generated from it. -/
structure SchemaTable where
  model : ModelClass
  columns : List TableColumn
  names : columns.map TableColumn.name = model.columns.map Column.name
  limits : columns.map TableColumn.limit = model.columns.map Column.limit
  /-- What the class leaves to the database has a default. -/
  generated : ∀ pair ∈ columns.zip model.columns, pair.2.generated = true →
    pair.1.hasDefault = true
  /-- A statement that names no column leaves one without a value. -/
  keyed : (∃ column ∈ model.columns, column.generated = true) ∨
    ∃ column ∈ columns, column.notNull = true ∧ column.hasDefault = false

def Users.schemaTable : SchemaTable where
  model := Users.modelClass
  columns := [.id, .varchar "first_name" true, .varchar "last_name" true, .varchar "email" true,
    .varchar "password" true, .isDeleted, .createdAt, .nullable "updated_at",
    .nullable "deleted_at"]
  names := by decide
  limits := by decide
  generated := by decide
  keyed := by decide

def Roles.schemaTable : SchemaTable where
  model := Roles.modelClass
  columns := [.id, .varchar "name" true, .varchar "description" false, .nullable "meta",
    .isDeleted, .createdAt, .nullable "updated_at", .nullable "deleted_at"]
  names := by decide
  limits := by decide
  generated := by decide
  keyed := by decide

def Permissions.schemaTable : SchemaTable where
  model := Permissions.modelClass
  columns := Roles.schemaTable.columns
  names := Roles.schemaTable.names
  limits := Roles.schemaTable.limits
  generated := Roles.schemaTable.generated
  keyed := Roles.schemaTable.keyed

def RolePermissions.schemaTable : SchemaTable where
  model := RolePermissions.modelClass
  columns := [.reference "user_id", .reference "role_id", .createdAt, .nullable "updated_at"]
  names := by decide
  limits := by decide
  generated := by decide
  keyed := by decide

def UserPermissions.schemaTable : SchemaTable where
  model := UserPermissions.modelClass
  columns := [.reference "user_id", .reference "permission_id", .createdAt,
    .nullable "updated_at"]
  names := by decide
  limits := by decide
  generated := by decide
  keyed := by decide

def schemaTables : List SchemaTable :=
  [Users.schemaTable, Roles.schemaTable, Permissions.schemaTable, RolePermissions.schemaTable,
    UserPermissions.schemaTable]

/-- The defaults of the columns in the schema. -/
def schemaDefaults (newId : String) (now : Int) (name : List Char) : Argument :=
  if name = "id".toList then .text newId
  else if name = "is_deleted".toList then .truth false
  else if name = "created_at".toList then .date now
  else .null

theorem schemaDefaults_eq_null_iff (newId : String) (now : Int) (name : List Char) :
    schemaDefaults newId now name = .null ↔
      name ∉ ["id".toList, "is_deleted".toList, "created_at".toList] := by
  unfold schemaDefaults
  simp only [List.mem_cons, List.not_mem_nil, or_false, not_or]
  split_ifs with hid hdeleted hcreated
  · exact iff_of_false not_false fun h => h.1 hid
  · exact iff_of_false not_false fun h => h.2.1 hdeleted
  · exact iff_of_false not_false fun h => h.2.2 hcreated
  · exact iff_of_true rfl ⟨hid, hdeleted, hcreated⟩

/-! ## What a table takes -/

/-- The characters of a text. -/
def Argument.length : Argument → Nat
  | .text value => value.length
  | _ => 0

/-- The column takes the value. -/
def TableColumn.Takes (column : TableColumn) (value : Argument) : Prop :=
  (column.notNull = true → value ≠ .null) ∧ ∀ limit ∈ column.limit, value.length ≤ limit

namespace SchemaTable

variable (t : SchemaTable)

/-- The table takes the row. -/
def Takes (row : List Char → Argument) : Prop :=
  ∀ column ∈ t.columns, column.Takes (row column.name.toList)

/-- The `INSERT` of an object is a statement, and the table takes its row. -/
def Stores (defaults : List Char → Argument) (cells : Cells t.model.columns) : Prop :=
  ∃ statement row, Sql.Insert.parse (t.model.sqlForInserting cells).1 = some statement ∧
    statement.run defaults cells.outputArgs = some row ∧ t.Takes row

/-- The values that the database makes up: one for each column with a default, which the column
takes. -/
def Defaults (defaults : List Char → Argument) : Prop :=
  ∀ column ∈ t.columns,
    (column.hasDefault = true ↔ defaults column.name.toList ≠ .null) ∧
      ∀ limit ∈ column.limit, (defaults column.name.toList).length ≤ limit

theorem defaults_schemaDefaults (newId : String) (now : Int) {t : SchemaTable}
    (ht : t ∈ schemaTables) : t.Defaults (schemaDefaults newId now) := by
  have hnamed : ∀ t ∈ schemaTables, ∀ column ∈ t.columns,
      (column.hasDefault = true ↔
        column.name.toList ∈ ["id".toList, "is_deleted".toList, "created_at".toList]) ∧
      (column.limit.isSome = true → column.hasDefault = false) := by decide
  intro column hcolumn
  obtain ⟨hdefault, hlimit⟩ := hnamed t ht column hcolumn
  have hgiven : column.hasDefault = true ↔
      schemaDefaults newId now column.name.toList ≠ .null := by
    rw [hdefault, Ne, schemaDefaults_eq_null_iff, not_not]
  refine ⟨hgiven, fun limit hmem => ?_⟩
  have hnone : schemaDefaults newId now column.name.toList = .null := by
    by_contra hsome
    rw [hlimit (Option.isSome_of_mem hmem)] at hgiven
    exact Bool.false_ne_true (hgiven.2 hsome)
  rw [hnone]
  exact Nat.zero_le _

end SchemaTable

/-! ## One column -/

/-- What the check for creation does not see of a column that is not null in the table: a text
that is no date, a null for a member that may be null in the class, and a value that is not
given and has no default. -/
structure TableColumn.Filled (lib : ModelLibrary) (column : TableColumn) (member : Column)
    (key : Option String) (found : Option Json) : Prop where
  readable : member.type = .date → ∀ text, found = some (.string text) →
    (lib.readDate text).isSome = true
  not_null : member.notNull = false → found ≠ some .null
  given : column.hasDefault = false → member.notNull = false ∨ key = none →
    found.isSome = true

theorem length_le_utf8ByteSize (text : String) : text.length ≤ text.utf8ByteSize := by
  rw [← String.ofList_toList (s := text)]
  generalize text.toList = chars
  induction chars with
  | nil => exact Nat.zero_le _
  | cons c chars ih =>
    have hpos := c.utf8Size_pos
    rw [String.length_ofList] at ih ⊢
    rw [String.ofList_cons, String.utf8ByteSize_append, String.utf8ByteSize_singleton,
      List.length_cons]
    omega

/-- The member of a new object, of what was found for its column. -/
def newEntry (lib : ModelLibrary) (member : Column) (found : Option Json) : Entry :=
  ⟨member, Cell.written lib member.type true found {}⟩

section Creation

variable {lib : ModelLibrary} {json : Json} {column : TableColumn} {member : Column}
  {key : Option String}

theorem argument_newEntry (value : Json) :
    (newEntry lib member (some value)).argument =
      ((lib.meaning member.type value).map member.type.argument).getD .null := by
  rw [newEntry, Entry.argument, Cell.written]
  exact congrArg (fun value => (Option.map member.type.argument value).getD .null)
    (Option.or_none)

/-- A value that passed is bound as a text that is not too long, and as a null when it is one or
is no date. -/
theorem takes_newEntry_iff {fieldName : String} {value : Json}
    (hlimit : column.limit = member.limit)
    (h : member.validJsonOfField fieldName value = .ok ()) :
    column.Takes (newEntry lib member (some value)).argument ↔
      (column.notNull = true → (lib.meaning member.type value).isSome = true) := by
  rw [argument_newEntry, TableColumn.Takes]
  have hnull : (((lib.meaning member.type value).map member.type.argument).getD .null ≠ .null) ↔
      (lib.meaning member.type value).isSome = true := by
    cases lib.meaning member.type value with
    | none => simp
    | some value =>
      refine iff_of_true ?_ rfl
      exact (member.type.argument_ne_null value)
  have hlength : ∀ limit ∈ column.limit,
      (((lib.meaning member.type value).map member.type.argument).getD .null).length ≤ limit := by
    intro limit hmem
    rcases Column.validJsonOfField_ok_iff.1 h with ⟨hisNull, _⟩ | ⟨_, haccepts, hbytes⟩
    · rw [lib.meaning_of_isNull _ hisNull]
      exact Nat.zero_le _
    · have hbytes := hbytes limit (hlimit ▸ hmem)
      generalize member.type = type at haccepts
      cases type with
      | string => cases value <;> cases haccepts; exact (length_le_utf8ByteSize _).trans hbytes
      | bool => cases value <;> cases haccepts; exact Nat.zero_le _
      | date =>
        cases value <;> cases haccepts
        rw [ModelLibrary.meaning]
        cases lib.readDate _ <;> exact Nat.zero_le _
  rw [hnull]
  exact and_iff_left hlength

/-- A value that passed and is no date has a meaning unless it is a null. -/
theorem meaning_isSome_iff {fieldName : String} {value : Json}
    (h : member.validJsonOfField fieldName value = .ok ()) :
    (lib.meaning member.type value).isSome = true ↔ column.Filled lib member key (some value) := by
  rcases Column.validJsonOfField_ok_iff.1 h with ⟨hisNull, hnullable⟩ | ⟨hisNull, haccepts, _⟩
  · obtain rfl : value = .null := by cases value <;> first | rfl | cases hisNull
    rw [lib.meaning_of_isNull _ rfl]
    exact iff_of_false Bool.false_ne_true fun hfilled => hfilled.not_null hnullable rfl
  · have hnotNull : some value ≠ some .null := by
      rintro hnull
      rw [Option.some.inj hnull] at hisNull
      cases hisNull
    have hfilled : column.Filled lib member key (some value) ↔
        (member.type = .date → ∀ text, value = .string text →
          (lib.readDate text).isSome = true) :=
      ⟨fun hfilled hdate text htext => hfilled.readable hdate text (congrArg some htext),
        fun hreadable => ⟨fun hdate text htext => hreadable hdate text (Option.some.inj htext),
          fun _ => hnotNull, fun _ _ => rfl⟩⟩
    rw [hfilled]
    generalize member.type = type at haccepts
    cases type with
    | string => cases value <;> cases haccepts; exact iff_of_true rfl nofun
    | bool => cases value <;> cases haccepts; exact iff_of_true rfl nofun
    | date => cases value <;> cases haccepts; simp [ModelLibrary.meaning]

/-- Of a column that passed, the row has what the table takes exactly when the column may be
null or is filled. -/
theorem takes_written_iff {default : Argument} (hlimit : column.limit = member.limit)
    (hgenerated : member.generated = true → column.hasDefault = true)
    (hdefault : column.hasDefault = true ↔ default ≠ .null)
    (hfits : ∀ limit ∈ column.limit, default.length ≤ limit)
    (h : member.checkForCreation key (lib.member json key) = .ok ()) :
    column.Takes (if (newEntry lib member (key.bind json.get?)).dirty then
        (newEntry lib member (key.bind json.get?)).argument else default) ↔
      (column.notNull = true → column.Filled lib member key (key.bind json.get?)) := by
  obtain ⟨hmember, hvalid⟩ := Column.sound_of_checkForCreation h
  cases hfound : key.bind json.get? with
  | none =>
    have hunseen : column.hasDefault = false → member.notNull = false ∨ key = none := by
      intro hnone
      cases key with
      | none => exact Or.inr rfl
      | some name =>
        rw [hmember, hfound, Column.checkForCreation] at h
        cases hnotNull : member.notNull with
        | false => exact Or.inl rfl
        | true =>
          have hgenerated : member.generated = false := by
            cases hyes : member.generated with
            | false => rfl
            | true => exact absurd (hgenerated hyes) (by rw [hnone]; exact Bool.false_ne_true)
          rw [if_pos (by rw [Column.required, hnotNull, hgenerated]; rfl)] at h
          cases h
    have hfilled : column.Filled lib member key none ↔ column.hasDefault = true := by
      constructor
      · intro hfilled
        by_contra hno
        have hnone := Bool.eq_false_iff.2 hno
        exact Bool.false_ne_true (hfilled.given hnone (hunseen hnone))
      · intro hyes
        exact ⟨nofun, nofun, fun hnone =>
          absurd (hyes.symm.trans hnone) (by decide)⟩
    rw [hfilled, hdefault]
    exact and_iff_left hfits
  | some value =>
    obtain ⟨name, hname⟩ := hvalid value hfound
    have hdirty : (newEntry lib member (some value)).dirty = true := rfl
    rw [if_pos hdirty, takes_newEntry_iff hlimit hname]
    exact imp_congr_right fun _ => meaning_isSome_iff hname

end Creation

/-! ## The columns together -/

theorem forall_mem_zip_of_map_eq {α β γ : Type} {f : α → γ} {g : β → γ} {xs : List α}
    {ys : List β} (h : xs.map f = ys.map g) : ∀ pair ∈ xs.zip ys, f pair.1 = g pair.2 := by
  induction xs generalizing ys with
  | nil => nofun
  | cons x xs ih =>
    cases ys with
    | nil => nofun
    | cons y ys =>
      obtain ⟨hhead, htail⟩ := List.cons.inj h
      exact List.forall_mem_cons.2 ⟨hhead, ih htail⟩

/-- The members of a new object, column by column. -/
theorem entries_new (lib : ModelLibrary) (json : Json) {columns : List Column}
    {keys : List (Option String)} (hlength : keys.length = columns.length) :
    ((Cells.empty columns).written lib (fun _ => true) json keys).entries =
      (columns.zip keys).map fun pair => newEntry lib pair.1 (pair.2.bind json.get?) := by
  induction columns generalizing keys with
  | nil => cases keys <;> rfl
  | cons column columns ih =>
    cases keys with
    | nil => cases hlength
    | cons key keys =>
      rw [Cells.empty, Cells.written, Cells.entries_cons, ih (Nat.succ.inj hlength)]
      rfl

namespace SchemaTable

variable (t : SchemaTable)

theorem length_columns : t.columns.length = t.model.columns.length := by
  simpa using congrArg List.length t.names

section Insert

variable {defaults : List Char → Argument} (cells : Cells t.model.columns)

/-- The names of the table are those of the members. -/
theorem name_eq_of_mem_zip :
    ∀ pair ∈ t.columns.zip cells.entries, pair.1.name = pair.2.1.name := by
  refine forall_mem_zip_of_map_eq (g := fun entry : Entry => entry.1.name) (t.names.trans ?_)
  conv_lhs => rw [← cells.map_fst_entries]
  rw [List.map_map]
  rfl

/-- What is said of the columns of the table is said of them with their members. -/
theorem forall_columns_iff {motive : TableColumn → Prop} :
    (∀ column ∈ t.columns, motive column) ↔
      ∀ pair ∈ t.columns.zip cells.entries, motive pair.1 := by
  have hlength : t.columns.length ≤ cells.entries.length := by
    have hentries := congrArg List.length cells.map_fst_entries
    rw [List.length_map] at hentries
    rw [hentries, t.length_columns]
  rw [← List.forall_mem_map (f := Prod.fst), List.map_fst_zip hlength]

/-- A row that the table takes has a column that the statement names. -/
theorem listed_of_takes (hdefaults : t.Defaults defaults)
    (htakes : ∀ pair ∈ t.columns.zip cells.entries, pair.1.Takes
      (if pair.2.dirty then pair.2.argument else defaults pair.1.name.toList)) :
    ∃ entry ∈ cells.entries, entry.1.generated = true ∨ entry.dirty = true := by
  rcases t.keyed with ⟨column, hcolumn, hgenerated⟩ | ⟨column, hcolumn, hnotNull, hno⟩
  · rw [← cells.map_fst_entries] at hcolumn
    obtain ⟨entry, hentry, rfl⟩ := List.mem_map.1 hcolumn
    exact ⟨entry, hentry, Or.inl hgenerated⟩
  · by_contra hnone
    have hdefault : ∀ column ∈ t.columns, column.Takes (defaults column.name.toList) := by
      refine (t.forall_columns_iff cells).2 fun pair hpair => ?_
      have hclean : ¬ pair.2.dirty = true := fun hdirty =>
        hnone ⟨pair.2, (List.of_mem_zip hpair).2, Or.inr hdirty⟩
      have hpairTakes := htakes pair hpair
      rwa [if_neg hclean] at hpairTakes
    have hyes := (hdefaults column hcolumn).1.2 ((hdefault column hcolumn).1 hnotNull)
    rw [hno] at hyes
    cases hyes

/-- The `INSERT` of an object stores a row exactly when each column takes the value of its
member, or its default when the member is not marked. -/
theorem stores_iff (hdefaults : t.Defaults defaults) :
    t.Stores defaults cells ↔
      ∀ pair ∈ t.columns.zip cells.entries, pair.1.Takes
        (if pair.2.dirty then pair.2.argument else defaults pair.1.name.toList) := by
  obtain ⟨hparse, hrow⟩ := t.model.row_of_sqlForInserting cells defaults
  have htakes : ∀ row : List Char → Argument, (∀ entry ∈ cells.entries,
      row entry.1.name.toList =
        if entry.dirty then entry.argument else defaults entry.1.name.toList) →
      (t.Takes row ↔ ∀ pair ∈ t.columns.zip cells.entries, pair.1.Takes
        (if pair.2.dirty then pair.2.argument else defaults pair.1.name.toList)) := by
    intro row hvalues
    rw [Takes, t.forall_columns_iff cells]
    refine forall₂_congr fun pair hpair => ?_
    rw [t.name_eq_of_mem_zip cells pair hpair, hvalues _ (List.of_mem_zip hpair).2]
  constructor
  · rintro ⟨statement, row, hstatement, hrun, hrowTakes⟩
    obtain ⟨_, _, row', hrun', hvalues⟩ := hrow statement hstatement
    obtain rfl : row = row' := Option.some.inj (hrun.symm.trans hrun')
    exact (htakes row hvalues).1 hrowTakes
  · intro hall
    obtain ⟨statement, hstatement⟩ := Option.isSome_iff_exists.1
      (hparse.2 (t.listed_of_takes cells hdefaults hall))
    obtain ⟨_, _, row, hrun, hvalues⟩ := hrow statement hstatement
    exact ⟨statement, row, hstatement, hrun, (htakes row hvalues).2 hall⟩

end Insert

variable {lib : ModelLibrary} {json : Json} {defaults : List Char → Argument}

/-- The object of a value that passed is stored exactly when each column that is not null in the
table is filled. -/
theorem stores_of_checkAll (hdefaults : t.Defaults defaults) {keys : List (Option String)}
    (hlength : keys.length = t.model.columns.length)
    (h : checkAll (fun column key => column.checkForCreation key (lib.member json key))
      t.model.columns keys = .ok ()) :
    t.Stores defaults ((Cells.empty t.model.columns).written lib (fun _ => true) json keys) ↔
      ∀ pair ∈ t.columns.zip (t.model.columns.zip keys), pair.1.notNull = true →
        pair.1.Filled lib pair.2.1 pair.2.2 (pair.2.2.bind json.get?) := by
  rw [t.stores_iff _ hdefaults, entries_new lib json hlength, List.zip_map_right,
    List.forall_mem_map]
  refine forall₂_congr fun pair hpair => ?_
  obtain ⟨hcolumn, hmember⟩ := List.of_mem_zip hpair
  have hpairs : (pair.1, pair.2.1) ∈ t.columns.zip t.model.columns := by
    have hmap := List.mem_map_of_mem (f := Prod.map id Prod.fst) hpair
    rwa [← List.zip_map_right, List.map_fst_zip hlength.ge] at hmap
  obtain ⟨hdefault, hfits⟩ := hdefaults pair.1 hcolumn
  exact takes_written_iff (forall_mem_zip_of_map_eq t.limits _ hpairs)
    (t.generated _ hpairs) hdefault hfits (checkAll_ok_iff.1 h pair.2 hmember)

/-- A value that passes makes an object.  Its row is stored exactly when, of the columns that are
not null in the table, the dates are given as dates, and those that may be null in the class are
not given as null, and are given where they have no default. -/
theorem stores_of_validateJsonForCreation (hdefaults : t.Defaults defaults)
    (h : t.model.validateJsonForCreation lib json = .ok ()) :
    ∃ cells, t.model.ofJson lib json = .ok cells ∧
      (t.Stores defaults cells ↔
        ∀ pair ∈ t.columns.zip t.model.columns, pair.1.notNull = true →
          pair.1.Filled lib pair.2 (some pair.2.name) (json.get? pair.2.name)) := by
  refine ⟨_, t.model.construct_of_checkAll lib h,
    (t.stores_of_checkAll hdefaults t.model.length_keys h).trans ?_⟩
  have hzip : t.model.columns.zip t.model.keys =
      t.model.columns.map fun column => (column, some column.name) := by
    rw [ModelClass.keys, ← List.zip_map', List.map_id']
  rw [hzip, List.zip_map_right, List.forall_mem_map]
  rfl

/-- What the tables ask and the classes do not. -/
example : (schemaTables.flatMap fun t => (t.columns.zip t.model.columns).filterMap fun pair =>
    if pair.1.notNull && !pair.2.notNull then some (t.model.tableName, pair.1.name) else none) =
    [("users", "is_deleted"), ("roles", "is_deleted"), ("permissions", "is_deleted"),
      ("user_permissions", "user_id"), ("user_permissions", "permission_id")] := by decide

/-- A role of a user, as a request for creation. -/
def rolePermission : Json :=
  .object [("created_at", .string "2024-01-02 03:04:05"), ("role_id", .string "r"),
    ("user_id", .string "u")]

/-- A permission of nobody passes as well, and is not stored. -/
theorem stores_of_rolePermission :
    (∃ cells, RolePermissions.modelClass.ofJson .utc rolePermission = .ok cells ∧
      RolePermissions.schemaTable.Stores (schemaDefaults "i" 0) cells) ∧
    ∃ cells, UserPermissions.modelClass.ofJson .utc
        (.object [("created_at", .string "2024-01-02 03:04:05")]) = .ok cells ∧
      ¬ UserPermissions.schemaTable.Stores (schemaDefaults "i" 0) cells := by
  constructor
  · obtain ⟨cells, hcells, hstores⟩ :=
      RolePermissions.schemaTable.stores_of_validateJsonForCreation
        (defaults_schemaDefaults "i" 0 (by simp [schemaTables]))
        (rfl : RolePermissions.modelClass.validateJsonForCreation .utc rolePermission = .ok ())
    refine ⟨cells, hcells, hstores.2 ?_⟩
    refine List.forall_mem_cons.2 ⟨fun _ => ⟨nofun, nofun, fun _ _ => rfl⟩,
      List.forall_mem_cons.2 ⟨fun _ => ⟨nofun, nofun, fun _ _ => rfl⟩,
        List.forall_mem_cons.2 ⟨fun _ => ⟨?_, nofun, fun _ _ => rfl⟩,
          List.forall_mem_cons.2 ⟨nofun, nofun⟩⟩⟩⟩
    rintro _ text htext
    obtain rfl : "2024-01-02 03:04:05" = text := Json.string.inj (Option.some.inj htext)
    rfl
  · obtain ⟨cells, hcells, hstores⟩ :=
      UserPermissions.schemaTable.stores_of_validateJsonForCreation
        (defaults_schemaDefaults "i" 0 (by simp [schemaTables]))
        (rfl : UserPermissions.modelClass.validateJsonForCreation .utc
          (.object [("created_at", .string "2024-01-02 03:04:05")]) = .ok ())
    refine ⟨cells, hcells, fun hstored => ?_⟩
    have hfilled := hstores.1 hstored _ List.mem_cons_self rfl
    exact Bool.false_ne_true (hfilled.given rfl (Or.inl rfl))

/-- With aliases, the row is stored exactly when in addition no column without a default has an
empty alias. -/
theorem stores_of_validateMasqueradedJsonForCreation (hdefaults : t.Defaults defaults)
    {pMasqueradingVector : List String}
    (h : t.model.validateMasqueradedJsonForCreation lib json pMasqueradingVector = .ok ()) :
    ∃ cells, t.model.ofMasqueradedJson lib json pMasqueradingVector = .ok cells ∧
      (t.Stores defaults cells ↔
        ∀ pair ∈ t.columns.zip (t.model.columns.zip (ModelClass.aliasKeys pMasqueradingVector)),
          pair.1.notNull = true →
            pair.1.Filled lib pair.2.1 pair.2.2 (pair.2.2.bind json.get?)) := by
  unfold ModelClass.validateMasqueradedJsonForCreation at h
  by_cases hlength : pMasqueradingVector.length = t.model.columns.length
  · rw [if_neg (not_not.2 hlength)] at h
    have hchecks := catchLogicError_ok_iff.1 h
    refine ⟨_, ?_, t.stores_of_checkAll hdefaults ?_ hchecks⟩
    · rw [ModelClass.ofMasqueradedJson, if_neg (not_not.2 hlength),
        t.model.construct_of_checkAll lib hchecks]
    · rw [ModelClass.length_aliasKeys, hlength]
  · rw [if_pos hlength] at h
    cases h

/-- The time of the creation may be left out, and the role may not. -/
theorem stores_of_aliases :
    (∃ cells, RolePermissions.modelClass.ofMasqueradedJson .utc rolePermission
        ["user_id", "role_id", "", ""] = .ok cells ∧
      RolePermissions.schemaTable.Stores (schemaDefaults "i" 0) cells) ∧
    ∃ cells, RolePermissions.modelClass.ofMasqueradedJson .utc rolePermission
        ["user_id", "", "created_at", ""] = .ok cells ∧
      ¬ RolePermissions.schemaTable.Stores (schemaDefaults "i" 0) cells := by
  constructor
  · obtain ⟨cells, hcells, hstores⟩ :=
      RolePermissions.schemaTable.stores_of_validateMasqueradedJsonForCreation
        (defaults_schemaDefaults "i" 0 (by simp [schemaTables]))
        (rfl : RolePermissions.modelClass.validateMasqueradedJsonForCreation .utc rolePermission
          ["user_id", "role_id", "", ""] = .ok ())
    refine ⟨cells, hcells, hstores.2 ?_⟩
    exact List.forall_mem_cons.2 ⟨fun _ => ⟨nofun, nofun, fun _ _ => rfl⟩,
      List.forall_mem_cons.2 ⟨fun _ => ⟨nofun, nofun, fun _ _ => rfl⟩,
        List.forall_mem_cons.2 ⟨fun _ => ⟨fun _ => nofun, nofun, nofun⟩,
          List.forall_mem_cons.2 ⟨nofun, nofun⟩⟩⟩⟩
  · obtain ⟨cells, hcells, hstores⟩ :=
      RolePermissions.schemaTable.stores_of_validateMasqueradedJsonForCreation
        (defaults_schemaDefaults "i" 0 (by simp [schemaTables]))
        (rfl : RolePermissions.modelClass.validateMasqueradedJsonForCreation .utc rolePermission
          ["user_id", "", "created_at", ""] = .ok ())
    refine ⟨cells, hcells, fun hstored => ?_⟩
    have hfilled := hstores.1 hstored _ (List.mem_cons_of_mem _ List.mem_cons_self) rfl
    exact Bool.false_ne_true (hfilled.given rfl (Or.inr rfl))

end SchemaTable

end DrogonStarter
