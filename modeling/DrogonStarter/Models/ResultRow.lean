import DrogonStarter.Models.Statements

/-!
# Objects from the rows of a result

A generated object is read from a row of a query, by the names of the columns when the offset
is negative and by their places after the offset otherwise.

* `readByName` and `readByOffset` are the two branches of the constructor, and
  `readByName_eq_readByOffset` says for which rows they agree.
* `selected` is the row that `select *` gives for a stored row, in the texts of a `Rendering`,
  and `entries_selected` says what is read of each stored value.
* `row_of_updateByJson` is an update of an object that was read so: what the `UPDATE` of it does
  to each column of the stored row.
-/

namespace DrogonStarter

/-- A field of a row: the name of its column, and its text unless it is null. -/
structure ResultField where
  name : String
  text : Option String
deriving DecidableEq

/-- The value of a field that is not null. -/
def ModelLibrary.fieldValue (lib : ModelLibrary) (type : ColumnType) (text : String) :
    Option type.Value :=
  match type with
  | .string => some text
  | .bool => some (lib.fieldTruth text)
  | .date => lib.readDate text

/-- A member that is read from a field. -/
def Cell.ofField (lib : ModelLibrary) (type : ColumnType) (field : ResultField) :
    Cell type.Value :=
  { value := field.text.bind (lib.fieldValue type) }

namespace Cells

/-- The fields by the names of the columns.  A name that the row does not have throws, which
ends the program. -/
def readByName (lib : ModelLibrary) (row : List ResultField) :
    (columns : List Column) → Option (Cells columns)
  | [] => some .nil
  | column :: columns => do
    let field ← row.find? fun field => field.name = column.name
    let rest ← readByName lib row columns
    return .cons (.ofField lib column.type field) rest

/-- The fields in the order of the columns. -/
def readInOrder (lib : ModelLibrary) : (columns : List Column) → List ResultField → Cells columns
  | column :: columns, field :: fields =>
    .cons (.ofField lib column.type field) (readInOrder lib columns fields)
  | columns, _ => .empty columns

end Cells

/-- The constructor from a row.  A row that is too short is only logged. -/
def ModelClass.ofResult (m : ModelClass) (lib : ModelLibrary) (row : List ResultField)
    (indexOffset : Int) : Option (Cells m.columns) :=
  if indexOffset < 0 then Cells.readByName lib row m.columns
  else if indexOffset.toNat + m.columns.length > row.length then some (.empty m.columns)
  else some (Cells.readInOrder lib m.columns (row.drop indexOffset.toNat))

/-! ## Names and places -/

namespace Cells

variable {lib : ModelLibrary}

theorem readInOrder_append (columns : List Column) {fields : List ResultField}
    (rest : List ResultField) (hlength : fields.length = columns.length) :
    readInOrder lib columns (fields ++ rest) = readInOrder lib columns fields := by
  induction columns generalizing fields with
  | nil =>
    obtain rfl := List.length_eq_zero_iff.1 hlength
    cases rest <;> rfl
  | cons column columns ih =>
    cases fields with
    | nil => cases hlength
    | cons field fields =>
      rw [List.cons_append, readInOrder, readInOrder, ih (Nat.succ.inj hlength)]

/-- By name are found the fields that carry the names, when these are in their order and no
field before them has one of the names. -/
theorem readByName_eq {before fields after : List ResultField} {columns : List Column}
    (hnames : fields.map ResultField.name = columns.map Column.name)
    (hnodup : (columns.map Column.name).Nodup)
    (hbefore : ∀ field ∈ before, field.name ∉ columns.map Column.name) :
    readByName lib (before ++ (fields ++ after)) columns =
      some (readInOrder lib columns fields) := by
  induction columns generalizing before fields with
  | nil => rfl
  | cons column columns ih =>
    cases fields with
    | nil => cases hnames
    | cons field fields =>
      rw [List.map_cons, List.map_cons, List.cons.injEq] at hnames
      obtain ⟨hfresh, hdistinct⟩ := List.nodup_cons.1 hnodup
      have hfind : (before ++ (field :: fields ++ after)).find?
          (fun field => field.name = column.name) = some field := by
        refine List.find?_eq_some_iff_append.2 ⟨by simp [hnames.1], before, fields ++ after, rfl,
          fun other hother => ?_⟩
        have hne : other.name ≠ column.name := fun heq =>
          hbefore other hother (heq ▸ List.mem_cons_self)
        simp [hne]
      have hlater : ∀ other ∈ before ++ [field], other.name ∉ columns.map Column.name := by
        intro other hother hmem
        rcases List.mem_append.1 hother with hother | hother
        · exact hbefore other hother (List.mem_cons_of_mem _ hmem)
        · rw [List.mem_singleton.1 hother, hnames.1] at hmem
          exact hfresh hmem
      have hrest := ih hnames.2 hdistinct hlater
      rw [List.append_assoc, List.singleton_append] at hrest
      rw [readByName, hfind]
      simp only [Option.bind_eq_bind, Option.bind_some, List.cons_append, hrest]
      rfl

end Cells

/-- The two branches of the constructor read one object from a row that has the columns of the
table in their order after the offset, and none of their names before it. -/
theorem ModelClass.ofResult_eq (m : ModelClass) (lib : ModelLibrary) {row : List ResultField}
    {indexOffset : Nat} (hoffset : indexOffset ≤ row.length)
    (hnames : ((row.drop indexOffset).take m.columns.length).map ResultField.name =
      m.columns.map Column.name)
    (hbefore : ∀ field ∈ row.take indexOffset, field.name ∉ m.columns.map Column.name) :
    m.ofResult lib row (-1) = m.ofResult lib row indexOffset := by
  have hlength : ((row.drop indexOffset).take m.columns.length).length = m.columns.length := by
    simpa using congrArg List.length hnames
  have hfits : ¬ indexOffset + m.columns.length > row.length := by
    rw [List.length_take, List.length_drop] at hlength
    omega
  have hsplit : row = row.take indexOffset ++ ((row.drop indexOffset).take m.columns.length ++
      (row.drop indexOffset).drop m.columns.length) := by
    rw [List.take_append_drop, List.take_append_drop]
  have hplaces : Cells.readInOrder lib m.columns (row.drop indexOffset) =
      Cells.readInOrder lib m.columns ((row.drop indexOffset).take m.columns.length) := by
    conv_lhs => rw [← List.take_append_drop m.columns.length (row.drop indexOffset)]
    exact Cells.readInOrder_append _ _ hlength
  have hpositive : ¬ (indexOffset : Int) < 0 := by omega
  rw [ofResult, ofResult, if_pos (by decide), if_neg hpositive, Int.toNat_natCast, if_neg hfits,
    hplaces]
  conv_lhs => rw [hsplit]
  exact Cells.readByName_eq hnames m.names_nodup hbefore

/-! ## Stored rows -/

/-- The texts that the database gives for what it was sent: for a time, and for a text of a
column, which a `UUID` and a `JSONB` have in their own form. -/
structure Rendering where
  time : Int → String
  text : (column value : String) → String

/-- The text of a stored value of a column. -/
def Argument.render (render : Rendering) (column : String) : Argument → Option String
  | .null => none
  | .text value => some (render.text column value)
  | .truth value => some (if value then "t" else "f")
  | .date value => some (render.time value)

/-- The row that `select *` and `returning *` give for a stored object. -/
def Cells.selected (render : Rendering) {columns : List Column} (stored : Cells columns) :
    List ResultField :=
  stored.entries.map fun entry =>
    ⟨entry.1.name, entry.argument.render render entry.1.name⟩

/-- `as<bool>` reads what the database writes. -/
structure ModelLibrary.ReadsTruth (lib : ModelLibrary) : Prop where
  t : lib.fieldTruth "t" = true
  f : lib.fieldTruth "f" = false

/-- What is read of a stored value of a column. -/
def ModelLibrary.stored (lib : ModelLibrary) (render : Rendering) (column : String)
    (type : ColumnType) (value : type.Value) : Option type.Value :=
  match type with
  | .string => some (render.text column value)
  | .bool => some value
  | .date => lib.readDate (render.time value)

/-- A text of a string column. -/
def ColumnType.asText (type : ColumnType) (value : type.Value) : Option String :=
  match type with
  | .string => some value
  | .bool => none
  | .date => none

namespace Entry

variable (lib : ModelLibrary) (render : Rendering) (entry : Entry)

/-- The member that is read of a stored one. -/
def loadedCell : Cell entry.1.type.Value :=
  { value := entry.2.value.bind (lib.stored render entry.1.name entry.1.type) }

abbrev loaded : Entry := ⟨entry.1, entry.loadedCell lib render⟩

/-- A date is read back from its text, and a text comes back as it was sent. -/
structure ReadBack : Prop where
  date : ∀ date ∈ entry.2.value.bind entry.1.type.asDate,
    lib.readDate (render.time date) = some date
  text : ∀ text ∈ entry.2.value.bind entry.1.type.asText, render.text entry.1.name text = text

variable {lib render entry}

/-- The value is read as it was stored exactly when it is read back. -/
theorem value_loadedCell_iff :
    (entry.loadedCell lib render).value = entry.2.value ↔ entry.ReadBack lib render := by
  obtain ⟨⟨name, type, limit, notNull, primaryKey, generated⟩, ⟨value, dirty⟩⟩ := entry
  have hreadBack : ReadBack lib render ⟨⟨name, type, limit, notNull, primaryKey, generated⟩,
      ⟨value, dirty⟩⟩ ↔
      (∀ date ∈ value.bind type.asDate, lib.readDate (render.time date) = some date) ∧
        ∀ text ∈ value.bind type.asText, render.text name text = text :=
    ⟨fun h => ⟨h.date, h.text⟩, fun h => ⟨h.1, h.2⟩⟩
  rw [hreadBack]
  cases value with
  | none => simp [loadedCell]
  | some value =>
    cases type <;> simp [loadedCell, ModelLibrary.stored, ColumnType.asDate, ColumnType.asText]

theorem ofField_render (htruth : lib.ReadsTruth) (entry : Entry) :
    Cell.ofField lib entry.1.type
        ⟨entry.1.name, entry.argument.render render entry.1.name⟩ =
      entry.loadedCell lib render := by
  obtain ⟨⟨name, type, limit, notNull, primaryKey, generated⟩, ⟨value, dirty⟩⟩ := entry
  cases value with
  | none => rfl
  | some value =>
    cases type with
    | string => rfl
    | date => rfl
    | bool =>
      have hvalue : lib.fieldTruth (if value then "t" else "f") = value := by
        cases value
        · exact htruth.f
        · exact htruth.t
      exact congrArg (fun value => ({ value := some value } : Cell Bool)) hvalue

end Entry

namespace Cells

variable {lib : ModelLibrary} {render : Rendering}

theorem entries_selected (htruth : lib.ReadsTruth) {columns : List Column}
    (stored : Cells columns) :
    (readInOrder lib columns (stored.selected render)).entries =
      stored.entries.map (Entry.loaded lib render) := by
  induction stored with
  | nil => rfl
  | @cons column columns cell rest ih =>
    have hfields : (cons cell rest).selected render =
        ⟨column.name, (Entry.argument ⟨column, cell⟩).render render column.name⟩ ::
          rest.selected render := rfl
    rw [hfields, readInOrder, Entry.ofField_render htruth ⟨column, cell⟩, entries_cons,
      entries_cons, List.map_cons, ih]

theorem values_eq_map {columns : List Column} (cells : Cells columns) :
    cells.values = cells.entries.map fun entry => ⟨entry.1, entry.2.value⟩ := by
  induction cells with
  | nil => rfl
  | cons cell rest ih => rw [values, ih, entries_cons, List.map_cons]

/-- The values are read as they were stored exactly when each of them is read back. -/
theorem values_selected (htruth : lib.ReadsTruth) {columns : List Column}
    (stored : Cells columns) :
    (readInOrder lib columns (stored.selected render)).values = stored.values ↔
      ∀ entry ∈ stored.entries, entry.ReadBack lib render := by
  rw [values_eq_map, values_eq_map, entries_selected htruth, List.map_map, List.map_inj_left]
  refine forall₂_congr fun entry _ => ?_
  rw [← Entry.value_loadedCell_iff, Function.comp_apply, Sigma.mk.injEq, heq_iff_eq,
    and_iff_right rfl]

end Cells

namespace ModelClass

variable (m : ModelClass) {lib : ModelLibrary} (htruth : lib.ReadsTruth) (render : Rendering)
  (stored : Cells m.columns)

include htruth

/-- A stored object is read back by name and by place alike, with no member marked, and with its
values exactly when each of them is read back. -/
theorem ofResult_selected :
    ∃ read, m.ofResult lib (stored.selected render) 0 = some read ∧
      m.ofResult lib (stored.selected render) (-1) = some read ∧
      read.entries = stored.entries.map (Entry.loaded lib render) ∧
      (read.values = stored.values ↔ ∀ entry ∈ stored.entries, entry.ReadBack lib render) := by
  have hnames : (stored.selected render).map ResultField.name = m.columns.map Column.name := by
    conv_rhs => rw [← stored.map_fst_entries]
    rw [Cells.selected, List.map_map, List.map_map]
    rfl
  have hlength : (stored.selected render).length = m.columns.length := by
    simpa using congrArg List.length hnames
  have hplaces : m.ofResult lib (stored.selected render) 0 =
      some (Cells.readInOrder lib m.columns (stored.selected render)) := by
    rw [ofResult, if_neg (by decide), if_neg (by simp [hlength])]
    rfl
  refine ⟨_, hplaces, ?_, stored.entries_selected htruth, stored.values_selected htruth⟩
  rw [m.ofResult_eq lib (Nat.zero_le _)]
  · exact hplaces
  · rw [List.drop_zero, ← hlength, List.take_length]
    exact hnames
  · simp

/-- An object that is read from a row, updated by a value that passed and written back does not
change the key of its class, nor a column without a member.  Every other column becomes what its
member means.  Under a null, or a text that is no date, it is left as it was exactly when it was
read back. -/
theorem row_of_updateByJson {json : Json} (hvalid : m.validateJsonForUpdate lib json = .ok ())
    {row : List Char → Argument}
    (hrow : ∀ entry ∈ stored.entries, row entry.1.name.toList = entry.argument) :
    ∃ loaded updated, m.ofResult lib (stored.selected render) 0 = some loaded ∧
      m.updateByJson lib json loaded = (updated, none) ∧
      ∀ entry ∈ stored.entries,
        (entry.1.primaryKey = true ∨ json.get? entry.1.name = none →
          Sql.update (m.assignments updated) row entry.1.name.toList =
            row entry.1.name.toList) ∧
        (entry.1.primaryKey = false → ∀ member, json.get? entry.1.name = some member →
          (∀ meaning, lib.meaning entry.1.type member = some meaning →
            Sql.update (m.assignments updated) row entry.1.name.toList =
              entry.1.type.argument meaning) ∧
          (lib.meaning entry.1.type member = none →
            (Sql.update (m.assignments updated) row entry.1.name.toList =
                row entry.1.name.toList ↔ entry.ReadBack lib render))) := by
  obtain ⟨loaded, hloaded, _, hentries, _⟩ := m.ofResult_selected htruth render stored
  refine ⟨loaded, _, hloaded, m.updateByJson_of_valid loaded hvalid, fun entry hentry => ?_⟩
  have hmem : (⟨entry.1, (entry.loadedCell lib render).written lib entry.1.type
      (!entry.1.primaryKey) (json.get? entry.1.name)⟩ : Entry) ∈
      (loaded.written lib (fun column => !column.primaryKey) json m.keys).entries := by
    rw [m.entries_written loaded, hentries, List.map_map]
    exact List.mem_map_of_mem hentry
  have hupdate := m.row_of_update _ row _ hmem
  cases hmember : json.get? entry.1.name with
  | none =>
    rw [hmember, Cell.written] at hupdate
    refine ⟨fun _ => hupdate.trans (if_neg Bool.false_ne_true), fun _ _ hsome => ?_⟩
    cases hsome
  | some member =>
    have hdirty : Entry.dirty ⟨entry.1, (entry.loadedCell lib render).written lib entry.1.type
        (!entry.1.primaryKey) (some member)⟩ = !entry.1.primaryKey := Bool.or_false _
    have hargument : Entry.argument ⟨entry.1, (entry.loadedCell lib render).written lib
        entry.1.type (!entry.1.primaryKey) (some member)⟩ =
        ((lib.meaning entry.1.type member).map entry.1.type.argument).getD
          (entry.loaded lib render).argument := argument_written
    rw [hmember, hdirty, hargument] at hupdate
    constructor
    · rintro (hkey | hnone)
      · exact hupdate.trans (if_neg (by rw [hkey]; exact Bool.false_ne_true))
      · cases hnone
    · rintro hkey _ ⟨⟩
      replace hupdate := hupdate.trans (if_pos (by rw [hkey]; rfl))
      refine ⟨fun meaning hmeaning => ?_, fun hnone => ?_⟩
      · rw [hupdate, hmeaning]
        rfl
      · rw [hupdate, hnone, hrow entry hentry]
        exact Entry.argument_eq_iff.trans Entry.value_loadedCell_iff

omit htruth

/-- A role of a user, whose time of update has half a second. -/
def halfSecondRole : Cells RolePermissions.modelClass.columns :=
  .cons { value := some "u" } (.cons { value := some "r" }
    (.cons { value := some (1704164645000000 : Int) }
      (.cons { value := some (1704164645500000 : Int) } .nil)))

/-- The columns of `halfSecondRole`. -/
def halfSecondRow (name : List Char) : Argument :=
  if name = "user_id".toList then .text "u"
  else if name = "role_id".toList then .text "r"
  else if name = "created_at".toList then .date 1704164645000000
  else if name = "updated_at".toList then .date 1704164645500000
  else .null

/-- The texts of the two times, with the time zone. -/
def halfSecondRendering : Rendering where
  time date :=
    if date = 1704164645500000 then "2024-01-02 03:04:05.5+00" else "2024-01-02 03:04:05+00"
  text _ value := value

/-- A null for the time of the update writes what was read of it, five microseconds in place of
half a second. -/
theorem row_of_halfSecondRole :
    ∃ loaded updated, RolePermissions.modelClass.ofResult .utc
        (halfSecondRole.selected halfSecondRendering) 0 = some loaded ∧
      RolePermissions.modelClass.updateByJson .utc
        (.object [("role_id", .string "r"), ("updated_at", .null), ("user_id", .string "u")])
        loaded = (updated, none) ∧
      Sql.update (RolePermissions.modelClass.assignments updated) halfSecondRow
        "role_id".toList = .text "r" ∧
      Sql.update (RolePermissions.modelClass.assignments updated) halfSecondRow
        "updated_at".toList ≠ .date 1704164645500000 := by
  have hrow : ∀ entry ∈ halfSecondRole.entries,
      halfSecondRow entry.1.name.toList = entry.argument :=
    List.forall_mem_cons.2 ⟨rfl, List.forall_mem_cons.2 ⟨rfl, List.forall_mem_cons.2 ⟨rfl,
      List.forall_mem_cons.2 ⟨rfl, nofun⟩⟩⟩⟩
  obtain ⟨loaded, updated, hloaded, hupdated, hcolumns⟩ :=
    RolePermissions.modelClass.row_of_updateByJson (⟨rfl, rfl⟩ : ModelLibrary.utc.ReadsTruth)
      halfSecondRendering halfSecondRole
      (rfl : RolePermissions.modelClass.validateJsonForUpdate .utc (.object
        [("role_id", .string "r"), ("updated_at", .null), ("user_id", .string "u")]) = .ok ())
      hrow
  have hrole := (hcolumns _ (List.mem_cons_of_mem _ List.mem_cons_self)).1 (Or.inl rfl)
  have hupdatedAt := (hcolumns _ (List.mem_cons_of_mem _ (List.mem_cons_of_mem _
    (List.mem_cons_of_mem _ List.mem_cons_self)))).2 rfl .null rfl
  refine ⟨loaded, updated, hloaded, hupdated, hrole, fun hsame => ?_⟩
  have hread := ((hupdatedAt.2 rfl).1 hsame).date 1704164645500000 rfl
  have hmisread : ModelLibrary.utc.readDate "2024-01-02 03:04:05.5+00" =
      some 1704164645000005 := rfl
  exact absurd (hmisread.symm.trans hread) (by decide)

/-- The class of the permissions of the users has no key, so an update writes the columns that
are the key of its table. -/
example : UserPermissions.modelClass.columns.filter Column.primaryKey = [] := by decide

end ModelClass

end DrogonStarter
