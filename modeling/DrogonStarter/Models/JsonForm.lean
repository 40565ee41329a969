import DrogonStarter.Models.ModelClasses

/-!
# The JSON forms of a generated object

An object is made from a JSON value, changed by one, and shown as one.  Each of the three
comes in two forms: under the names of the columns, and under a masquerading vector of
aliases, in which an empty alias leaves its column out.

* `ofJson`, `updateByJson` and `toJson` are the plain forms, and `ofMasqueradedJson`,
  `updateByMasqueradedJson` and `toMasqueradedJson` those with aliases.
* `unmasked` puts the members that the aliases name under the names of the columns, and
  `ofMasqueradedJson_eq` and `updateByMasqueradedJson_eq` reduce the forms with aliases to
  the plain ones.
* `ofMasqueradedJson_toMasqueradedJson` and `ofJson_toJson` read a shown object back.
-/

namespace DrogonStarter

namespace ModelClass

variable (m : ModelClass) (lib : ModelLibrary)

/-- The names of the columns, as they are looked up. -/
def keys : List (Option String) := m.columns.map fun column => some column.name

/-- The aliases, as they are looked up. -/
def aliasKeys (pMasqueradingVector : List String) : List (Option String) :=
  pMasqueradingVector.map fun name => if name.isEmpty then none else some name

/-- A constructor, which throws what an assignment throws. -/
def construct (json : Json) (keys : List (Option String)) : Except String (Cells m.columns) :=
  match (Cells.empty m.columns).read lib (fun _ => true) json keys with
  | (cells, none) => .ok cells
  | (_, some what) => .error what

/-- The constructor from JSON. -/
def ofJson (json : Json) : Except String (Cells m.columns) := m.construct lib json m.keys

/-- The constructor from JSON with aliases, which only logs a vector of the wrong length. -/
def ofMasqueradedJson (json : Json) (pMasqueradingVector : List String) :
    Except String (Cells m.columns) :=
  if pMasqueradingVector.length ≠ m.columns.length then .ok (Cells.empty m.columns)
  else m.construct lib json (aliasKeys pMasqueradingVector)

/-- `updateByJson`, which does not mark the primary key: the object after it, and what it
threw. -/
def updateByJson (json : Json) (cells : Cells m.columns) : Cells m.columns × Option String :=
  cells.read lib (fun column => !column.primaryKey) json m.keys

/-- `updateByMasqueradedJson`. -/
def updateByMasqueradedJson (json : Json) (pMasqueradingVector : List String)
    (cells : Cells m.columns) : Cells m.columns × Option String :=
  if pMasqueradingVector.length ≠ m.columns.length then (cells, none)
  else
    cells.read lib (fun column => !column.primaryKey) json (aliasKeys pMasqueradingVector)

end ModelClass

/-- The JSON form of a member. -/
def Cell.toJson (lib : ModelLibrary) (type : ColumnType) (cell : Cell type.Value) : Json :=
  match cell.value with
  | some value => lib.toJson type value
  | none => .null

/-- The assignments of `toJson`, to the keys of the columns. -/
def Cells.members (lib : ModelLibrary) : {columns : List Column} →
    (keys : List (Option String)) → Cells columns → List (String × Json)
  | _, some name :: keys, @cons column _ cell rest =>
    (name, cell.toJson lib column.type) :: rest.members lib keys
  | _, none :: keys, .cons _ rest => rest.members lib keys
  | _, _, _ => []

namespace ModelClass

variable (m : ModelClass) (lib : ModelLibrary)

def toJson (cells : Cells m.columns) : Json := Json.ofMembers (cells.members lib m.keys)

/-- `toMasqueradedJson`, which falls back to `toJson`. -/
def toMasqueradedJson (cells : Cells m.columns) (pMasqueradingVector : List String) : Json :=
  if pMasqueradingVector.length = m.columns.length then
    Json.ofMembers (cells.members lib (aliasKeys pMasqueradingVector))
  else m.toJson lib cells

end ModelClass

/-! ## Members and what is found -/

theorem ModelLibrary.member_of_readable (lib : ModelLibrary) {json : Json}
    (hjson : json.Readable) (key : Option String) :
    lib.member json key = .ok (key.bind json.get?) := by
  cases key with
  | none => rfl
  | some name =>
    rcases hjson with rfl | hobject
    · rfl
    · cases json with
      | object members =>
        simp only [member, isMember, Option.bind_some, Json.get?, bind, Except.bind]
        cases members.lookup name <;> rfl
      | null | bool _ | int _ | real _ | string _ | array _ => cases hobject

/-- The assignments depend on the JSON value through what is found under the keys. -/
theorem Cells.read_congr {lib : ModelLibrary} (marks : Column → Bool) {json json' : Json}
    {columns : List Column} {keys keys' : List (Option String)} (cells : Cells columns)
    (h : keys.map (lib.member json) = keys'.map (lib.member json')) :
    cells.read lib marks json keys = cells.read lib marks json' keys' := by
  induction cells generalizing keys keys' with
  | nil =>
    cases keys <;> cases keys' <;> rfl
  | cons cell rest ih =>
    match keys, keys', h with
    | [], [], _ => rfl
    | key :: keys, key' :: keys', h =>
      obtain ⟨hfound, hrest⟩ := List.cons.inj h
      simp only [read, hfound, ih hrest]

/-! ## The masqueraded forms -/

namespace ModelClass

variable (m : ModelClass) (lib : ModelLibrary)

/-- The JSON value with the members that the aliases name under the names of the columns. -/
def unmasked (json : Json) (pMasqueradingVector : List String) : Json :=
  Json.ofPresent ((m.columns.map Column.name).zip
    ((aliasKeys pMasqueradingVector).map fun key => key.bind json.get?))

theorem readable_unmasked (json : Json) (pMasqueradingVector : List String) :
    (m.unmasked json pMasqueradingVector).Readable := Json.readable_ofMembers _

/-- Under the aliases is found what the unmasked value has under the names. -/
theorem member_unmasked {json : Json} (hjson : json.Readable) {pMasqueradingVector : List String}
    (hlength : pMasqueradingVector.length = m.columns.length) :
    (aliasKeys pMasqueradingVector).map (lib.member json) =
      m.keys.map (lib.member (m.unmasked json pMasqueradingVector)) := by
  have hkeys : m.keys.length = (aliasKeys pMasqueradingVector).length := by
    rw [keys, aliasKeys, List.length_map, List.length_map, hlength]
  refine List.ext_getElem (by rw [List.length_map, List.length_map, hkeys]) fun n hn hn' => ?_
  rw [List.length_map] at hn hn'
  rw [List.getElem_map, List.getElem_map, lib.member_of_readable hjson,
    lib.member_of_readable (m.readable_unmasked json pMasqueradingVector)]
  have hcolumn : n < m.columns.length := by rwa [keys, List.length_map] at hn'
  have hname : m.keys[n] = some m.columns[n].name := by simp only [keys, List.getElem_map]
  have hmem : (m.columns[n].name, (aliasKeys pMasqueradingVector)[n].bind json.get?) ∈
      (m.columns.map Column.name).zip
        ((aliasKeys pMasqueradingVector).map fun key => key.bind json.get?) := by
    refine List.mem_iff_getElem.2 ⟨n, ?_, ?_⟩
    · rw [List.length_zip, List.length_map, List.length_map]
      exact lt_min hcolumn hn
    · rw [List.getElem_zip, List.getElem_map, List.getElem_map]
  have hzip : (((m.columns.map Column.name).zip
      ((aliasKeys pMasqueradingVector).map fun key => key.bind json.get?)).map Prod.fst).Nodup := by
    rw [List.map_fst_zip]
    · exact m.names_nodup
    · rw [List.length_map, List.length_map, aliasKeys, List.length_map, hlength]
  rw [hname, Option.bind_some, unmasked, Json.get?_ofPresent hzip hmem]

/-- The constructor with aliases is the plain one on the unmasked value. -/
theorem ofMasqueradedJson_eq {json : Json} (hjson : json.Readable)
    {pMasqueradingVector : List String}
    (hlength : pMasqueradingVector.length = m.columns.length) :
    m.ofMasqueradedJson lib json pMasqueradingVector =
      m.ofJson lib (m.unmasked json pMasqueradingVector) := by
  rw [ofMasqueradedJson, if_neg (not_not.2 hlength), ofJson, construct, construct,
    Cells.read_congr _ _ (m.member_unmasked lib hjson hlength)]

/-- The update with aliases is the plain one with the unmasked value. -/
theorem updateByMasqueradedJson_eq {json : Json} (hjson : json.Readable)
    {pMasqueradingVector : List String}
    (hlength : pMasqueradingVector.length = m.columns.length) (cells : Cells m.columns) :
    m.updateByMasqueradedJson lib json pMasqueradingVector cells =
      m.updateByJson lib (m.unmasked json pMasqueradingVector) cells := by
  rw [updateByMasqueradedJson, if_neg (not_not.2 hlength), updateByJson,
    Cells.read_congr _ _ (m.member_unmasked lib hjson hlength)]

end ModelClass

/-! ## Reading a shown object back -/

/-- What a value is read as from its JSON form. -/
def ModelLibrary.reread (lib : ModelLibrary) (type : ColumnType) (value : type.Value) :
    Option type.Value :=
  match type with
  | .string => some value
  | .bool => some value
  | .date => lib.readDate (lib.toDbStringLocal value)

/-- The object that is read from the JSON form under the keys. -/
def Cells.reread (lib : ModelLibrary) : {columns : List Column} →
    (keys : List (Option String)) → Cells columns → Cells columns
  | _, some _ :: keys, @cons column _ cell rest =>
    .cons { value := cell.value.bind (lib.reread column.type), dirty := true }
      (rest.reread lib keys)
  | _, none :: keys, .cons _ rest => .cons {} (rest.reread lib keys)
  | _, _, _ => .empty _

theorem ModelLibrary.convert_toJson (lib : ModelLibrary) (type : ColumnType)
    (value : type.Value) :
    lib.convert type (lib.toJson type value) = .ok (lib.reread type value) := by
  cases type <;> rfl

theorem ModelLibrary.isNull_toJson (lib : ModelLibrary) (type : ColumnType)
    (value : type.Value) : (lib.toJson type value).isNull = false := by
  cases type <;> rfl

theorem Cell.read_toJson (lib : ModelLibrary) (type : ColumnType) (cell : Cell type.Value) :
    Cell.read lib type true (.ok (some (cell.toJson lib type))) {} =
      ({ value := cell.value.bind (lib.reread type), dirty := true }, none) := by
  obtain ⟨value, dirty⟩ := cell
  cases value with
  | none => rfl
  | some value =>
    simp only [read, toJson, lib.isNull_toJson, lib.convert_toJson, if_true, Bool.false_eq_true,
      if_false, Option.or_none, Option.bind_some]

namespace Cells

variable {lib : ModelLibrary}

theorem read_of_get? {json : Json} (hjson : json.Readable) {columns : List Column}
    {keys : List (Option String)} (cells : Cells columns)
    (hshown : ∀ member ∈ cells.members lib keys, json.get? member.1 = some member.2) :
    (empty columns).read lib (fun _ => true) json keys = (cells.reread lib keys, none) := by
  induction cells generalizing keys with
  | nil => simp only [empty, read, reread]
  | @cons column columns cell rest ih =>
    match keys with
    | [] => rfl
    | none :: keys =>
      simp only [empty, read, reread, lib.member_of_readable hjson, Option.bind_none, Cell.read,
        ih hshown]
    | some name :: keys =>
      have hget : json.get? name = some (cell.toJson lib column.type) :=
        hshown _ List.mem_cons_self
      have hrest := ih fun member hmember => hshown member (List.mem_cons_of_mem _ hmember)
      simp only [empty, read, reread, lib.member_of_readable hjson, Option.bind_some, hget,
        Cell.read_toJson, hrest]

theorem sublist_members (keys : List (Option String)) {columns : List Column}
    (cells : Cells columns) :
    ((cells.members lib keys).map Prod.fst).Sublist (keys.filterMap id) := by
  induction cells generalizing keys with
  | nil => cases keys <;> simp [members]
  | cons cell rest ih =>
    match keys with
    | [] => simp [members]
    | none :: keys => exact ih keys
    | some name :: keys => exact (ih keys).cons_cons name

/-- Under distinct keys every shown member is found. -/
theorem get?_ofMembers_members {keys : List (Option String)} (hkeys : (keys.filterMap id).Nodup)
    {columns : List Column} (cells : Cells columns) :
    ∀ member ∈ cells.members lib keys,
      (Json.ofMembers (cells.members lib keys)).get? member.1 = some member.2 :=
  fun _ hmember => Json.get?_ofMembers_of_mem (hkeys.sublist (cells.sublist_members keys)) hmember

end Cells

/-! ## What is lost -/

/-- A value of a date column. -/
def ColumnType.asDate (type : ColumnType) (value : type.Value) : Option Int :=
  match type with
  | .string => none
  | .bool => none
  | .date => some value

namespace Cells

/-- The values of the columns, without the flags. -/
def values : {columns : List Column} → Cells columns →
    List ((column : Column) × Option column.type.Value)
  | _, .nil => []
  | _, @cons column _ cell rest => ⟨column, cell.value⟩ :: rest.values

/-- The dates of an object. -/
def dates : {columns : List Column} → Cells columns → List Int
  | _, .nil => []
  | _, @cons column _ cell rest =>
    (cell.value.bind column.type.asDate).toList ++ rest.dates

end Cells

/-- A value survives its JSON form when it is not a date, or is one that is read back. -/
theorem ModelLibrary.bind_reread_eq (lib : ModelLibrary) {type : ColumnType}
    (value : Option type.Value) :
    value.bind (lib.reread type) = value ↔
      ∀ date ∈ value.bind type.asDate, lib.readDate (lib.toDbStringLocal date) = some date := by
  cases value with
  | none => simp
  | some value => cases type <;> simp [reread, ColumnType.asDate]

namespace Cells

variable {lib : ModelLibrary}

theorem dirty_reread {columns : List Column} (cells : Cells columns) :
    ∀ entry ∈ (cells.reread lib (columns.map fun column => some column.name)).entries,
      entry.2.dirty = true := by
  induction cells with
  | nil => simp [reread, empty, entries]
  | cons cell rest ih =>
    intro entry hentry
    rcases List.mem_cons.1 hentry with rfl | hrest
    · rfl
    · exact ih entry hrest

theorem values_reread {columns : List Column} (cells : Cells columns) :
    (cells.reread lib (columns.map fun column => some column.name)).values = cells.values ↔
      ∀ date ∈ cells.dates, lib.readDate (lib.toDbStringLocal date) = some date := by
  induction cells with
  | nil => simp [reread, empty, values, dates]
  | @cons column columns cell rest ih =>
    rw [List.map_cons, reread, values, values, List.cons.injEq, ih, Sigma.mk.injEq,
      eq_self_iff_true, true_and, heq_iff_eq, lib.bind_reread_eq, dates]
    simp only [List.mem_append, Option.mem_toList, Option.mem_def, or_imp, forall_and]

end Cells

namespace ModelClass

variable (m : ModelClass) (lib : ModelLibrary)

theorem construct_members {keys : List (Option String)} (hkeys : (keys.filterMap id).Nodup)
    (cells : Cells m.columns) :
    m.construct lib (Json.ofMembers (cells.members lib keys)) keys =
      .ok (cells.reread lib keys) := by
  rw [construct, Cells.read_of_get? (Json.readable_ofMembers _) cells
    (cells.get?_ofMembers_members hkeys)]

theorem nodup_keys : (m.keys.filterMap id).Nodup := by
  have hnames : m.keys.filterMap id = m.columns.map Column.name := by
    rw [keys, List.filterMap_map]
    exact congrFun List.filterMap_eq_map m.columns
  rw [hnames]
  exact m.names_nodup

theorem filterMap_aliasKeys (pMasqueradingVector : List String) :
    (aliasKeys pMasqueradingVector).filterMap id =
      pMasqueradingVector.filter (fun name => !name.isEmpty) := by
  induction pMasqueradingVector with
  | nil => rfl
  | cons name rest ih =>
    rw [aliasKeys, List.map_cons, List.filter_cons]
    cases hname : name.isEmpty with
    | true => exact ih
    | false => exact congrArg (name :: ·) ih

/-- The JSON form of an object, read back. -/
theorem ofJson_toJson (cells : Cells m.columns) :
    m.ofJson lib (m.toJson lib cells) = .ok (cells.reread lib m.keys) :=
  m.construct_members lib m.nodup_keys cells

/-- The JSON form under distinct aliases, read back under them. -/
theorem ofMasqueradedJson_toMasqueradedJson (cells : Cells m.columns)
    {pMasqueradingVector : List String}
    (hlength : pMasqueradingVector.length = m.columns.length)
    (hdistinct : (pMasqueradingVector.filter fun name => !name.isEmpty).Nodup) :
    m.ofMasqueradedJson lib (m.toMasqueradedJson lib cells pMasqueradingVector)
        pMasqueradingVector =
      .ok (cells.reread lib (aliasKeys pMasqueradingVector)) := by
  rw [ofMasqueradedJson, if_neg (not_not.2 hlength), toMasqueradedJson, if_pos hlength]
  refine m.construct_members lib ?_ cells
  rw [filterMap_aliasKeys]
  exact hdistinct

/-- An object is read back from its JSON form, and its values survive exactly when each of its
dates is read back from its text.  Under distinct aliases the columns with an alias are read back
in the same way, and the others are as in a new object. -/
theorem json_round_trip (cells : Cells m.columns) (pMasqueradingVector : List String)
    (hlength : pMasqueradingVector.length = m.columns.length)
    (hdistinct : (pMasqueradingVector.filter fun name => !name.isEmpty).Nodup) :
    (∃ read, m.ofJson lib (m.toJson lib cells) = .ok read ∧
      (∀ entry ∈ read.entries, entry.2.dirty = true) ∧
      (read.values = cells.values ↔
        ∀ date ∈ cells.dates, lib.readDate (lib.toDbStringLocal date) = some date)) ∧
      m.ofMasqueradedJson lib (m.toMasqueradedJson lib cells pMasqueradingVector)
          pMasqueradingVector =
        .ok (cells.reread lib (aliasKeys pMasqueradingVector)) :=
  ⟨⟨_, m.ofJson_toJson lib cells, cells.dirty_reread, cells.values_reread⟩,
    m.ofMasqueradedJson_toMasqueradedJson lib cells hlength hdistinct⟩

theorem json_round_trip_of_storedRole :
    RolePermissions.modelClass.ofMasqueradedJson .utc
        (RolePermissions.modelClass.toMasqueradedJson .utc storedRole
          ["user", "role", "", "updated"]) ["user", "role", "", "updated"] =
      .ok (storedRole.reread .utc [some "user", some "role", none, some "updated"]) :=
  (RolePermissions.modelClass.json_round_trip .utc storedRole ["user", "role", "", "updated"] rfl
    (by decide)).2

end ModelClass

end DrogonStarter
