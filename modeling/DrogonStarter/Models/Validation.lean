import DrogonStarter.Models.JsonForm

/-!
# The validators of the generated classes

`validateJsonForCreation` and `validateJsonForUpdate` check a JSON value before a
constructor or an update uses it, column after column, and their masqueraded forms do so
under aliases.

* `checkAll` is the sequence of checks, and `checkAll_error_iff` says that it fails with the
  first check that fails.
* `read_of_sound` says what the constructor and the update assign from a value that passed.
* `masquerading_renames` reduces the forms with aliases to the plain ones.
-/

namespace DrogonStarter

/-- How a validator fails: it returns `false` with the text in `err`, or an access throws. -/
inductive Refusal where
  | err (text : String)
  | thrown (what : String)
deriving DecidableEq

/-- `isString` or `isBool`. -/
def ColumnType.accepts (type : ColumnType) (json : Json) : Bool :=
  match type, json with
  | .string, .string _ => true
  | .date, .string _ => true
  | .bool, .bool _ => true
  | _, _ => false

def cannotBeNull (fieldName : String) : Refusal :=
  .err ("The " ++ fieldName ++ " column cannot be null")

def typeError (fieldName : String) : Refusal := .err ("Type error in the " ++ fieldName ++ " field")

def lengthExceedsLimit (fieldName : String) (limit : Nat) : Refusal :=
  .err ("String length exceeds limit for the " ++ fieldName ++ " field (the maximum value is " ++
    toString limit ++ ")")

def primaryKeyMustBeSet : Refusal :=
  .err "The value of primary key must be set in the json object for update"

namespace Column

variable (column : Column)

/-- `validJsonOfField`, for the index of the column. -/
def validJsonOfField (fieldName : String) (json : Json) : Except Refusal Unit :=
  if json.isNull then
    if column.notNull then .error (cannotBeNull fieldName) else .ok ()
  else if !column.type.accepts json then .error (typeError fieldName)
  else
    match column.limit with
    | some limit =>
      if limit < json.asString.utf8ByteSize then .error (lengthExceedsLimit fieldName limit)
      else .ok ()
    | none => .ok ()

/-- An object for creation has the column. -/
def required : Bool := column.notNull && !column.generated

/-- The check of a column for creation, of what was found under its name. -/
def checkForCreation (key : Option String) (found : Except String (Option Json)) :
    Except Refusal Unit :=
  match key, found with
  | none, _ => .ok ()
  | some _, .error what => .error (.thrown what)
  | some name, .ok (some json) => column.validJsonOfField name json
  | some name, .ok none => if column.required then .error (cannotBeNull name) else .ok ()

/-- The check of a column for an update. -/
def checkForUpdate (key : Option String) (found : Except String (Option Json)) :
    Except Refusal Unit :=
  match key, found with
  | none, _ => if column.primaryKey then .error primaryKeyMustBeSet else .ok ()
  | some _, .error what => .error (.thrown what)
  | some name, .ok (some json) => column.validJsonOfField name json
  | some _, .ok none => if column.primaryKey then .error primaryKeyMustBeSet else .ok ()

end Column

/-- The checks of the columns in order. -/
def checkAll (check : Column → Option String → Except Refusal Unit) :
    List Column → List (Option String) → Except Refusal Unit
  | column :: columns, key :: keys => do
    check column key
    checkAll check columns keys
  | _, _ => .ok ()

/-- The handler of `Json::LogicError`. -/
def catchLogicError (result : Except Refusal Unit) : Except Refusal Unit :=
  match result with
  | .error (.thrown what) => .error (.err what)
  | result => result

namespace ModelClass

variable (m : ModelClass) (lib : ModelLibrary) (json : Json) (pMasqueradingVector : List String)

def validateJsonForCreation : Except Refusal Unit :=
  checkAll (fun column key => column.checkForCreation key (lib.member json key)) m.columns m.keys

def validateMasqueradedJsonForCreation : Except Refusal Unit :=
  if pMasqueradingVector.length ≠ m.columns.length then .error (.err "Bad masquerading vector")
  else
    catchLogicError (checkAll
      (fun column key => column.checkForCreation key (lib.member json key)) m.columns
      (aliasKeys pMasqueradingVector))

def validateJsonForUpdate : Except Refusal Unit :=
  checkAll (fun column key => column.checkForUpdate key (lib.member json key)) m.columns m.keys

def validateMasqueradedJsonForUpdate : Except Refusal Unit :=
  if pMasqueradingVector.length ≠ m.columns.length then .error (.err "Bad masquerading vector")
  else
    catchLogicError (checkAll
      (fun column key => column.checkForUpdate key (lib.member json key)) m.columns
      (aliasKeys pMasqueradingVector))

end ModelClass

/-! ## The sequence of checks -/

theorem checkAll_ok_iff {check : Column → Option String → Except Refusal Unit}
    {columns : List Column} {keys : List (Option String)} :
    checkAll check columns keys = .ok () ↔
      ∀ pair ∈ columns.zip keys, check pair.1 pair.2 = .ok () := by
  induction columns generalizing keys with
  | nil => simp [checkAll]
  | cons column columns ih =>
    cases keys with
    | nil => simp [checkAll]
    | cons key keys =>
      rw [List.zip_cons_cons, List.forall_mem_cons, ← ih, checkAll]
      cases hcheck : check column key with
      | error refusal => simp [bind, Except.bind]
      | ok _ => simp [bind, Except.bind]

/-- The checks fail as the first of them that fails. -/
theorem checkAll_error_iff {check : Column → Option String → Except Refusal Unit}
    {columns : List Column} {keys : List (Option String)} {refusal : Refusal} :
    checkAll check columns keys = .error refusal ↔
      ∃ before pair after, columns.zip keys = before ++ pair :: after ∧
        (∀ earlier ∈ before, check earlier.1 earlier.2 = .ok ()) ∧
        check pair.1 pair.2 = .error refusal := by
  induction columns generalizing keys with
  | nil => simp [checkAll]
  | cons column columns ih =>
    cases keys with
    | nil => simp [checkAll]
    | cons key keys =>
      rw [List.zip_cons_cons, checkAll]
      constructor
      · intro h
        cases hcheck : check column key with
        | error refusal' =>
          rw [hcheck] at h
          obtain rfl := Except.error.inj h
          exact ⟨[], (column, key), columns.zip keys, rfl, by simp, hcheck⟩
        | ok _ =>
          rw [hcheck] at h
          obtain ⟨before, pair, after, hzip, hbefore, hpair⟩ := ih.1 h
          exact ⟨(column, key) :: before, pair, after, by rw [hzip, List.cons_append],
            List.forall_mem_cons.2 ⟨hcheck, hbefore⟩, hpair⟩
      · rintro ⟨before, pair, after, hzip, hbefore, hpair⟩
        cases before with
        | nil =>
          obtain ⟨rfl, _⟩ := List.cons.inj hzip
          simp only [hpair, bind, Except.bind]
        | cons first before =>
          obtain ⟨rfl, htail⟩ := List.cons.inj hzip
          obtain ⟨hfirst, hbefore⟩ := List.forall_mem_cons.1 hbefore
          simp only [hfirst, bind, Except.bind]
          exact ih.2 ⟨before, pair, after, htail, hbefore, hpair⟩

theorem catchLogicError_ok_iff {result : Except Refusal Unit} :
    catchLogicError result = .ok () ↔ result = .ok () := by
  cases result with
  | ok _ => rfl
  | error refusal => cases refusal <;> exact iff_of_false nofun nofun

/-! ## What is assigned from a value that passed -/

/-- The value that a member of the type of its column has. -/
def ModelLibrary.meaning (lib : ModelLibrary) (type : ColumnType) (json : Json) :
    Option type.Value :=
  match type, json with
  | .string, .string text => some text
  | .date, .string text => lib.readDate text
  | .bool, .bool value => some value
  | _, _ => none

/-- A member after the assignment of what was found.  A null, and a text that is no date, keep
the old value. -/
def Cell.written (lib : ModelLibrary) (type : ColumnType) (marks : Bool) (found : Option Json)
    (cell : Cell type.Value) : Cell type.Value :=
  match found with
  | none => cell
  | some json =>
    { value := (lib.meaning type json).or cell.value, dirty := marks || cell.dirty }

/-- The members after the assignments. -/
def Cells.written (lib : ModelLibrary) (marks : Column → Bool) (json : Json) :
    {columns : List Column} → (keys : List (Option String)) → Cells columns → Cells columns
  | _, key :: keys, @cons column _ cell rest =>
    .cons (cell.written lib column.type (marks column) (key.bind json.get?))
      (rest.written lib marks json keys)
  | _, _, cells => cells

theorem Column.validJsonOfField_ok_iff {column : Column} {fieldName : String} {json : Json} :
    column.validJsonOfField fieldName json = .ok () ↔
      (json.isNull = true ∧ column.notNull = false) ∨
        (json.isNull = false ∧ column.type.accepts json = true ∧
          ∀ limit ∈ column.limit, json.asString.utf8ByteSize ≤ limit) := by
  unfold validJsonOfField
  cases hnull : json.isNull with
  | true => cases column.notNull <;> simp
  | false =>
    cases column.type.accepts json with
    | false => simp
    | true =>
      cases column.limit with
      | none => simp
      | some limit =>
        by_cases hlength : limit < json.asString.utf8ByteSize
        · simp [hlength]
        · simp [hlength, not_lt.1 hlength]

/-- The library converts what the checks accept. -/
theorem ModelLibrary.convert_of_accepts (lib : ModelLibrary) {type : ColumnType} {json : Json}
    (h : type.accepts json = true) : lib.convert type json = .ok (lib.meaning type json) := by
  cases type <;> cases json <;> first | rfl | cases h

theorem ModelLibrary.meaning_of_isNull (lib : ModelLibrary) (type : ColumnType) {json : Json}
    (h : json.isNull = true) : lib.meaning type json = none := by
  cases type <;> cases json <;> first | rfl | cases h

theorem Cell.read_of_valid {lib : ModelLibrary} {column : Column} {fieldName : String}
    {json : Json} (h : column.validJsonOfField fieldName json = .ok ()) (marks : Bool)
    (cell : Cell column.type.Value) :
    cell.read lib column.type marks (.ok (some json)) =
      (cell.written lib column.type marks (some json), none) := by
  have hmarked : (if marks then { cell with dirty := true } else cell) =
      { cell with dirty := marks || cell.dirty } := by
    cases marks <;> rfl
  rcases Column.validJsonOfField_ok_iff.1 h with ⟨hnull, _⟩ | ⟨hnull, haccepts, _⟩
  · simp only [read, written, hnull, if_true, hmarked, lib.meaning_of_isNull _ hnull,
      Option.none_or]
  · simp only [read, written, hnull, Bool.false_eq_true, if_false, hmarked,
      lib.convert_of_accepts haccepts]

/-- A lookup that does not throw. -/
theorem ModelLibrary.eq_of_member {lib : ModelLibrary} {json : Json} {key : Option String}
    {found : Option Json} (h : lib.member json key = .ok found) : found = key.bind json.get? := by
  cases key with
  | none => exact (Except.ok.inj h).symm
  | some name =>
    cases json with
    | null => exact (Except.ok.inj h).symm
    | object members =>
      rw [lib.member_of_readable (Or.inr rfl)] at h
      exact (Except.ok.inj h).symm
    | bool _ | int _ | real _ | string _ | array _ => cases h

/-- Nothing was thrown where a column was looked up, and what was found is valid. -/
def Sound (lib : ModelLibrary) (json : Json) (pair : Column × Option String) : Prop :=
  lib.member json pair.2 = .ok (pair.2.bind json.get?) ∧
    ∀ value ∈ pair.2.bind json.get?, ∃ name, pair.1.validJsonOfField name value = .ok ()

theorem Cells.read_of_sound {lib : ModelLibrary} {marks : Column → Bool} {json : Json}
    {columns : List Column} {keys : List (Option String)} (cells : Cells columns)
    (h : ∀ pair ∈ columns.zip keys, Sound lib json pair) :
    cells.read lib marks json keys = (cells.written lib marks json keys, none) := by
  induction cells generalizing keys with
  | nil => cases keys <;> simp only [read, written]
  | @cons column columns cell rest ih =>
    cases keys with
    | nil => rfl
    | cons key keys =>
      obtain ⟨⟨hmember, hvalid⟩, hrest⟩ := List.forall_mem_cons.1 h
      have hcell : cell.read lib column.type (marks column) (lib.member json key) =
          (cell.written lib column.type (marks column) (key.bind json.get?), none) := by
        rw [hmember]
        cases hfound : key.bind json.get? with
        | none => rfl
        | some value =>
          obtain ⟨name, hname⟩ := hvalid value hfound
          exact Cell.read_of_valid hname _ cell
      simp only [read, written, hcell, ih hrest]

namespace Column

variable {lib : ModelLibrary} {json : Json} {column : Column} {key : Option String}

/-- What passes a check that fails when the lookup throws, and that takes of what is found only
what is valid. -/
theorem sound_of_checked (check : Option String → Except String (Option Json) →
      Except Refusal Unit)
    (hthrown : ∀ name what, check (some name) (.error what) ≠ .ok ())
    (hfound : ∀ name value,
      check (some name) (.ok (some value)) = column.validJsonOfField name value)
    (h : check key (lib.member json key) = .ok ()) : Sound lib json (column, key) := by
  cases key with
  | none => exact ⟨rfl, nofun⟩
  | some name =>
    cases hmember : lib.member json (some name) with
    | error what =>
      rw [hmember] at h
      exact absurd h (hthrown name what)
    | ok found =>
      obtain rfl := ModelLibrary.eq_of_member hmember
      refine ⟨hmember, fun value hvalue => ⟨name, ?_⟩⟩
      rw [hmember, hvalue, hfound] at h
      exact h

theorem sound_of_checkForCreation
    (h : column.checkForCreation key (lib.member json key) = .ok ()) :
    Sound lib json (column, key) :=
  sound_of_checked column.checkForCreation (fun _ _ => nofun) (fun _ _ => rfl) h

theorem sound_of_checkForUpdate
    (h : column.checkForUpdate key (lib.member json key) = .ok ()) :
    Sound lib json (column, key) :=
  sound_of_checked column.checkForUpdate (fun _ _ => nofun) (fun _ _ => rfl) h

end Column

namespace ModelClass

variable (m : ModelClass) (lib : ModelLibrary)

theorem construct_of_checkAll {json : Json} {keys : List (Option String)}
    (h : checkAll (fun column key => column.checkForCreation key (lib.member json key))
      m.columns keys = .ok ()) :
    m.construct lib json keys =
      .ok ((Cells.empty m.columns).written lib (fun _ => true) json keys) := by
  rw [checkAll_ok_iff] at h
  rw [construct, Cells.read_of_sound _ fun pair hpair =>
    Column.sound_of_checkForCreation (h pair hpair)]

/-! ### The masqueraded validator of an update -/

/-- What the check of an update passes depends on what is found, and not on the name. -/
def PassesUpdate (column : Column) (found : Except String (Option Json)) : Prop :=
  ∃ member, found = .ok member ∧ (member = none → column.primaryKey = false) ∧
    ∀ value ∈ member, column.validJsonOfField column.name value = .ok ()

theorem checkForUpdate_ok_iff {json : Json} {column : Column} {key : Option String} :
    column.checkForUpdate key (lib.member json key) = .ok () ↔
      PassesUpdate column (lib.member json key) := by
  have hnames : ∀ name value, column.validJsonOfField name value = .ok () ↔
      column.validJsonOfField column.name value = .ok () := fun name value => by
    rw [Column.validJsonOfField_ok_iff, Column.validJsonOfField_ok_iff]
  unfold PassesUpdate
  cases hmember : lib.member json key with
  | error what =>
    cases key with
    | none => cases hmember
    | some name => simp [Column.checkForUpdate]
  | ok found =>
    obtain rfl := ModelLibrary.eq_of_member hmember
    cases key with
    | none => cases hkey : column.primaryKey <;> simp [Column.checkForUpdate, hkey]
    | some name =>
      cases hfound : (some name).bind json.get? with
      | none => cases hkey : column.primaryKey <;> simp [Column.checkForUpdate, hkey]
      | some value => simp [Column.checkForUpdate, hnames name value]

theorem validate_update_iff {json : Json} {keys : List (Option String)} :
    checkAll (fun column key => column.checkForUpdate key (lib.member json key)) m.columns keys =
        .ok () ↔
      ∀ pair ∈ m.columns.zip (keys.map (lib.member json)), PassesUpdate pair.1 pair.2 := by
  rw [checkAll_ok_iff, List.zip_map_right, List.forall_mem_map]
  exact forall₂_congr fun pair _ => checkForUpdate_ok_iff lib

/-- With aliases an update passes when the plain one does with the unmasked value. -/
theorem validateMasqueradedJsonForUpdate_iff {json : Json} (hjson : json.Readable)
    {pMasqueradingVector : List String}
    (hlength : pMasqueradingVector.length = m.columns.length) :
    m.validateMasqueradedJsonForUpdate lib json pMasqueradingVector = .ok () ↔
      m.validateJsonForUpdate lib (m.unmasked json pMasqueradingVector) = .ok () := by
  rw [validateMasqueradedJsonForUpdate, if_neg (not_not.2 hlength), validateJsonForUpdate,
    catchLogicError_ok_iff, validate_update_iff, validate_update_iff,
    m.member_unmasked lib hjson hlength]

theorem length_keys : m.keys.length = m.columns.length := List.length_map _

theorem length_aliasKeys (pMasqueradingVector : List String) :
    (aliasKeys pMasqueradingVector).length = pMasqueradingVector.length := List.length_map _

/-- A masquerading vector only renames: with aliases the constructor, the update and the
validator of an update do what the plain ones do with the unmasked value. -/
theorem masquerading_renames {json : Json} (hjson : json.Readable)
    {pMasqueradingVector : List String}
    (hlength : pMasqueradingVector.length = m.columns.length) (cells : Cells m.columns) :
    m.ofMasqueradedJson lib json pMasqueradingVector =
        m.ofJson lib (m.unmasked json pMasqueradingVector) ∧
      m.updateByMasqueradedJson lib json pMasqueradingVector cells =
        m.updateByJson lib (m.unmasked json pMasqueradingVector) cells ∧
      (m.validateMasqueradedJsonForUpdate lib json pMasqueradingVector = .ok () ↔
        m.validateJsonForUpdate lib (m.unmasked json pMasqueradingVector) = .ok ()) :=
  ⟨m.ofMasqueradedJson_eq lib hjson hlength,
    m.updateByMasqueradedJson_eq lib hjson hlength cells,
    m.validateMasqueradedJsonForUpdate_iff lib hjson hlength⟩

theorem masquerading_renames_storedRole :
    RolePermissions.modelClass.updateByMasqueradedJson .utc
        (.object [("role", .string "r"), ("user", .string "u")]) ["user", "role", "", ""]
        storedRole =
      RolePermissions.modelClass.updateByJson .utc
        (RolePermissions.modelClass.unmasked
          (.object [("role", .string "r"), ("user", .string "u")]) ["user", "role", "", ""])
        storedRole :=
  (RolePermissions.modelClass.masquerading_renames .utc (Or.inr rfl) rfl storedRole).2.1

end ModelClass

end DrogonStarter
