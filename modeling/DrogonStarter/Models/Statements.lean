import DrogonStarter.Models.Validation

/-!
# The statements of a generated object

`sqlForInserting` is the text of the `INSERT` of an object, and `outputArgs` are the arguments
that the mapper binds to it.  `updateColumns` and `updateArgs` are what it writes into an
`UPDATE`.

* `parse_sqlForInserting` reads the text as a statement, and `row_of_insert` says which row the
  database makes of it.
* `assigned_of_update` says what an `UPDATE` with the set members does to a row.
-/

namespace DrogonStarter

/-- A value that is bound to a statement. -/
inductive Argument where
  | null
  | text (value : String)
  | truth (value : Bool)
  | date (value : Int)
deriving DecidableEq

/-- `binder << value`. -/
def ColumnType.argument (type : ColumnType) (value : type.Value) : Argument :=
  match type with
  | .string => .text value
  | .bool => .truth value
  | .date => .date value

theorem ColumnType.argument_ne_null (type : ColumnType) (value : type.Value) :
    type.argument value ≠ .null := by
  cases type <;> exact Argument.noConfusion

theorem ColumnType.argument_injective (type : ColumnType) : type.argument.Injective := by
  intro value value' h
  cases type with
  | string => exact Argument.text.inj h
  | bool => exact Argument.truth.inj h
  | date => exact Argument.date.inj h

namespace Entry

variable (entry : Entry)

/-- What is bound for the member: its value, or `nullptr`. -/
def argument : Argument := (entry.2.value.map entry.1.type.argument).getD .null

abbrev dirty : Bool := entry.2.dirty

/-- The statement names the column. -/
def listed : Bool := entry.1.generated || entry.dirty

/-- Two members of a column are bound alike when they have the same value. -/
theorem argument_eq_iff {column : Column} {cell cell' : Cell column.type.Value} :
    argument ⟨column, cell⟩ = argument ⟨column, cell'⟩ ↔ cell.value = cell'.value := by
  rw [argument, argument]
  cases cell.value with
  | none =>
    cases cell'.value with
    | none => simp
    | some value' => simp [(column.type.argument_ne_null value').symm]
  | some value =>
    cases cell'.value with
    | none => simp [column.type.argument_ne_null value]
    | some value' => simp [column.type.argument_injective.eq_iff]

/-- What the statement has for the column. -/
def field : Sql.Field Argument :=
  (entry.1.name.toList, if entry.dirty then some entry.argument else none)

end Entry

namespace Cells

variable {columns : List Column} (cells : Cells columns)

/-- The columns of the statement, each with a comma after it. -/
def insertedColumns : List Char :=
  (cells.entries.filter Entry.listed).flatMap fun entry => entry.1.name.toList ++ [',']

/-- The values of the statement, each with a comma after it. -/
def placeholders : Nat → List Entry → List Char
  | _, [] => []
  | placeholder, entry :: rest =>
    if entry.dirty then
      '$' :: Nat.toDigits 10 placeholder ++ ',' :: placeholders (placeholder + 1) rest
    else if entry.1.generated then "default,".toList ++ placeholders placeholder rest
    else placeholders placeholder rest

/-- `needSelection`. -/
def needSelection : Bool :=
  cells.entries.any fun entry => entry.1.generated && !entry.dirty

/-- `outputArgs`. -/
def outputArgs : List Argument :=
  (cells.entries.filter Entry.dirty).map Entry.argument

/-- `updateColumns`. -/
def updateColumns : List String :=
  (cells.entries.filter Entry.dirty).map fun entry => entry.1.name

/-- `updateArgs`. -/
def updateArgs : List Argument :=
  (cells.entries.filter Entry.dirty).map Entry.argument

end Cells

/-- `sqlForInserting`: the text, and whether the mapper reads a row back. -/
def ModelClass.sqlForInserting (m : ModelClass) (cells : Cells m.columns) : List Char × Bool :=
  let sql := "insert into ".toList ++ m.tableName.toList ++ " (".toList ++ cells.insertedColumns
  let parametersCount := (cells.entries.filter Entry.listed).length
  let sql :=
    if parametersCount > 0 then sql.dropLast ++ ")".toList ++ " values (".toList
    else sql ++ ") values (".toList
  let sql := sql ++ Cells.placeholders 1 cells.entries
  let sql := if parametersCount > 0 then sql.dropLast else sql
  (sql ++ if cells.needSelection then ") returning *".toList else ")".toList, cells.needSelection)

/-! ## The text as a statement -/

namespace Cells

theorem fst_mem_of_entries {columns : List Column} (cells : Cells columns) {entry : Entry}
    (h : entry ∈ cells.entries) : entry.1 ∈ columns := by
  have hmem := List.mem_map_of_mem (f := Sigma.fst) h
  rwa [cells.map_fst_entries] at hmem

/-- What the statement has for the columns that it names. -/
def fields {columns : List Column} (cells : Cells columns) : List (Sql.Field Argument) :=
  (cells.entries.filter Entry.listed).map Entry.field

theorem placeholders_eq (n : Nat) (entries : List Entry) :
    placeholders n entries =
      ((Sql.numbered n ((entries.filter Entry.listed).map fun entry => entry.field.2)).map
        Sql.Operand.print).flatMap fun text => text ++ [','] := by
  induction entries generalizing n with
  | nil => rfl
  | cons entry rest ih =>
    obtain ⟨column, cell⟩ := entry
    cases hdirty : Entry.dirty ⟨column, cell⟩ with
    | true =>
      have hlisted : Entry.listed ⟨column, cell⟩ = true := by simp [Entry.listed, hdirty]
      rw [placeholders, if_pos hdirty, List.filter_cons_of_pos hlisted, List.map_cons]
      simp only [Entry.field, hdirty, if_true, Sql.numbered, List.map_cons, List.flatMap_cons,
        Sql.Operand.print_parameter, ih, List.cons_append, List.append_assoc, List.nil_append]
    | false =>
      cases hgenerated : column.generated with
      | true =>
        have hlisted : Entry.listed ⟨column, cell⟩ = true := by simp [Entry.listed, hgenerated]
        rw [placeholders, List.filter_cons_of_pos hlisted, List.map_cons]
        simp only [Entry.field, hdirty, hgenerated, Bool.false_eq_true, if_false, if_true,
          Sql.numbered, List.map_cons, List.flatMap_cons, ih]
        rfl
      | false =>
        have hlisted : ¬ Entry.listed ⟨column, cell⟩ = true := by
          simp [Entry.listed, hgenerated, hdirty]
        rw [placeholders, List.filter_cons_of_neg hlisted]
        simp only [hdirty, hgenerated, Bool.false_eq_true, if_false, ih]

theorem insertedColumns_eq {columns : List Column} (cells : Cells columns) :
    cells.insertedColumns = (cells.fields.map Prod.fst).flatMap fun text => text ++ [','] := by
  rw [insertedColumns, fields, List.map_map, List.flatMap_map]
  rfl

end Cells

namespace ModelClass

variable (m : ModelClass) (cells : Cells m.columns)

/-- The text is that of the statement that names the columns with their fields. -/
theorem sqlForInserting_eq (h : cells.fields ≠ []) :
    (m.sqlForInserting cells).1 =
      (Sql.Insert.ofFields m.tableName.toList cells.fields cells.needSelection).print := by
  have hcount : (cells.entries.filter Entry.listed).length > 0 := by
    refine List.length_pos_iff.2 fun hnil => h ?_
    rw [Cells.fields, hnil, List.map_nil]
  have hne : ∀ texts : List (List Char), texts ≠ [] →
      (texts.flatMap fun text => text ++ [',']) ≠ [] := by
    intro texts htexts hnil
    obtain ⟨text, rest, rfl⟩ := List.exists_cons_of_ne_nil htexts
    simp at hnil
  have hcolumns : cells.fields.map Prod.fst ≠ [] := by rwa [Ne, List.map_eq_nil_iff]
  have hoperands : (Sql.numbered 1 (cells.fields.map Prod.snd)).map Sql.Operand.print ≠ [] := by
    rw [Ne, List.map_eq_nil_iff, ← List.length_eq_zero_iff, Sql.length_numbered,
      List.length_map, List.length_eq_zero_iff]
    exact h
  have hplaceholders : Cells.placeholders 1 cells.entries =
      ((Sql.numbered 1 (cells.fields.map Prod.snd)).map Sql.Operand.print).flatMap
        fun text => text ++ [','] := by
    rw [Cells.placeholders_eq, Cells.fields, List.map_map]
    rfl
  simp only [sqlForInserting, if_pos hcount, cells.insertedColumns_eq, hplaceholders]
  rw [List.dropLast_append_of_ne_nil (hne _ hcolumns), Sql.dropLast_flatMap_comma,
    List.dropLast_append_of_ne_nil (hne _ hoperands), Sql.dropLast_flatMap_comma]
  have hopen : " (".toList = Sql.openList := by decide
  have hclose : ")".toList = [')'] := by decide
  have hreturning : ") returning *".toList = ')' :: Sql.returningAll := by decide
  simp only [Sql.Insert.print, Sql.Insert.ofFields, hopen, hclose, hreturning, List.append_assoc,
    List.singleton_append]
  cases cells.needSelection <;> rfl

/-- The text names no column when none is set and none has a default. -/
theorem sqlForInserting_of_nil (h : cells.fields = []) :
    ∃ rest, (m.sqlForInserting cells).1 =
      Sql.insertInto ++ (m.tableName.toList ++ (Sql.openList ++ ')' :: rest)) := by
  have hcount : ¬ (cells.entries.filter Entry.listed).length > 0 := by
    rw [Cells.fields, List.map_eq_nil_iff] at h
    rw [h]
    decide
  have hcolumns : cells.insertedColumns = [] := by rw [cells.insertedColumns_eq, h]; rfl
  have hopen : " (".toList = Sql.openList := by decide
  simp only [sqlForInserting, if_neg hcount, hcolumns, hopen, List.append_nil, List.append_assoc]
  exact ⟨_, rfl⟩

theorem parse_sqlForInserting :
    Sql.Insert.parse (m.sqlForInserting cells).1 =
      if cells.fields = [] then none
      else some (Sql.Insert.ofFields m.tableName.toList cells.fields cells.needSelection) := by
  by_cases h : cells.fields = []
  · obtain ⟨rest, htext⟩ := m.sqlForInserting_of_nil cells h
    rw [if_pos h, htext, Sql.Insert.parse_no_column m.table_identifier]
  · rw [if_neg h, m.sqlForInserting_eq cells h, Sql.Insert.parse_print]
    refine Sql.Insert.wellFormed_ofFields m.table_identifier h ?_ _
    intro field hfield
    obtain ⟨entry, hentry, rfl⟩ := List.mem_map.1 hfield
    exact m.identifiers _ (cells.fst_mem_of_entries (List.mem_of_mem_filter hentry))

/-! ## The rows -/

theorem nodup_names : (cells.entries.map fun entry => entry.1.name.toList).Nodup := by
  have hnames : cells.entries.map (fun entry => entry.1.name.toList) =
      (m.columns.map Column.name).map String.toList := by
    conv_rhs => rw [← cells.map_fst_entries]
    rw [List.map_map, List.map_map]
    rfl
  rw [hnames]
  exact m.names_nodup.map fun _ _ => String.toList_inj.1

theorem nodup_fields : (cells.fields.map Prod.fst).Nodup := by
  have hnames : cells.fields.map Prod.fst =
      (cells.entries.filter Entry.listed).map fun entry => entry.1.name.toList := by
    rw [Cells.fields, List.map_map]
    rfl
  rw [hnames]
  exact (m.nodup_names cells).sublist (List.filter_sublist.map _)

theorem outputArgs_eq : cells.outputArgs = cells.fields.filterMap Prod.snd := by
  rw [Cells.outputArgs, Cells.fields]
  generalize cells.entries = entries
  induction entries with
  | nil => rfl
  | cons entry rest ih =>
    cases hdirty : entry.dirty with
    | true =>
      have hlisted : entry.listed = true := by simp [Entry.listed, hdirty]
      have hfield : entry.field = (entry.1.name.toList, some entry.argument) := by
        simp [Entry.field, hdirty]
      rw [List.filter_cons_of_pos hdirty, List.filter_cons_of_pos hlisted, List.map_cons,
        List.map_cons, hfield, ih]
      rfl
    | false =>
      have hfield : entry.field = (entry.1.name.toList, none) := by simp [Entry.field, hdirty]
      rw [List.filter_cons_of_neg (by simp [hdirty]), ih]
      by_cases hlisted : entry.listed = true
      · rw [List.filter_cons_of_pos hlisted, List.map_cons, hfield]
        rfl
      · rw [List.filter_cons_of_neg hlisted]

/-- What the fields of an object give a column. -/
theorem lookup_fields {entry : Entry} (h : entry ∈ cells.entries) (default : Argument) :
    ((cells.fields.lookup entry.1.name.toList).join.getD default) =
      if entry.dirty then entry.argument else default := by
  by_cases hlisted : entry.listed = true
  · have hmem : entry.field ∈ cells.fields :=
      List.mem_map_of_mem (List.mem_filter.2 ⟨h, hlisted⟩)
    have hlookup := Sql.lookup_of_mem (m.nodup_fields cells) hmem
    rw [show entry.1.name.toList = entry.field.1 from rfl, hlookup]
    cases hdirty : entry.dirty <;> simp [Entry.field, hdirty]
  · have hnot : entry.1.name.toList ∉ cells.fields.map Prod.fst := by
      intro hmem
      obtain ⟨field, hfield, hname⟩ := List.mem_map.1 hmem
      obtain ⟨other, hother, rfl⟩ := List.mem_map.1 hfield
      obtain ⟨hentry, hyes⟩ := List.mem_filter.1 hother
      have hsame := List.inj_on_of_nodup_map (m.nodup_names cells) hentry h hname
      exact hlisted (hsame ▸ hyes)
    rw [Sql.lookup_of_not_mem hnot]
    have hdirty : entry.dirty = false := by
      cases hdirty : entry.dirty with
      | false => rfl
      | true => exact absurd (by simp [Entry.listed, hdirty]) hlisted
    simp [hdirty]

/-- The text of an `INSERT` is a statement as soon as it names a column, and the statement with
the bound arguments makes the row of the marked members, with the defaults elsewhere. -/
theorem row_of_sqlForInserting (defaults : List Char → Argument) :
    ((Sql.Insert.parse (m.sqlForInserting cells).1).isSome = true ↔
      ∃ entry ∈ cells.entries, entry.1.generated = true ∨ entry.dirty = true) ∧
    ∀ statement, Sql.Insert.parse (m.sqlForInserting cells).1 = some statement →
      statement.table = m.tableName.toList ∧
      statement.returning = (m.sqlForInserting cells).2 ∧
      ∃ row, statement.run defaults cells.outputArgs = some row ∧
        ∀ entry ∈ cells.entries, row entry.1.name.toList =
          if entry.dirty then entry.argument else defaults entry.1.name.toList := by
  have hlisted : cells.fields = [] ↔
      ¬ ∃ entry ∈ cells.entries, entry.1.generated = true ∨ entry.dirty = true := by
    rw [Cells.fields, List.map_eq_nil_iff, List.filter_eq_nil_iff]
    simp only [Entry.listed, Bool.or_eq_true, not_exists, not_and]
  rw [m.parse_sqlForInserting cells]
  by_cases h : cells.fields = []
  · rw [if_pos h]
    exact ⟨iff_of_false Bool.false_ne_true (hlisted.1 h), nofun⟩
  · rw [if_neg h]
    refine ⟨iff_of_true rfl (not_not.1 fun hnone => h (hlisted.2 hnone)), ?_⟩
    rintro statement hstatement
    obtain rfl := Option.some.inj hstatement
    refine ⟨rfl, rfl, fun name => (cells.fields.lookup name).join.getD (defaults name), ?_,
      fun entry hentry => m.lookup_fields cells hentry _⟩
    rw [m.outputArgs_eq cells]
    exact Sql.Insert.run_ofFields (m.nodup_fields cells) _ _ _

/-- The text of an `INSERT` is a statement exactly when a column has a default or is marked.  It
then makes the row of the marked members with the defaults elsewhere, and it asks for the row
back exactly when a default was left to the database. -/
theorem meaning_of_sqlForInserting (defaults : List Char → Argument) :
    ((Sql.Insert.parse (m.sqlForInserting cells).1).isSome = true ↔
      ∃ entry ∈ cells.entries, entry.1.generated = true ∨ entry.dirty = true) ∧
    ∀ statement, Sql.Insert.parse (m.sqlForInserting cells).1 = some statement →
      statement.table = m.tableName.toList ∧
      (statement.returning = true ↔
        ∃ entry ∈ cells.entries, entry.1.generated = true ∧ entry.dirty = false) ∧
      ∃ row, statement.run defaults cells.outputArgs = some row ∧
        ∀ entry ∈ cells.entries, row entry.1.name.toList =
          if entry.dirty then entry.argument else defaults entry.1.name.toList := by
  obtain ⟨hparse, hrow⟩ := m.row_of_sqlForInserting cells defaults
  refine ⟨hparse, fun statement hstatement => ?_⟩
  obtain ⟨htable, hreturning, hrun⟩ := hrow statement hstatement
  refine ⟨htable, ?_, hrun⟩
  have hselection : (m.sqlForInserting cells).2 = cells.needSelection := rfl
  rw [hreturning, hselection, Cells.needSelection, List.any_eq_true]
  simp only [Bool.and_eq_true, Bool.not_eq_true']

/-- What an `UPDATE` assigns. -/
def assignments : List (List Char × Argument) :=
  (cells.updateColumns.map String.toList).zip cells.updateArgs

/-- An `UPDATE` with the columns and the arguments of an object changes the marked members of a
row, and nothing else in it. -/
theorem row_of_update (row : List Char → Argument) :
    ∀ entry ∈ cells.entries, Sql.update (m.assignments cells) row entry.1.name.toList =
      if entry.dirty then entry.argument else row entry.1.name.toList := by
  intro entry hentry
  have hzip : m.assignments cells = (cells.entries.filter Entry.dirty).map
      fun entry => (entry.1.name.toList, entry.argument) := by
    rw [assignments, Cells.updateColumns, Cells.updateArgs, List.map_map, List.zip_map']
    rfl
  have hnames : ((m.assignments cells).map Prod.fst).Nodup := by
    rw [hzip, List.map_map]
    exact (m.nodup_names cells).sublist (List.filter_sublist.map _)
  rw [Sql.update]
  cases hdirty : entry.dirty with
  | true =>
    have hmem : (entry.1.name.toList, entry.argument) ∈ m.assignments cells := by
      rw [hzip]
      exact List.mem_map.2 ⟨entry, List.mem_filter.2 ⟨hentry, hdirty⟩, rfl⟩
    rw [Sql.lookup_of_mem hnames hmem, if_pos rfl, Option.getD_some]
  | false =>
    have hnot : entry.1.name.toList ∉ (m.assignments cells).map Prod.fst := by
      rw [hzip, List.map_map]
      intro hmem
      obtain ⟨other, hother, hname⟩ := List.mem_map.1 hmem
      obtain ⟨hmember, hyes⟩ := List.mem_filter.1 hother
      have hsame := List.inj_on_of_nodup_map (m.nodup_names cells) hmember hentry hname
      rw [hsame, hdirty] at hyes
      cases hyes
    rw [Sql.lookup_of_not_mem hnot, if_neg Bool.false_ne_true, Option.getD_none]

/-! ## An update from JSON -/

theorem entries_written (lib : ModelLibrary) (marks : Column → Bool) (json : Json) :
    (cells.written lib marks json m.keys).entries = cells.entries.map fun entry =>
      ⟨entry.1, entry.2.written lib entry.1.type (marks entry.1) (json.get? entry.1.name)⟩ := by
  unfold keys
  generalize m.columns = columns at cells
  induction cells with
  | nil => rfl
  | cons cell rest ih =>
    rw [List.map_cons, Cells.written, Cells.entries, Cells.entries, List.map_cons, ih]
    rfl

theorem updateByJson_of_valid {lib : ModelLibrary} {json : Json}
    (h : m.validateJsonForUpdate lib json = .ok ()) :
    m.updateByJson lib json cells =
      (cells.written lib (fun column => !column.primaryKey) json m.keys, none) :=
  cells.read_of_sound fun pair hpair =>
    Column.sound_of_checkForUpdate (checkAll_ok_iff.1 h pair hpair)

/-- What a loaded object binds for a column that was assigned to. -/
theorem argument_written {lib : ModelLibrary} {column : Column} {cell : Cell column.type.Value}
    {marks : Bool} {value : Json} :
    Entry.argument ⟨column, cell.written lib column.type marks (some value)⟩ =
      ((lib.meaning column.type value).map column.type.argument).getD
        (Entry.argument ⟨column, cell⟩) := by
  simp only [Entry.argument, Cell.written]
  cases lib.meaning column.type value <;> rfl

end ModelClass

end DrogonStarter
