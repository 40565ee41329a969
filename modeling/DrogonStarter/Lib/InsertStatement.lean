import DrogonStarter.Lib.Decimal
import DrogonStarter.Lib.Text

/-!
# Insert statements

`Sql.Insert` is an `INSERT` of one row: the columns that it names, and for each a parameter
or the default.  `Insert.print` is its text and `Insert.parse` reads a text, with one space
where the printed text has one.  `Insert.run` is the row that the statement makes from its
arguments.

* `parse_print` reads the printed text of a well-formed statement back.
* `numbered` gives the parameters their numbers in order, and `run_numbered` says which row
  such a statement makes.
-/

namespace Sql

/-- A character of a name that needs no quotes. -/
def isWordChar (c : Char) : Bool := c.isAlphanum || c = '_'

/-- A name that needs no quotes. -/
def IsIdentifier (name : List Char) : Prop := name ≠ [] ∧ name.all isWordChar = true

instance (name : List Char) : Decidable (IsIdentifier name) :=
  inferInstanceAs (Decidable (_ ∧ _))

/-- What stands for the value of a column. -/
inductive Operand where
  | parameter (n : Nat)
  | default
deriving DecidableEq

structure Insert where
  table : List Char
  columns : List (List Char)
  operands : List Operand
  /-- The statement ends with `returning *`. -/
  returning : Bool
deriving DecidableEq

def Operand.print : Operand → List Char
  | .parameter n => '$' :: Nat.toDigits 10 n
  | .default => "default".toList

@[simp] theorem Operand.print_parameter (n : Nat) :
    print (.parameter n) = '$' :: Nat.toDigits 10 n := rfl

def Operand.parse (text : List Char) : Option Operand :=
  match text with
  | '$' :: digits =>
    if digits ≠ [] ∧ digits.all Char.isDigit = true then
      some (.parameter (CppNumber.naturalValue 10 digits))
    else none
  | text => if text = "default".toList then some .default else none

/-- Texts with commas between them. -/
def commaList (texts : List (List Char)) : List Char := List.intercalate [','] texts

/-- The text after a word. -/
def after (word text : List Char) : Option (List Char) :=
  if word.isPrefixOf text then some (text.drop word.length) else none

/-- The columns that a text names. -/
def parseColumns (text : List Char) : Option (List (List Char)) :=
  let names := text.splitOn ','
  if ∀ name ∈ names, IsIdentifier name then some names else none

/-! The words of a statement. -/

def insertInto : List Char := "insert into ".toList

def openList : List Char := [' ', '(']

def openValues : List Char := " values (".toList

def returningAll : List Char := " returning *".toList

namespace Insert

def print (s : Insert) : List Char :=
  insertInto ++ (s.table ++ (openList ++ (commaList s.columns ++ ')' :: (openValues ++
    (commaList (s.operands.map Operand.print) ++
      ')' :: if s.returning then returningAll else [])))))

/-- The statement of a text, with a name for every value. -/
def parse (text : List Char) : Option Insert := do
  let text ← after insertInto text
  let table := text.takeWhile isWordChar
  let text ← after openList (text.dropWhile isWordChar)
  let (names, text) ← Text.splitFirst ')' text
  let columns ← parseColumns names
  let text ← after openValues text
  let (values, text) ← Text.splitFirst ')' text
  let operands ← (values.splitOn ',').mapM Operand.parse
  if table ≠ [] ∧ operands.length = columns.length then
    if text = [] then some { table, columns, operands, returning := false }
    else if text = returningAll then some { table, columns, operands, returning := true }
    else none
  else none

/-- A statement that the grammar has. -/
structure WellFormed (s : Insert) : Prop where
  table : IsIdentifier s.table
  columns_ne_nil : s.columns ≠ []
  columns : ∀ name ∈ s.columns, IsIdentifier name
  length : s.operands.length = s.columns.length

/-- What an operand stands for: `none` is the default. -/
def value {α : Type} (args : List α) : Operand → Option (Option α)
  | .default => some none
  | .parameter 0 => none
  | .parameter (n + 1) => args[n]?.map some

/-- The row that the statement makes.  It names no column twice, every parameter has an
argument, and every argument a parameter. -/
def run {α : Type} (s : Insert) (defaults : List Char → α) (args : List α) :
    Option (List Char → α) := do
  let values ← s.operands.mapM (value args)
  if s.columns.Nodup ∧ ∀ n < args.length, .parameter (n + 1) ∈ s.operands then
    some fun name => ((s.columns.zip values).lookup name).join.getD (defaults name)
  else none

end Insert

/-- The parameters get their numbers in order. -/
def numbered {α : Type} : Nat → List (Option α) → List Operand
  | _, [] => []
  | n, none :: values => .default :: numbered n values
  | n, some _ :: values => .parameter n :: numbered (n + 1) values

/-! ## Reading a printed statement -/

theorem not_isWordChar {c : Char} (h : c ∈ [' ', '(', ')', ',', '$']) : isWordChar c = false := by
  simp only [List.mem_cons, List.not_mem_nil, or_false] at h
  rcases h with rfl | rfl | rfl | rfl | rfl <;> decide

theorem IsIdentifier.not_mem {name : List Char} (h : IsIdentifier name) {c : Char}
    (hc : c ∈ [' ', '(', ')', ',', '$']) : c ∉ name := by
  intro hmem
  have hword := List.all_eq_true.1 h.2 c hmem
  rw [not_isWordChar hc] at hword
  cases hword

theorem after_append (word text : List Char) : after word (word ++ text) = some text := by
  rw [after, if_pos (List.isPrefixOf_iff_prefix.2 (List.prefix_append word text)),
    List.drop_left]

/-- A separator that is in no text is in no list of them with commas. -/
theorem not_mem_commaList {c : Char} (hc : c ≠ ',') {texts : List (List Char)}
    (h : ∀ text ∈ texts, c ∉ text) : c ∉ commaList texts := by
  induction texts with
  | nil => exact List.not_mem_nil
  | cons first rest ih =>
    cases rest with
    | nil =>
      rw [commaList, List.intercalate_singleton]
      exact h first List.mem_cons_self
    | cons next rest =>
      rw [commaList, List.intercalate_cons_cons, List.mem_append, List.mem_append,
        List.mem_singleton]
      rintro ((hfirst | hcomma) | hrest)
      · exact h first List.mem_cons_self hfirst
      · exact hc hcomma
      · exact ih (fun text htext => h text (List.mem_cons_of_mem _ htext)) hrest

/-- The texts with a comma after each, without the last comma. -/
theorem dropLast_flatMap_comma (texts : List (List Char)) :
    (texts.flatMap fun text => text ++ [',']).dropLast = commaList texts := by
  induction texts with
  | nil => rfl
  | cons first rest ih =>
    cases rest with
    | nil =>
      rw [List.flatMap_singleton, List.dropLast_concat, commaList, List.intercalate_singleton]
    | cons next rest =>
      have hne : ((next :: rest).flatMap fun text => text ++ [',']) ≠ [] := by
        rw [List.flatMap_cons, List.append_assoc]
        exact List.append_ne_nil_of_right_ne_nil _ (List.cons_ne_nil _ _)
      rw [List.flatMap_cons, List.dropLast_append_of_ne_nil hne, ih, commaList, commaList,
        List.intercalate_cons_cons]

theorem parseColumns_commaList {columns : List (List Char)} (hne : columns ≠ [])
    (h : ∀ name ∈ columns, IsIdentifier name) :
    parseColumns (commaList columns) = some columns := by
  have hsplit : (commaList columns).splitOn ',' = columns :=
    List.splitOn_intercalate ',' (fun name hname => (h name hname).not_mem (by simp)) hne
  rw [parseColumns, hsplit]
  exact if_pos h

theorem Operand.parse_print (operand : Operand) : parse operand.print = some operand := by
  cases operand with
  | default => rfl
  | parameter n =>
    have hdigits : Nat.toDigits 10 n ≠ [] ∧ (Nat.toDigits 10 n).all Char.isDigit = true :=
      ⟨Nat.toDigits_ne_nil, List.all_eq_true.2 fun c hc => CppNumber.isDigit_of_mem_toDigits hc⟩
    refine (if_pos hdigits).trans ?_
    rw [CppNumber.naturalValue_toDigits]

/-- An operand is printed without the separators of the statement. -/
theorem Operand.not_mem_print {c : Char} (hc : c = ')' ∨ c = ',') (operand : Operand) :
    c ∉ operand.print := by
  cases operand with
  | default => rcases hc with rfl | rfl <;> decide
  | parameter n =>
    intro hmem
    rcases List.mem_cons.1 hmem with rfl | hdigit
    · simp at hc
    · have hfalse : c.isDigit = false := by rcases hc with rfl | rfl <;> rfl
      exact CppNumber.not_mem_toDigits hfalse n hdigit

theorem mapM_parse_print (operands : List Operand) :
    (operands.map Operand.print).mapM Operand.parse = some operands := by
  induction operands with
  | nil => rfl
  | cons operand rest ih =>
    rw [List.map_cons, List.mapM_cons, Operand.parse_print, ih]
    rfl

/-- The name of the table is what comes before the first space. -/
theorem takeWhile_isWordChar {table : List Char} (h : IsIdentifier table) {c : Char}
    (hc : c ∈ [' ', '(', ')', ',', '$']) (text : List Char) :
    (table ++ c :: text).takeWhile isWordChar = table ∧
      (table ++ c :: text).dropWhile isWordChar = c :: text := by
  have hall : ∀ d ∈ table, isWordChar d = true := List.all_eq_true.1 h.2
  rw [List.takeWhile_append_of_pos hall, List.dropWhile_append_of_pos hall,
    List.takeWhile_cons_of_neg (by simp [not_isWordChar hc]),
    List.dropWhile_cons_of_neg (by simp [not_isWordChar hc]), List.append_nil]
  exact ⟨rfl, rfl⟩

namespace Insert

/-- The printed text of a statement is read back. -/
theorem parse_print {s : Insert} (h : s.WellFormed) : parse s.print = some s := by
  obtain ⟨table, columns, operands, returning⟩ := s
  obtain ⟨htable, hne, hcolumns, hlength⟩ := h
  have hoperands : operands.map Operand.print ≠ [] := by
    intro hnil
    rw [List.map_eq_nil_iff.1 hnil] at hlength
    exact hne (List.length_eq_zero_iff.1 hlength.symm)
  have hsplitColumns : ∀ text, Text.splitFirst ')' (commaList columns ++ ')' :: text) =
      some (commaList columns, text) := fun text =>
    Text.splitFirst_eq_some_iff.2 ⟨rfl, not_mem_commaList (by decide) fun name hname =>
      (hcolumns name hname).not_mem (by simp)⟩
  have hsplitOperands : ∀ text,
      Text.splitFirst ')' (commaList (operands.map Operand.print) ++ ')' :: text) =
        some (commaList (operands.map Operand.print), text) := fun text =>
    Text.splitFirst_eq_some_iff.2 ⟨rfl, not_mem_commaList (by decide) fun printed hprinted => by
      obtain ⟨operand, _, rfl⟩ := List.mem_map.1 hprinted
      exact operand.not_mem_print (Or.inl rfl)⟩
  have hsplit : (commaList (operands.map Operand.print)).splitOn ',' =
      operands.map Operand.print :=
    List.splitOn_intercalate ',' (fun printed hprinted => by
      obtain ⟨operand, _, rfl⟩ := List.mem_map.1 hprinted
      exact operand.not_mem_print (Or.inr rfl)) hoperands
  have hword : ∀ text, (table ++ (openList ++ text)).takeWhile isWordChar = table ∧
      (table ++ (openList ++ text)).dropWhile isWordChar = openList ++ text := fun text =>
    takeWhile_isWordChar htable (c := ' ') List.mem_cons_self ('(' :: text)
  simp only [parse, print, after_append, Option.bind_eq_bind, Option.bind_some, (hword _).1,
    (hword _).2, hsplitColumns, hsplitOperands, parseColumns_commaList hne hcolumns, hsplit,
    mapM_parse_print]
  rw [if_pos ⟨htable.1, hlength⟩]
  cases returning with
  | false => exact if_pos rfl
  | true =>
    have hne : returningAll ≠ [] := by decide
    simp only [if_true, if_neg hne]

/-- A text without a column is no statement. -/
theorem parse_no_column {table : List Char} (htable : IsIdentifier table) (text : List Char) :
    parse (insertInto ++ (table ++ (openList ++ ')' :: text))) = none := by
  have hword : (table ++ (openList ++ ')' :: text)).takeWhile isWordChar = table ∧
      (table ++ (openList ++ ')' :: text)).dropWhile isWordChar = openList ++ ')' :: text :=
    takeWhile_isWordChar htable (c := ' ') List.mem_cons_self ('(' :: ')' :: text)
  have hsplit : Text.splitFirst ')' (')' :: text) = some ([], text) :=
    Text.splitFirst_eq_some_iff.2 ⟨rfl, List.not_mem_nil⟩
  have hcolumns : parseColumns [] = none := by decide
  simp only [parse, after_append, Option.bind_eq_bind, Option.bind_some, hword.1, hword.2, hsplit,
    hcolumns, Option.bind_none]

end Insert

/-! ## The row of a numbered statement -/

section Numbered

variable {α : Type}

/-- A column of the row: its name, and its value unless it is the default. -/
abbrev Field (α : Type) : Type := List Char × Option α

def Insert.ofFields (table : List Char) (fields : List (Field α)) (returning : Bool) : Insert where
  table := table
  columns := fields.map Prod.fst
  operands := numbered 1 (fields.map Prod.snd)
  returning := returning

theorem length_numbered (n : Nat) (values : List (Option α)) :
    (numbered n values).length = values.length := by
  induction values generalizing n with
  | nil => rfl
  | cons value values ih =>
    cases value <;> simp only [numbered, List.length_cons, ih]

/-- The operands stand for the values that they were numbered for. -/
theorem mapM_value_numbered (bound : List α) (values : List (Option α)) :
    (numbered (bound.length + 1) values).mapM
      (Insert.value (bound ++ values.filterMap id)) = some values := by
  induction values generalizing bound with
  | nil => rfl
  | cons value values ih =>
    cases value with
    | none =>
      rw [numbered, List.mapM_cons, List.filterMap_cons_none rfl, ih]
      rfl
    | some a =>
      have hrest := ih (bound ++ [a])
      rw [List.length_append, List.length_singleton, List.append_assoc,
        List.singleton_append] at hrest
      have hargs : (some a :: values).filterMap id = a :: values.filterMap id := rfl
      rw [numbered, List.mapM_cons, hargs, hrest]
      simp [Insert.value]

/-- Every argument has a parameter. -/
theorem parameter_mem_numbered (n : Nat) (values : List (Option α)) {i : Nat}
    (hi : i < (values.filterMap id).length) : .parameter (n + i) ∈ numbered n values := by
  induction values generalizing n i with
  | nil => cases hi
  | cons value values ih =>
    cases value with
    | none =>
      rw [List.filterMap_cons_none rfl] at hi
      exact List.mem_cons_of_mem _ (ih n hi)
    | some a =>
      have hargs : (some a :: values).filterMap id = a :: values.filterMap id := rfl
      rw [hargs, List.length_cons] at hi
      cases i with
      | zero => exact List.mem_cons_self
      | succ i =>
        have hlater := ih (n + 1) (Nat.lt_of_succ_lt_succ hi)
        rw [Nat.add_right_comm, Nat.add_assoc] at hlater
        exact List.mem_cons_of_mem _ hlater

/-- A statement of numbered parameters makes the row of its fields. -/
theorem Insert.run_ofFields {fields : List (Field α)} (hnames : (fields.map Prod.fst).Nodup)
    (table : List Char) (returning : Bool) (defaults : List Char → α) :
    (ofFields table fields returning).run defaults (fields.filterMap Prod.snd) =
      some fun name => (fields.lookup name).join.getD (defaults name) := by
  have hargs : (fields.map Prod.snd).filterMap id = fields.filterMap Prod.snd := by
    rw [List.filterMap_map]
    rfl
  have hvalues : (numbered 1 (fields.map Prod.snd)).mapM
      (value (fields.filterMap Prod.snd)) = some (fields.map Prod.snd) := by
    rw [← hargs]
    exact mapM_value_numbered [] (fields.map Prod.snd)
  have hparameters : ∀ n < (fields.filterMap Prod.snd).length,
      .parameter (n + 1) ∈ (ofFields table fields returning).operands := by
    intro n hn
    rw [Nat.add_comm]
    exact parameter_mem_numbered 1 _ (by rwa [hargs])
  have hzip : (fields.map Prod.fst).zip (fields.map Prod.snd) = fields := by
    rw [List.zip_map', List.map_id']
  rw [run, ofFields, hvalues, Option.bind_eq_bind, Option.bind_some, hzip]
  exact if_pos ⟨hnames, hparameters⟩

/-- Under different names, each name is looked up as what it is paired with. -/
theorem lookup_of_mem {β : Type} {pairs : List (List Char × β)}
    (hnames : (pairs.map Prod.fst).Nodup) {pair : List Char × β} (h : pair ∈ pairs) :
    pairs.lookup pair.1 = some pair.2 := by
  induction pairs with
  | nil => cases h
  | cons first rest ih =>
    obtain ⟨hfresh, hrest⟩ := List.nodup_cons.1 hnames
    rw [List.lookup_cons]
    rcases List.mem_cons.1 h with rfl | hmem
    · rw [beq_self_eq_true]
    · have hne : pair.1 ≠ first.1 := fun heq => hfresh (heq ▸ List.mem_map_of_mem hmem)
      rw [beq_eq_false_iff_ne.2 hne]
      exact ih hrest hmem

theorem lookup_of_not_mem {β : Type} {pairs : List (List Char × β)} {name : List Char}
    (h : name ∉ pairs.map Prod.fst) : pairs.lookup name = none := by
  refine List.lookup_eq_none_iff.2 fun pair hpair => ?_
  exact bne_iff_ne.2 fun heq => h (heq ▸ List.mem_map_of_mem hpair)

/-- A row after an `UPDATE` that assigns to the columns. -/
def update (assignments : List (List Char × α)) (row : List Char → α) : List Char → α :=
  fun name => (assignments.lookup name).getD (row name)

theorem Insert.wellFormed_ofFields {table : List Char} {fields : List (Field α)}
    (htable : IsIdentifier table) (hne : fields ≠ [])
    (hnames : ∀ field ∈ fields, IsIdentifier field.1) (returning : Bool) :
    (ofFields table fields returning).WellFormed where
  table := htable
  columns_ne_nil := by rwa [ofFields, Ne, List.map_eq_nil_iff]
  columns := by
    intro name hname
    obtain ⟨field, hfield, rfl⟩ := List.mem_map.1 hname
    exact hnames field hfield
  length := by rw [ofFields, length_numbered, List.length_map, List.length_map]

end Numbered

end Sql
