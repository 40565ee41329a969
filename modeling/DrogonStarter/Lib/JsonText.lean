import DrogonStarter.Lib.Decimal
import DrogonStarter.Lib.JsonPath
import Mathlib.Tactic.IntervalCases

/-!
# JSON texts

The compact text of a document, on one line, and a reader for it.

* `write` writes a document without white space, `read` reads one.
* `Numberless` documents have no number at any depth; changes at a path keep that.  `Plain`
  documents may have whole numbers.
* `read_write` is the round trip on plain documents, and `newline_not_mem_write` says that the
  texts of those without numbers have no newline.
* `Codec` is any library that writes and reads, `Codec.Lawful` says these two things of it,
  and `compact` is the one of this module.
-/

namespace Json

/-- A document without numbers. -/
inductive Numberless : Json → Prop
  | null : Numberless .null
  | bool (value : Bool) : Numberless (.bool value)
  | string (text : String) : Numberless (.string text)
  | array {items : List Json} (h : ∀ j ∈ items, Numberless j) : Numberless (.array items)
  | object {members : List (String × Json)} (h : ∀ member ∈ members, Numberless member.2) :
      Numberless (.object members)

/-- A document whose numbers are whole. -/
inductive Plain : Json → Prop
  | null : Plain .null
  | bool (value : Bool) : Plain (.bool value)
  | int (value : Int) : Plain (.int value)
  | string (text : String) : Plain (.string text)
  | array {items : List Json} (h : ∀ j ∈ items, Plain j) : Plain (.array items)
  | object {members : List (String × Json)} (h : ∀ member ∈ members, Plain member.2) :
      Plain (.object members)

namespace Numberless

theorem plain {j : Json} (h : j.Numberless) : j.Plain := by
  induction h with
  | null => exact .null
  | bool value => exact .bool value
  | string text => exact .string text
  | array _ ih => exact .array ih
  | object _ ih => exact .object ih

theorem set {j value : Json} (h : j.Numberless) (name : String) (hvalue : value.Numberless) :
    (j.set name value).Numberless := by
  have hsingle : (Json.object [(name, value)]).Numberless := by
    refine .object fun member hmember => ?_
    rw [List.mem_singleton.1 hmember]
    exact hvalue
  cases h with
  | object hmembers =>
    refine .object fun member hmember => ?_
    rcases mem_insertMember hmember with rfl | hold
    · exact hvalue
    · exact hmembers member hold
  | null | bool _ | string _ | array _ => exact hsingle

theorem setItem {j value : Json} (h : j.Numberless) (index : Nat) (hvalue : value.Numberless) :
    (j.setItem index value).Numberless := by
  have hpadded {items : List Json} (hitems : ∀ i ∈ items, Numberless i) :
      (Json.array ((items ++ List.replicate (index + 1 - items.length) Json.null).set index
        value)).Numberless := by
    refine .array fun item hitem => ?_
    rcases List.mem_or_eq_of_mem_set hitem with hmem | rfl
    · rcases List.mem_append.1 hmem with hold | hnull
      · exact hitems item hold
      · rw [List.eq_of_mem_replicate hnull]
        exact .null
    · exact hvalue
  cases h with
  | array hitems => exact hpadded hitems
  | null | bool _ | string _ | object _ => exact hpadded fun i hi => nomatch hi

theorem append {j value : Json} (h : j.Numberless) (hvalue : value.Numberless) :
    (j.append value).Numberless := by
  have hsingle : (Json.array [value]).Numberless := by
    refine .array fun item hitem => ?_
    rw [List.mem_singleton.1 hitem]
    exact hvalue
  cases h with
  | array hitems =>
    refine .array fun item hitem => ?_
    rcases List.mem_append.1 hitem with hold | hnew
    · exact hitems item hold
    · rw [List.mem_singleton.1 hnew]
      exact hvalue
  | null | bool _ | string _ | object _ => exact hsingle

/-- A step leads from a document without numbers to one. -/
theorem getD_get? {j : Json} (h : j.Numberless) (step : Step) :
    ((step.get? j).getD .null).Numberless := by
  cases hstep : step.get? j with
  | none => exact .null
  | some value =>
    cases step with
    | member name =>
      cases h with
      | object hmembers =>
        obtain ⟨before, after, hsplit, -⟩ := List.lookup_eq_some_iff.1 hstep
        refine hmembers (name, value) ?_
        rw [hsplit]
        exact List.mem_append_right _ List.mem_cons_self
      | null | bool _ | string _ | array _ => cases hstep
    | item index =>
      cases h with
      | array hitems => exact hitems value (List.mem_of_getElem? hstep)
      | null | bool _ | string _ | object _ => cases hstep

theorem modify {f : Json → Json} (hf : ∀ value, Numberless value → (f value).Numberless)
    (path : List Step) {j : Json} (h : j.Numberless) : (modify f path j).Numberless := by
  induction path generalizing j with
  | nil => exact hf j h
  | cons step path ih =>
    have hinner := ih (h.getD_get? step)
    cases step with
    | member name => exact h.set name hinner
    | item index => exact h.setItem index hinner

theorem assign (path : List Step) {j value : Json} (h : j.Numberless)
    (hvalue : value.Numberless) : (assign path value j).Numberless :=
  h.modify (fun _ _ => hvalue) path

end Numberless

/-! ## Writing -/

/-- A character of a string, between its quotation marks. -/
def escape (c : Char) : List Char :=
  match c with
  | '"' => ['\\', '"']
  | '\\' => ['\\', '\\']
  | '\x08' => ['\\', 'b']
  | '\x0c' => ['\\', 'f']
  | '\n' => ['\\', 'n']
  | '\r' => ['\\', 'r']
  | '\t' => ['\\', 't']
  | c =>
    if c.toNat < 32 then
      ['\\', 'u', '0', '0', Nat.digitChar (c.toNat / 16), Nat.digitChar (c.toNat % 16)]
    else [c]

def quote (text : String) : List Char := '"' :: (text.toList.flatMap escape ++ ['"'])

/-- Texts with commas between them. -/
def commas : List (List Char) → List Char
  | [] => []
  | [text] => text
  | text :: rest => text ++ ',' :: commas rest

mutual

/-- The compact text of a document. -/
def write : Json → List Char
  | .null => "null".toList
  | .bool true => "true".toList
  | .bool false => "false".toList
  | .int value => (toString value).toList
  | .real digits => digits.toList
  | .string text => quote text
  | .array items => '[' :: (commas (writeItems items) ++ [']'])
  | .object members => '{' :: (commas (writeMembers members) ++ ['}'])

def writeItems : List Json → List (List Char)
  | [] => []
  | item :: rest => write item :: writeItems rest

def writeMembers : List (String × Json) → List (List Char)
  | [] => []
  | member :: rest => writeMember member :: writeMembers rest

def writeMember : String × Json → List Char
  | (name, value) => quote name ++ ':' :: write value

end

theorem writeItems_eq (items : List Json) : writeItems items = items.map write := by
  induction items with
  | nil => rfl
  | cons item rest ih => rw [writeItems, ih, List.map_cons]

theorem writeMembers_eq (members : List (String × Json)) :
    writeMembers members = members.map writeMember := by
  induction members with
  | nil => rfl
  | cons member rest ih => rw [writeMembers, ih, List.map_cons]

/-! ## Reading -/

/-- The value of a hexadecimal digit in lower case. -/
def hexValue (c : Char) : Nat := ((List.range 16).find? (Nat.digitChar · = c)).getD 0

def unescape : Char → Char
  | 'b' => '\x08'
  | 'f' => '\x0c'
  | 'n' => '\n'
  | 'r' => '\r'
  | 't' => '\t'
  | c => c

/-- Up to the closing quotation mark. -/
def readChars : List Char → Option (List Char × List Char)
  | [] => none
  | '"' :: rest => some ([], rest)
  | '\\' :: 'u' :: '0' :: '0' :: high :: low :: rest =>
    (readChars rest).map fun done =>
      (Char.ofNat (16 * hexValue high + hexValue low) :: done.1, done.2)
  | '\\' :: c :: rest => (readChars rest).map fun done => (unescape c :: done.1, done.2)
  | c :: rest => (readChars rest).map fun done => (c :: done.1, done.2)

/-- Values with commas between them, up to the closing bracket. -/
def readMany {α : Type} (readOne : List Char → Option (α × List Char)) (close : Char) :
    Nat → List Char → Option (List α × List Char)
  | 0, _ => none
  | fuel + 1, text =>
    match readOne text with
    | some (value, c :: rest) =>
      if c = close then some ([value], rest)
      else if c = ',' then
        (readMany readOne close fuel rest).map fun done => (value :: done.1, done.2)
      else none
    | _ => none

def readMember (readValue : List Char → Option (Json × List Char)) :
    List Char → Option ((String × Json) × List Char)
  | '"' :: text =>
    match readChars text with
    | some (name, ':' :: rest) =>
      (readValue rest).map fun done => ((String.ofList name, done.1), done.2)
    | _ => none
  | _ => none

/-- A numeral, with the sign that was before it. -/
def readDigits (sign : Int) (text : List Char) : Option (Json × List Char) :=
  if text.takeWhile Char.isDigit = [] then none
  else
    some (.int (sign * CppNumber.naturalValue 10 (text.takeWhile Char.isDigit)),
      text.dropWhile Char.isDigit)

/-- A value, as deep as the fuel allows. -/
def readValue : Nat → List Char → Option (Json × List Char)
  | 0 => fun _ => none
  | fuel + 1 => fun text =>
    match text with
    | 'n' :: 'u' :: 'l' :: 'l' :: rest => some (.null, rest)
    | 't' :: 'r' :: 'u' :: 'e' :: rest => some (.bool true, rest)
    | 'f' :: 'a' :: 'l' :: 's' :: 'e' :: rest => some (.bool false, rest)
    | '"' :: rest => (readChars rest).map fun done => (.string (String.ofList done.1), done.2)
    | '[' :: ']' :: rest => some (.array [], rest)
    | '[' :: rest =>
      (readMany (readValue fuel) ']' (fuel + 1) rest).map fun done => (.array done.1, done.2)
    | '{' :: '}' :: rest => some (.object [], rest)
    | '{' :: rest =>
      (readMany (readMember (readValue fuel)) '}' (fuel + 1) rest).map fun done =>
        (.object done.1, done.2)
    | '-' :: rest => readDigits (-1) rest
    | _ => readDigits 1 text

/-- A whole text. -/
def read (text : List Char) : Option Json :=
  match readValue (text.length + 1) text with
  | some (value, []) => some value
  | _ => none

/-! ## The round trip -/

theorem readChars_cons {c : Char} (hquote : c ≠ '"') (hslash : c ≠ '\\') (rest : List Char) :
    readChars (c :: rest) = (readChars rest).map fun done => (c :: done.1, done.2) := by
  rw [readChars]
  · exact hquote
  · rintro high low after rfl
    exact absurd rfl hslash
  · rintro d after rfl
    exact absurd rfl hslash

/-- A character is read back from its escape. -/
theorem readChars_escape (c : Char) (rest : List Char) :
    readChars (escape c ++ rest) =
      (readChars rest).map fun done => (c :: done.1, done.2) := by
  unfold escape
  split
  case h_8 hquote hslash _ _ _ _ _ =>
    by_cases hcontrol : c.toNat < 32
    · rw [if_pos hcontrol]
      have hread : Char.ofNat (16 * hexValue (Nat.digitChar (c.toNat / 16)) +
          hexValue (Nat.digitChar (c.toNat % 16))) = c := by
        rw [← Char.ofNat_toNat c]
        generalize c.toNat = n at hcontrol
        interval_cases n <;> rfl
      change (readChars rest).map _ = _
      rw [hread]
    · rw [if_neg hcontrol]
      exact readChars_cons hquote hslash rest
  all_goals rfl

theorem readChars_flatMap_escape (text rest : List Char) :
    readChars (text.flatMap escape ++ '"' :: rest) = some (text, rest) := by
  induction text with
  | nil => rfl
  | cons c text ih =>
    rw [List.flatMap_cons, List.append_assoc, readChars_escape, ih]
    rfl

theorem commas_cons_cons (text next : List Char) (rest : List (List Char)) :
    commas (text :: next :: rest) = text ++ ',' :: commas (next :: rest) := rfl

/-- No numeral goes on in what follows. -/
def Ended (rest : List Char) : Prop := ∀ c ∈ rest.head?, c.isDigit = false

theorem ended_nil : Ended [] := nofun

theorem ended_cons {c : Char} (hc : c.isDigit = false) (rest : List Char) : Ended (c :: rest) := by
  rintro _ ⟨⟩
  exact hc

/-- Values are read back when each of them is. -/
theorem readMany_commas {α : Type} {readOne : List Char → Option (α × List Char)}
    {writeOne : α → List Char} {close : Char} (hclose : close ≠ ',')
    (hdigit : close.isDigit = false) {values : List α} (hne : values ≠ [])
    (hone : ∀ value ∈ values, ∀ {rest}, Ended rest →
      readOne (writeOne value ++ rest) = some (value, rest))
    {fuel : Nat} (hfuel : values.length ≤ fuel) (rest : List Char) :
    readMany readOne close fuel (commas (values.map writeOne) ++ close :: rest) =
      some (values, rest) := by
  induction values generalizing fuel with
  | nil => exact absurd rfl hne
  | cons value values ih =>
    have hfirst : ∀ {rest}, Ended rest → readOne (writeOne value ++ rest) = some (value, rest) :=
      hone value List.mem_cons_self
    match fuel with
    | fuel + 1 =>
      cases values with
      | nil =>
        change readMany readOne close (fuel + 1) (writeOne value ++ close :: rest) = _
        rw [readMany, hfirst (ended_cons hdigit rest)]
        exact if_pos rfl
      | cons next values =>
        have hrest := ih (List.cons_ne_nil next values)
          (fun v hv => hone v (List.mem_cons_of_mem value hv)) (Nat.le_of_succ_le_succ hfuel)
        have htext : commas ((value :: next :: values).map writeOne) ++ close :: rest =
            writeOne value ++ ',' :: (commas ((next :: values).map writeOne) ++ close :: rest) := by
          rw [List.map_cons, List.map_cons, commas_cons_cons, List.append_assoc]
          rfl
        rw [htext, readMany, hfirst (ended_cons rfl _)]
        simp only [if_neg hclose.symm, if_pos, hrest, Option.map_some]

theorem length_le_commas {text : List Char} {texts : List (List Char)} (h : text ∈ texts) :
    text.length ≤ (commas texts).length := by
  induction texts with
  | nil => cases h
  | cons first rest ih =>
    cases rest with
    | nil => exact le_of_eq (congrArg List.length (List.mem_singleton.1 h))
    | cons next rest =>
      rw [commas_cons_cons, List.length_append, List.length_cons]
      rcases List.mem_cons.1 h with rfl | hrest
      · omega
      · have := ih hrest
        omega

theorem length_le_length_commas (texts : List (List Char)) :
    texts.length ≤ (commas texts).length + 1 := by
  induction texts with
  | nil => exact Nat.zero_le _
  | cons first rest ih =>
    cases rest with
    | nil => exact Nat.le_add_left 1 _
    | cons next rest =>
      simp only [commas_cons_cons, List.length_append, List.length_cons] at ih ⊢
      omega

theorem readValue_bracket (fuel : Nat) {text : List Char} (h : ∀ rest, text ≠ ']' :: rest) :
    readValue (fuel + 1) ('[' :: text) =
      (readMany (readValue fuel) ']' (fuel + 1) text).map fun done => (.array done.1, done.2) := by
  simp only [readValue]

theorem readValue_brace (fuel : Nat) {text : List Char} (h : ∀ rest, text ≠ '}' :: rest) :
    readValue (fuel + 1) ('{' :: text) =
      (readMany (readMember (readValue fuel)) '}' (fuel + 1) text).map fun done =>
        (.object done.1, done.2) := by
  simp only [readValue]

/-- Values in brackets do not begin like the closing bracket, if the first does not. -/
theorem commas_append_ne {c close : Char} (hc : c ≠ close) (text : List Char)
    (texts : List (List Char)) (after rest : List Char) :
    commas ((c :: text) :: texts) ++ after ≠ close :: rest := by
  cases texts with
  | nil =>
    intro h
    exact hc (List.cons.inj h).1
  | cons next texts =>
    intro h
    exact hc (List.cons.inj h).1

/-- The text of a number begins with a digit or a sign. -/
theorem exists_cons_toDigits (n : Nat) :
    ∃ c text, c.isDigit = true ∧ Nat.toDigits 10 n = c :: text := by
  obtain ⟨c, text, htext⟩ := List.exists_cons_of_ne_nil (Nat.toDigits_ne_nil (n := n) (b := 10))
  have hc : c ∈ Nat.toDigits 10 n := by rw [htext]; exact List.mem_cons_self
  exact ⟨c, text, CppNumber.isDigit_of_mem_toDigits hc, htext⟩

/-- No value begins with a closing bracket. -/
theorem Plain.write_eq_cons {j : Json} (h : j.Plain) :
    ∃ c text, c ≠ ']' ∧ write j = c :: text := by
  cases h with
  | null => exact ⟨'n', _, by decide, rfl⟩
  | bool value => cases value <;> exact ⟨_, _, by decide, rfl⟩
  | int value =>
    cases value with
    | ofNat n =>
      obtain ⟨c, text, hc, htext⟩ := exists_cons_toDigits n
      refine ⟨c, text, ?_, (CppNumber.toList_toString n).trans htext⟩
      rintro rfl
      cases hc
    | negSucc n => exact ⟨'-', _, by decide, CppNumber.toList_toString_negSucc n⟩
  | string text => exact ⟨'"', _, by decide, rfl⟩
  | array h => exact ⟨'[', _, by decide, rfl⟩
  | object h => exact ⟨'{', _, by decide, rfl⟩

/-- A numeral is read up to where it ends. -/
theorem readDigits_toDigits (sign : Int) (n : Nat) {rest : List Char} (hrest : Ended rest) :
    readDigits sign (Nat.toDigits 10 n ++ rest) = some (.int (sign * n), rest) := by
  have hall : ∀ c ∈ Nat.toDigits 10 n, c.isDigit = true := fun c hc =>
    CppNumber.isDigit_of_mem_toDigits hc
  have hstop : rest.takeWhile Char.isDigit = [] ∧ rest.dropWhile Char.isDigit = rest := by
    cases rest with
    | nil => exact ⟨rfl, rfl⟩
    | cons c rest =>
      have hc : ¬ c.isDigit = true := by rw [hrest c rfl]; exact Bool.false_ne_true
      exact ⟨List.takeWhile_cons_of_neg hc, List.dropWhile_cons_of_neg hc⟩
  rw [readDigits, List.takeWhile_append_of_pos hall, List.dropWhile_append_of_pos hall, hstop.1,
    hstop.2, List.append_nil, if_neg Nat.toDigits_ne_nil, CppNumber.naturalValue_toDigits]

/-- A text that begins with a digit is a numeral. -/
theorem readValue_digit (fuel : Nat) {c : Char} (hc : c.isDigit = true) (text : List Char) :
    readValue (fuel + 1) (c :: text) = readDigits 1 (c :: text) := by
  rw [readValue]
  beta_reduce
  split
  case h_10 => rfl
  all_goals
    rename_i heq
    rw [(List.cons.inj heq).1] at hc
    exact absurd hc (by decide)

theorem readValue_int (value : Int) (fuel : Nat) {rest : List Char} (hrest : Ended rest) :
    readValue (fuel + 1) (write (.int value) ++ rest) = some (.int value, rest) := by
  cases value with
  | ofNat n =>
    obtain ⟨c, text, hc, htext⟩ := exists_cons_toDigits n
    have hwrite : write (.int (Int.ofNat n)) = c :: text :=
      (CppNumber.toList_toString n).trans htext
    rw [hwrite, List.cons_append, readValue_digit fuel hc, ← List.cons_append, ← htext,
      readDigits_toDigits 1 n hrest, one_mul]
    rfl
  | negSucc n =>
    have hwrite : write (.int (Int.negSucc n)) = '-' :: Nat.toDigits 10 (n + 1) :=
      CppNumber.toList_toString_negSucc n
    have hsign : readValue (fuel + 1) (('-' :: Nat.toDigits 10 (n + 1)) ++ rest) =
        readDigits (-1) (Nat.toDigits 10 (n + 1) ++ rest) := rfl
    rw [hwrite, hsign, readDigits_toDigits (-1) (n + 1) hrest, neg_one_mul, Int.negSucc_eq]
    rfl

theorem readMember_writeMember {readOne : List Char → Option (Json × List Char)}
    {member : String × Json}
    (hvalue : ∀ {rest}, Ended rest → readOne (write member.2 ++ rest) = some (member.2, rest))
    {rest : List Char} (hrest : Ended rest) :
    readMember readOne (writeMember member ++ rest) = some (member, rest) := by
  obtain ⟨name, value⟩ := member
  have htext : writeMember (name, value) ++ rest =
      '"' :: (name.toList.flatMap escape ++ '"' :: (':' :: (write value ++ rest))) := by
    simp only [writeMember, quote, List.cons_append, List.append_assoc, List.nil_append]
  rw [htext, readMember, readChars_flatMap_escape]
  simp only [hvalue hrest, Option.map_some, String.ofList_toList]

/-- The texts that `readMany` gets to read are shorter than the whole one. -/
theorem length_write_le {α : Type} (writeOne : α → List Char) {values : List α} {value : α}
    (hvalue : value ∈ values) {fuel : Nat} {bracket close : Char}
    (hfuel : (bracket :: (commas (values.map writeOne) ++ [close])).length ≤ fuel + 1) :
    (writeOne value).length ≤ fuel ∧ values.length ≤ fuel + 1 := by
  have hone := length_le_commas (List.mem_map_of_mem (f := writeOne) hvalue)
  have hall := length_le_length_commas (values.map writeOne)
  simp only [List.length_cons, List.length_append, List.length_nil, List.length_map]
    at hfuel hall
  constructor <;> omega

/-- An array is read back when its items are. -/
theorem readValue_array {item : Json} {items : List Json} (hitem : item.Plain) {fuel : Nat}
    (hone : ∀ value ∈ item :: items, ∀ {rest}, Ended rest →
      readValue fuel (write value ++ rest) = some (value, rest))
    (hlength : (item :: items).length ≤ fuel + 1) (rest : List Char) :
    readValue (fuel + 1) (write (.array (item :: items)) ++ rest) =
      some (.array (item :: items), rest) := by
  have hclose : ']' ≠ ',' := by decide
  have hmany := readMany_commas hclose rfl (List.cons_ne_nil item items) hone hlength rest
  obtain ⟨c, text, hc, hfirst⟩ := hitem.write_eq_cons
  have htext : write (.array (item :: items)) ++ rest =
      '[' :: (commas ((item :: items).map write) ++ ']' :: rest) := by
    simp only [write, writeItems_eq, List.cons_append, List.append_assoc, List.nil_append]
  have hopen : ∀ after, commas ((item :: items).map write) ++ ']' :: rest ≠ ']' :: after := by
    intro after
    rw [List.map_cons, hfirst]
    exact commas_append_ne hc _ _ _ _
  rw [htext, readValue_bracket fuel hopen, hmany]
  rfl

/-- An object is read back when the values of its members are. -/
theorem readValue_object {member : String × Json} {members : List (String × Json)} {fuel : Nat}
    (hvalue : ∀ m ∈ member :: members, ∀ {rest}, Ended rest →
      readValue fuel (write m.2 ++ rest) = some (m.2, rest))
    (hlength : (member :: members).length ≤ fuel + 1) (rest : List Char) :
    readValue (fuel + 1) (write (.object (member :: members)) ++ rest) =
      some (.object (member :: members), rest) := by
  have hone : ∀ m ∈ member :: members, ∀ {rest}, Ended rest →
      readMember (readValue fuel) (writeMember m ++ rest) = some (m, rest) := fun m hm =>
    readMember_writeMember (hvalue m hm)
  have hclose : '}' ≠ ',' := by decide
  have hmany := readMany_commas hclose rfl (List.cons_ne_nil member members) hone hlength rest
  have htext : write (.object (member :: members)) ++ rest =
      '{' :: (commas ((member :: members).map writeMember) ++ '}' :: rest) := by
    simp only [write, writeMembers_eq, List.cons_append, List.append_assoc, List.nil_append]
  have hopen : ∀ after,
      commas ((member :: members).map writeMember) ++ '}' :: rest ≠ '}' :: after := by
    intro after
    obtain ⟨name, value⟩ := member
    have hquote : '"' ≠ '}' := by decide
    exact commas_append_ne hquote _ _ _ _
  rw [htext, readValue_brace fuel hopen, hmany]
  rfl

/-- A plain document is read back from its text. -/
theorem Plain.readValue_write {j : Json} (h : j.Plain) {fuel : Nat}
    (hfuel : (write j).length ≤ fuel) {rest : List Char} (hrest : Ended rest) :
    readValue fuel (write j ++ rest) = some (j, rest) := by
  induction h generalizing fuel rest with
  | null =>
    match fuel with
    | fuel + 1 => rfl
  | bool value =>
    cases value <;>
      match fuel with
      | fuel + 1 => rfl
  | int value =>
    match fuel with
    | 0 =>
      obtain ⟨c, text, _, htext⟩ := (Plain.int value).write_eq_cons
      rw [htext] at hfuel
      cases hfuel
    | fuel + 1 => exact readValue_int value fuel hrest
  | string text =>
    match fuel with
    | fuel + 1 =>
      have htext : write (.string text) ++ rest =
          '"' :: (text.toList.flatMap escape ++ '"' :: rest) := by
        simp only [write, quote, List.cons_append, List.append_assoc, List.nil_append]
      rw [htext]
      simp only [readValue, readChars_flatMap_escape, Option.map_some, String.ofList_toList]
  | @array items h ih =>
    match fuel with
    | fuel + 1 =>
      cases items with
      | nil => rfl
      | cons item items =>
        rw [write, writeItems_eq] at hfuel
        exact readValue_array (h item List.mem_cons_self)
          (fun value hvalue => ih value hvalue (length_write_le write hvalue hfuel).1)
          (length_write_le write List.mem_cons_self hfuel).2 rest
  | @object members h ih =>
    match fuel with
    | fuel + 1 =>
      cases members with
      | nil => rfl
      | cons member members =>
        rw [write, writeMembers_eq] at hfuel
        refine readValue_object (fun m hm {_} hended => ?_)
          (length_write_le writeMember List.mem_cons_self hfuel).2 rest
        have hlength := (length_write_le writeMember hm hfuel).1
        have hinner : (write m.2).length ≤ (writeMember m).length := by
          rw [writeMember, List.length_append, List.length_cons]
          omega
        exact ih m hm (hinner.trans hlength) hended

/-- The round trip. -/
theorem read_write {j : Json} (h : j.Plain) : read (write j) = some j := by
  have hread := h.readValue_write (Nat.le_succ (write j).length) ended_nil
  rw [List.append_nil] at hread
  rw [read, hread]

/-! ## One line -/

theorem newline_not_mem_escape (c : Char) : '\n' ∉ escape c := by
  unfold escape
  split
  case h_8 hnewline _ _ =>
    split
    case isTrue hcontrol =>
      have hdigit : ∀ n < 16, '\n' ≠ Nat.digitChar n := by decide
      have hhigh := hdigit (c.toNat / 16) (by omega)
      have hlow := hdigit (c.toNat % 16) (by omega)
      simp [hhigh, hlow]
    case isFalse => simpa using Ne.symm hnewline
  all_goals decide

theorem newline_not_mem_quote (text : String) : '\n' ∉ quote text := by
  have hchars : '\n' ∉ text.toList.flatMap escape := by
    intro h
    obtain ⟨c, -, hc⟩ := List.mem_flatMap.1 h
    exact newline_not_mem_escape c hc
  simp [quote, hchars]

theorem not_mem_commas {c : Char} (hc : c ≠ ',') {texts : List (List Char)}
    (h : ∀ text ∈ texts, c ∉ text) : c ∉ commas texts := by
  induction texts with
  | nil => exact List.not_mem_nil
  | cons first rest ih =>
    have hfirst := h first List.mem_cons_self
    cases rest with
    | nil => exact hfirst
    | cons next rest =>
      have hrest := ih fun text htext => h text (List.mem_cons_of_mem first htext)
      rw [commas_cons_cons]
      simp [hfirst, hrest, hc]

/-- The text of a document without numbers is one line. -/
theorem newline_not_mem_write {j : Json} (h : j.Numberless) : '\n' ∉ write j := by
  induction h with
  | null => decide
  | bool value => cases value <;> decide
  | string text => exact newline_not_mem_quote text
  | @array items h ih =>
    have hitems : '\n' ∉ commas (items.map write) := by
      refine not_mem_commas (by decide) fun text htext => ?_
      obtain ⟨item, hitem, rfl⟩ := List.mem_map.1 htext
      exact ih item hitem
    rw [write, writeItems_eq]
    simp [hitems]
  | @object members h ih =>
    have hmembers : '\n' ∉ commas (members.map writeMember) := by
      refine not_mem_commas (by decide) fun text htext => ?_
      obtain ⟨⟨name, value⟩, hmember, rfl⟩ := List.mem_map.1 htext
      have hvalue := ih (name, value) hmember
      simp [writeMember, newline_not_mem_quote, hvalue]
    rw [write, writeMembers_eq]
    simp [hmembers]

mutual

/-- The numbers of a document are whole. -/
def isPlain : Json → Bool
  | .real _ => false
  | .array items => arePlain items
  | .object members => havePlainValues members
  | .null | .bool _ | .int _ | .string _ => true

def arePlain : List Json → Bool
  | [] => true
  | item :: rest => isPlain item && arePlain rest

def havePlainValues : List (String × Json) → Bool
  | [] => true
  | (_, value) :: rest => isPlain value && havePlainValues rest

end

mutual

theorem plain_of_isPlain : (j : Json) → j.isPlain = true → j.Plain
  | .null, _ => .null
  | .bool value, _ => .bool value
  | .int value, _ => .int value
  | .string text, _ => .string text
  | .array items, h => .array (forall_plain_of_arePlain items h)
  | .object members, h => .object (forall_plain_of_havePlainValues members h)

theorem forall_plain_of_arePlain : (items : List Json) → arePlain items = true →
    ∀ j ∈ items, Plain j
  | [], _ => nofun
  | item :: rest, h =>
    have hboth := Bool.and_eq_true_iff.1 h
    List.forall_mem_cons.2
      ⟨plain_of_isPlain item hboth.1, forall_plain_of_arePlain rest hboth.2⟩

theorem forall_plain_of_havePlainValues : (members : List (String × Json)) →
    havePlainValues members = true → ∀ member ∈ members, Plain member.2
  | [], _ => nofun
  | (_, value) :: rest, h =>
    have hboth := Bool.and_eq_true_iff.1 h
    List.forall_mem_cons.2
      ⟨plain_of_isPlain value hboth.1, forall_plain_of_havePlainValues rest hboth.2⟩

end

/-! ## A library that writes and reads -/

/-- A writer of documents without white space, and a reader. -/
structure Codec where
  writeString : Json → String
  parse : String → Option Json

/-- What such a library does with documents without numbers. -/
structure Codec.Lawful (library : Codec) : Prop where
  oneLine : ∀ {j : Json}, j.Numberless → '\n' ∉ (library.writeString j).toList
  parse_writeString : ∀ {j : Json}, j.Numberless →
    library.parse (library.writeString j) = some j

/-- The writer and the reader of this module. -/
def compact : Codec where
  writeString j := String.ofList (write j)
  parse text := read text.toList

theorem parse_writeString_compact {j : Json} (h : j.Plain) :
    compact.parse (compact.writeString j) = some j := by
  change read (String.ofList (write j)).toList = _
  rw [String.toList_ofList]
  exact read_write h

theorem lawful_compact : compact.Lawful where
  oneLine h := by
    change _ ∉ (String.ofList (write _)).toList
    rw [String.toList_ofList]
    exact newline_not_mem_write h
  parse_writeString h := parse_writeString_compact h.plain

example : compact.writeString (.object [("type", .string "event")]) =
    "\x7b\"type\":\"event\"\x7d" :=
  rfl

end Json
