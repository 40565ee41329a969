import DrogonStarter.Lib.Decimal
import DrogonStarter.Lib.Text

/-!
# The text format of metrics

A text of metrics has one line for the help text of a metric, one for its type and one for each
sample.  This is the part of the format without labels, time stamps and fractions.

* `parse` is how such a text is read.
* `render` writes the lines, and `parse_render` reads them back when they are `WellFormed`.
-/

namespace Exposition

/-- A line of a text. -/
inductive Line where
  | help (name text : List Char)
  | type (name kind : List Char)
  | sample (name : List Char) (value : Nat)
deriving DecidableEq

/-- `[a-zA-Z_:]`. -/
def startsName (c : Char) : Bool := c.isAlpha || c == '_' || c == ':'

/-- `[a-zA-Z_:][a-zA-Z0-9_:]*`. -/
def isName : List Char → Bool
  | [] => false
  | c :: rest => startsName c && rest.all fun c => startsName c || c.isDigit

def helpWord : List Char := "HELP".toList

def typeWord : List Char := "TYPE".toList

def kinds : List (List Char) :=
  ["counter".toList, "gauge".toList, "histogram".toList, "summary".toList, "untyped".toList]

/-- A number without a fraction. -/
def number (text : List Char) : Option Nat :=
  if text ≠ [] ∧ text.all Char.isDigit = true then some (CppNumber.naturalValue 10 text) else none

/-- A line after its `#`. -/
def parseComment (line : List Char) : Option Line := do
  let (word, line) ← Text.splitFirst ' ' line
  let (name, text) ← Text.splitFirst ' ' line
  guard (isName name = true)
  if word = helpWord then some (.help name text)
  else if word = typeWord ∧ text ∈ kinds then some (.type name text) else none

def parseLine (line : List Char) : Option Line := do
  let (word, line) ← Text.splitFirst ' ' line
  if word = ['#'] then parseComment line
  else
    guard (isName word = true)
    (number line).map (.sample word)

def parse (text : List Char) : Option (List Line) := (Text.getlines text).mapM parseLine

def Line.render : Line → List Char
  | .help name text => '#' :: ' ' :: (helpWord ++ ' ' :: (name ++ ' ' :: text))
  | .type name kind => '#' :: ' ' :: (typeWord ++ ' ' :: (name ++ ' ' :: kind))
  | .sample name value => name ++ ' ' :: Nat.toDigits 10 value

def render (lines : List Line) : List Char := lines.flatMap fun line => line.render ++ ['\n']

/-- Names are names, and no line ends early. -/
def Line.WellFormed : Line → Prop
  | .help name text => isName name = true ∧ '\n' ∉ text
  | .type name kind => isName name = true ∧ kind ∈ kinds
  | .sample name _ => isName name = true

/-! ## Names -/

section names

variable {c : Char} {name : List Char}

/-- A character that names do not have. -/
theorem not_mem_of_isName (hc : startsName c = false) (hdigit : c.isDigit = false)
    (h : isName name = true) : c ∉ name := by
  have hall : ∀ d ∈ name, startsName d = true ∨ d.isDigit = true := by
    cases name with
    | nil => cases h
    | cons first rest =>
      obtain ⟨hfirst, hrest⟩ := Bool.and_eq_true_iff.1 h
      intro d hd
      rcases List.mem_cons.1 hd with rfl | hd
      · exact Or.inl hfirst
      · exact Bool.or_eq_true_iff.1 (List.all_eq_true.1 hrest d hd)
  intro hmem
  rcases hall c hmem with hstarts | hdigits
  · rw [hc] at hstarts
    cases hstarts
  · rw [hdigit] at hdigits
    cases hdigits

theorem space_not_mem (h : isName name = true) : ' ' ∉ name :=
  not_mem_of_isName (by decide) (by decide) h

theorem newline_not_mem (h : isName name = true) : '\n' ∉ name :=
  not_mem_of_isName (by decide) (by decide) h

theorem newline_not_mem_kind {kind : List Char} (h : kind ∈ kinds) : '\n' ∉ kind := by
  have hall : ∀ kind ∈ kinds, '\n' ∉ kind := by decide
  exact hall kind h

end names

/-! ## The lines are read back -/

section lines

variable {name text : List Char}

theorem splitFirst_space {before : List Char} (h : ' ' ∉ before) (after : List Char) :
    Text.splitFirst ' ' (before ++ ' ' :: after) = some (before, after) :=
  Text.splitFirst_eq_some_iff.2 ⟨rfl, h⟩

theorem parseLine_comment (line : List Char) :
    parseLine ('#' :: ' ' :: line) = parseComment line := by
  have hsplit : Text.splitFirst ' ' ('#' :: ' ' :: line) = some (['#'], line) :=
    splitFirst_space (by decide : ' ' ∉ ['#']) line
  simp only [parseLine, hsplit, Option.bind_eq_bind, Option.bind_some, if_true]

theorem parseComment_word {word : List Char} (hword : ' ' ∉ word) (hname : isName name = true)
    (text : List Char) :
    parseComment (word ++ ' ' :: (name ++ ' ' :: text)) =
      if word = helpWord then some (.help name text)
      else if word = typeWord ∧ text ∈ kinds then some (.type name text) else none := by
  simp only [parseComment, splitFirst_space hword, splitFirst_space (space_not_mem hname), hname,
    guard, if_true, Option.bind_eq_bind, Option.bind_some, Option.pure_def]

theorem parseLine_render {line : Line} (h : line.WellFormed) :
    parseLine line.render = some line := by
  cases line with
  | help name text =>
    rw [Line.render, parseLine_comment, parseComment_word (by decide) h.1, if_pos rfl]
  | type name kind =>
    rw [Line.render, parseLine_comment, parseComment_word (by decide) h.1, if_neg (by decide),
      if_pos ⟨rfl, h.2⟩]
  | sample name value =>
    have hname : isName name = true := h
    have hother : name ≠ ['#'] := by
      rintro rfl
      exact absurd hname (by decide)
    have hnumber : number (Nat.toDigits 10 value) = some value := by
      have hdigits : Nat.toDigits 10 value ≠ [] ∧
          (Nat.toDigits 10 value).all Char.isDigit = true :=
        ⟨Nat.toDigits_ne_nil, List.all_eq_true.2 fun c hc => CppNumber.isDigit_of_mem_toDigits hc⟩
      rw [number, if_pos hdigits, CppNumber.naturalValue_toDigits]
    simp only [Line.render, parseLine, splitFirst_space (space_not_mem hname), hnumber, hname,
      if_neg hother, guard, if_true, Option.bind_eq_bind, Option.bind_some, Option.pure_def,
      Option.map_some]

theorem newline_not_mem_render {line : Line} (h : line.WellFormed) : '\n' ∉ line.render := by
  cases line with
  | help name text =>
    simp only [Line.render, List.mem_cons, List.mem_append, not_or]
    exact ⟨by decide, by decide, by decide, by decide, newline_not_mem h.1, by decide, h.2⟩
  | type name kind =>
    simp only [Line.render, List.mem_cons, List.mem_append, not_or]
    exact ⟨by decide, by decide, by decide, by decide, newline_not_mem h.1, by decide,
      newline_not_mem_kind h.2⟩
  | sample name value =>
    simp only [Line.render, List.mem_cons, List.mem_append, not_or]
    exact ⟨newline_not_mem h, by decide,
      CppNumber.not_mem_toDigits (by decide : '\n'.isDigit = false) value⟩

/-- What is written is read back, line by line. -/
theorem parse_render {lines : List Line} (h : ∀ line ∈ lines, line.WellFormed) :
    parse (render lines) = some lines := by
  have hplain : ∀ text ∈ lines.map Line.render, '\n' ∉ text := by
    intro text htext
    obtain ⟨line, hline, rfl⟩ := List.mem_map.1 htext
    exact newline_not_mem_render (h line hline)
  have hread : Text.getlines (render lines) = lines.map Line.render := by
    have hlines := Text.getlines_flatMap hplain
    rw [List.flatMap_map] at hlines
    exact hlines
  unfold parse
  rw [hread]
  clear hread hplain
  induction lines with
  | nil => rfl
  | cons line lines ih =>
    rw [List.map_cons, List.mapM_cons, parseLine_render (h line List.mem_cons_self),
      ih fun other hother => h other (List.mem_cons_of_mem line hother)]
    rfl

end lines

end Exposition
