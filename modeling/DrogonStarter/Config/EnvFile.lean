import DrogonStarter.Lib.Text
import Mathlib.Logic.Function.Basic

/-!
# The two readers of `.env`

`AppConfig::load` and the helper behind `getEnv` read the same file, each with
its own loop.  The first one skips empty lines, comment lines and lines with an
empty key.  The second one takes every line that has an equals sign.

* `AppConfig.readEnvFile` and `Env.readEnvFile` are the two loops.
* `readEnvFile_agree` says on which keys they cannot differ.
-/

namespace DrogonStarter

/-- `std::map<std::string, std::string>`. -/
abbrev Values := String → Option String

/-- `values[key] = value`. -/
def Values.insert (values : Values) (key value : String) : Values :=
  Function.update values key (some value)

theorem Values.insert_self (values : Values) (key value : String) :
    values.insert key value key = some value :=
  Function.update_self ..

theorem Values.insert_of_ne {key other : String} (hne : other ≠ key) (values : Values)
    (value : String) : values.insert key value other = values other :=
  Function.update_of_ne hne ..

namespace AppConfig

/-- One line of `readEnvFile` in the configuration. -/
def readLine (values : Values) (line : List Char) : Values :=
  if line = [] ∨ line.head? = some '#' then values
  else
    match Text.splitFirst '=' line with
    | none => values
    | some (key, value) =>
      -- `separator == 0` is an empty key.
      if key = [] then values else values.insert (String.ofList key) (String.ofList value)

/-- `readEnvFile` of the configuration, on the text of the file. -/
def readEnvFile (text : String) : Values :=
  (Text.getlines text.toList).foldl readLine fun _ => none

end AppConfig

namespace Env

/-- One line of `readEnvFile` in the helper. -/
def readLine (values : Values) (line : List Char) : Values :=
  match Text.splitFirst '=' line with
  | none => values
  | some (key, value) => values.insert (String.ofList key) (String.ofList value)

/-- `readEnvFile` of the helper, on the text of the file. -/
def readEnvFile (text : String) : Values :=
  (Text.getlines text.toList).foldl readLine fun _ => none

/-- `getEnvVariable`. -/
def getEnvVariable (name : String) (values : Values) : String := (values name).getD ""

/-- `getEnv`, which looks up the same key whatever it is asked for. -/
def getEnv (envText : String) (_name : String) : String :=
  getEnvVariable "SECRET_KEY" (readEnvFile envText)

end Env

/-- A key that both readers can store: it is not empty and does not start with
the comment sign. -/
def PlainKey (key : String) : Prop := key.toList ≠ [] ∧ key.toList.head? ≠ some '#'

instance (key : String) : Decidable (PlainKey key) :=
  inferInstanceAs (Decidable (key.toList ≠ [] ∧ key.toList.head? ≠ some '#'))

/-- A line does the same to a plain key in both readers. -/
theorem readLine_agree {key : String} (hkey : PlainKey key) {values values' : Values}
    (hsame : values key = values' key) (line : List Char) :
    AppConfig.readLine values line key = Env.readLine values' line key := by
  unfold AppConfig.readLine Env.readLine
  cases hsplit : Text.splitFirst '=' line with
  | none =>
    show (if _ then values else values) key = values' key
    rw [ite_self, hsame]
  | some pair =>
    obtain ⟨name, value⟩ := pair
    show (if _ then values else if name = [] then values else _) key =
      values'.insert (String.ofList name) (String.ofList value) key
    by_cases hname : String.ofList name = key
    · -- The key of the line is plain, so neither test of the first reader skips it.
      have hchars : key.toList = name := by rw [← hname, String.toList_ofList]
      obtain ⟨hnonempty, hsign⟩ := hkey
      rw [hchars] at hnonempty hsign
      have hhead := Text.head?_of_splitFirst hsplit hnonempty
      have hread : ¬ (line = [] ∨ line.head? = some '#') := by
        intro hskip
        rcases hskip with hempty | hcomment
        · rw [hempty] at hhead
          exact hnonempty (List.head?_eq_none_iff.1 hhead)
        · exact hsign (hhead.trans hcomment)
      rw [if_neg hread, if_neg hnonempty, hname, Values.insert_self, Values.insert_self]
    · rw [Values.insert_of_ne (Ne.symm hname)]
      split
      · exact hsame
      · split
        · exact hsame
        · rw [Values.insert_of_ne (Ne.symm hname)]
          exact hsame

/-- The two readers give every plain key the same value. -/
theorem readEnvFile_agree {key : String} (hkey : PlainKey key) (text : String) :
    AppConfig.readEnvFile text key = Env.readEnvFile text key := by
  have hlines : ∀ (lines : List (List Char)) (values values' : Values),
      values key = values' key →
        lines.foldl AppConfig.readLine values key = lines.foldl Env.readLine values' key := by
    intro lines
    induction lines with
    | nil =>
      intro values values' hsame
      exact hsame
    | cons line lines ih =>
      intro values values' hsame
      rw [List.foldl_cons, List.foldl_cons]
      exact ih _ _ (readLine_agree hkey hsame line)
  exact hlines _ _ _ rfl

/-- They differ on a key that is commented out. -/
example :
    AppConfig.readEnvFile "#SECRET_KEY=old" "#SECRET_KEY" = none ∧
      Env.readEnvFile "#SECRET_KEY=old" "#SECRET_KEY" = some "old" := by decide

end DrogonStarter
