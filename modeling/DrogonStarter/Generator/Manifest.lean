import DrogonStarter.Generator.ProjectInit
import Mathlib.Data.List.DropRight

/-!
# The manifest of a generated project

`.drogon-starter.json` is one line with the profile and the name of the project.  `init` makes
it from the template with the same substitutions as every other file, and `enable` reads it
with `sed`, which prints what stands between the quotes after the last occurrence of a key.

* `readKey` is that command, and `readKey_manifest` says that it reads back what is written.
* `ProjectName.recorded` is the name that the substitutions leave in the manifest.
  `recorded_eq_iff` says when it is the name that was given to `init`.
-/

namespace DrogonStarter.Generator

open Substitution

/-! ## Reading a key -/

/-- `[[:space:]]`, within a line. -/
def isSpace (c : Char) : Bool :=
  c == ' ' || c == '\t' || c == '\x0b' || c == '\x0c' || c == '\r'

/-- What follows a text that must come first. -/
def rest (front text : List Char) : Option (List Char) :=
  if front.isPrefixOf text then some (text.drop front.length) else none

/-- `"key"[[:space:]]*:[[:space:]]*"\([^"]*\)"` at the beginning of a text. -/
def valueAt (key text : List Char) : Option (List Char) := do
  let afterKey ← rest ('"' :: key ++ ['"']) text
  let afterColon ← rest [':'] (afterKey.dropWhile isSpace)
  let value ← rest ['"'] (afterColon.dropWhile isSpace)
  if '"' ∈ value then some (value.takeWhile (· ≠ '"')) else none

/-- The value of the last occurrence in a line, which is the one that `.*` leaves. -/
def lastValue (key : List Char) : List Char → Option (List Char)
  | [] => none
  | c :: line => (lastValue key line).or (valueAt key (c :: line))

/-- `$(sed -n 's/.*"key"[[:space:]]*:[[:space:]]*"\([^"]*\)".*/\1/p' file)`. -/
def readKey (key text : List Char) : List Char :=
  List.rdropWhile (· = '\n')
    (['\n'].intercalate ((text.splitOn '\n').filterMap (lastValue key)))

def profileKey : List Char := "profile".toList

def nameKey : List Char := "project_name".toList

/-- The profiles that `init` accepts. -/
inductive Profile where
  | minimal
  | userService
deriving DecidableEq

def Profile.text : Profile → List Char
  | .minimal => "minimal".toList
  | .userService => "user-service".toList

/-- The line of a manifest. -/
def manifestLine (profile name : List Char) : List Char :=
  '\x7b' :: '"' :: profileKey ++ '"' :: ':' :: '"' :: profile ++ '"' :: ',' :: '"' :: nameKey ++
    '"' :: ':' :: '"' :: name ++ ['"', '\x7d']

def manifest (profile name : List Char) : List Char := manifestLine profile name ++ ['\n']

section values

variable {key : List Char}

theorem lastValue_cons_of_ne {c : Char} (hc : c ≠ '"') (line : List Char) :
    lastValue key (c :: line) = lastValue key line := by
  have hnone : valueAt key (c :: line) = none := by
    have hfront : rest ('"' :: key ++ ['"']) (c :: line) = none := by
      simp [rest, List.isPrefixOf, hc.symm]
    simp only [valueAt, hfront, Option.bind_eq_bind, Option.bind_none]
  rw [lastValue, hnone, Option.or_none]

/-- No occurrence begins in a text without quotes. -/
theorem lastValue_append {before : List Char} (hbefore : '"' ∉ before) (line : List Char) :
    lastValue key (before ++ line) = lastValue key line := by
  induction before with
  | nil => rfl
  | cons c before ih =>
    have hc : c ≠ '"' := fun heq => hbefore (heq ▸ List.mem_cons_self)
    rw [List.cons_append, lastValue_cons_of_ne hc]
    exact ih fun hmem => hbefore (List.mem_cons_of_mem c hmem)

theorem rest_append (front text : List Char) : rest front (front ++ text) = some text := by
  simp [rest]

/-- Two texts between quotes are the same when one of them begins what the other begins. -/
theorem eq_of_quoted {x line : List Char} (hkey : '"' ∉ key) (hx : '"' ∉ x)
    (h : (key ++ ['"']) <+: x ++ '"' :: line) : key = x := by
  obtain ⟨after, hafter⟩ := h
  rw [List.append_assoc] at hafter
  exact (CppNumber.append_cons_inj hkey hx hafter).1

/-- Another text between the quotes. -/
theorem valueAt_of_ne {x line : List Char} (hkey : '"' ∉ key) (hx : '"' ∉ x) (hne : key ≠ x) :
    valueAt key ('"' :: (x ++ '"' :: line)) = none := by
  have hfront : rest ('"' :: key ++ ['"']) ('"' :: (x ++ '"' :: line)) = none := by
    refine if_neg fun hstarts => ?_
    rw [List.isPrefixOf_iff_prefix, List.cons_append, List.cons_prefix_cons] at hstarts
    exact hne (eq_of_quoted hkey hx hstarts.2)
  simp only [valueAt, hfront, Option.bind_eq_bind, Option.bind_none]

/-- The closing quote is not followed by a colon. -/
theorem valueAt_of_not_colon {x line : List Char} {c : Char} (hkey : '"' ∉ key) (hx : '"' ∉ x)
    (hcolon : c ≠ ':') (hspace : isSpace c = false) :
    valueAt key ('"' :: (x ++ '"' :: c :: line)) = none := by
  by_cases hne : key = x
  · subst hne
    have hafter : rest ('"' :: key ++ ['"']) ('"' :: (key ++ '"' :: c :: line)) =
        some (c :: line) := by
      have h := rest_append ('"' :: key ++ ['"']) (c :: line)
      simpa using h
    have hnext : rest [':'] (List.dropWhile isSpace (c :: line)) = none := by
      rw [List.dropWhile_cons_of_neg (by rw [hspace]; exact Bool.false_ne_true)]
      simp [rest, List.isPrefixOf, hcolon.symm]
    simp only [valueAt, hafter, hnext, Option.bind_eq_bind, Option.bind_some, Option.bind_none]
  · exact valueAt_of_ne hkey hx hne

/-- The value of the key. -/
theorem valueAt_key {value line : List Char} (hvalue : '"' ∉ value) :
    valueAt key ('"' :: (key ++ '"' :: ':' :: '"' :: (value ++ '"' :: line))) = some value := by
  have hafter : rest ('"' :: key ++ ['"'])
      ('"' :: (key ++ '"' :: ':' :: '"' :: (value ++ '"' :: line))) =
        some (':' :: '"' :: (value ++ '"' :: line)) := by
    have h := rest_append ('"' :: key ++ ['"']) (':' :: '"' :: (value ++ '"' :: line))
    simpa using h
  have hcolon : rest [':'] (List.dropWhile isSpace (':' :: '"' :: (value ++ '"' :: line))) =
      some ('"' :: (value ++ '"' :: line)) := rfl
  have hquote : rest ['"'] (List.dropWhile isSpace ('"' :: (value ++ '"' :: line))) =
      some (value ++ '"' :: line) := rfl
  have htake : (value ++ '"' :: line).takeWhile (· ≠ '"') = value := by
    have hall : ∀ c ∈ value, decide (c ≠ '"') = true := by
      intro c hc
      exact decide_eq_true fun heq => hvalue (heq ▸ hc)
    rw [List.takeWhile_append_of_pos hall, List.takeWhile_cons_of_neg (by simp), List.append_nil]
  simp only [valueAt, hafter, hcolon, hquote, Option.bind_eq_bind, Option.bind_some]
  rw [if_pos (List.mem_append_right value List.mem_cons_self), htake]

end values

section reading

variable {profile name : List Char}

/-- No key is a separator between two quotes. -/
theorem valueAt_separator {key : List Char} (hkey : key = profileKey ∨ key = nameKey) {c : Char}
    (hc : c = ',' ∨ c = ':') (line : List Char) : valueAt key ('"' :: c :: '"' :: line) = none := by
  refine valueAt_of_ne (x := [c]) ?_ ?_ ?_
  · rcases hkey with rfl | rfl <;> decide
  · rcases hc with rfl | rfl <;> decide
  · rcases hkey with rfl | rfl <;> rcases hc with rfl | rfl <;> decide

/-- Behind the last key there is no other. -/
theorem lastValue_end {key : List Char} (hkey : key = profileKey ∨ key = nameKey)
    (hname : '"' ∉ name) :
    lastValue key ('"' :: ':' :: '"' :: (name ++ ['"', '\x7d'])) = none := by
  have hplain : '"' ∉ key := by rcases hkey with rfl | rfl <;> decide
  have hend : lastValue key ['"', '\x7d'] = none := by rcases hkey with rfl | rfl <;> rfl
  have hlast : lastValue key (':' :: '"' :: (name ++ ['"', '\x7d'])) = none := by
    rw [lastValue_cons_of_ne (by decide), lastValue, lastValue_append hname, hend,
      valueAt_of_not_colon hplain hname (by decide) rfl]
    rfl
  rw [lastValue, hlast]
  exact valueAt_separator hkey (Or.inr rfl) _

/-- From the comma on, a key is read at the name only. -/
theorem lastValue_tail {key : List Char} (hkey : key = profileKey ∨ key = nameKey)
    (hname : '"' ∉ name) :
    lastValue key
        ('"' :: ',' :: '"' :: (nameKey ++ '"' :: ':' :: '"' :: (name ++ ['"', '\x7d']))) =
      valueAt key ('"' :: (nameKey ++ '"' :: ':' :: '"' :: (name ++ ['"', '\x7d']))) := by
  rw [lastValue, valueAt_separator hkey (Or.inl rfl), Option.or_none,
    lastValue_cons_of_ne (by decide), lastValue, lastValue_append (by decide),
    lastValue_end hkey hname, Option.none_or]

/-- In the whole line a key is read at the name, or else at the profile. -/
theorem lastValue_head {key : List Char} (hkey : key = profileKey ∨ key = nameKey)
    (hprofile : '"' ∉ profile) (hname : '"' ∉ name) :
    lastValue key (manifestLine profile name) =
      (valueAt key ('"' :: (nameKey ++ '"' :: ':' :: '"' :: (name ++ ['"', '\x7d'])))).or
        (valueAt key ('"' :: (profileKey ++ '"' :: ':' :: '"' :: (profile ++ '"' :: ',' ::
          '"' :: (nameKey ++ '"' :: ':' :: '"' :: (name ++ ['"', '\x7d'])))))) := by
  have hplain : '"' ∉ key := by rcases hkey with rfl | rfl <;> decide
  have hline : manifestLine profile name = '\x7b' :: '"' :: (profileKey ++ '"' :: ':' :: '"' ::
      (profile ++ '"' :: ',' :: '"' ::
        (nameKey ++ '"' :: ':' :: '"' :: (name ++ ['"', '\x7d'])))) := by
    simp [manifestLine]
  rw [hline, lastValue_cons_of_ne (by decide), lastValue, lastValue_append (by decide),
    lastValue, valueAt_separator hkey (Or.inr rfl), Option.or_none,
    lastValue_cons_of_ne (by decide), lastValue,
    valueAt_of_not_colon hplain hprofile (by decide) rfl, Option.or_none,
    lastValue_append hprofile, lastValue_tail hkey hname]

/-- A key is read behind the colons and commas of the line, whatever the two values are. -/
theorem lastValue_manifestLine (hprofile : '"' ∉ profile) (hname : '"' ∉ name) :
    lastValue profileKey (manifestLine profile name) = some profile ∧
      lastValue nameKey (manifestLine profile name) = some name := by
  constructor
  · have hnone : valueAt profileKey
        ('"' :: (nameKey ++ '"' :: ':' :: '"' :: (name ++ ['"', '\x7d']))) = none :=
      valueAt_of_ne (by decide) (by decide) (by decide)
    rw [lastValue_head (Or.inl rfl) hprofile hname, hnone, Option.none_or, valueAt_key hprofile]
  · have hvalue : valueAt nameKey
        ('"' :: (nameKey ++ '"' :: ':' :: '"' :: (name ++ ['"', '\x7d']))) = some name :=
      valueAt_key hname
    rw [lastValue_head (Or.inr rfl) hprofile hname, hvalue]
    rfl

theorem splitOn_line {line : List Char} (hline : '\n' ∉ line) :
    (line ++ ['\n']).splitOn '\n' = [line, []] := by
  have hlines : ∀ l ∈ [line, []], '\n' ∉ l := by simp [hline]
  have hsplit := List.splitOn_intercalate '\n' hlines (List.cons_ne_nil _ _)
  rwa [List.intercalate_cons_cons, List.intercalate_singleton, List.append_nil] at hsplit

/-- A line on its own. -/
theorem readKey_of_lastValue {key line value : List Char} (hline : '\n' ∉ line)
    (hvalue : '\n' ∉ value) (h : lastValue key line = some value) :
    readKey key (line ++ ['\n']) = value := by
  have hempty : List.filterMap (lastValue key) [[]] = [] := rfl
  have hlast : ∀ hne : value ≠ [], ¬ (decide (value.getLast hne = '\n') = true) := by
    intro hne hlast
    exact hvalue (of_decide_eq_true hlast ▸ List.getLast_mem hne)
  unfold readKey
  rw [splitOn_line hline, List.filterMap_cons_some h, hempty, List.intercalate_singleton]
  exact List.rdropWhile_eq_self_iff.2 hlast

theorem newline_not_mem_manifestLine (hprofile : '\n' ∉ profile) (hname : '\n' ∉ name) :
    '\n' ∉ manifestLine profile name := by
  have hprofileKey : '\n' ∉ profileKey := by decide
  have hnameKey : '\n' ∉ nameKey := by decide
  have hends : '\n' ∉ ['"', '\x7d'] := by decide
  have hmarks : '\n' ≠ '"' ∧ '\n' ≠ ':' ∧ '\n' ≠ ',' ∧ '\n' ≠ '\x7b' := by decide
  simp only [manifestLine, List.cons_append, List.append_assoc, List.mem_cons, List.mem_append,
    not_or]
  simp only [List.mem_cons, not_or] at hends
  simp only [hmarks, hprofileKey, hnameKey, hprofile, hname, hends, not_false_eq_true,
    and_self]

/-- What a manifest says is read back. -/
theorem readKey_manifest (hprofile : '"' ∉ profile ∧ '\n' ∉ profile)
    (hname : '"' ∉ name ∧ '\n' ∉ name) :
    readKey profileKey (manifest profile name) = profile ∧
      readKey nameKey (manifest profile name) = name := by
  have hline := newline_not_mem_manifestLine hprofile.2 hname.2
  obtain ⟨hread, hread'⟩ := lastValue_manifestLine hprofile.1 hname.1
  exact ⟨readKey_of_lastValue hline hprofile.2 hread, readKey_of_lastValue hline hname.2 hread'⟩

end reading

/-! ## The name in a manifest -/

/-- The name of the project in the manifest: the last expression looks for the name of the
service in the name that the third one has put there. -/
def ProjectName.recorded (name : ProjectName) : ProjectName where
  characters := substitute [serviceRule name] name.characters
  nonempty := by
    refine substitute_ne_nil (fun rule hrule => ?_) name.nonempty
    rw [List.mem_singleton.1 hrule]
    exact name.nonempty
  admitted := by
    refine List.all_eq_true.2 fun c hc => ?_
    have hcharacters : c ∈ name.characters := by
      rcases mem_substitute hc with hmem | ⟨rule, hrule, hput⟩
      · exact hmem
      · rw [List.mem_singleton.1 hrule] at hput
        exact hput
    exact List.all_eq_true.1 name.admitted c hcharacters

@[ext] theorem ProjectName.ext {name other : ProjectName}
    (h : name.characters = other.characters) : name = other := by
  cases name
  cases other
  cases h
  rfl

/-- A name is written down as it is, unless the name of the service is a part of it. -/
theorem ProjectName.recorded_eq_iff (name : ProjectName) :
    name.recorded = name ↔ name.characters = serviceName ∨ ¬ serviceName <:+: name.characters := by
  have hcharacters : name.recorded = name ↔
      substitute [serviceRule name] name.characters = name.characters :=
    ⟨fun h => congrArg ProjectName.characters h, fun h => ProjectName.ext h⟩
  rw [hcharacters]
  constructor
  · intro hsame
    by_contra hneither
    obtain ⟨hname, hinside⟩ := not_or.1 hneither
    have hpattern : (serviceRule name).pattern <:+: name.characters := not_not.1 hinside
    exact substitute_singleton_ne hname hpattern hsame
  · rintro (hname | hinside)
    · exact substitute_singleton_of_unchanged hname _
    · refine substitute_eq_self fun rule hrule => ?_
      rw [List.mem_singleton.1 hrule]
      exact hinside

/-- A name that is not written down as it is does not become one that is. -/
theorem ProjectName.recorded_recorded_eq_iff (name : ProjectName) :
    name.recorded.recorded = name.recorded ↔ name.recorded = name := by
  constructor
  · intro hsame
    by_contra hchanged
    obtain ⟨hname, hinside⟩ := not_or.1 fun h => hchanged (name.recorded_eq_iff.2 h)
    have hpattern : (serviceRule name).pattern <:+: name.characters := not_not.1 hinside
    have hput : name.characters <:+: name.recorded.characters :=
      infix_substitute_singleton hpattern
    rcases name.recorded.recorded_eq_iff.1 hsame with hservice | hout
    · refine hname (hpattern.eq_of_length ?_).symm
      rw [hservice] at hput
      exact le_antisymm hpattern.length_le hput.length_le
    · exact hout (hpattern.trans hput)
  · intro hsame
    rw [hsame, hsame]

/-- What stands before the name in a manifest. -/
def manifestFront (profile : List Char) : List Char :=
  '\x7b' :: '"' :: profileKey ++ '"' :: ':' :: '"' :: profile ++ '"' :: ',' :: '"' :: nameKey ++
    ['"', ':', '"']

theorem manifest_eq (profile name : List Char) :
    manifest profile name = manifestFront profile ++ (name ++ ['"', '\x7d', '\n']) := by
  simp [manifest, manifestLine, manifestFront]

/-- The manifest that `init` makes from the one of the template or of the repository. -/
theorem generate_manifest (name : ProjectName) (profile : Profile) :
    generate name (manifest profile.text placeholder) =
      manifest profile.text name.recorded.characters := by
  have hwithout : 'd' ∉ manifest profile.text placeholder := by cases profile <;> decide
  have hat : ¬ BeginsIn placeholder (manifestFront profile.text) := by cases profile <;> decide
  have hservice : ¬ BeginsIn serviceName (manifestFront profile.text) := by
    cases profile <;> decide
  have hmodel : substitute [modelRule name] (manifest profile.text placeholder) =
      manifest profile.text placeholder :=
    substitute_singleton_of_not_mem (by decide : 'd' ∈ modelPattern) hwithout
  have hnamespace : substitute [namespaceRule name] (manifest profile.text placeholder) =
      manifest profile.text placeholder :=
    substitute_singleton_of_not_mem (by decide : 'd' ∈ namespacePattern) hwithout
  have hplaceholder : substitute [placeholderRule name] (manifest profile.text placeholder) =
      manifest profile.text name.characters := by
    have hput := substitute_singleton_pattern_append (placeholderRule name) ['"', '\x7d', '\n']
    have hend : substitute [placeholderRule name] ['"', '\x7d', '\n'] = ['"', '\x7d', '\n'] :=
      substitute_singleton_of_not_mem (by decide : '@' ∈ placeholder) (by decide)
    rw [hend] at hput
    rw [manifest_eq, manifest_eq, substitute_singleton_append hat]
    exact congrArg (manifestFront profile.text ++ ·) hput
  have hrecorded : substitute [serviceRule name] (manifest profile.text name.characters) =
      manifest profile.text name.recorded.characters := by
    have hquote : ∀ rule ∈ [serviceRule name], '"' ∉ rule.pattern := by
      intro rule hrule
      rw [List.mem_singleton.1 hrule]
      exact (by decide : '"' ∉ serviceName)
    have hend : substitute [serviceRule name] ['\x7d', '\n'] = ['\x7d', '\n'] :=
      substitute_singleton_of_not_mem (by decide : 'd' ∈ serviceName) (by decide)
    rw [manifest_eq, manifest_eq, substitute_singleton_append hservice,
      substitute_append_separator hquote, hend]
    rfl
  rw [generate_eq]
  unfold sed expressions
  simp only [List.foldl_cons, List.foldl_nil, hmodel, hnamespace, hplaceholder, hrecorded]

end DrogonStarter.Generator
