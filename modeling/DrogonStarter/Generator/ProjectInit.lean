import DrogonStarter.Lib.Substitution
import DrogonStarter.Lib.Decimal

/-!
# The names of a generated project

`drogon-starter init` copies the template and lets `sed` put the name of the project in the
place of four texts, one after another, in every line of every file.

* `sed` is one line, and `generate` a file.  `generate_eq` says that the lines do not matter.
* `renamed` is what should come out: every text in its place, all at once.
* `generate_of_undisturbing` says for which files the two are the same, `generate_eq_iff` for
  exactly which of the files in which the second expression is not disturbed, and `renames_iff`
  for which names they are the same for every file.
-/

namespace DrogonStarter.Generator

open Substitution

/-- `[a-zA-Z0-9_-]`. -/
def nameCharacter (c : Char) : Bool := c.isAlphanum || c == '_' || c == '-'

/-- A name that `init` does not refuse. -/
structure ProjectName where
  characters : List Char
  nonempty : characters ≠ []
  admitted : characters.all nameCharacter = true

/-- `namespace_name`: the name with an underscore for every hyphen. -/
def ProjectName.namespaceName (name : ProjectName) : List Char :=
  name.characters.map fun c => if c = '-' then '_' else c

/-- The name of the service in the template, and the patterns it stands in. -/
def serviceName : List Char := "drogon_user_service".toList

def modelPattern : List Char := "drogon_model::drogon_user_service".toList

def namespacePattern : List Char := "namespace drogon_user_service".toList

def placeholder : List Char := "@PROJECT_NAME@".toList

/-- What is put before the name of the namespace. -/
def modelPrefix : List Char := "drogon_model::".toList

def namespacePrefix : List Char := "namespace ".toList

/-- `s/drogon_model::drogon_user_service/drogon_model::$namespace_name/g`. -/
def modelRule (name : ProjectName) : Rule Char where
  pattern := modelPattern
  substitute := modelPrefix ++ name.namespaceName
  pattern_ne := by decide

/-- `s/namespace drogon_user_service/namespace $namespace_name/g`. -/
def namespaceRule (name : ProjectName) : Rule Char where
  pattern := namespacePattern
  substitute := namespacePrefix ++ name.namespaceName
  pattern_ne := by decide

/-- `s/@PROJECT_NAME@/$project_name/g`. -/
def placeholderRule (name : ProjectName) : Rule Char where
  pattern := placeholder
  substitute := name.characters
  pattern_ne := by decide

/-- `s/drogon_user_service/$project_name/g`. -/
def serviceRule (name : ProjectName) : Rule Char where
  pattern := serviceName
  substitute := name.characters
  pattern_ne := by decide

/-- The expressions of the command, in their order. -/
def expressions (name : ProjectName) : List (Rule Char) :=
  [modelRule name, namespaceRule name, placeholderRule name, serviceRule name]

/-- What `sed` makes of a line. -/
def sed (name : ProjectName) (line : List Char) : List Char :=
  (expressions name).foldl (fun line rule => substitute [rule] line) line

/-- What `sed` makes of a file. -/
def generate (name : ProjectName) (text : List Char) : List Char :=
  ['\n'].intercalate ((text.splitOn '\n').map (sed name))

/-- The file with every occurrence in it replaced once. -/
def renamed (name : ProjectName) (text : List Char) : List Char :=
  substitute (expressions name) text

/-- Every file comes out as it should. -/
def Renames (name : ProjectName) : Prop := ∀ text, generate name text = renamed name text

/-- The name of the service cannot begin or end in what is put into a text, and what is put
into a text cannot be a part of it.  When the two forms of the name differ, the word
`namespace` cannot begin at the end of one of them. -/
structure Separate (name : ProjectName) : Prop where
  namespaceName : ¬ BeginsIn serviceName name.namespaceName
  characters : Apart serviceName name.characters
  hyphen : '-' ∈ name.characters → ¬ BeginsIn namespacePattern name.namespaceName

/-! ## Lines -/

variable {name : ProjectName}

theorem mem_patterns {rule : Rule Char} {rules : List (Rule Char)} (hrule : rule ∈ rules) :
    rule.pattern ∈ rules.map Rule.pattern := List.mem_map_of_mem hrule

/-- No pattern has a newline. -/
theorem newline_not_mem (rule : Rule Char) (hrule : rule ∈ expressions name) :
    '\n' ∉ rule.pattern := by
  have hpatterns : ∀ pattern ∈ [modelPattern, namespacePattern, placeholder, serviceName],
      '\n' ∉ pattern := by decide
  exact hpatterns rule.pattern (mem_patterns hrule)

theorem sed_append_newline (line rest : List Char) :
    sed name (line ++ '\n' :: rest) = sed name line ++ '\n' :: sed name rest := by
  unfold sed
  have hnewline : ∀ rule ∈ expressions name, '\n' ∉ rule.pattern := newline_not_mem
  generalize expressions name = rules at hnewline
  induction rules generalizing line rest with
  | nil => rfl
  | cons rule rules ih =>
    have hrule : ∀ single ∈ [rule], '\n' ∉ single.pattern := by
      simpa using hnewline rule List.mem_cons_self
    rw [List.foldl_cons, substitute_append_separator hrule]
    exact ih _ _ fun other hother => hnewline other (List.mem_cons_of_mem _ hother)

/-- It is all the same whether `sed` sees the lines or the whole file. -/
theorem generate_eq (text : List Char) : generate name text = sed name text := by
  have hlines : ∀ lines : List (List Char), lines ≠ [] →
      ['\n'].intercalate (lines.map (sed name)) = sed name (['\n'].intercalate lines) := by
    intro lines
    induction lines with
    | nil => exact fun hne => absurd rfl hne
    | cons line lines ih =>
      intro _
      cases lines with
      | nil => simp
      | cons next lines =>
        have hrest := ih (List.cons_ne_nil next lines)
        rw [List.map_cons, List.map_cons, List.intercalate_cons_cons, List.intercalate_cons_cons,
          ← List.map_cons, hrest]
        simp only [List.append_assoc, List.singleton_append, sed_append_newline]
  unfold generate
  rw [hlines _ (List.splitOn_ne_nil _ _), List.intercalate_splitOn]

/-! ## Names and files -/

theorem nodup_expressions (name : ProjectName) : (expressions name).Nodup := by
  have hpatterns : ((expressions name).map Rule.pattern).Nodup := by
    change [modelPattern, namespacePattern, placeholder, serviceName].Nodup
    decide
  exact hpatterns.of_map _

/-- A file comes out as it should when no expression finds a text that the ones before it have
put there, alone or with what stands around it. -/
theorem generate_of_undisturbing {text : List Char}
    (h : Undisturbing (pieces (expressions name) 0 text) [] (expressions name)) :
    generate name text = renamed name text :=
  (generate_eq text).trans (foldl_substitute_of_undisturbing (nodup_expressions name) h)

/-- The name of the service begins as `backend` ends, but not in such a file. -/
example : generate ⟨"backend".toList, by decide, by decide⟩
      "project(@PROJECT_NAME@ CXX)\nnamespace drogon_user_service\n\x7b".toList =
    renamed ⟨"backend".toList, by decide, by decide⟩
      "project(@PROJECT_NAME@ CXX)\nnamespace drogon_user_service\n\x7b".toList :=
  generate_of_undisturbing (by decide +kernel)

/-! ## The characters of a name -/

theorem not_mem_characters {c : Char} (hc : nameCharacter c = false) : c ∉ name.characters := by
  intro hmem
  have hadmitted := List.all_eq_true.1 name.admitted c hmem
  rw [hc] at hadmitted
  cases hadmitted

theorem not_mem_namespaceName {c : Char} (hc : nameCharacter c = false) :
    c ∉ name.namespaceName := by
  intro hmem
  obtain ⟨d, hd, hvalue⟩ := List.mem_map.1 hmem
  by_cases hhyphen : d = '-'
  · rw [if_pos hhyphen] at hvalue
    rw [← hvalue] at hc
    exact absurd hc (by decide)
  · rw [if_neg hhyphen] at hvalue
    exact not_mem_characters hc (hvalue ▸ hd)

/-- The two forms of a name are the same when it has no hyphen. -/
theorem namespaceName_eq_iff :
    name.namespaceName = name.characters ↔ '-' ∉ name.characters := by
  unfold ProjectName.namespaceName
  constructor
  · intro hsame hmem
    rw [← hsame] at hmem
    obtain ⟨d, _, hvalue⟩ := List.mem_map.1 hmem
    by_cases hhyphen : d = '-'
    · rw [if_pos hhyphen] at hvalue
      cases hvalue
    · exact hhyphen ((if_neg hhyphen).symm.trans hvalue)
  · intro hnone
    refine (List.map_congr_left fun c hc => ?_).trans (List.map_id _)
    refine if_neg fun hhyphen => hnone ?_
    rw [← hhyphen]
    exact hc

/-! ## Names for which every file comes out right -/

/-- What is put after a prefix is apart from a pattern when the name of the namespace is. -/
theorem apart_append {a : Char} {front before : List Char} (pattern : List Char)
    (hfront : front = before ++ [a]) (ha : a ∉ pattern)
    (hlong : before.length < pattern.length) (hruns : ¬ RunsInto pattern front)
    (h : ¬ BeginsIn pattern name.namespaceName) :
    Apart pattern (front ++ name.namespaceName) := by
  refine ⟨fun hbegins => h ?_, fun hinto => hruns (runsInto_of_append hinto)⟩
  rw [hfront, List.append_assoc] at hbegins
  exact beginsIn_of_append ha hlong hbegins

/-- The placeholder is apart from what has no at sign. -/
theorem apart_placeholder {front : List Char} (hat : '@' ∉ front)
    (hruns : ¬ RunsInto placeholder front) : Apart placeholder (front ++ name.namespaceName) := by
  refine ⟨not_beginsIn_of_not_mem ?_, fun hinto => hruns (runsInto_of_append hinto)⟩
  rw [List.mem_append, not_or]
  exact ⟨hat, not_mem_namespaceName (by decide)⟩

theorem modelPrefix_eq : modelPrefix = "drogon_model:".toList ++ [':'] := by decide

theorem namespacePrefix_eq : namespacePrefix = "namespace".toList ++ [' '] := by decide

theorem precedes_placeholderRule :
    Precedes (modelRule name) (placeholderRule name) ∧
      Precedes (namespaceRule name) (placeholderRule name) := by
  refine ⟨⟨apart_placeholder (by decide) (by decide), ?_⟩,
    ⟨apart_placeholder (by decide) (by decide), ?_⟩⟩
  · change ¬ BeginsIn modelPattern placeholder
    decide
  · change ¬ BeginsIn namespacePattern placeholder
    decide

namespace Separate

variable (h : Separate name)

include h

/-- Whatever is inserted is apart from the name of the service. -/
theorem precedes_serviceRule :
    Precedes (modelRule name) (serviceRule name) ∧
      Precedes (namespaceRule name) (serviceRule name) ∧
        Precedes (placeholderRule name) (serviceRule name) := by
  have hmodel := apart_append serviceName modelPrefix_eq (by decide) (by decide) (by decide)
    h.namespaceName
  have hnamespace := apart_append serviceName namespacePrefix_eq (by decide) (by decide)
    (by decide) h.namespaceName
  refine ⟨⟨hmodel, ?_⟩, ⟨hnamespace, ?_⟩, ⟨h.characters, ?_⟩⟩
  · change ¬ BeginsIn modelPattern serviceName
    decide
  · change ¬ BeginsIn namespacePattern serviceName
    decide
  · change ¬ BeginsIn placeholder serviceName
    decide

theorem compatible_without_namespace :
    Compatible [modelRule name, placeholderRule name, serviceRule name] := by
  simp [Compatible, precedes_placeholderRule, h.precedes_serviceRule]

theorem compatible_without_model :
    Compatible [namespaceRule name, placeholderRule name, serviceRule name] := by
  simp [Compatible, precedes_placeholderRule, h.precedes_serviceRule]

theorem compatible_expressions (hhyphen : ¬ BeginsIn namespacePattern name.namespaceName) :
    Compatible (expressions name) := by
  have hfirst : Precedes (modelRule name) (namespaceRule name) := by
    refine ⟨apart_append namespacePattern modelPrefix_eq (by decide) (by decide) (by decide)
      hhyphen, ?_⟩
    change ¬ BeginsIn modelPattern namespacePattern
    decide
  simp [Compatible, expressions, hfirst, precedes_placeholderRule, h.precedes_serviceRule]

end Separate

/-- When the two forms of the name are the same, the second expression does what the last one
does after the word `namespace`. -/
theorem substitute_without_namespace (hsame : name.namespaceName = name.characters)
    (before : List (Rule Char)) (hbefore : before = [] ∨ before = [modelRule name])
    (text : List Char) :
    substitute (before ++ [namespaceRule name, placeholderRule name, serviceRule name]) text =
      substitute (before ++ [placeholderRule name, serviceRule name]) text := by
  refine substitute_of_redundant (fun rest => ?_) text
  have hpattern : (namespaceRule name).pattern ++ rest =
      namespacePrefix ++ ((serviceRule name).pattern ++ rest) := by
    have hparts : namespacePattern = namespacePrefix ++ serviceName := by decide
    exact (congrArg (· ++ rest) hparts).trans (List.append_assoc ..)
  have hbegins : ∀ rule ∈ before ++ [placeholderRule name, serviceRule name],
      ¬ BeginsIn rule.pattern namespacePrefix := by
    have hpatterns : ∀ pattern ∈ [modelPattern, placeholder, serviceName],
        ¬ BeginsIn pattern namespacePrefix := by decide
    intro rule hrule
    refine hpatterns rule.pattern ?_
    rcases hbefore with rfl | rfl
    · exact List.mem_cons_of_mem _ (mem_patterns hrule)
    · exact mem_patterns hrule
  have hmatching : matching (before ++ [placeholderRule name, serviceRule name])
      ((serviceRule name).pattern ++ rest) = some (serviceRule name) := by
    rcases hbefore with rfl | rfl <;> rfl
  rw [hpattern, substitute_append_of_not_beginsIn hbegins, substitute_pattern_append hmatching,
    ← List.append_assoc]
  exact congrArg (namespacePrefix ++ · ++ _) hsame.symm

/-- The expressions do one after another what they do at once. -/
theorem Separate.sed_eq (h : Separate name) (text : List Char) :
    sed name text = renamed name text := by
  by_cases hhyphen : '-' ∈ name.characters
  · exact foldl_substitute (h.compatible_expressions (h.hyphen hhyphen)) text
  · have hsame := namespaceName_eq_iff.2 hhyphen
    have hlater := foldl_substitute h.compatible_without_model (substitute [modelRule name] text)
    have hlast := foldl_substitute (List.Pairwise.of_cons h.compatible_without_model)
      (substitute [modelRule name] text)
    have hall := foldl_substitute h.compatible_without_namespace text
    rw [List.foldl_cons] at hall
    calc sed name text
      _ = [namespaceRule name, placeholderRule name, serviceRule name].foldl
            (fun line rule => substitute [rule] line) (substitute [modelRule name] text) :=
          List.foldl_cons ..
      _ = substitute [namespaceRule name, placeholderRule name, serviceRule name]
            (substitute [modelRule name] text) := hlater
      _ = substitute [placeholderRule name, serviceRule name]
            (substitute [modelRule name] text) :=
          substitute_without_namespace hsame [] (Or.inl rfl) _
      _ = substitute [modelRule name, placeholderRule name, serviceRule name] text :=
          hlast.symm.trans hall
      _ = renamed name text :=
          (substitute_without_namespace hsame [modelRule name] (Or.inr rfl) text).symm

/-- A project with the name of the template changes the placeholders only. -/
theorem sed_eq_of_serviceName (hname : name.characters = serviceName) (text : List Char) :
    sed name text = renamed name text := by
  have hsame : name.namespaceName = serviceName := by
    unfold ProjectName.namespaceName
    rw [hname]
    decide
  have hmodel : (modelRule name).substitute = (modelRule name).pattern := by
    change modelPrefix ++ name.namespaceName = modelPattern
    rw [hsame]
    decide
  have hnamespace : (namespaceRule name).substitute = (namespaceRule name).pattern := by
    change namespacePrefix ++ name.namespaceName = namespacePattern
    rw [hsame]
    decide
  have hservice : (serviceRule name).substitute = (serviceRule name).pattern := hname
  -- No pattern begins in one of the three texts that stay.
  have hpatterns : (∀ pattern ∈ [placeholder], ¬ BeginsIn pattern namespacePattern) ∧
      (∀ pattern ∈ [namespacePattern, placeholder], ¬ BeginsIn pattern modelPattern) ∧
      ∀ pattern ∈ [modelPattern, namespacePattern, placeholder],
        ¬ BeginsIn pattern serviceName := by decide
  obtain ⟨hbegins, hbegins', hbegins''⟩ := hpatterns
  calc sed name text
    _ = substitute [placeholderRule name] text := by
        unfold sed expressions
        simp only [List.foldl_cons, List.foldl_nil, substitute_singleton_of_unchanged hmodel,
          substitute_singleton_of_unchanged hnamespace,
          substitute_singleton_of_unchanged hservice]
    _ = substitute [namespaceRule name, placeholderRule name] text :=
        (substitute_of_unchanged [] [placeholderRule name] hnamespace
          (fun _ hrule => hbegins _ (mem_patterns hrule)) text).symm
    _ = substitute [modelRule name, namespaceRule name, placeholderRule name] text :=
        (substitute_of_unchanged [] [namespaceRule name, placeholderRule name] hmodel
          (fun _ hrule => hbegins' _ (mem_patterns hrule)) text).symm
    _ = renamed name text :=
        (substitute_of_unchanged [modelRule name, namespaceRule name, placeholderRule name] []
          hservice (fun _ hrule => hbegins'' _ (mem_patterns hrule)) text).symm

/-- The first and the third expression are disturbed in no file. -/
theorem undisturbing_of_namespaceRule {text : List Char}
    (h : Undisturbed (namespaceRule name)
      (pending [namespaceRule name, placeholderRule name, serviceRule name])
      (pieces (expressions name) 0 text)) :
    Undisturbing (pieces (expressions name) 0 text) [serviceRule name]
      [modelRule name, namespaceRule name, placeholderRule name] := by
  have hmodel : ∀ later ∈ [namespaceRule name, placeholderRule name, serviceRule name],
      ¬ BeginsIn (modelRule name).pattern later.pattern := by
    have hpatterns : ∀ pattern ∈ [namespacePattern, placeholder, serviceName],
        ¬ BeginsIn modelPattern pattern := by decide
    exact fun later hlater => hpatterns later.pattern (mem_patterns hlater)
  have hplaceholder : ∀ earlier ∈ [modelRule name, namespaceRule name],
      Precedes earlier (placeholderRule name) := by
    simp [precedes_placeholderRule]
  have hservice : ∀ later ∈ [serviceRule name],
      ¬ BeginsIn (placeholderRule name).pattern later.pattern := by
    have hpatterns : ∀ pattern ∈ [serviceName], ¬ BeginsIn placeholder pattern := by decide
    exact fun later hlater => hpatterns later.pattern (mem_patterns hlater)
  have hfirst := undisturbed_of_precedes (List.forall_mem_nil _) hmodel text
  exact ⟨hfirst, h, undisturbed_of_precedes hplaceholder hservice text, trivial⟩

/-- Where the second expression is not disturbed, a file comes out as it should exactly when the
last one is not. -/
theorem generate_eq_iff {text : List Char}
    (h : Undisturbed (namespaceRule name)
      (pending [namespaceRule name, placeholderRule name, serviceRule name])
      (pieces (expressions name) 0 text)) :
    generate name text = renamed name text ↔
      name.characters = serviceName ∨
        Undisturbed (serviceRule name) (pending [serviceRule name])
          (pieces (expressions name) 0 text) := by
  by_cases hname : name.characters = serviceName
  · exact iff_of_true ((generate_eq text).trans (sed_eq_of_serviceName hname text)) (Or.inl hname)
  · have hbefore := foldl_substitute_fill (nodup_expressions name) (undisturbing_of_namespaceRule h)
    have hstart : fill (pending ([modelRule name, namespaceRule name, placeholderRule name] ++
        [serviceRule name])) (pieces (expressions name) 0 text) = text :=
      fill_pending_self (expressions name) text
    rw [hstart] at hbefore
    have hothers : ∀ other, other ≠ serviceRule name →
        pending [] other = pending [serviceRule name] other := by
      intro other hother
      simp [pending, hother]
    have hlast := substitute_fill_iff (if_pos List.mem_cons_self) (if_neg List.not_mem_nil) hothers
      (by decide : ¬ RunsInto serviceName serviceName) hname (pieces (expressions name) 0 text)
    rw [or_iff_right hname, ← hlast, fill_pending_nil, ← hbefore, generate_eq]
    exact Iff.rfl

/-! ## Names for which some file does not -/

section Parts

variable {before after : List Char}

theorem not_mem_of_partOf {c : Char} (hc : c ∉ serviceName) (h : PartOf after serviceName) :
    c ∉ after := fun hmem => hc (h.1.subset hmem)

/-- The other patterns are not in a part of the name of the service. -/
theorem renamed_partOf (h : PartOf after serviceName) : renamed name after = after := by
  refine substitute_eq_self fun rule hrule hinside => ?_
  have hpatterns : ∀ pattern ∈ [modelPattern, namespacePattern, placeholder, serviceName],
      serviceName.length ≤ pattern.length ∨ '@' ∈ pattern := by decide
  rcases hpatterns _ (mem_patterns hrule) with hlong | hat
  · have hshort := h.2
    have hle := hinside.length_le
    omega
  · exact not_mem_of_partOf (by decide) h (hinside.subset hat)

/-- The name is put in the place of a placeholder behind a text without at signs. -/
theorem substitute_placeholderRule (hbefore : '@' ∉ before) (hafter : '@' ∉ after) :
    substitute [placeholderRule name] (before ++ (placeholder ++ after)) =
      before ++ (name.characters ++ after) := by
  have hstays : substitute [placeholderRule name] (before ++ (placeholder ++ after)) =
      before ++ substitute [placeholderRule name] (placeholder ++ after) :=
    substitute_singleton_append (not_beginsIn_of_not_mem hbefore) _
  have hstep : substitute [placeholderRule name] ((placeholderRule name).pattern ++ after) =
      name.characters ++ substitute [placeholderRule name] after :=
    substitute_singleton_pattern_append _ after
  rw [substitute_singleton_of_not_mem (by decide : '@' ∈ placeholder) hafter] at hstep
  exact hstays.trans (congrArg (before ++ ·) hstep)

/-- Between two parts of the name of the service only the placeholder is renamed. -/
theorem renamed_placeholder (hbefore : PartOf before serviceName)
    (hafter : PartOf after serviceName) :
    renamed name (before ++ (placeholder ++ after)) = before ++ (name.characters ++ after) := by
  have hbegins : ¬ BeginsIn placeholder before :=
    not_beginsIn_of_not_mem (not_mem_of_partOf (by decide) hbefore)
  have hpatterns : ∀ pattern ∈ [modelPattern, namespacePattern, placeholder, serviceName],
      pattern = placeholder ∨ '@' ∉ pattern ∧ serviceName.length ≤ pattern.length := by
    decide
  have hstays : renamed name (before ++ (placeholder ++ after)) =
      before ++ renamed name (placeholder ++ after) := by
    refine substitute_append fun rule hrule x hx hne hstarts => ?_
    rcases hpatterns _ (mem_patterns hrule) with hsame | ⟨hnot, hlong⟩
    · rw [hsame] at hstarts
      exact hbegins (beginsIn_of_starts hx hne hstarts)
    · -- The placeholder starts with an at sign, so the occurrence would end before it.
      have hshort := (prefix_of_not_mem hnot hstarts).length_le
      have hle := hx.length_le
      have hless := hbefore.2
      omega
  have hstep : renamed name ((placeholderRule name).pattern ++ after) =
      name.characters ++ renamed name after := substitute_pattern_append rfl
  rw [renamed_partOf hafter] at hstep
  exact hstays.trans (congrArg (before ++ ·) hstep)

/-- A placeholder between two parts of the name of the service. -/
theorem sed_ne_of_placeholder (hname : name.characters ≠ serviceName)
    (hbefore : PartOf before serviceName) (hafter : PartOf after serviceName)
    (h : serviceName <:+: before ++ (name.characters ++ after)) :
    sed name (before ++ (placeholder ++ after)) ≠
      renamed name (before ++ (placeholder ++ after)) := by
  have hfree : ∀ c, c ∉ serviceName → c ∉ placeholder →
      c ∉ before ++ (placeholder ++ after) := by
    intro c hc hplaceholder
    simp only [List.mem_append, not_or]
    exact ⟨not_mem_of_partOf hc hbefore, hplaceholder, not_mem_of_partOf hc hafter⟩
  have hmodel : substitute [modelRule name] (before ++ (placeholder ++ after)) =
      before ++ (placeholder ++ after) :=
    substitute_singleton_of_not_mem (by decide : ':' ∈ modelPattern)
      (hfree ':' (by decide) (by decide))
  have hnamespace : substitute [namespaceRule name] (before ++ (placeholder ++ after)) =
      before ++ (placeholder ++ after) :=
    substitute_singleton_of_not_mem (by decide : ' ' ∈ namespacePattern)
      (hfree ' ' (by decide) (by decide))
  have hplaceholder : substitute [placeholderRule name] (before ++ (placeholder ++ after)) =
      before ++ (name.characters ++ after) :=
    substitute_placeholderRule (not_mem_of_partOf (by decide) hbefore)
      (not_mem_of_partOf (by decide) hafter)
  have hservice : substitute [serviceRule name] (before ++ (name.characters ++ after)) ≠
      before ++ (name.characters ++ after) := substitute_singleton_ne hname h
  rw [renamed_placeholder hbefore hafter]
  unfold sed expressions
  simp only [List.foldl_cons, List.foldl_nil, hmodel, hnamespace, hplaceholder]
  exact hservice

/-- A model namespace before a part of the name of the service. -/
theorem sed_ne_of_model (hname : name.characters ≠ serviceName)
    (hafter : PartOf after serviceName) (h : serviceName <:+: name.namespaceName ++ after) :
    sed name (modelPattern ++ after) ≠ renamed name (modelPattern ++ after) := by
  have hmodel : substitute [modelRule name] (modelPattern ++ after) =
      (modelPrefix ++ name.namespaceName) ++ after := by
    have hafter_free : substitute [modelRule name] after = after :=
      substitute_singleton_of_not_mem (by decide : ':' ∈ modelPattern)
        (not_mem_of_partOf (by decide) hafter)
    have hstep : substitute [modelRule name] ((modelRule name).pattern ++ after) =
        (modelPrefix ++ name.namespaceName) ++ substitute [modelRule name] after :=
      substitute_singleton_pattern_append _ after
    rw [hafter_free] at hstep
    exact hstep
  have hfree : ∀ c, nameCharacter c = false → c ∉ modelPrefix → c ∉ serviceName →
      c ∉ (modelPrefix ++ name.namespaceName) ++ after := by
    intro c hc hstarts hservice
    simp only [List.mem_append, not_or]
    exact ⟨⟨hstarts, not_mem_namespaceName hc⟩, not_mem_of_partOf hservice hafter⟩
  have hnamespace : substitute [namespaceRule name] ((modelPrefix ++ name.namespaceName) ++ after) =
      (modelPrefix ++ name.namespaceName) ++ after :=
    substitute_singleton_of_not_mem (by decide : ' ' ∈ namespacePattern)
      (hfree ' ' (by decide) (by decide) (by decide))
  have hplaceholder : substitute [placeholderRule name]
      ((modelPrefix ++ name.namespaceName) ++ after) =
      (modelPrefix ++ name.namespaceName) ++ after :=
    substitute_singleton_of_not_mem (by decide : '@' ∈ placeholder)
      (hfree '@' (by decide) (by decide) (by decide))
  have hrenamed : renamed name (modelPattern ++ after) =
      (modelPrefix ++ name.namespaceName) ++ after := by
    have hstep : renamed name ((modelRule name).pattern ++ after) =
        (modelPrefix ++ name.namespaceName) ++ renamed name after := substitute_pattern_append rfl
    rw [renamed_partOf hafter] at hstep
    exact hstep
  have hservice : substitute [serviceRule name] ((modelPrefix ++ name.namespaceName) ++ after) ≠
      (modelPrefix ++ name.namespaceName) ++ after := by
    refine substitute_singleton_ne hname (h.trans ?_)
    rw [List.append_assoc]
    exact (List.suffix_append modelPrefix _).isInfix
  rw [hrenamed]
  unfold sed expressions
  simp only [List.foldl_cons, List.foldl_nil, hmodel, hnamespace, hplaceholder]
  exact hservice

end Parts

/-! ### The word `namespace` across the end of a name -/

section Straddling

/-- The name of the namespace ends with the start of the word `namespace`. -/
structure Straddles (name : ProjectName) (before start rest : List Char) : Prop where
  ends : name.namespaceName = before ++ start
  start_ne : start ≠ []
  word : "namespace".toList = start ++ rest

variable {before start rest : List Char} (h : Straddles name before start rest)

include h

theorem Straddles.namespacePrefix_eq : namespacePrefix = start ++ (rest ++ [' ']) := by
  have hparts : namespacePrefix = "namespace".toList ++ [' '] := by decide
  rw [hparts, h.word, List.append_assoc]

/-- No pattern begins in what follows the start of the word. -/
theorem Straddles.not_beginsIn {pattern : List Char}
    (hpattern : pattern ∈ [modelPattern, namespacePattern, placeholder, serviceName]) :
    ¬ BeginsIn pattern (rest ++ [' ']) := by
  have hpatterns : ∀ pattern ∈ [modelPattern, namespacePattern, placeholder, serviceName],
      ¬ BeginsIn pattern "amespace ".toList := by decide
  obtain ⟨c, tail, hstart⟩ := List.exists_cons_of_ne_nil h.start_ne
  have hsuffix : rest ++ [' '] <:+ "amespace ".toList := by
    have hall : 'n' :: "amespace ".toList = c :: (tail ++ (rest ++ [' '])) := by
      have hstarts := h.namespacePrefix_eq
      rw [hstart] at hstarts
      exact hstarts
    exact ⟨tail, (List.cons.inj hall).2.symm⟩
  exact fun hin => hpatterns pattern hpattern (beginsIn_of_suffix hsuffix hin)

theorem Straddles.not_mem_rest {c : Char} (hc : c ∉ namespacePrefix) : c ∉ rest ++ [' '] := by
  intro hmem
  rw [h.namespacePrefix_eq] at hc
  exact hc (List.mem_append_right start hmem)

/-- The first expression leaves the pattern of the second behind. -/
theorem Straddles.substitute_modelRule :
    substitute [modelRule name] (modelPattern ++ (rest ++ [' '] ++ serviceName)) =
      (modelPrefix ++ before) ++ namespacePattern := by
  have hstep : substitute [modelRule name]
      ((modelRule name).pattern ++ (rest ++ [' '] ++ serviceName)) =
      (modelPrefix ++ name.namespaceName) ++
        substitute [modelRule name] (rest ++ [' '] ++ serviceName) :=
    substitute_singleton_pattern_append _ _
  have hfree : ':' ∉ rest ++ [' '] ++ serviceName := by
    rw [List.mem_append, not_or]
    exact ⟨h.not_mem_rest (by decide), by decide⟩
  have hpattern : namespacePattern = namespacePrefix ++ serviceName := by decide
  rw [substitute_singleton_of_not_mem (by decide : ':' ∈ modelPattern) hfree, h.ends] at hstep
  rw [hpattern, h.namespacePrefix_eq]
  refine hstep.trans ?_
  simp only [List.append_assoc]

/-- The pattern has one space, so there is no other occurrence before it. -/
theorem Straddles.substitute_namespaceRule :
    substitute [namespaceRule name] ((modelPrefix ++ before) ++ namespacePattern) =
      modelPrefix ++ (name.namespaceName ++ (rest ++ [' '] ++ name.namespaceName)) := by
  have hpattern : namespacePattern = "namespace".toList ++ ' ' :: serviceName := by decide
  have hname : ' ' ∉ name.namespaceName := not_mem_namespaceName (by decide)
  rw [h.ends, List.mem_append, not_or] at hname
  have hfront : ' ' ∉ modelPrefix ++ before := by
    rw [List.mem_append, not_or]
    exact ⟨by decide, hname.1⟩
  have hstays : substitute [namespaceRule name] ((modelPrefix ++ before) ++ namespacePattern) =
      (modelPrefix ++ before) ++ substitute [namespaceRule name] namespacePattern := by
    refine substitute_append fun rule hrule x hx hne hstarts => ?_
    rw [List.mem_singleton.1 hrule] at hstarts
    obtain ⟨after, hafter⟩ : namespacePattern <+: x ++ namespacePattern := hstarts
    rw [hpattern, List.append_assoc, List.cons_append, ← List.append_assoc] at hafter
    have hspace : ' ' ∉ x ++ "namespace".toList := by
      rw [List.mem_append, not_or]
      exact ⟨fun hmem => hfront (hx.subset hmem), by decide⟩
    have hlength := congrArg List.length
      (CppNumber.append_cons_inj (by decide) hspace hafter).1
    have hpositive := List.length_pos_of_ne_nil hne
    rw [List.length_append] at hlength
    omega
  have hstep : substitute [namespaceRule name] ((namespaceRule name).pattern ++ []) =
      (namespacePrefix ++ name.namespaceName) ++ [] :=
    substitute_singleton_pattern_append _ []
  rw [List.append_nil, List.append_nil] at hstep
  refine hstays.trans ((congrArg (_ ++ ·) hstep).trans ?_)
  rw [h.namespacePrefix_eq]
  simp only [List.append_assoc, h.ends]

/-- The name of the namespace stands where the name of the service was. -/
theorem Straddles.sed_eq (hservice : ¬ BeginsIn serviceName name.namespaceName) :
    sed name (modelPattern ++ (rest ++ [' '] ++ serviceName)) =
      modelPrefix ++ (name.namespaceName ++ (rest ++ [' '] ++ name.namespaceName)) := by
  have hplaceholder : substitute [placeholderRule name]
      (modelPrefix ++ (name.namespaceName ++ (rest ++ [' '] ++ name.namespaceName))) =
      modelPrefix ++ (name.namespaceName ++ (rest ++ [' '] ++ name.namespaceName)) := by
    have hname : '@' ∉ name.namespaceName := not_mem_namespaceName (by decide)
    have hstarts : '@' ∉ modelPrefix := by decide
    have hrest : '@' ∉ rest ++ [' '] := h.not_mem_rest (by decide)
    refine substitute_singleton_of_not_mem (by decide : '@' ∈ placeholder) ?_
    simp only [List.mem_append, not_or] at hrest ⊢
    exact ⟨hstarts, hname, hrest, hname⟩
  have hstays : ∀ front after, ¬ BeginsIn serviceName front →
      substitute [serviceRule name] (front ++ after) =
        front ++ substitute [serviceRule name] after :=
    fun _ after hfront => substitute_singleton_append hfront after
  have hend : substitute [serviceRule name] name.namespaceName = name.namespaceName := by
    have hname := hstays name.namespaceName [] hservice
    rw [List.append_nil] at hname
    exact hname.trans (List.append_nil _)
  unfold sed expressions
  simp only [List.foldl_cons, List.foldl_nil, h.substitute_modelRule,
    h.substitute_namespaceRule, hplaceholder]
  rw [hstays _ _ (by decide), hstays _ _ hservice, hstays _ _ (h.not_beginsIn (by simp)), hend]

/-- The name of the project should stand there. -/
theorem Straddles.renamed_eq :
    renamed name (modelPattern ++ (rest ++ [' '] ++ serviceName)) =
      modelPrefix ++ (name.namespaceName ++ (rest ++ [' '] ++ name.characters)) := by
  have hmodel : renamed name ((modelRule name).pattern ++ (rest ++ [' '] ++ serviceName)) =
      (modelPrefix ++ name.namespaceName) ++ renamed name (rest ++ [' '] ++ serviceName) :=
    substitute_pattern_append rfl
  have hstays : renamed name (rest ++ [' '] ++ serviceName) =
      rest ++ [' '] ++ renamed name serviceName := by
    have hbegins : ∀ rule ∈ expressions name, ¬ BeginsIn rule.pattern (rest ++ [' ']) :=
      fun _ hrule => h.not_beginsIn (mem_patterns hrule)
    exact substitute_append_of_not_beginsIn hbegins serviceName
  have hservice : renamed name ((serviceRule name).pattern ++ []) = name.characters ++ [] :=
    substitute_pattern_append rfl
  rw [List.append_nil, List.append_nil] at hservice
  refine hmodel.trans ?_
  rw [hstays, List.append_assoc]
  exact congrArg (fun text => modelPrefix ++ (name.namespaceName ++ (rest ++ [' '] ++ text)))
    hservice

end Straddling

/-- A name of a namespace in which the word begins ends with a start of the word. -/
theorem exists_straddles (h : BeginsIn namespacePattern name.namespaceName) :
    ∃ before start rest, Straddles name before start rest := by
  have hspace : ' ' ∉ name.namespaceName := not_mem_namespaceName (by decide)
  have hpattern : namespacePattern = "namespace".toList ++ ' ' :: serviceName := by decide
  obtain ⟨start, hstart, hne, hmeet⟩ := h
  obtain ⟨before, hends⟩ := (List.mem_tails _ _).1 hstart
  have hfree : ' ' ∉ start := fun hmem => hspace (hends ▸ List.mem_append_right before hmem)
  rcases hmeet with hstarts | hstarts
  · exact absurd (hstarts.subset (by decide)) hfree
  · rw [hpattern] at hstarts
    obtain ⟨rest, hrest⟩ := prefix_of_not_mem hfree hstarts
    exact ⟨before, start, rest, hends.symm, hne, hrest.symm⟩

/-- `init` renames every file completely, with nothing that one expression has inserted
rewritten by a later one, exactly for the name that the template has already and for the
names that are separate from it. -/
theorem renames_iff (name : ProjectName) :
    Renames name ↔ name.characters = serviceName ∨ Separate name := by
  unfold Renames
  simp only [generate_eq]
  constructor
  · intro hall
    by_contra hneither
    obtain ⟨hname, hseparate⟩ := not_or.1 hneither
    have hservice : ¬ BeginsIn serviceName name.namespaceName := by
      intro hbegins
      obtain ⟨after, hafter, hinside⟩ := exists_after_of_beginsIn (by decide) hbegins
      exact sed_ne_of_model hname hafter hinside (hall _)
    have hcharacters : Apart serviceName name.characters := by
      refine ⟨fun hbegins => ?_, fun hruns => ?_⟩
      · obtain ⟨after, hafter, hinside⟩ := exists_after_of_beginsIn (by decide) hbegins
        have hnothing : PartOf [] serviceName := ⟨List.nil_infix, by decide⟩
        exact sed_ne_of_placeholder hname hnothing hafter hinside (hall _)
      · obtain ⟨before, after, hbefore, hafter, hinside⟩ := exists_around_of_runsInto hruns
        exact sed_ne_of_placeholder hname hbefore hafter hinside (hall _)
    refine hseparate ⟨hservice, hcharacters, fun hhyphen hword => ?_⟩
    obtain ⟨before, start, rest, hstraddles⟩ := exists_straddles hword
    have heq := hall (modelPattern ++ (rest ++ [' '] ++ serviceName))
    rw [hstraddles.sed_eq hservice, hstraddles.renamed_eq] at heq
    have hsame : name.namespaceName = name.characters := by
      simpa using heq
    exact namespaceName_eq_iff.1 hsame hhyphen
  · rintro (hname | hseparate)
    · exact sed_eq_of_serviceName hname
    · exact hseparate.sed_eq

example : Separate ⟨"payments-api".toList, by decide, by decide⟩ :=
  ⟨by decide, by decide, by decide⟩

/-- The namespace of `drogon-user-service` is the name that the last expression looks for, so
the code of the project gets a namespace with hyphens. -/
theorem namespace_rewritten :
    ¬ ∀ (name : ProjectName) (text : List Char), generate name text = renamed name text := by
  intro hall
  have heq := hall ⟨"drogon-user-service".toList, by decide, by decide⟩
    "using namespace drogon_model::drogon_user_service;".toList
  rw [generate_eq] at heq
  revert heq
  decide +kernel

end DrogonStarter.Generator
