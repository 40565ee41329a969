import DrogonStarter.Config.AppConfig
import Mathlib.Data.List.Induction

/-!
# What a setting means

`EnvFile.value` is the meaning of a `.env` file, said about the file as a whole:
the last line that assigns to a key gives its value.  `effective` puts the
environment before it.  `AppConfig::load` instead reads the file line by line into
a map, and overrides the keys of a list that is written by hand.

* `readEnvFile_apply` says that the loop reads what the file means.
* `fromValues_congr` says that the check looks at no key outside the list.
* `load_eq_fromValues_effective` puts the two together.
-/

namespace DrogonStarter

namespace EnvFile

/-- The line assigns to the key: it is not a comment, and the key is what stands
before its first equals sign. -/
def Assigns (key : String) (line : List Char) : Prop :=
  line.head? ≠ some '#' ∧ '=' ∈ line ∧ line.takeWhile (· ≠ '=') = key.toList

instance (key : String) (line : List Char) : Decidable (Assigns key line) :=
  inferInstanceAs (Decidable (_ ∧ _ ∧ _))

/-- The text after the first equals sign. -/
def assigned (line : List Char) : String := String.ofList ((line.dropWhile (· ≠ '=')).drop 1)

/-- The value of a key in a file.  No line assigns to the empty key. -/
def value (envText key : String) : Option String :=
  if key = "" then none
  else (((envText.toList.splitOn '\n').filter (Assigns key ·)).getLast?).map assigned

end EnvFile

/-- The environment's value of a key, or else the file's. -/
def effective (envText : String) (environment : Values) : Values := fun key =>
  (environment key).or (EnvFile.value envText key)

namespace AppConfig

/-! ## The file -/

/-- A value that every element of a list may set is what the last one has set it to. -/
theorem foldl_last {σ α β : Type} {step : σ → α → σ} (get : σ → Option β) (sets : α → Bool)
    (value : α → β)
    (hstep : ∀ s a, get (step s a) = if sets a then some (value a) else get s)
    (l : List α) (s : σ) :
    get (l.foldl step s) = (((l.filter sets).getLast?).map value).or (get s) := by
  induction l using List.reverseRecOn with
  | nil => rfl
  | append_singleton l a ih =>
    rw [List.foldl_append, List.foldl_cons, List.foldl_nil, hstep, List.filter_append]
    cases hsets : sets a with
    | true => simp [hsets]
    | false => simpa [hsets] using ih

/-- What a line does to a key. -/
theorem readLine_apply (values : Values) (line : List Char) {key : String} (hkey : key ≠ "") :
    readLine values line key =
      if EnvFile.Assigns key line then some (EnvFile.assigned line) else values key := by
  have hchars : key.toList ≠ [] := by simpa using hkey
  unfold readLine
  by_cases hassigns : EnvFile.Assigns key line
  · obtain ⟨hcomment, hmem, hname⟩ := hassigns
    have hread : ¬ (line = [] ∨ line.head? = some '#') := by
      rintro (hempty | hsign)
      · rw [hempty] at hmem
        cases hmem
      · exact hcomment hsign
    rw [if_neg hread, Text.splitFirst_eq, if_pos hmem, if_pos ⟨hcomment, hmem, hname⟩]
    simp only [hname]
    rw [if_neg hchars, String.ofList_toList, Values.insert_self]
    rfl
  · rw [if_neg hassigns, Text.splitFirst_eq]
    by_cases hskip : line = [] ∨ line.head? = some '#'
    · rw [if_pos hskip]
    · rw [if_neg hskip]
      by_cases hmem : '=' ∈ line
      · rw [if_pos hmem]
        simp only
        split
        · rfl
        · -- The line assigns to another key.
          refine Values.insert_of_ne (fun hname => hassigns ⟨?_, hmem, ?_⟩) values _
          · exact fun hsign => hskip (Or.inr hsign)
          · rw [hname, String.toList_ofList]
      · rw [if_neg hmem]

/-- No line sets the empty key. -/
theorem readLine_empty (values : Values) (line : List Char) :
    readLine values line "" = values "" := by
  unfold readLine
  rw [Text.splitFirst_eq]
  split_ifs with hskip hmem
  · rfl
  · simp only
    split
    · rfl
    · rename_i hname
      refine Values.insert_of_ne (fun heq => hname ?_) values _
      simpa using (congrArg String.toList heq).symm
  · rfl

/-- The loop reads what the file means. -/
theorem readEnvFile_apply (envText key : String) :
    readEnvFile envText key = EnvFile.value envText key := by
  unfold readEnvFile EnvFile.value
  by_cases hkey : key = ""
  · subst hkey
    rw [if_pos rfl]
    have hlines : ∀ (lines : List (List Char)) (values : Values),
        lines.foldl readLine values "" = values "" := by
      intro lines
      induction lines with
      | nil => exact fun _ => rfl
      | cons line lines ih => exact fun values => (ih _).trans (readLine_empty values line)
    exact hlines _ _
  · rw [if_neg hkey, foldl_last (fun values : Values => values key)
      (fun line => decide (EnvFile.Assigns key line)) EnvFile.assigned]
    · obtain ⟨rest, hsplit, hrest⟩ := Text.splitOn_eq_getlines envText.toList
      have hnone : rest.filter (fun line => decide (EnvFile.Assigns key line)) = [] := by
        rw [List.filter_eq_nil_iff]
        intro line hline
        rw [hrest line hline]
        simp [EnvFile.Assigns]
      rw [hsplit, List.filter_append, hnone, List.append_nil, Option.or_none]
    · intro values line
      simpa using readLine_apply values line hkey

/-! ## The check -/

/-- The check looks only at the keys that the environment overrides. -/
theorem fromValues_congr {values values' : Values}
    (h : ∀ key ∈ overriddenKeys, values key = values' key) :
    fromValues values = fromValues values' := by
  simp only [overriddenKeys, List.forall_mem_cons] at h
  simp only [fromValues, required, number, seconds, nonNegativeNumber, database, flag, text,
    parsed, present, h]

/-- Loading a file is checking the settings as the environment overrides them. -/
theorem load_eq_fromValues_effective (envText : String) (environment : Values) :
    load envText environment = fromValues (effective envText environment) := by
  refine fromValues_congr fun key hkey => ?_
  rw [overrideFromEnvironment_apply, if_pos hkey, readEnvFile_apply]
  rfl

end AppConfig

end DrogonStarter
