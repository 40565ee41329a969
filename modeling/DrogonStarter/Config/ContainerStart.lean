import DrogonStarter.Config.Precedence
import DrogonStarter.Config.SigningSecret
import DrogonStarter.Config.Validation

/-!
# How a container starts

The entry point of the image writes fifteen settings from its environment into `.env`, with a
fallback for each one that is not set or empty, and then runs the service in the same environment.
The service reads the file and lets the environment override it, and its helpers read the file
alone.

* `dotEnv` is the file.  `dotEnv_exact_iff` says when it is read as it was meant.
* `started_iff` says when the configuration is accepted, and `signing_key_of_container` that the
  tokens are then signed with the key that was checked.
-/

namespace DrogonStarter.Container

/-- The settings of the entry point with their fallbacks, in the order of the file. -/
def settings : List (String × String) :=
  [("SECRET_KEY", ""), ("DB_HOST", "127.0.0.1"), ("DB_PORT", "5432"),
   ("DB_NAME", "drogon_user_service"), ("DB_USER", ""), ("DB_PASSWORD", ""), ("SENTRY_DSN", ""),
   ("ERROR_TRACKING_PROVIDER", "none"), ("HTTP_HOST", "0.0.0.0"), ("HTTP_PORT", "8000"),
   ("REDIS_ENABLED", "false"), ("REDIS_HOST", "127.0.0.1"), ("REDIS_PORT", "6379"),
   ("REDIS_PASSWORD", ""), ("REDIS_DB", "0")]

/-- `${key:-fallback}`. -/
def expand (environment : Values) (setting : String × String) : String :=
  (AppConfig.present environment setting.1).getD setting.2

def line (environment : Values) (setting : String × String) : List Char :=
  setting.1.toList ++ '=' :: (expand environment setting).toList

/-- `cat > /app/.env`. -/
def dotEnv (environment : Values) : String :=
  String.ofList (settings.flatMap fun setting => line environment setting ++ ['\n'])

/-- No setting has a newline. -/
def OneLined (environment : Values) : Prop :=
  ∀ setting ∈ settings, '\n' ∉ (expand environment setting).toList

/-! ## Reading the file -/

section file

variable {environment : Values}

/-- A key that the file can have: it is plain, and it ends where the equals sign is. -/
theorem plain_of_mem {setting : String × String} (h : setting ∈ settings) :
    PlainKey setting.1 ∧ '=' ∉ setting.1.toList ∧ '\n' ∉ setting.1.toList := by
  have hall : ∀ setting ∈ settings,
      PlainKey setting.1 ∧ '=' ∉ setting.1.toList ∧ '\n' ∉ setting.1.toList := by decide
  exact hall setting h

theorem readLine_line (values : Values) {setting : String × String} (h : setting ∈ settings) :
    AppConfig.readLine values (line environment setting) =
      values.insert setting.1 (expand environment setting) := by
  obtain ⟨⟨hnonempty, hsign⟩, hequals, _⟩ := plain_of_mem h
  have hsplit : Text.splitFirst '=' (line environment setting) =
      some (setting.1.toList, (expand environment setting).toList) :=
    Text.splitFirst_eq_some_iff.2 ⟨rfl, hequals⟩
  have hread : ¬ (line environment setting = [] ∨ (line environment setting).head? = some '#') := by
    have hhead := Text.head?_of_splitFirst hsplit hnonempty
    rintro (hempty | hcomment)
    · rw [hempty] at hhead
      exact hnonempty (List.head?_eq_none_iff.1 hhead)
    · exact hsign (hhead.trans hcomment)
  rw [AppConfig.readLine, if_neg hread, hsplit]
  simp only [if_neg hnonempty, String.ofList_toList]

theorem getlines_dotEnv (h : OneLined environment) :
    Text.getlines (dotEnv environment).toList = settings.map (line environment) := by
  have hplain : ∀ text ∈ settings.map (line environment), '\n' ∉ text := by
    intro text htext
    obtain ⟨setting, hsetting, rfl⟩ := List.mem_map.1 htext
    simp only [line, List.mem_append, List.mem_cons, not_or]
    exact ⟨(plain_of_mem hsetting).2.2, by decide, h setting hsetting⟩
  have hlines := Text.getlines_flatMap hplain
  rw [List.flatMap_map] at hlines
  rw [dotEnv, String.toList_ofList]
  exact hlines

/-- Inserting settings one after another, when no key comes twice. -/
theorem foldl_insert {value : String × String → String} {entries : List (String × String)}
    (honce : (entries.map Prod.fst).Nodup) (values : Values) (key : String) :
    entries.foldl (fun values entry => values.insert entry.1 (value entry)) values key =
      ((entries.find? fun entry => entry.1 == key).map value).or (values key) := by
  induction entries generalizing values with
  | nil => rfl
  | cons entry entries ih =>
    obtain ⟨hnew, honce⟩ := List.nodup_cons.1 honce
    rw [List.foldl_cons, ih honce]
    by_cases hkey : entry.1 = key
    · subst hkey
      have hnone : entries.find? (fun other => other.1 == entry.1) = none := by
        rw [List.find?_eq_none]
        intro other hother heq
        exact hnew (List.mem_map.2 ⟨other, hother, eq_of_beq heq⟩)
      rw [hnone, Values.insert_self, List.find?_cons_of_pos (by simp)]
      rfl
    · rw [Values.insert_of_ne (Ne.symm hkey), List.find?_cons_of_neg (by simpa using hkey)]

/-- The settings as they are meant. -/
def meant (environment : Values) : Values := fun key =>
  (settings.find? fun setting => setting.1 == key).map (expand environment)

theorem readEnvFile_dotEnv (h : OneLined environment) :
    AppConfig.readEnvFile (dotEnv environment) = meant environment := by
  have honce : (settings.map Prod.fst).Nodup := by decide
  have hfold : ∀ (entries : List (String × String)) (values : Values),
      (∀ entry ∈ entries, entry ∈ settings) →
        (entries.map (line environment)).foldl AppConfig.readLine values =
          entries.foldl (fun values entry => values.insert entry.1 (expand environment entry))
            values := by
    intro entries
    induction entries with
    | nil => exact fun _ _ => rfl
    | cons entry entries ih =>
      intro values hentries
      rw [List.map_cons, List.foldl_cons, List.foldl_cons,
        readLine_line values (hentries entry List.mem_cons_self)]
      exact ih _ fun other hother => hentries other (List.mem_cons_of_mem entry hother)
  funext key
  rw [AppConfig.readEnvFile, getlines_dotEnv h, hfold settings _ fun _ hentry => hentry,
    foldl_insert honce, Option.or_none]
  rfl

theorem readLine_newline {values : Values} {text : List Char} (htext : '\n' ∉ text)
    (h : ∀ key value, values key = some value → '\n' ∉ value.toList) (key value : String)
    (hread : AppConfig.readLine values text key = some value) : '\n' ∉ value.toList := by
  by_cases hkey : key = ""
  · subst hkey
    rw [AppConfig.readLine_empty] at hread
    exact h "" value hread
  · rw [AppConfig.readLine_apply values text hkey] at hread
    by_cases hassigns : EnvFile.Assigns key text
    · rw [if_pos hassigns] at hread
      rw [← Option.some.inj hread, EnvFile.assigned, String.toList_ofList]
      exact fun hmem => htext ((List.dropWhile_sublist _).subset (List.mem_of_mem_drop hmem))
    · rw [if_neg hassigns] at hread
      exact h key value hread

/-- No value of a file has a newline. -/
theorem newline_not_mem_of_readEnvFile {text key value : String}
    (h : AppConfig.readEnvFile text key = some value) : '\n' ∉ value.toList := by
  have hlines : ∀ (lines : List (List Char)) (values : Values), (∀ text ∈ lines, '\n' ∉ text) →
      (∀ key value, values key = some value → '\n' ∉ value.toList) →
        ∀ key value, lines.foldl AppConfig.readLine values key = some value →
          '\n' ∉ value.toList := by
    intro lines
    induction lines with
    | nil => exact fun values _ hvalues => hvalues
    | cons text lines ih =>
      intro values htexts hvalues
      exact ih _ (fun other hother => htexts other (List.mem_cons_of_mem text hother))
        (readLine_newline (htexts text List.mem_cons_self) hvalues)
  refine hlines (Text.getlines text.toList) (fun _ => none)
    (fun _ hline => Text.newline_not_mem_of_mem_getlines hline) ?_ key value h
  intro _ _ hnone
  cases hnone

theorem meant_of_mem {setting : String × String} (h : setting ∈ settings) :
    meant environment setting.1 = some (expand environment setting) := by
  have hfind : ∀ setting ∈ settings,
      settings.find? (fun other => other.1 == setting.1) = some setting := by decide
  rw [meant, hfind setting h]
  rfl

/-- The file says what it was meant to say exactly when every setting is one line. -/
theorem dotEnv_exact_iff :
    AppConfig.readEnvFile (dotEnv environment) = meant environment ↔ OneLined environment := by
  constructor
  · intro hexact setting hsetting
    have hread := congrFun hexact setting.1
    rw [meant_of_mem hsetting] at hread
    exact newline_not_mem_of_readEnvFile hread
  · exact readEnvFile_dotEnv

end file

/-! ## The configuration -/

/-- The fallback that the file has for a key. -/
def fallback (key : String) : Option String :=
  (settings.find? fun setting => setting.1 == key).map Prod.snd

/-- What the service runs with: the environment, and the fallbacks of what is not set in it. -/
def started (environment : Values) : Values := fun key =>
  (environment key).or (fallback key)

section configuration

variable {environment : Values}

theorem load_dotEnv (h : OneLined environment) :
    AppConfig.load (dotEnv environment) environment =
      AppConfig.fromValues (started environment) := by
  rw [AppConfig.load_eq_fromValues_effective]
  congr 1
  funext key
  rw [effective, ← AppConfig.readEnvFile_apply, readEnvFile_dotEnv h, started]
  cases hset : environment key with
  | some value => rfl
  | none =>
    rw [Option.none_or, Option.none_or, meant, fallback]
    cases hfind : settings.find? fun setting => setting.1 == key with
    | none => rfl
    | some setting =>
      have hkey : setting.1 = key := by simpa using List.find?_some hfind
      simp [expand, AppConfig.present, hkey, hset]

theorem present_started_of_none {key : String} (h : environment key = none) :
    AppConfig.present (started environment) key = (fallback key).filter (· ≠ "") := by
  rw [AppConfig.present, started, h, Option.none_or]

theorem present_started_of_some {key value : String} (h : environment key = some value) :
    AppConfig.present (started environment) key = AppConfig.present environment key := by
  rw [AppConfig.present, AppConfig.present, started, h, Option.some_or]

/-- A key without a fallback has to be set. -/
theorem present_started_eq_none_iff {key : String} (h : (fallback key).filter (· ≠ "") = none) :
    AppConfig.present (started environment) key = none ↔
      AppConfig.present environment key = none := by
  cases hset : environment key with
  | some value => rw [present_started_of_some hset]
  | none =>
    rw [present_started_of_none hset, h, AppConfig.present, hset]
    exact iff_of_true rfl rfl

/-- The fallback of a key is not used when the key is set to nothing. -/
theorem present_started_eq_none_iff_empty {key text : String} (hfallback : fallback key = some text)
    (htext : text ≠ "") :
    AppConfig.present (started environment) key = none ↔ environment key = some "" := by
  cases hset : environment key with
  | none =>
    rw [present_started_of_none hset, hfallback]
    simp [htext]
  | some value =>
    rw [present_started_of_some hset, AppConfig.present, hset]
    simp

theorem missing_started :
    AppConfig.Missing (started environment) ↔
      AppConfig.present environment "SECRET_KEY" = none ∨
        AppConfig.present environment "DB_USER" = none ∨
        environment "DB_HOST" = some "" ∨ environment "DB_NAME" = some "" := by
  have hhost : fallback "DB_HOST" = some "127.0.0.1" := by decide
  have hname : fallback "DB_NAME" = some "drogon_user_service" := by decide
  have hkeys : AppConfig.Missing (started environment) ↔
      AppConfig.present (started environment) "SECRET_KEY" = none ∨
        AppConfig.present (started environment) "DB_HOST" = none ∨
        AppConfig.present (started environment) "DB_NAME" = none ∨
        AppConfig.present (started environment) "DB_USER" = none := by
    simp [AppConfig.Missing, requiredKeys]
  have hsecret : (fallback "SECRET_KEY").filter (· ≠ "") = none := by decide
  have huser : (fallback "DB_USER").filter (· ≠ "") = none := by decide
  rw [hkeys, present_started_eq_none_iff hsecret, present_started_eq_none_iff huser,
    present_started_eq_none_iff_empty hhost (by decide),
    present_started_eq_none_iff_empty hname (by decide)]
  tauto

/-- The fallbacks pass the checks. -/
theorem accepts_fallback : ∀ k ∈ numericKeys, ∀ text, fallback k.key = some text →
    ∃ a, k.parse text = .ok a ∧ k.passes a = true := by
  simp only [numericKeys, List.forall_mem_cons]
  refine ⟨?_, ?_, ?_, ?_, ?_, ?_, ?_, ?_, ?_, ?_, ?_, ?_, ?_, ?_, ?_, ?_, ?_, ?_, ?_, ?_, ?_⟩
  case refine_21 => exact fun _ h => absurd h List.not_mem_nil
  -- The keys without a fallback leave nothing to show.
  all_goals
    intro text h
    cases h
  all_goals exact ⟨_, rfl, rfl⟩

theorem accepts_started {k : NumericKey} (hk : k ∈ numericKeys) :
    k.Accepts (started environment) ↔ k.Accepts environment := by
  unfold NumericKey.Accepts
  cases hset : environment k.key with
  | some value => rw [present_started_of_some hset]
  | none =>
    have hnone : AppConfig.present environment k.key = none := by
      rw [AppConfig.present, hset]
      rfl
    rw [present_started_of_none hset, hnone]
    refine iff_of_true (fun text htext => ?_) fun text htext => ?_
    · exact accepts_fallback k hk text (Option.mem_filter_iff.1 htext).1
    · cases htext

/-- The service starts exactly when the two keys without a fallback are set, the other two that
are required are not set to nothing, and the numbers of the environment are accepted. -/
theorem started_iff (h : OneLined environment) :
    (∃ config, AppConfig.load (dotEnv environment) environment = .ok config) ↔
      AppConfig.present environment "SECRET_KEY" ≠ none ∧
        AppConfig.present environment "DB_USER" ≠ none ∧
        environment "DB_HOST" ≠ some "" ∧ environment "DB_NAME" ≠ some "" ∧
        ∀ k ∈ numericKeys, k.Accepts environment := by
  rw [load_dotEnv h, AppConfig.exists_config_iff, missing_started]
  have hnumbers : (∀ k ∈ numericKeys, k.Accepts (started environment)) ↔
      ∀ k ∈ numericKeys, k.Accepts environment :=
    forall₂_congr fun _ hk => accepts_started hk
  rw [hnumbers]
  tauto

/-- In a container tokens are signed and checked with the key that the configuration has. -/
theorem signing_key_of_container (h : OneLined environment) {config : AppConfig}
    (hload : AppConfig.load (dotEnv environment) environment = .ok config) :
    AuthController.secretKey (dotEnv environment) = config.secretKey ∧
      AuthFilter.secretKey (dotEnv environment) = config.secretKey := by
  obtain ⟨hvalue, hnonempty⟩ := secretKey_of_load hload
  obtain ⟨hsigning, hverifying⟩ := secretKey_eq_file (dotEnv environment)
  have hfile : AppConfig.readEnvFile (dotEnv environment) "SECRET_KEY" =
      some (expand environment ("SECRET_KEY", "")) := by
    rw [readEnvFile_dotEnv h]
    rfl
  have hsame : expand environment ("SECRET_KEY", "") = config.secretKey := by
    rw [hfile] at hvalue
    cases hset : environment "SECRET_KEY" with
    | none =>
      rw [hset, Option.none_or] at hvalue
      exact Option.some.inj hvalue
    | some value =>
      rw [hset, Option.some_or, Option.some.injEq] at hvalue
      subst hvalue
      simp [expand, AppConfig.present, hset, Option.filter, hnonempty]
  rw [hsigning, hverifying, hfile, Option.getD_some, and_self]
  exact hsame

/-- A container starts exactly when its environment has what the service needs, and then both
sides use the key of the configuration for the tokens. -/
theorem container_start (h : OneLined environment) :
    ((∃ config, AppConfig.load (dotEnv environment) environment = .ok config) ↔
        AppConfig.present environment "SECRET_KEY" ≠ none ∧
          AppConfig.present environment "DB_USER" ≠ none ∧
          environment "DB_HOST" ≠ some "" ∧ environment "DB_NAME" ≠ some "" ∧
          ∀ k ∈ numericKeys, k.Accepts environment) ∧
      ∀ config, AppConfig.load (dotEnv environment) environment = .ok config →
        AuthController.secretKey (dotEnv environment) = config.secretKey ∧
          AuthFilter.secretKey (dotEnv environment) = config.secretKey :=
  ⟨started_iff h, fun _ hload => signing_key_of_container h hload⟩

/-- The smallest environment that a container starts in. -/
theorem container_start_smallest :
    ∃ config, AppConfig.load
      (dotEnv fun key => [("SECRET_KEY", "k"), ("DB_USER", "app")].lookup key)
      (fun key => [("SECRET_KEY", "k"), ("DB_USER", "app")].lookup key) = .ok config := by
  have hlines : OneLined fun key => [("SECRET_KEY", "k"), ("DB_USER", "app")].lookup key := by
    unfold OneLined
    decide
  refine (container_start hlines).1.2 ⟨by decide, by decide, by decide, by decide, ?_⟩
  have hunset : ∀ k ∈ numericKeys,
      [("SECRET_KEY", "k"), ("DB_USER", "app")].lookup k.key = none := by decide
  intro k hk text htext
  rw [AppConfig.present, hunset k hk] at htext
  cases htext

end configuration

end DrogonStarter.Container
