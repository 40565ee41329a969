import DrogonStarter.Config.AppConfig
import DrogonStarter.Lib.JsonPath
import DrogonStarter.Lib.Uri

/-!
# Which database a configuration names

The server takes the database from the JSON document that `AppConfig::toDrogonJson` makes.
The table commands take it from `AppConfig::databaseConnectionString`, which puts the same
five fields into a URI as they are.

* `drogonTarget` and `uriTarget` are the two readings.
* `denotes_iff` says for which fields they name the same database, and that for such fields
  the string tells two configurations apart.
-/

namespace DrogonStarter

open CppNumber

/-- A database and how to log in to it. -/
structure DatabaseTarget where
  user : String
  password : String
  host : String
  port : Int
  database : String
deriving DecidableEq

namespace AppConfig

variable (double : Double → Json)

/-- `config["db_clients"][0]`.  The parameter is the value of JsonCpp for a `double`. -/
def dbClient (config : AppConfig) : Json :=
  .ofMembers [("name", .string "default"), ("rdbms", .string "postgresql"),
    ("host", .string config.dbHost), ("port", .int config.dbPort),
    ("dbname", .string config.dbName), ("user", .string config.dbUser),
    ("passwd", .string config.dbPassword), ("is_fast", .bool false),
    ("connection_number", .int config.dbConnectionPoolSize),
    ("timeout", double config.dbQueryTimeoutSeconds), ("filename", .string "")]

/-- `config["redis_clients"][0]`. -/
def redisClient (config : AppConfig) : Json :=
  .ofMembers [("name", .string "default"), ("host", .string config.redisHost),
    ("port", .int config.redisPort), ("passwd", .string config.redisPassword),
    ("db", .int config.redisDb), ("connection_number", .int config.redisConnectionPoolSize),
    ("timeout", double config.redisCommandTimeoutSeconds)]

def toDrogonJson (config : AppConfig) : Json :=
  let drogon := Json.ofMembers [("secret_key", .string config.secretKey),
    ("db_clients", .array [config.dbClient double])]
  if config.redisEnabled then drogon.set "redis_clients" (.array [config.redisClient double])
  else drogon

def databaseConnectionString (config : AppConfig) : String :=
  "postgresql://" ++ config.dbUser ++ ":" ++ config.dbPassword ++ "@" ++ config.dbHost ++ ":" ++
    toString config.dbPort ++ "/" ++ config.dbName

/-- The database that the fields name. -/
def target (config : AppConfig) : DatabaseTarget where
  user := config.dbUser
  password := config.dbPassword
  host := config.dbHost
  port := config.dbPort
  database := config.dbName

/-! ## The two readings -/

/-- The database that the server takes from its JSON document. -/
def drogonTarget (drogon : Json) : Option DatabaseTarget := do
  let client ← drogon.at? [.member "db_clients", .item 0]
  return {
    user := ← client.text? [.member "user"]
    password := ← client.text? [.member "passwd"]
    host := ← client.text? [.member "host"]
    port := ← client.int? [.member "port"]
    database := ← client.text? [.member "dbname"] }

/-- The database that a URI denotes. -/
def uriTarget (text : String) : Option DatabaseTarget := do
  let uri ← Uri.parse "postgresql".toList text.toList
  return {
    user := .ofList (← uri.user)
    password := .ofList (← uri.password)
    host := .ofList uri.host
    port := ← uri.port
    database := .ofList (← uri.path) }

/-- The string denotes the database that the server is given. -/
def Denotes (config : AppConfig) : Prop :=
  ∃ target, uriTarget config.databaseConnectionString = some target ∧
    drogonTarget (config.toDrogonJson double) = some target

/-- The fields have no delimiter of the URI where it would end them, and no percent sign. -/
def PlainFields (config : AppConfig) : Prop :=
  Uri.Plain config.dbUser.toList config.dbPassword.toList config.dbHost.toList
    config.dbName.toList

variable {double} {config other : AppConfig}

/-! ## The document of the server -/

theorem get?_dbClient (config : AppConfig) (double : Double → Json) :
    (config.dbClient double).get? "user" = some (.string config.dbUser) ∧
      (config.dbClient double).get? "passwd" = some (.string config.dbPassword) ∧
      (config.dbClient double).get? "host" = some (.string config.dbHost) ∧
      (config.dbClient double).get? "port" = some (.int config.dbPort) ∧
      (config.dbClient double).get? "dbname" = some (.string config.dbName) := by
  refine ⟨?_, ?_, ?_, ?_, ?_⟩
  · exact Json.get?_ofMembers [_, _, _, _, _] (by simp)
  · exact Json.get?_ofMembers [_, _, _, _, _, _] (by simp)
  · exact Json.get?_ofMembers [_, _] (by simp)
  · exact Json.get?_ofMembers [_, _, _] (by simp)
  · exact Json.get?_ofMembers [_, _, _, _] (by simp)

theorem get?_toDrogonJson :
    (config.toDrogonJson double).get? "db_clients" = some (.array [config.dbClient double]) := by
  have hclients : (Json.ofMembers [("secret_key", .string config.secretKey),
      ("db_clients", .array [config.dbClient double])]).get? "db_clients" =
      some (.array [config.dbClient double]) :=
    Json.get?_ofMembers [_] (by simp)
  unfold toDrogonJson
  by_cases hredis : config.redisEnabled = true
  · simp only [if_pos hredis, Json.get?_set, hclients]
    rfl
  · simp only [if_neg hredis, hclients]

/-- The server is given the fields as they are. -/
theorem drogonTarget_toDrogonJson :
    drogonTarget (config.toDrogonJson double) = some config.target := by
  obtain ⟨huser, hpassword, hhost, hport, hname⟩ := config.get?_dbClient double
  have hclient : (config.toDrogonJson double).at? [.member "db_clients", .item 0] =
      some (config.dbClient double) := by
    simp only [Json.at?, Json.Step.get?, get?_toDrogonJson, Option.bind_some]
    rfl
  unfold drogonTarget
  rw [hclient]
  simp only [Json.text?, Json.int?, Json.at?, Json.Step.get?, huser, hpassword, hhost, hport, hname,
    Option.bind_eq_bind, Option.bind_some, Option.pure_def, target]

/-! ## The string of the table commands -/

/-- The string is written as a URI, with nothing encoded. -/
theorem toList_databaseConnectionString {port : Nat} (hport : config.dbPort = port) :
    config.databaseConnectionString.toList =
      Uri.write "postgresql".toList config.dbUser.toList config.dbPassword.toList
        config.dbHost.toList (Nat.toDigits 10 port) config.dbName.toList := by
  have hdigits : (toString config.dbPort).toList = Nat.toDigits 10 port := by
    rw [hport]
    exact toList_toString port
  unfold databaseConnectionString
  simp only [String.toList_append, hdigits]
  simp [Uri.write, Uri.writeAuthority]

theorem uriTarget_eq_some_iff {text : String} {t : DatabaseTarget} :
    uriTarget text = some t ↔
      ∃ port : Nat, t.port = port ∧ Uri.parse "postgresql".toList text.toList =
        some ⟨some t.user.toList, some t.password.toList, t.host.toList, some port,
          some t.database.toList⟩ := by
  unfold uriTarget
  simp only [Option.bind_eq_bind, Option.bind_eq_some_iff, Option.pure_def, Option.some.injEq]
  constructor
  · rintro ⟨⟨user, password, host, port, path⟩, hparse, user', rfl, password', rfl, port', rfl,
      path', rfl, rfl⟩
    refine ⟨port', rfl, ?_⟩
    simp only [String.toList_ofList, hparse]
  · rintro ⟨port, hport, hparse⟩
    refine ⟨_, hparse, _, rfl, _, rfl, _, rfl, _, rfl, ?_⟩
    simp only [String.ofList_toList, ← hport]

/-- The string denotes what the fields name exactly when the fields are plain. -/
theorem uriTarget_databaseConnectionString_iff (hport : 0 ≤ config.dbPort) :
    uriTarget config.databaseConnectionString = some config.target ↔ config.PlainFields := by
  obtain ⟨port, hport⟩ := Int.eq_ofNat_of_zero_le hport
  rw [uriTarget_eq_some_iff, toList_databaseConnectionString hport]
  constructor
  · rintro ⟨port', hport', hparse⟩
    have hsame : port' = port := by
      change config.dbPort = port' at hport'
      omega
    rw [hsame] at hparse
    exact Uri.parse_write_iff.1 hparse
  · intro hplain
    exact ⟨port, hport, Uri.parse_write hplain⟩

end AppConfig

/-- The connection string denotes the database that the server is given exactly when the
fields are plain: neither the user, the password nor the host has a slash, the user and the
password have no at sign, the user has no colon, the host is told from the port, and no field
has a question mark, a number sign or a percent sign.  Two such configurations that name
different databases have different strings. -/
theorem AppConfig.denotes_iff {config : AppConfig} (double : Double → Json)
    (hport : 1 ≤ config.dbPort ∧ config.dbPort ≤ 65535) :
    (config.Denotes double ↔ config.PlainFields) ∧
      ∀ other : AppConfig, 1 ≤ other.dbPort ∧ other.dbPort ≤ 65535 → config.PlainFields →
        other.PlainFields → config.target ≠ other.target →
          config.databaseConnectionString ≠ other.databaseConnectionString := by
  refine ⟨?_, fun other hother hplain hplain' hdiffer hsame => hdiffer ?_⟩
  · rw [← AppConfig.uriTarget_databaseConnectionString_iff (by omega), Denotes,
      drogonTarget_toDrogonJson]
    constructor
    · rintro ⟨target, htarget, hgiven⟩
      rw [Option.some.inj hgiven]
      exact htarget
    · intro htarget
      exact ⟨_, htarget, rfl⟩
  · have hdenoted := (uriTarget_databaseConnectionString_iff (by omega)).2 hplain
    have hdenoted' := (uriTarget_databaseConnectionString_iff (by omega)).2 hplain'
    rw [hsame, hdenoted'] at hdenoted
    exact (Option.some.inj hdenoted).symm

/-- The configuration of a local database. -/
def localDatabase (user password : String) : AppConfig where
  dbUser := user
  dbPassword := password
  dbHost := "localhost"
  dbPort := 5433
  dbName := "users"

theorem denotes_iff_local :
    ((localDatabase "tester" "password").Denotes (fun _ => .null) ↔
        (localDatabase "tester" "password").PlainFields) ∧
      ∀ other : AppConfig, 1 ≤ other.dbPort ∧ other.dbPort ≤ 65535 →
        (localDatabase "tester" "password").PlainFields → other.PlainFields →
          (localDatabase "tester" "password").target ≠ other.target →
            (localDatabase "tester" "password").databaseConnectionString ≠
              other.databaseConnectionString :=
  AppConfig.denotes_iff (fun _ => .null) (by decide)

/-- A password with an at sign moves the host: the URI names a part of the password.  And a
colon can be the end of the user or in the password, so two configurations have one string. -/
theorem password_moves_host :
    (¬ ∀ double (config : AppConfig), 1 ≤ config.dbPort ∧ config.dbPort ≤ 65535 →
        config.Denotes double) ∧
      ¬ ∀ config other : AppConfig, 1 ≤ config.dbPort ∧ config.dbPort ≤ 65535 →
        1 ≤ other.dbPort ∧ other.dbPort ≤ 65535 → config.target ≠ other.target →
          config.databaseConnectionString ≠ other.databaseConnectionString := by
  constructor
  · intro hall
    obtain ⟨target, huri, hgiven⟩ :=
      hall (fun _ => .null) (localDatabase "tester" "p@ss") (by decide)
    rw [AppConfig.drogonTarget_toDrogonJson] at hgiven
    rw [← Option.some.inj hgiven,
      AppConfig.uriTarget_databaseConnectionString_iff (by decide)] at huri
    have hat := huri.userinfo ['p', '@', 's', 's'] (List.mem_cons_of_mem _ List.mem_cons_self)
    exact hat (by decide)
  · intro hall
    exact hall (localDatabase "a:b" "c") (localDatabase "a" "b:c") (by decide) (by decide)
      (by decide) (by decide)

end DrogonStarter
