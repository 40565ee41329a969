import DrogonStarter.Config.EnvFile
import DrogonStarter.Lib.Number

/-!
# The typed configuration

`AppConfig::load` reads `.env`, lets the environment override the keys that the
service knows, and checks the result.  `AppConfig.fromValues` is the check, in
the order of the source, and its error is the text of the exception.

* `required`, `number`, `seconds`, `nonNegativeNumber` and `flag` read one key.
* `overrideFromEnvironment_apply` says what a key means after the override, and
  `secretKey_of_load` what the check says about the signing key.
-/

namespace DrogonStarter

open CppNumber

/-- `struct AppConfig`. -/
structure AppConfig where
  secretKey : String := ""
  dbHost : String := ""
  dbPort : Int := 5432
  dbConnectionPoolSize : Int := 4
  dbQueryTimeoutSeconds : Double := .finite 10
  dbName : String := ""
  dbUser : String := ""
  dbPassword : String := ""
  sentryDsn : String := ""
  errorTrackingProvider : String := "none"
  otlpEndpoint : String := ""
  observabilityTimeoutSeconds : Double := .finite 1
  observabilityBatchSize : Int := 10
  observabilityBatchDelaySeconds : Double := .literal (mkRat 1 10)
  observabilityMaxQueueSize : Int := 1024
  observabilityRetryMaxAttempts : Int := 3
  observabilityRetryBaseDelaySeconds : Double := .literal (mkRat 1 10)
  observabilityCircuitFailureThreshold : Int := 5
  observabilityCircuitOpenSeconds : Double := .finite 30
  httpHost : String := "0.0.0.0"
  httpPort : Int := 8000
  grpcEnabled : Bool := false
  grpcHost : String := "0.0.0.0"
  grpcPort : Int := 9000
  redisEnabled : Bool := false
  redisHost : String := "127.0.0.1"
  redisPort : Int := 6379
  redisConnectionPoolSize : Int := 2
  redisCommandTimeoutSeconds : Double := .finite 1
  redisPassword : String := ""
  redisDb : Int := 0
  idleConnectionTimeoutSeconds : Int := 60
  rateLimitRequests : Int := 0
  rateLimitWindowSeconds : Int := 60
deriving DecidableEq

namespace AppConfig

/-! ## One key -/

/-- The text of a key that is present and not empty. -/
def present (values : Values) (key : String) : Option String :=
  (values key).filter (· ≠ "")

def required (values : Values) (key : String) : Except String String :=
  match present values key with
  | none => .error ("Missing required configuration: " ++ key)
  | some value => .ok value

/-- A key whose text a parser of the standard library reads, with the values
that the check lets through. -/
def parsed {α : Type} (parse : String → Except ConversionError α) (inRange : α → Bool)
    (message : String) (values : Values) (key : String) (fallback : α) : Except String α :=
  match present values key with
  | none => .ok fallback
  | some text =>
    match parse text with
    | .error _ => .error (message ++ key)
    | .ok value => if inRange value then .ok value else .error (message ++ key)

def number : Values → String → Int → Except String Int :=
  parsed stoi (fun value => decide (¬ (value < 1 ∨ 65535 < value)))
    "Invalid numeric configuration: "

def seconds : Values → String → Double → Except String Double :=
  parsed stod (fun value => decide (¬ (value ≤ 0 ∨ .finite 3600 < value)))
    "Invalid duration configuration: "

def nonNegativeNumber : Values → String → Int → Except String Int :=
  parsed stoi (fun value => decide (¬ (value < 0 ∨ 65535 < value)))
    "Invalid numeric configuration: "

def flag (values : Values) (key : String) (fallback : Bool) : Bool :=
  match present values key with
  | none => fallback
  | some value => value == "1" || value == "true" || value == "TRUE"

/-- `values.count(key) ? values.at(key) : fallback`. -/
def text (values : Values) (key fallback : String) : String := (values key).getD fallback

/-- The check of `REDIS_DB`, which has no upper bound. -/
def database : Values → String → Int → Except String Int :=
  parsed stoi (fun value => decide (¬ value < 0)) "Invalid numeric configuration: "

/-! ## The whole configuration -/

def fromValues (values : Values) : Except String AppConfig := do
  let secretKey ← required values "SECRET_KEY"
  let dbHost ← required values "DB_HOST"
  let dbPort ← number values "DB_PORT" 5432
  let dbConnectionPoolSize ← number values "DB_CONNECTION_POOL_SIZE" 4
  let dbQueryTimeoutSeconds ← seconds values "DB_QUERY_TIMEOUT_SECONDS" (.finite 10)
  let dbName ← required values "DB_NAME"
  let dbUser ← required values "DB_USER"
  let dbPassword := text values "DB_PASSWORD" ""
  let sentryDsn := text values "SENTRY_DSN" ""
  let errorTrackingProvider := text values "ERROR_TRACKING_PROVIDER" "none"
  let otlpEndpoint := text values "OTLP_ENDPOINT" ""
  let observabilityTimeoutSeconds ←
    seconds values "OBSERVABILITY_TIMEOUT_SECONDS" (.finite 1)
  let observabilityBatchSize ← number values "OBSERVABILITY_BATCH_SIZE" 10
  let observabilityBatchDelaySeconds ←
    seconds values "OBSERVABILITY_BATCH_DELAY_SECONDS" (.literal (mkRat 1 10))
  let observabilityMaxQueueSize ← number values "OBSERVABILITY_MAX_QUEUE_SIZE" 1024
  let observabilityRetryMaxAttempts ← number values "OBSERVABILITY_RETRY_MAX_ATTEMPTS" 3
  if 10 < observabilityRetryMaxAttempts then
    throw "Invalid numeric configuration: OBSERVABILITY_RETRY_MAX_ATTEMPTS"
  let observabilityRetryBaseDelaySeconds ←
    seconds values "OBSERVABILITY_RETRY_BASE_DELAY_SECONDS" (.literal (mkRat 1 10))
  let observabilityCircuitFailureThreshold ←
    number values "OBSERVABILITY_CIRCUIT_FAILURE_THRESHOLD" 5
  let observabilityCircuitOpenSeconds ←
    seconds values "OBSERVABILITY_CIRCUIT_OPEN_SECONDS" (.finite 30)
  let httpHost := text values "HTTP_HOST" "0.0.0.0"
  let httpPort ← number values "HTTP_PORT" 8000
  let grpcEnabled := flag values "GRPC_ENABLED" false
  let grpcHost := text values "GRPC_HOST" "0.0.0.0"
  let grpcPort ← number values "GRPC_PORT" 9000
  let redisEnabled := flag values "REDIS_ENABLED" false
  let redisHost := text values "REDIS_HOST" "127.0.0.1"
  let redisPort ← number values "REDIS_PORT" 6379
  let redisConnectionPoolSize ← number values "REDIS_CONNECTION_POOL_SIZE" 2
  let redisCommandTimeoutSeconds ←
    seconds values "REDIS_COMMAND_TIMEOUT_SECONDS" (.finite 1)
  let redisPassword := text values "REDIS_PASSWORD" ""
  let idleConnectionTimeoutSeconds ←
    number values "HTTP_IDLE_CONNECTION_TIMEOUT_SECONDS" 60
  let rateLimitRequests ← nonNegativeNumber values "RATE_LIMIT_REQUESTS" 0
  let rateLimitWindowSeconds ← number values "RATE_LIMIT_WINDOW_SECONDS" 60
  let redisDb ← database values "REDIS_DB" 0
  return {
    secretKey, dbHost, dbPort, dbConnectionPoolSize, dbQueryTimeoutSeconds, dbName, dbUser,
    dbPassword, sentryDsn, errorTrackingProvider, otlpEndpoint,
    observabilityTimeoutSeconds, observabilityBatchSize, observabilityBatchDelaySeconds,
    observabilityMaxQueueSize, observabilityRetryMaxAttempts,
    observabilityRetryBaseDelaySeconds, observabilityCircuitFailureThreshold,
    observabilityCircuitOpenSeconds, httpHost, httpPort, grpcEnabled, grpcHost, grpcPort,
    redisEnabled, redisHost, redisPort, redisConnectionPoolSize,
    redisCommandTimeoutSeconds, redisPassword, redisDb, idleConnectionTimeoutSeconds,
    rateLimitRequests, rateLimitWindowSeconds }

/-- The keys that the environment overrides, in the order of `load`. -/
def overriddenKeys : List String :=
  ["SECRET_KEY", "DB_HOST", "DB_PORT", "DB_NAME", "DB_USER", "DB_PASSWORD", "SENTRY_DSN",
   "ERROR_TRACKING_PROVIDER", "OTLP_ENDPOINT", "OBSERVABILITY_TIMEOUT_SECONDS",
   "OBSERVABILITY_BATCH_SIZE", "OBSERVABILITY_BATCH_DELAY_SECONDS", "HTTP_HOST",
   "OBSERVABILITY_MAX_QUEUE_SIZE", "OBSERVABILITY_RETRY_MAX_ATTEMPTS",
   "OBSERVABILITY_RETRY_BASE_DELAY_SECONDS", "OBSERVABILITY_CIRCUIT_FAILURE_THRESHOLD",
   "OBSERVABILITY_CIRCUIT_OPEN_SECONDS", "HTTP_PORT", "GRPC_ENABLED", "GRPC_HOST",
   "GRPC_PORT", "HTTP_IDLE_CONNECTION_TIMEOUT_SECONDS", "RATE_LIMIT_REQUESTS",
   "RATE_LIMIT_WINDOW_SECONDS", "DB_CONNECTION_POOL_SIZE", "DB_QUERY_TIMEOUT_SECONDS",
   "REDIS_ENABLED", "REDIS_HOST", "REDIS_PORT", "REDIS_CONNECTION_POOL_SIZE",
   "REDIS_COMMAND_TIMEOUT_SECONDS", "REDIS_PASSWORD", "REDIS_DB"]

/-- `overrideFromEnvironment`, with the environment of the process. -/
def overrideFromEnvironment (environment : Values) (values : Values) (key : String) :
    Values :=
  match environment key with
  | none => values
  | some value => values.insert key value

/-- `AppConfig::load`, on the text of the file. -/
def load (envText : String) (environment : Values) : Except String AppConfig :=
  fromValues (overriddenKeys.foldl (overrideFromEnvironment environment) (readEnvFile envText))

/-! ## What the override and the check say -/

theorem overrideFromEnvironment_self (environment values : Values) (key : String) :
    overrideFromEnvironment environment values key key =
      (environment key).or (values key) := by
  unfold overrideFromEnvironment
  cases environment key with
  | none => rfl
  | some value => exact values.insert_self key value

theorem overrideFromEnvironment_of_ne {key other : String} (hne : other ≠ key)
    (environment values : Values) :
    overrideFromEnvironment environment values key other = values other := by
  unfold overrideFromEnvironment
  cases environment key with
  | none => rfl
  | some value => exact Values.insert_of_ne hne values value

/-- A key that the service knows has its value from the environment, and from
the file only when the environment has none. -/
theorem overrideFromEnvironment_apply (environment : Values) {key : String}
    (keys : List String) (values : Values) :
    keys.foldl (overrideFromEnvironment environment) values key =
      if key ∈ keys then (environment key).or (values key) else values key := by
  induction keys generalizing values with
  | nil => rfl
  | cons other keys ih =>
    rw [List.foldl_cons, ih]
    by_cases hkey : key = other
    · subst hkey
      rw [overrideFromEnvironment_self]
      simp only [List.mem_cons, true_or, if_true]
      split
      · cases environment key <;> rfl
      · rfl
    · rw [overrideFromEnvironment_of_ne hkey]
      simp [hkey]

/-- A computation that succeeds has succeeded in its first step. -/
theorem ok_of_bind {ε α β : Type} {x : Except ε α} {f : α → Except ε β} {b : β}
    (h : (x >>= f) = .ok b) : ∃ a, x = .ok a ∧ f a = .ok b := by
  cases x with
  | error error => simp [bind, Except.bind] at h
  | ok a => exact ⟨a, rfl, h⟩

/-- Where every field of a checked configuration comes from. -/
structure ReadFrom (values : Values) (config : AppConfig) : Prop where
  secretKey : required values "SECRET_KEY" = .ok config.secretKey
  dbHost : required values "DB_HOST" = .ok config.dbHost
  dbPort : number values "DB_PORT" 5432 = .ok config.dbPort
  dbConnectionPoolSize :
    number values "DB_CONNECTION_POOL_SIZE" 4 = .ok config.dbConnectionPoolSize
  dbQueryTimeoutSeconds :
    seconds values "DB_QUERY_TIMEOUT_SECONDS" (.finite 10) =
      .ok config.dbQueryTimeoutSeconds
  dbName : required values "DB_NAME" = .ok config.dbName
  dbUser : required values "DB_USER" = .ok config.dbUser
  observabilityTimeoutSeconds :
    seconds values "OBSERVABILITY_TIMEOUT_SECONDS" (.finite 1) =
      .ok config.observabilityTimeoutSeconds
  observabilityBatchSize :
    number values "OBSERVABILITY_BATCH_SIZE" 10 = .ok config.observabilityBatchSize
  observabilityBatchDelaySeconds :
    seconds values "OBSERVABILITY_BATCH_DELAY_SECONDS" (.literal (mkRat 1 10)) =
      .ok config.observabilityBatchDelaySeconds
  observabilityMaxQueueSize :
    number values "OBSERVABILITY_MAX_QUEUE_SIZE" 1024 = .ok config.observabilityMaxQueueSize
  observabilityRetryMaxAttempts :
    number values "OBSERVABILITY_RETRY_MAX_ATTEMPTS" 3 =
      .ok config.observabilityRetryMaxAttempts
  observabilityRetryBaseDelaySeconds :
    seconds values "OBSERVABILITY_RETRY_BASE_DELAY_SECONDS" (.literal (mkRat 1 10)) =
      .ok config.observabilityRetryBaseDelaySeconds
  observabilityCircuitFailureThreshold :
    number values "OBSERVABILITY_CIRCUIT_FAILURE_THRESHOLD" 5 =
      .ok config.observabilityCircuitFailureThreshold
  observabilityCircuitOpenSeconds :
    seconds values "OBSERVABILITY_CIRCUIT_OPEN_SECONDS" (.finite 30) =
      .ok config.observabilityCircuitOpenSeconds
  httpPort : number values "HTTP_PORT" 8000 = .ok config.httpPort
  grpcPort : number values "GRPC_PORT" 9000 = .ok config.grpcPort
  redisPort : number values "REDIS_PORT" 6379 = .ok config.redisPort
  redisConnectionPoolSize :
    number values "REDIS_CONNECTION_POOL_SIZE" 2 = .ok config.redisConnectionPoolSize
  redisCommandTimeoutSeconds :
    seconds values "REDIS_COMMAND_TIMEOUT_SECONDS" (.finite 1) =
      .ok config.redisCommandTimeoutSeconds
  idleConnectionTimeoutSeconds :
    number values "HTTP_IDLE_CONNECTION_TIMEOUT_SECONDS" 60 =
      .ok config.idleConnectionTimeoutSeconds
  rateLimitRequests :
    nonNegativeNumber values "RATE_LIMIT_REQUESTS" 0 = .ok config.rateLimitRequests
  rateLimitWindowSeconds :
    number values "RATE_LIMIT_WINDOW_SECONDS" 60 = .ok config.rateLimitWindowSeconds
  redisDb : database values "REDIS_DB" 0 = .ok config.redisDb
  attempts : config.observabilityRetryMaxAttempts ≤ 10
  dbPassword : config.dbPassword = text values "DB_PASSWORD" ""
  sentryDsn : config.sentryDsn = text values "SENTRY_DSN" ""
  errorTrackingProvider :
    config.errorTrackingProvider = text values "ERROR_TRACKING_PROVIDER" "none"
  otlpEndpoint : config.otlpEndpoint = text values "OTLP_ENDPOINT" ""
  httpHost : config.httpHost = text values "HTTP_HOST" "0.0.0.0"
  grpcHost : config.grpcHost = text values "GRPC_HOST" "0.0.0.0"
  redisHost : config.redisHost = text values "REDIS_HOST" "127.0.0.1"
  redisPassword : config.redisPassword = text values "REDIS_PASSWORD" ""
  grpcEnabled : config.grpcEnabled = flag values "GRPC_ENABLED" false
  redisEnabled : config.redisEnabled = flag values "REDIS_ENABLED" false

theorem readFrom_of_fromValues {values : Values} {config : AppConfig}
    (h : fromValues values = .ok config) : ReadFrom values config := by
  unfold fromValues at h
  obtain ⟨secretKey, hsecretKey, h⟩ := ok_of_bind h
  obtain ⟨dbHost, hdbHost, h⟩ := ok_of_bind h
  obtain ⟨dbPort, hdbPort, h⟩ := ok_of_bind h
  obtain ⟨dbConnectionPoolSize, hdbConnectionPoolSize, h⟩ := ok_of_bind h
  obtain ⟨dbQueryTimeoutSeconds, hdbQueryTimeoutSeconds, h⟩ := ok_of_bind h
  obtain ⟨dbName, hdbName, h⟩ := ok_of_bind h
  obtain ⟨dbUser, hdbUser, h⟩ := ok_of_bind h
  obtain ⟨observabilityTimeoutSeconds, hobservabilityTimeoutSeconds, h⟩ := ok_of_bind h
  obtain ⟨observabilityBatchSize, hobservabilityBatchSize, h⟩ := ok_of_bind h
  obtain ⟨observabilityBatchDelaySeconds, hobservabilityBatchDelaySeconds, h⟩ := ok_of_bind h
  obtain ⟨observabilityMaxQueueSize, hobservabilityMaxQueueSize, h⟩ := ok_of_bind h
  obtain ⟨observabilityRetryMaxAttempts, hobservabilityRetryMaxAttempts, h⟩ := ok_of_bind h
  have hattempts : observabilityRetryMaxAttempts ≤ 10 := by
    by_contra hmany
    rw [not_le] at hmany
    simp only [if_pos hmany] at h
    obtain ⟨_, hthrow, _⟩ := ok_of_bind h
    cases hthrow
  simp only [if_neg (Int.not_lt.2 hattempts)] at h
  obtain ⟨observabilityRetryBaseDelaySeconds, hobservabilityRetryBaseDelaySeconds, h⟩ :=
    ok_of_bind h
  obtain ⟨observabilityCircuitFailureThreshold, hobservabilityCircuitFailureThreshold, h⟩ :=
    ok_of_bind h
  obtain ⟨observabilityCircuitOpenSeconds, hobservabilityCircuitOpenSeconds, h⟩ := ok_of_bind h
  obtain ⟨httpPort, hhttpPort, h⟩ := ok_of_bind h
  obtain ⟨grpcPort, hgrpcPort, h⟩ := ok_of_bind h
  obtain ⟨redisPort, hredisPort, h⟩ := ok_of_bind h
  obtain ⟨redisConnectionPoolSize, hredisConnectionPoolSize, h⟩ := ok_of_bind h
  obtain ⟨redisCommandTimeoutSeconds, hredisCommandTimeoutSeconds, h⟩ := ok_of_bind h
  obtain ⟨idleConnectionTimeoutSeconds, hidleConnectionTimeoutSeconds, h⟩ := ok_of_bind h
  obtain ⟨rateLimitRequests, hrateLimitRequests, h⟩ := ok_of_bind h
  obtain ⟨rateLimitWindowSeconds, hrateLimitWindowSeconds, h⟩ := ok_of_bind h
  obtain ⟨redisDb, hredisDb, h⟩ := ok_of_bind h
  cases h
  exact {
    secretKey := hsecretKey
    dbHost := hdbHost
    dbPort := hdbPort
    dbConnectionPoolSize := hdbConnectionPoolSize
    dbQueryTimeoutSeconds := hdbQueryTimeoutSeconds
    dbName := hdbName
    dbUser := hdbUser
    observabilityTimeoutSeconds := hobservabilityTimeoutSeconds
    observabilityBatchSize := hobservabilityBatchSize
    observabilityBatchDelaySeconds := hobservabilityBatchDelaySeconds
    observabilityMaxQueueSize := hobservabilityMaxQueueSize
    observabilityRetryMaxAttempts := hobservabilityRetryMaxAttempts
    observabilityRetryBaseDelaySeconds := hobservabilityRetryBaseDelaySeconds
    observabilityCircuitFailureThreshold := hobservabilityCircuitFailureThreshold
    observabilityCircuitOpenSeconds := hobservabilityCircuitOpenSeconds
    httpPort := hhttpPort
    grpcPort := hgrpcPort
    redisPort := hredisPort
    redisConnectionPoolSize := hredisConnectionPoolSize
    redisCommandTimeoutSeconds := hredisCommandTimeoutSeconds
    idleConnectionTimeoutSeconds := hidleConnectionTimeoutSeconds
    rateLimitRequests := hrateLimitRequests
    rateLimitWindowSeconds := hrateLimitWindowSeconds
    redisDb := hredisDb
    attempts := hattempts
    dbPassword := rfl
    sentryDsn := rfl
    errorTrackingProvider := rfl
    otlpEndpoint := rfl
    httpHost := rfl
    grpcHost := rfl
    redisHost := rfl
    redisPassword := rfl
    grpcEnabled := rfl
    redisEnabled := rfl }

/-- The values of every configuration are the ones that the check lets
through, and nothing else is let through. -/
theorem fromValues_ok_iff {values : Values} {config : AppConfig} :
    fromValues values = .ok config ↔ ReadFrom values config := by
  refine ⟨readFrom_of_fromValues, fun h => ?_⟩
  simp only
    [fromValues, h.secretKey, h.dbHost, h.dbPort, h.dbConnectionPoolSize,
     h.dbQueryTimeoutSeconds, h.dbName, h.dbUser, h.observabilityTimeoutSeconds,
     h.observabilityBatchSize, h.observabilityBatchDelaySeconds,
     h.observabilityMaxQueueSize, h.observabilityRetryMaxAttempts,
     h.observabilityRetryBaseDelaySeconds, h.observabilityCircuitFailureThreshold,
     h.observabilityCircuitOpenSeconds, h.httpPort, h.grpcPort, h.redisPort,
     h.redisConnectionPoolSize, h.redisCommandTimeoutSeconds,
     h.idleConnectionTimeoutSeconds, h.rateLimitRequests, h.rateLimitWindowSeconds,
     h.redisDb, bind, Except.bind,
     if_neg (Int.not_lt.2 h.attempts)]
  rw [← h.dbPassword, ← h.sentryDsn, ← h.errorTrackingProvider, ← h.otlpEndpoint, ← h.httpHost,
    ← h.grpcHost, ← h.redisHost, ← h.redisPassword, ← h.grpcEnabled, ← h.redisEnabled]
  rfl

/-- The signing key of a checked configuration is the value of its key, and it
is not empty. -/
theorem secretKey_of_fromValues {values : Values} {config : AppConfig}
    (h : fromValues values = .ok config) :
    values "SECRET_KEY" = some config.secretKey ∧ config.secretKey ≠ "" := by
  have hkey := (readFrom_of_fromValues h).secretKey
  unfold required at hkey
  cases hpresent : present values "SECRET_KEY" with
  | none => simp [hpresent] at hkey
  | some value =>
    simp only [hpresent, Except.ok.injEq] at hkey
    obtain ⟨hvalue, hnonempty⟩ := Option.filter_eq_some_iff.1 hpresent
    rw [← hkey]
    exact ⟨hvalue, by simpa using hnonempty⟩

end AppConfig

end DrogonStarter
