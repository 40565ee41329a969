import DrogonStarter.Config.AppConfig
import DrogonStarter.Lib.FixedPoint
import DrogonStarter.Observability.Settings

/-!
# Which reporter is active

`runServer` hands its configuration to `configure`, which prints the numbers into a map of
settings.  `configureErrorReporter` looks up the factory of the provider, and the factory
chooses an endpoint and constructs the reporter.  Whatever goes wrong on the way leaves the
reporter that does nothing.

* `ConstructedFrom` says what a constructed reporter has read, and
  `constructed_iff` that the constructor reads nothing else.
* `provider_of_configureErrorReporter` says that only the provider named can become active.
* `runServerReporter_otlp_iff` says which reporter is active for the provider `otlp`.
* `splitEndpoint_append` says where a reporter sends its requests.
-/

namespace DrogonStarter.Observability

open CppNumber

/-- `struct ErrorReporterConfig`. -/
structure ErrorReporterConfig where
  provider : String
  dsn : String
  settings : ErrorContext

/-- The reporters that a factory returns. -/
inductive ErrorReporter where
  | noop
  | http (reporter : ReporterConfig)
  /-- An adapter that the application has registered. -/
  | adapter (provider : String)

def ErrorReporter.provider : ErrorReporter → String
  | .noop => "none"
  | .http reporter => reporter.provider
  | .adapter provider => provider

/-- What a factory throws. -/
inductive FactoryError where
  | construction (error : ConstructionError)
  /-- An exception of the HTTP client or of an adapter. -/
  | other

abbrev ErrorReporterFactory := ErrorReporterConfig → Except FactoryError (Option ErrorReporter)

/-- What the reporters take from the process: `std::getenv`, on which hosts
`HttpClient::newHttpClient` throws, and the `std::stod` of its library. -/
structure Process where
  environment : String → Option String
  clientThrows : String → Bool
  stod : String → Except ConversionError Double := CppNumber.stod

/-- The variables of the module. -/
structure Reporting where
  builtInsRegistered : Bool := false
  providerFactories : String → Option ErrorReporterFactory := fun _ => none
  configuredReporter : ErrorReporter := .noop

section Factories

variable (process : Process)

/-- The constructor of `HttpErrorReporter`, with the client that it makes. -/
def newHttpErrorReporter (provider endpoint : String) (settings : ErrorContext) :
    Except FactoryError ErrorReporter :=
  match ReporterConfig.construct process.stod provider endpoint settings with
  | .error error => .error (.construction error)
  | .ok reporter =>
    if process.clientThrows reporter.endpoint then .error .other else .ok (.http reporter)

/-- `OtlpErrorReporter::endpoint`. -/
def OtlpErrorReporter.endpoint (config : ErrorReporterConfig) : String :=
  if config.dsn ≠ "" then config.dsn
  else
    match config.settings "otlp_endpoint" with
    | some value => value
    | none => (process.environment "OTLP_ENDPOINT").getD ""

/-- The factory of the provider `otlp`. -/
def otlpFactory : ErrorReporterFactory := fun config =>
  let endpoint := config.dsn
  let endpoint :=
    if endpoint = "" then (config.settings "otlp_endpoint").getD endpoint else endpoint
  let endpoint :=
    if endpoint = "" then (process.environment "OTLP_ENDPOINT").getD endpoint else endpoint
  if endpoint = "" then .ok none
  else
    (newHttpErrorReporter process "otlp" (OtlpErrorReporter.endpoint process config)
      config.settings).map some

/-- `SentryErrorReporter::endpoint`. -/
def SentryErrorReporter.endpoint (config : ErrorReporterConfig) :
    Except ConstructionError String :=
  let dsn := config.dsn.toList
  match Text.find "@".toList dsn, Text.find "://".toList dsn with
  | some separator, some scheme =>
    let rest := dsn.drop (scheme + 3)
    -- A count that is below zero is a very large one, and reaches to the end.
    let key := if separator < scheme + 3 then rest else rest.take (separator - (scheme + 3))
    let afterKey := dsn.drop (separator + 1)
    match Text.find "/".toList afterKey with
    | none => .error (.invalidArgument "SENTRY_DSN must include a project id")
    | some hostLength =>
      let project := afterKey.drop (hostLength + 1)
      if project = [] then .error (.invalidArgument "SENTRY_DSN must include a project id")
      else
        .ok (String.ofList (dsn.take (scheme + 3) ++ afterKey.take hostLength ++
          "/api/".toList ++ project ++ "/envelope/?sentry_version=7&sentry_key=".toList ++ key))
  | _, _ => .error (.invalidArgument "SENTRY_DSN must be a URL")

/-- The factory of the provider `sentry`. -/
def sentryFactory : ErrorReporterFactory := fun config =>
  if config.dsn = "" then .ok none
  else
    match SentryErrorReporter.endpoint config with
    | .error error => .error (.construction error)
    | .ok endpoint => (newHttpErrorReporter process "sentry" endpoint config.settings).map some

namespace Reporting

def register (state : Reporting) (provider : String) (factory : ErrorReporterFactory) :
    Reporting :=
  { state with
    providerFactories := fun name =>
      if name = provider then some factory else state.providerFactories name }

/-- The body of `std::call_once`. -/
def registerBuiltInProviders (state : Reporting) : Reporting :=
  if state.builtInsRegistered then state
  else
    { (state.register "otlp" (otlpFactory process)).register "sentry" (sentryFactory process) with
      builtInsRegistered := true }

end Reporting

/-- The timeout of the environment goes before the timeout of the settings. -/
def withEnvironmentTimeout (settings : ErrorContext) : ErrorContext :=
  match process.environment "OBSERVABILITY_TIMEOUT_SECONDS" with
  | none => settings
  | some timeout => Values.insert settings "timeout_seconds" timeout

def configureErrorReporter (state : Reporting) (requestedProvider sentryDsn : String)
    (settings : ErrorContext) : Reporting :=
  let state := state.registerBuiltInProviders process
  let provider := if requestedProvider = "" then "none" else requestedProvider
  let state := { state with configuredReporter := .noop }
  if provider = "none" ∨ provider = "noop" then state
  else
    match state.providerFactories provider with
    | none => state
    | some factory =>
      match factory
        { provider, dsn := sentryDsn, settings := withEnvironmentTimeout process settings } with
      | .ok (some reporter) => { state with configuredReporter := reporter }
      | .ok none | .error _ => state

/-- The configured value, or the variable when there is none. -/
def configuredOr (name configured : String) : String :=
  if configured = "" then (process.environment name).getD configured else configured

/-- The map that `configure` makes of its arguments. -/
def configuredSettings (otlpEndpoint : String) (timeoutSeconds : Double) (batchSize : Int)
    (batchDelaySeconds : Double) (maxQueueSize : Int) (retryMaxAttempts : Int)
    (retryBaseDelaySeconds : Double) (circuitFailureThreshold : Int)
    (circuitOpenSeconds : Double) : ErrorContext :=
  let settings : ErrorContext := fun _ => none
  let settings :=
    if otlpEndpoint = "" then settings else Values.insert settings "otlp_endpoint" otlpEndpoint
  let settings := Values.insert settings "timeout_seconds" (toString timeoutSeconds)
  let settings := Values.insert settings "batch_size" (toString batchSize)
  let settings := Values.insert settings "batch_delay_seconds" (toString batchDelaySeconds)
  let settings := Values.insert settings "max_queue_size" (toString maxQueueSize)
  let settings := Values.insert settings "retry_max_attempts" (toString retryMaxAttempts)
  let settings :=
    Values.insert settings "retry_base_delay_seconds" (toString retryBaseDelaySeconds)
  let settings :=
    Values.insert settings "circuit_failure_threshold" (toString circuitFailureThreshold)
  Values.insert settings "circuit_open_seconds" (toString circuitOpenSeconds)

def configure (state : Reporting) (configuredProvider configuredDsn otlpEndpoint : String)
    (timeoutSeconds : Double) (batchSize : Int) (batchDelaySeconds : Double) (maxQueueSize : Int)
    (retryMaxAttempts : Int) (retryBaseDelaySeconds : Double) (circuitFailureThreshold : Int)
    (circuitOpenSeconds : Double) : Reporting :=
  configureErrorReporter process state
    (configuredOr process "ERROR_TRACKING_PROVIDER" configuredProvider)
    (configuredOr process "SENTRY_DSN" configuredDsn)
    (configuredSettings otlpEndpoint timeoutSeconds batchSize batchDelaySeconds maxQueueSize
      retryMaxAttempts retryBaseDelaySeconds circuitFailureThreshold circuitOpenSeconds)

/-- The reporter that the call in `runServer` leaves behind. -/
def runServerReporter (config : AppConfig) : ErrorReporter :=
  (configure process {} config.errorTrackingProvider config.sentryDsn config.otlpEndpoint
    config.observabilityTimeoutSeconds config.observabilityBatchSize
    config.observabilityBatchDelaySeconds config.observabilityMaxQueueSize
    config.observabilityRetryMaxAttempts config.observabilityRetryBaseDelaySeconds
    config.observabilityCircuitFailureThreshold
    config.observabilityCircuitOpenSeconds).configuredReporter

end Factories

/-! ## The constructor -/

/-- Where the members of a reporter come from. -/
structure ConstructedFrom (stod : String → Except ConversionError Double)
    (provider endpoint : String) (settings : ErrorContext) (reporter : ReporterConfig) : Prop
    where
  provider : reporter.provider = provider
  endpoint : (reporter.endpoint, reporter.requestPath) = splitEndpoint endpoint
  required : reporter.endpoint ≠ ""
  timeoutSeconds :
    readSetting stod settings "timeout_seconds" (.finite 1) = .ok reporter.timeoutSeconds
  batchSize : readSetting stoul settings "batch_size" 10 = .ok reporter.batchSize
  batchDelaySeconds :
    readSetting stod settings "batch_delay_seconds" (.literal (mkRat 1 10)) =
      .ok reporter.batchDelaySeconds
  maxQueueSize : readSetting stoul settings "max_queue_size" 1024 = .ok reporter.maxQueueSize
  maxAttempts : readSetting stoul settings "retry_max_attempts" 3 = .ok reporter.maxAttempts
  retryBaseDelaySeconds :
    readSetting stod settings "retry_base_delay_seconds" (.literal (mkRat 1 10)) =
      .ok reporter.retryBaseDelaySeconds
  circuitFailureThreshold :
    readSetting stoul settings "circuit_failure_threshold" 5 =
      .ok reporter.circuitFailureThreshold
  circuitOpenSeconds :
    readSetting stod settings "circuit_open_seconds" (.finite 30) =
      .ok reporter.circuitOpenSeconds

/-- The constructor reads its endpoint and its settings, and nothing else. -/
theorem constructed_iff {stod : String → Except ConversionError Double}
    {provider endpoint : String} {settings : ErrorContext} {reporter : ReporterConfig} :
    ReporterConfig.construct stod provider endpoint settings = .ok reporter ↔
      ConstructedFrom stod provider endpoint settings reporter := by
  constructor
  · intro h
    unfold ReporterConfig.construct at h
    by_cases hrequired : (splitEndpoint endpoint).1 = ""
    · simp only [hrequired, if_true] at h
      obtain ⟨_, hthrow, _⟩ := AppConfig.ok_of_bind h
      cases hthrow
    simp only [hrequired, if_false] at h
    obtain ⟨timeoutSeconds, htimeoutSeconds, h⟩ := AppConfig.ok_of_bind h
    obtain ⟨batchSize, hbatchSize, h⟩ := AppConfig.ok_of_bind h
    obtain ⟨batchDelaySeconds, hbatchDelaySeconds, h⟩ := AppConfig.ok_of_bind h
    obtain ⟨maxQueueSize, hmaxQueueSize, h⟩ := AppConfig.ok_of_bind h
    obtain ⟨maxAttempts, hmaxAttempts, h⟩ := AppConfig.ok_of_bind h
    obtain ⟨retryBaseDelaySeconds, hretryBaseDelaySeconds, h⟩ := AppConfig.ok_of_bind h
    obtain ⟨circuitFailureThreshold, hcircuitFailureThreshold, h⟩ := AppConfig.ok_of_bind h
    obtain ⟨circuitOpenSeconds, hcircuitOpenSeconds, h⟩ := AppConfig.ok_of_bind h
    split at h
    · cases h
      exact {
        provider := rfl
        endpoint := rfl
        required := hrequired
        timeoutSeconds := htimeoutSeconds
        batchSize := hbatchSize
        batchDelaySeconds := hbatchDelaySeconds
        maxQueueSize := hmaxQueueSize
        maxAttempts := hmaxAttempts
        retryBaseDelaySeconds := hretryBaseDelaySeconds
        circuitFailureThreshold := hcircuitFailureThreshold
        circuitOpenSeconds := hcircuitOpenSeconds }
    · cases h
  · intro h
    unfold ReporterConfig.construct
    simp only [← h.endpoint, if_neg h.required, h.timeoutSeconds, h.batchSize,
      h.batchDelaySeconds, h.maxQueueSize, h.maxAttempts, h.retryBaseDelaySeconds,
      h.circuitFailureThreshold, h.circuitOpenSeconds, bind, Except.bind, ← h.provider]
    exact dif_pos reporter.accepted

theorem provider_of_newHttpErrorReporter {process : Process} {provider endpoint : String}
    {settings : ErrorContext} {reporter : ErrorReporter}
    (h : newHttpErrorReporter process provider endpoint settings = .ok reporter) :
    reporter.provider = provider := by
  unfold newHttpErrorReporter at h
  cases hconstruct : ReporterConfig.construct process.stod provider endpoint settings with
  | error error =>
    rw [hconstruct] at h
    cases h
  | ok constructed =>
    simp only [hconstruct] at h
    split at h
    · cases h
    · cases h
      exact (constructed_iff.1 hconstruct).provider

/-! ## The active reporter -/

/-- A factory that is built in returns a reporter of its own provider. -/
theorem provider_of_builtIn {process : Process} {provider : String}
    {factory : ErrorReporterFactory} {config : ErrorReporterConfig} {reporter : ErrorReporter}
    (hfactory : (Reporting.registerBuiltInProviders process {}).providerFactories provider =
      some factory) (h : factory config = .ok (some reporter)) : reporter.provider = provider := by
  have hnew : ∀ {endpoint : String}, (newHttpErrorReporter process provider endpoint
      config.settings).map some = .ok (some reporter) → reporter.provider = provider := by
    intro endpoint hmap
    cases hnew : newHttpErrorReporter process provider endpoint config.settings with
    | error error =>
      rw [hnew] at hmap
      cases hmap
    | ok made =>
      rw [hnew] at hmap
      cases hmap
      exact provider_of_newHttpErrorReporter hnew
  by_cases hsentry : provider = "sentry"
  · subst hsentry
    cases hfactory
    unfold sentryFactory at h
    split at h
    · cases h
    · split at h
      · cases h
      · exact hnew h
  · by_cases hotlp : provider = "otlp"
    · subst hotlp
      cases hfactory
      simp only [otlpFactory] at h
      rcases ite_eq_iff.1 h with ⟨_, hnull⟩ | ⟨_, hmade⟩
      · cases hnull
      · exact hnew hmade
    · have hnone : (Reporting.registerBuiltInProviders process {}).providerFactories provider =
          none := by
        change (if provider = "sentry" then _ else if provider = "otlp" then _ else none) = none
        rw [if_neg hsentry, if_neg hotlp]
      rw [hnone] at hfactory
      cases hfactory

/-- The first configuration activates a reporter of the provider that it names, or none. -/
theorem provider_of_configureErrorReporter (process : Process) (provider dsn : String)
    (settings : ErrorContext) :
    (configureErrorReporter process {} provider dsn settings).configuredReporter.provider =
        "none" ∨
      (configureErrorReporter process {} provider dsn settings).configuredReporter.provider =
        provider := by
  unfold configureErrorReporter
  by_cases hprovider : provider = ""
  · simp only [hprovider, if_true, true_or]
    exact Or.inl rfl
  · simp only [if_neg hprovider]
    split
    · exact Or.inl rfl
    · cases hfactory : (Reporting.registerBuiltInProviders process {}).providerFactories
          provider with
      | none => exact Or.inl rfl
      | some factory =>
        simp only
        split
        · rename_i reporter hreporter
          exact Or.inr (provider_of_builtIn hfactory hreporter)
        · exact Or.inl rfl
        · exact Or.inl rfl

/-- The settings that `runServer` hands on. -/
def printedSettings (config : AppConfig) : ErrorContext :=
  configuredSettings config.otlpEndpoint config.observabilityTimeoutSeconds
    config.observabilityBatchSize config.observabilityBatchDelaySeconds
    config.observabilityMaxQueueSize config.observabilityRetryMaxAttempts
    config.observabilityRetryBaseDelaySeconds config.observabilityCircuitFailureThreshold
    config.observabilityCircuitOpenSeconds

/-- What the factories are given when the provider is `otlp`. -/
def otlpConfig (process : Process) (config : AppConfig) : ErrorReporterConfig where
  provider := "otlp"
  dsn := configuredOr process "SENTRY_DSN" config.sentryDsn
  settings := withEnvironmentTimeout process (printedSettings config)

variable {process : Process} {config : AppConfig} {reporter : ReporterConfig}

theorem runServerReporter_otlp (hprovider : config.errorTrackingProvider = "otlp") :
    runServerReporter process config =
      match otlpFactory process (otlpConfig process config) with
      | .ok (some reporter) => reporter
      | .ok none | .error _ => .noop := by
  have hconfigured : configuredOr process "ERROR_TRACKING_PROVIDER" "otlp" = "otlp" := rfl
  have hfactory : (Reporting.registerBuiltInProviders process {}).providerFactories "otlp" =
      some (otlpFactory process) := rfl
  unfold runServerReporter configure configureErrorReporter
  rw [hprovider, hconfigured]
  simp only [String.reduceEq, if_false, or_self]
  rw [hfactory]
  change (match otlpFactory process (otlpConfig process config) with
    | .ok (some reporter) => _
    | .ok none | .error _ => _ : Reporting).configuredReporter = _
  match otlpFactory process (otlpConfig process config) with
  | .ok (some reporter) => rfl
  | .ok none => rfl
  | .error _ => rfl

theorem printedSettings_otlp_endpoint (hendpoint : config.otlpEndpoint ≠ "") :
    withEnvironmentTimeout process (printedSettings config) "otlp_endpoint" =
      some config.otlpEndpoint := by
  have hprinted : printedSettings config "otlp_endpoint" = some config.otlpEndpoint := by
    unfold printedSettings configuredSettings
    rw [if_neg hendpoint]
    rfl
  unfold withEnvironmentTimeout
  cases process.environment "OBSERVABILITY_TIMEOUT_SECONDS" with
  | none => exact hprinted
  | some timeout => exact hprinted

/-- The DSN goes before the endpoint that is configured. -/
theorem otlp_endpoint_eq (hendpoint : config.otlpEndpoint ≠ "") :
    OtlpErrorReporter.endpoint process (otlpConfig process config) =
      if configuredOr process "SENTRY_DSN" config.sentryDsn = "" then config.otlpEndpoint
      else configuredOr process "SENTRY_DSN" config.sentryDsn := by
  unfold OtlpErrorReporter.endpoint
  by_cases hdsn : configuredOr process "SENTRY_DSN" config.sentryDsn = ""
  · simp only [otlpConfig, hdsn, ne_eq, not_true_eq_false, if_false, if_true,
      printedSettings_otlp_endpoint hendpoint]
  · simp only [otlpConfig, hdsn, ne_eq, not_false_eq_true, if_true, if_false]

/-- With an endpoint that is configured the factory always constructs a reporter. -/
theorem otlpFactory_eq (hendpoint : config.otlpEndpoint ≠ "") :
    otlpFactory process (otlpConfig process config) =
      (newHttpErrorReporter process "otlp"
        (OtlpErrorReporter.endpoint process (otlpConfig process config))
        (withEnvironmentTimeout process (printedSettings config))).map some := by
  have hsettings : (otlpConfig process config).settings "otlp_endpoint" =
      some config.otlpEndpoint := printedSettings_otlp_endpoint hendpoint
  unfold otlpFactory
  by_cases hdsn : (otlpConfig process config).dsn = ""
  · simp only [hdsn, if_true, hsettings, Option.getD_some, if_neg hendpoint]
    rfl
  · simp only [if_neg hdsn]
    rfl

/-- For the provider `otlp` the active reporter is the one that is constructed. -/
theorem runServerReporter_otlp_iff (hprovider : config.errorTrackingProvider = "otlp")
    (hendpoint : config.otlpEndpoint ≠ "") :
    runServerReporter process config = .http reporter ↔
      ConstructedFrom process.stod "otlp"
        (OtlpErrorReporter.endpoint process (otlpConfig process config))
        (withEnvironmentTimeout process (printedSettings config)) reporter ∧
      process.clientThrows reporter.endpoint = false := by
  rw [runServerReporter_otlp hprovider, otlpFactory_eq hendpoint, ← constructed_iff]
  unfold newHttpErrorReporter
  cases ReporterConfig.construct process.stod "otlp"
      (OtlpErrorReporter.endpoint process (otlpConfig process config))
      (withEnvironmentTimeout process (printedSettings config)) with
  | error error => simp [Except.map]
  | ok constructed =>
    cases hclient : process.clientThrows constructed.endpoint with
    | true =>
      have hother : constructed = reporter → process.clientThrows reporter.endpoint = true := by
        rintro rfl
        exact hclient
      simpa [Except.map, hclient] using hother
    | false =>
      have hsame : constructed = reporter → process.clientThrows reporter.endpoint = false := by
        rintro rfl
        exact hclient
      simpa [Except.map, hclient] using hsame

/-! ## Where the requests go -/

/-- The endpoint has a slash after its scheme. -/
def hasPath (endpoint : String) : Bool :=
  match Text.find "://".toList endpoint.toList with
  | none => false
  | some schemeEnd => decide ('/' ∈ endpoint.toList.drop (schemeEnd + 3))

/-- An endpoint, with a slash when it has no path. -/
def address (endpoint : String) : String :=
  if hasPath endpoint then endpoint else endpoint ++ "/"

/-- The address of the requests of a reporter: its endpoint and then its path. -/
def ErrorReporter.destination : ErrorReporter → Option String
  | .http reporter => some (reporter.endpoint ++ reporter.requestPath)
  | .noop | .adapter _ => none

theorem find_singleton_eq_none_iff {c : Char} {text : List Char} :
    Text.find [c] text = none ↔ c ∉ text := by
  induction text with
  | nil => simp [Text.find]
  | cons d rest ih =>
    by_cases hd : c = d
    · simp [Text.find, hd]
    · simp [Text.find, hd, ih]

/-- The two parts of an endpoint are the address again. -/
theorem splitEndpoint_append (endpoint : String) :
    (splitEndpoint endpoint).1 ++ (splitEndpoint endpoint).2 = address endpoint := by
  unfold address
  cases hscheme : Text.find "://".toList endpoint.toList with
  | none =>
    have hnone : hasPath endpoint = false := by simp only [hasPath, hscheme]
    simp only [splitEndpoint, hscheme, hnone, Option.bind_none]
    rfl
  | some schemeEnd =>
    cases hpath : Text.find "/".toList (endpoint.toList.drop (schemeEnd + 3)) with
    | none =>
      have hnone : hasPath endpoint = false := by
        simp only [hasPath, hscheme]
        exact decide_eq_false (find_singleton_eq_none_iff.1 hpath)
      simp only [splitEndpoint, hscheme, hpath, hnone, Option.bind_some, Option.map_none]
      rfl
    | some start =>
      have hsome : hasPath endpoint = true := by
        simp only [hasPath, hscheme]
        refine decide_eq_true (by_contra fun hnot => ?_)
        exact Option.some_ne_none start (hpath.symm.trans (find_singleton_eq_none_iff.2 hnot))
      simp only [splitEndpoint, hscheme, hpath, hsome, Option.bind_some, Option.map_some, if_true]
      rw [← String.ofList_append, List.take_append_drop, String.ofList_toList]

/-- The path starts after the scheme, so there is something before it. -/
theorem splitEndpoint_fst_ne {endpoint : String} (hendpoint : endpoint ≠ "") :
    (splitEndpoint endpoint).1 ≠ "" := by
  simp only [splitEndpoint]
  split
  · exact hendpoint
  · rename_i start hstart
    obtain ⟨schemeEnd, _, hstart⟩ := Option.bind_eq_some_iff.1 hstart
    obtain ⟨length, _, rfl⟩ := Option.map_eq_some_iff.1 hstart
    intro hempty
    have htake : endpoint.toList.take (length + (schemeEnd + 3)) = [] := by
      simpa using congrArg String.toList hempty
    rcases List.take_eq_nil_iff.1 htake with hzero | hnil
    · omega
    · exact hendpoint (String.toList_eq_nil_iff.1 hnil)

end DrogonStarter.Observability
