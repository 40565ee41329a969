import DrogonStarter.Config.Validation
import DrogonStarter.Observability.ErrorReporting

/-!
# The configuration that runs

The numbers of a checked configuration are printed and read back before a reporter has them,
and the destination passes three places that each prefer another source.

* `runs_configured_iff` says which configurations arrive at the reporter as they were.
* `destination_iff` says when the reporter of the provider `otlp` sends to the endpoint that
  is configured for it.
-/

namespace DrogonStarter

open CppNumber

/-! ## Checked numbers -/

namespace AppConfig

variable {values : Values} {key : String}

/-- A number of seconds that is positive and at most an hour. -/
def Duration (d : Double) : Prop := ∃ q, d = .finite q ∧ 0 < q ∧ q ≤ 3600

theorem number_range {fallback n : Int} (hfallback : 1 ≤ fallback ∧ fallback ≤ 65535)
    (h : number values key fallback = .ok n) : 1 ≤ n ∧ n ≤ 65535 := by
  rcases parsed_eq_ok_iff.1 h with ⟨_, rfl⟩ | ⟨_, _, _, hrange⟩
  · exact hfallback
  · have hbounds := of_decide_eq_true hrange
    omega

/-- What passes the check is a duration unless it is not a number. -/
theorem seconds_range {fallback d : Double}
    (hfallback : ¬ (fallback ≤ 0 ∨ .finite 3600 < fallback))
    (h : seconds values key fallback = .ok d) (hd : d ≠ .nan) : Duration d := by
  have hrange : ¬ (d ≤ 0 ∨ .finite 3600 < d) := by
    rcases parsed_eq_ok_iff.1 h with ⟨_, rfl⟩ | ⟨_, _, _, hrange⟩
    · exact hfallback
    · exact of_decide_eq_true hrange
  rw [not_or] at hrange
  cases d with
  | finite q =>
    refine ⟨q, rfl, ?_, ?_⟩
    · simpa using hrange.1
    · simpa using hrange.2
  | infinity negative =>
    cases negative with
    | true => exact absurd rfl hrange.1
    | false => exact absurd rfl hrange.2
  | nan => exact absurd rfl hd

/-- The durations of a reporter. -/
def telemetryDurations (config : AppConfig) : List Double :=
  [config.observabilityTimeoutSeconds, config.observabilityBatchDelaySeconds,
   config.observabilityRetryBaseDelaySeconds, config.observabilityCircuitOpenSeconds]

end AppConfig

namespace Observability

/-- The reporter has the settings of the configuration. -/
structure Reflects (reporter : ReporterConfig) (config : AppConfig) : Prop where
  provider : reporter.provider = "otlp"
  timeoutSeconds : reporter.timeoutSeconds = config.observabilityTimeoutSeconds
  batchSize : (reporter.batchSize : Int) = config.observabilityBatchSize
  batchDelaySeconds : reporter.batchDelaySeconds = config.observabilityBatchDelaySeconds
  maxQueueSize : (reporter.maxQueueSize : Int) = config.observabilityMaxQueueSize
  maxAttempts : (reporter.maxAttempts : Int) = config.observabilityRetryMaxAttempts
  retryBaseDelaySeconds :
    reporter.retryBaseDelaySeconds = config.observabilityRetryBaseDelaySeconds
  circuitFailureThreshold :
    (reporter.circuitFailureThreshold : Int) = config.observabilityCircuitFailureThreshold
  circuitOpenSeconds : reporter.circuitOpenSeconds = config.observabilityCircuitOpenSeconds

/-- The configuration that was checked is the one that runs. -/
def RunsConfigured (process : Process) (config : AppConfig) : Prop :=
  ∃ reporter, runServerReporter process config = .http reporter ∧ Reflects reporter config

/-! ## One setting -/

variable {settings : ErrorContext} {key : String}

/-- An integer that passed the check arrives. -/
theorem readSetting_integer {n : Int} (hn : 1 ≤ n ∧ n ≤ 65535)
    (hkey : settings key = some (toString n)) (fallback : Nat) :
    readSetting stoul settings key fallback = .ok n.toNat := by
  obtain ⟨m, rfl⟩ := Int.eq_ofNat_of_zero_le (by omega : 0 ≤ n)
  have hstoul : stoul (toString (m : Int)) = .ok m := stoul_toString (by omega)
  simp only [readSetting, hkey, hstoul, Int.toNat_natCast]
  rfl

/-- The number that is read back after it was printed. -/
def readBack : Double → Double
  | .finite q => .literal (Double.sixDecimals q)
  | d => d

/-- A duration arrives as what was printed. -/
theorem readSetting_duration {d : Double} (hd : AppConfig.Duration d)
    (hkey : settings key = some (toString d)) (fallback : Double) :
    readSetting stod settings key fallback = .ok (readBack d) := by
  obtain ⟨q, rfl, hpos, hle⟩ := hd
  have hsmall : q ≤ 2 ^ 20 := hle.trans (by norm_num)
  simp only [readSetting, hkey, stod_toString, Double.toDouble_sixDecimals hpos.le hsmall]
  rfl

/-- Below an hour the nearest `double` is so near that six decimals tell a number from its
neighbours. -/
theorem sixDecimals_nearest {n : Nat} (hpos : 0 < binary64.nearest (n / 10 ^ 6))
    (hle : binary64.nearest (n / 10 ^ 6) ≤ 3600) :
    Double.sixDecimals (binary64.nearest (n / 10 ^ 6)) = n / 10 ^ 6 := by
  have hnonneg : (0 : ℚ) ≤ n / 10 ^ 6 := by positivity
  have hsmall : (n / 10 ^ 6 : ℚ) < 2 ^ (12 : Int) := by
    by_contra hlarge
    have hrepresents : binary64.Represents (2 ^ (12 : Int)) :=
      ⟨1, 12, by decide, by decide, by simp⟩
    have hover := FloatFormat.le_nearest hrepresents (not_lt.1 hlarge)
    norm_num at hover
    linarith
  have herror := FloatFormat.abs_nearest_sub (f := binary64) (k := 12)
    (by rwa [abs_of_nonneg hnonneg]) (by decide)
  refine Double.sixDecimals_eq hpos.le ?_
  have hscaled : binary64.nearest (n / 10 ^ 6) * 10 ^ 6 - n =
      (binary64.nearest (n / 10 ^ 6) - n / 10 ^ 6) * 10 ^ 6 := by
    field_simp
  rw [hscaled, abs_mul, abs_of_pos (by norm_num : (0 : ℚ) < 10 ^ 6)]
  have htiny : (2 : ℚ) ^ ((12 : Int) - binary64.precision) / 2 * 10 ^ 6 < 1 / 2 := by
    decide +kernel
  exact (mul_le_mul_of_nonneg_right herror (by norm_num)).trans_lt htiny

theorem readBack_eq_self_iff {d : Double} (hd : AppConfig.Duration d) :
    readBack d = d ↔ ∃ n : Nat, d = .literal (n / 10 ^ 6) := by
  obtain ⟨q, rfl, hpos, hle⟩ := hd
  constructor
  · intro hself
    refine ⟨Double.millionths q, ?_⟩
    rw [← (Double.sixDecimals_of_nonneg hpos.le).1]
    exact hself.symm
  · rintro ⟨n, hn⟩
    cases hn
    exact congrArg Double.literal (sixDecimals_nearest hpos hle)

theorem not_refused_duration {d : Double} (hd : AppConfig.Duration d) : ¬ d ≤ 0 := by
  obtain ⟨q, rfl, hpos, _⟩ := hd
  simpa using hpos

/-! ## All settings -/

/-- The settings of a reporter, as the check leaves them. -/
structure CheckedTelemetry (config : AppConfig) : Prop where
  timeoutSeconds : AppConfig.Duration config.observabilityTimeoutSeconds
  batchSize : 1 ≤ config.observabilityBatchSize ∧ config.observabilityBatchSize ≤ 65535
  batchDelaySeconds : AppConfig.Duration config.observabilityBatchDelaySeconds
  maxQueueSize : 1 ≤ config.observabilityMaxQueueSize ∧ config.observabilityMaxQueueSize ≤ 65535
  maxAttempts :
    1 ≤ config.observabilityRetryMaxAttempts ∧ config.observabilityRetryMaxAttempts ≤ 10
  retryBaseDelaySeconds : AppConfig.Duration config.observabilityRetryBaseDelaySeconds
  circuitFailureThreshold :
    1 ≤ config.observabilityCircuitFailureThreshold ∧
      config.observabilityCircuitFailureThreshold ≤ 65535
  circuitOpenSeconds : AppConfig.Duration config.observabilityCircuitOpenSeconds

variable {values : Values} {config : AppConfig} {endpoint : String} {reporter : ReporterConfig}

theorem CheckedTelemetry.durations (h : CheckedTelemetry config) :
    ∀ d ∈ config.telemetryDurations, AppConfig.Duration d := by
  simp only [AppConfig.telemetryDurations, List.forall_mem_cons]
  exact ⟨h.timeoutSeconds, h.batchDelaySeconds, h.retryBaseDelaySeconds, h.circuitOpenSeconds,
    by simp⟩

theorem checkedTelemetry (hconfig : AppConfig.fromValues values = .ok config)
    (hdurations : ∀ d ∈ config.telemetryDurations, d ≠ .nan) : CheckedTelemetry config := by
  have hread := AppConfig.readFrom_of_fromValues hconfig
  simp only [AppConfig.telemetryDurations, List.forall_mem_cons] at hdurations
  obtain ⟨htimeout, hdelay, hretry, hopen, _⟩ := hdurations
  exact {
    timeoutSeconds := AppConfig.seconds_range (by decide) hread.observabilityTimeoutSeconds htimeout
    batchSize := AppConfig.number_range (by decide) hread.observabilityBatchSize
    batchDelaySeconds :=
      AppConfig.seconds_range (by decide +kernel) hread.observabilityBatchDelaySeconds hdelay
    maxQueueSize := AppConfig.number_range (by decide) hread.observabilityMaxQueueSize
    maxAttempts :=
      ⟨(AppConfig.number_range (by decide) hread.observabilityRetryMaxAttempts).1, hread.attempts⟩
    retryBaseDelaySeconds :=
      AppConfig.seconds_range (by decide +kernel) hread.observabilityRetryBaseDelaySeconds hretry
    circuitFailureThreshold :=
      AppConfig.number_range (by decide) hread.observabilityCircuitFailureThreshold
    circuitOpenSeconds :=
      AppConfig.seconds_range (by decide) hread.observabilityCircuitOpenSeconds hopen }

/-- The members that a checked configuration leads to. -/
def readBackMembers (endpoint : String) (config : AppConfig) : ReporterMembers where
  provider := "otlp"
  endpoint := (splitEndpoint endpoint).1
  requestPath := (splitEndpoint endpoint).2
  timeoutSeconds := readBack config.observabilityTimeoutSeconds
  batchSize := config.observabilityBatchSize.toNat
  maxQueueSize := config.observabilityMaxQueueSize.toNat
  batchDelaySeconds := readBack config.observabilityBatchDelaySeconds
  maxAttempts := config.observabilityRetryMaxAttempts.toNat
  retryBaseDelaySeconds := readBack config.observabilityRetryBaseDelaySeconds
  circuitFailureThreshold := config.observabilityCircuitFailureThreshold.toNat
  circuitOpenSeconds := readBack config.observabilityCircuitOpenSeconds

/-- A reporter that is constructed from what is printed has the members that are read back. -/
theorem constructedFrom_printed_iff (h : CheckedTelemetry config) (hendpoint : endpoint ≠ "") :
    ConstructedFrom stod "otlp" endpoint (printedSettings config) reporter ↔
      reporter.toReporterMembers = readBackMembers endpoint config := by
  have htimeout := readSetting_duration h.timeoutSeconds
    (rfl : printedSettings config "timeout_seconds" = _) (.finite 1)
  have hbatchSize := readSetting_integer h.batchSize
    (rfl : printedSettings config "batch_size" = _) 10
  have hdelay := readSetting_duration h.batchDelaySeconds
    (rfl : printedSettings config "batch_delay_seconds" = _) (.literal (mkRat 1 10))
  have hqueueSize := readSetting_integer h.maxQueueSize
    (rfl : printedSettings config "max_queue_size" = _) 1024
  have hattempts := readSetting_integer ⟨h.maxAttempts.1, h.maxAttempts.2.trans (by decide)⟩
    (rfl : printedSettings config "retry_max_attempts" = _) 3
  have hretry := readSetting_duration h.retryBaseDelaySeconds
    (rfl : printedSettings config "retry_base_delay_seconds" = _) (.literal (mkRat 1 10))
  have hthreshold := readSetting_integer h.circuitFailureThreshold
    (rfl : printedSettings config "circuit_failure_threshold" = _) 5
  have hopen := readSetting_duration h.circuitOpenSeconds
    (rfl : printedSettings config "circuit_open_seconds" = _) (.finite 30)
  constructor
  · intro hfrom
    unfold readBackMembers
    rw [← Except.ok.inj (hfrom.timeoutSeconds.symm.trans htimeout),
      ← Except.ok.inj (hfrom.batchSize.symm.trans hbatchSize),
      ← Except.ok.inj (hfrom.batchDelaySeconds.symm.trans hdelay),
      ← Except.ok.inj (hfrom.maxQueueSize.symm.trans hqueueSize),
      ← Except.ok.inj (hfrom.maxAttempts.symm.trans hattempts),
      ← Except.ok.inj (hfrom.retryBaseDelaySeconds.symm.trans hretry),
      ← Except.ok.inj (hfrom.circuitFailureThreshold.symm.trans hthreshold),
      ← Except.ok.inj (hfrom.circuitOpenSeconds.symm.trans hopen), ← hfrom.endpoint,
      ← hfrom.provider]
  · intro hmembers
    exact {
      provider := by rw [hmembers]; rfl
      endpoint := by rw [hmembers]; rfl
      required := by rw [hmembers]; exact splitEndpoint_fst_ne hendpoint
      timeoutSeconds := by rw [hmembers]; exact htimeout
      batchSize := by rw [hmembers]; exact hbatchSize
      batchDelaySeconds := by rw [hmembers]; exact hdelay
      maxQueueSize := by rw [hmembers]; exact hqueueSize
      maxAttempts := by rw [hmembers]; exact hattempts
      retryBaseDelaySeconds := by rw [hmembers]; exact hretry
      circuitFailureThreshold := by rw [hmembers]; exact hthreshold
      circuitOpenSeconds := by rw [hmembers]; exact hopen }

/-- What is read back is accepted when it is what was configured. -/
theorem readBackMembers_accepted (h : CheckedTelemetry config)
    (hsame : ∀ d ∈ config.telemetryDurations, readBack d = d) :
    (readBackMembers endpoint config).refused = false := by
  simp only [AppConfig.telemetryDurations, List.forall_mem_cons] at hsame
  obtain ⟨_, hdelay, hretry, hopen, _⟩ := hsame
  have hbatchSize := h.batchSize
  have hqueueSize := h.maxQueueSize
  have hattempts := h.maxAttempts
  have hthreshold := h.circuitFailureThreshold
  simp only [ReporterMembers.refused, readBackMembers, hdelay, hretry, hopen,
    not_refused_duration h.batchDelaySeconds, not_refused_duration h.retryBaseDelaySeconds,
    not_refused_duration h.circuitOpenSeconds, Bool.or_eq_false_iff, beq_eq_false_iff_ne,
    decide_eq_false_iff_not, not_false_eq_true, and_true]
  omega

/-- A checked configuration runs exactly when each of its durations is the `double` of a whole
number of millionths. -/
theorem runs_configured_iff {process : Process} (hstod : process.stod = CppNumber.stod)
    (hconfig : AppConfig.fromValues values = .ok config)
    (hdurations : ∀ d ∈ config.telemetryDurations, d ≠ .nan)
    (hprovider : config.errorTrackingProvider = "otlp") (hendpoint : config.otlpEndpoint ≠ "")
    (htimeout : process.environment "OBSERVABILITY_TIMEOUT_SECONDS" = none)
    (hclient : ∀ host, process.clientThrows host = false) :
    RunsConfigured process config ↔
      ∀ d ∈ config.telemetryDurations, ∃ n : Nat, d = .literal (n / 10 ^ 6) := by
  have hchecked := checkedTelemetry hconfig hdurations
  have hsettings :
      withEnvironmentTimeout process (printedSettings config) = printedSettings config := by
    rw [withEnvironmentTimeout, htimeout]
  have hchosen : OtlpErrorReporter.endpoint process (otlpConfig process config) ≠ "" := by
    rw [otlp_endpoint_eq hendpoint]
    split
    · exact hendpoint
    · assumption
  have hsame : (∀ d ∈ config.telemetryDurations, readBack d = d) ↔
      ∀ d ∈ config.telemetryDurations, ∃ n : Nat, d = .literal (n / 10 ^ 6) :=
    forall₂_congr fun d hd => readBack_eq_self_iff (hchecked.durations d hd)
  rw [← hsame]
  constructor
  · rintro ⟨reporter, hactive, hreflects⟩
    obtain ⟨hfrom, _⟩ := (runServerReporter_otlp_iff hprovider hendpoint).1 hactive
    rw [hsettings, hstod, constructedFrom_printed_iff hchecked hchosen] at hfrom
    simp only [AppConfig.telemetryDurations, List.forall_mem_cons]
    exact ⟨(congrArg ReporterMembers.timeoutSeconds hfrom).symm.trans hreflects.timeoutSeconds,
      (congrArg ReporterMembers.batchDelaySeconds hfrom).symm.trans hreflects.batchDelaySeconds,
      (congrArg ReporterMembers.retryBaseDelaySeconds hfrom).symm.trans
        hreflects.retryBaseDelaySeconds,
      (congrArg ReporterMembers.circuitOpenSeconds hfrom).symm.trans
        hreflects.circuitOpenSeconds, by simp⟩
  · intro hsame
    have haccepted : (readBackMembers (OtlpErrorReporter.endpoint process
        (otlpConfig process config)) config).refused = false :=
      readBackMembers_accepted hchecked hsame
    refine ⟨⟨_, haccepted⟩, (runServerReporter_otlp_iff hprovider hendpoint).2 ⟨?_, hclient _⟩, ?_⟩
    · rw [hsettings, hstod, constructedFrom_printed_iff hchecked hchosen]
    · simp only [AppConfig.telemetryDurations, List.forall_mem_cons] at hsame
      obtain ⟨htimeout, hdelay, hretry, hopen, _⟩ := hsame
      have hnonneg : ∀ {n m : Int}, 1 ≤ n ∧ n ≤ m → (n.toNat : Int) = n :=
        fun h => Int.toNat_of_nonneg (by omega)
      exact {
        provider := rfl
        timeoutSeconds := htimeout
        batchSize := hnonneg hchecked.batchSize
        batchDelaySeconds := hdelay
        maxQueueSize := hnonneg hchecked.maxQueueSize
        maxAttempts := hnonneg hchecked.maxAttempts
        retryBaseDelaySeconds := hretry
        circuitFailureThreshold := hnonneg hchecked.circuitFailureThreshold
        circuitOpenSeconds := hopen }

/-- The settings of a service with a local collector, and the delay of its batches. -/
def collectorValues (batchDelay : String) : Values := fun key =>
  [("SECRET_KEY", "k"), ("DB_HOST", "db"), ("DB_NAME", "app"), ("DB_USER", "app"),
   ("ERROR_TRACKING_PROVIDER", "otlp"), ("OTLP_ENDPOINT", "http://localhost:4318/v1/logs"),
   ("OBSERVABILITY_BATCH_DELAY_SECONDS", batchDelay)].lookup key

/-- What is checked for them. -/
def collectorConfig (batchDelay : Double) : AppConfig where
  secretKey := "k"
  dbHost := "db"
  dbName := "app"
  dbUser := "app"
  errorTrackingProvider := "otlp"
  otlpEndpoint := "http://localhost:4318/v1/logs"
  observabilityBatchDelaySeconds := batchDelay

/-- A process without variables, in which a client can be made for every host. -/
def plainProcess : Process where
  environment _ := none
  clientThrows _ := false

/-- A delay of 300 milliseconds, which no `double` has, runs as it was configured. -/
theorem runs_configured_300 :
    RunsConfigured plainProcess (collectorConfig (.literal (mkRat 3 10))) := by
  have hconfig : AppConfig.fromValues (collectorValues "0.3") =
      .ok (collectorConfig (.literal (mkRat 3 10))) := by decide +kernel
  have hmillionths : ∀ d ∈ (collectorConfig (.literal (mkRat 3 10))).telemetryDurations,
      ∃ n : Nat, d = .literal (n / 10 ^ 6) := by
    simp only [AppConfig.telemetryDurations, List.forall_mem_cons]
    exact ⟨⟨1000000, by decide +kernel⟩, ⟨300000, by decide +kernel⟩,
      ⟨100000, by decide +kernel⟩, ⟨30000000, by decide +kernel⟩, by simp⟩
  exact (runs_configured_iff rfl hconfig (by decide +kernel) rfl (by decide) rfl
    fun _ => rfl).2 hmillionths

/-- A delay of 400 nanoseconds passes the check, is printed as zero, and leaves no reporter. -/
theorem hasty_collector_disabled :
    AppConfig.fromValues (collectorValues "0.0000004") =
        .ok (collectorConfig (.literal (mkRat 4 10000000))) ∧
      (runServerReporter plainProcess
        (collectorConfig (.literal (mkRat 4 10000000)))).provider = "none" ∧
      ¬ RunsConfigured plainProcess (collectorConfig (.literal (mkRat 4 10000000))) := by
  have hnone : (runServerReporter plainProcess
      (collectorConfig (.literal (mkRat 4 10000000)))).provider = "none" := by
    decide +kernel
  refine ⟨by decide +kernel, hnone, ?_⟩
  rintro ⟨reporter, hactive, hreflects⟩
  rw [hactive] at hnone
  exact absurd (hreflects.provider.symm.trans hnone) (by decide)

/-! ## The destination -/

/-- The reporter of the provider `otlp` sends to the endpoint that is configured for it
exactly when there is no DSN, or the DSN names the same address. -/
theorem destination_iff {process : Process} {sent : String}
    (hprovider : config.errorTrackingProvider = "otlp") (hendpoint : config.otlpEndpoint ≠ "")
    (hsends : (runServerReporter process config).destination = some sent) :
    sent = address config.otlpEndpoint ↔
      configuredOr process "SENTRY_DSN" config.sentryDsn = "" ∨
        address (configuredOr process "SENTRY_DSN" config.sentryDsn) =
          address config.otlpEndpoint := by
  have hsent : sent = address (OtlpErrorReporter.endpoint process (otlpConfig process config)) := by
    cases hactive : runServerReporter process config with
    | noop =>
      rw [hactive] at hsends
      cases hsends
    | adapter provider =>
      rw [hactive] at hsends
      cases hsends
    | http reporter =>
      rw [hactive] at hsends
      cases hsends
      obtain ⟨hfrom, _⟩ := (runServerReporter_otlp_iff hprovider hendpoint).1 hactive
      rw [← splitEndpoint_append, ← hfrom.endpoint]
  rw [hsent, otlp_endpoint_eq hendpoint]
  by_cases hdsn : configuredOr process "SENTRY_DSN" config.sentryDsn = ""
  · simp only [hdsn, if_true, true_or]
  · simp only [hdsn, if_false, false_or]

/-- Without a DSN the events go to the collector. -/
theorem destination_collector :
    ∃ sent, (runServerReporter plainProcess (collectorConfig (.finite (mkRat 1 4)))).destination =
        some sent ∧ sent = address "http://localhost:4318/v1/logs" := by
  have hsends :
      (runServerReporter plainProcess (collectorConfig (.finite (mkRat 1 4)))).destination =
      some "http://localhost:4318/v1/logs" := by decide +kernel
  exact ⟨_, hsends, (destination_iff rfl (by decide) hsends).2 (Or.inl rfl)⟩

/-- The service has an endpoint for its events and the DSN of another service. -/
def sentryConfig : AppConfig :=
  { collectorConfig (.finite (mkRat 1 4)) with sentryDsn := "https://key@sentry.example/42" }

/-- The events go to the DSN. -/
theorem events_sent_to_dsn :
    (runServerReporter plainProcess sentryConfig).destination =
        some "https://key@sentry.example/42" ∧
      "https://key@sentry.example/42" ≠ address sentryConfig.otlpEndpoint := by
  decide +kernel

end Observability

end DrogonStarter
