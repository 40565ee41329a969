import DrogonStarter.Lib.WholeNumber
import DrogonStarter.Observability.Activation
import DrogonStarter.Observability.ProviderSelection

/-!
# The texts of the settings

A numeric setting has a meaning: the positive number that its whole text writes.  The
constructor of `HttpErrorReporter` instead reads a number at the start of the text, lets
`std::stoul` wrap a negative one around, and checks all of them but the timeout at the end.

* `NumericSetting` holds both sides of one setting, and `numericSettings` lists the eight.
* `exists_construct_iff` says when the constructor returns, and `member_of_construct` what a
  member holds then.
* `validated_iff` says for which texts a reporter that is active holds what they write.
-/

namespace DrogonStarter.Observability

open CppNumber

/-- A numeric setting: how the constructor reads its text, and what the text writes. -/
structure NumericSetting where
  Number : Type
  key : String
  fallback : Number
  member : ReporterMembers → Number
  /-- The conversion of the standard library. -/
  parse : String → Except ConversionError Number
  /-- The part of the check at the end of the constructor. -/
  passes : Number → Bool
  /-- The positive number that the text writes from its first character to its last. -/
  written : String → Option Number
  parse_written : ∀ {text : String} {a b : Number}, written text = some a →
    parse text = .ok b → a = b
  fallback_passes : passes fallback = true

namespace NumericSetting

/-- A setting that is read by `std::stoul`. -/
def count (key : String) (fallback : Nat) (member : ReporterMembers → Nat) (passes : Nat → Bool)
    (hfallback : passes fallback = true) : NumericSetting where
  Number := Nat
  key := key
  fallback := fallback
  member := member
  parse := stoul
  passes := passes
  written text := (wholeInteger text).bind fun n => if 0 < n then some n.toNat else none
  parse_written := by
    intro text a b hwritten hparse
    obtain ⟨n, hn, hsome⟩ := Option.bind_eq_some_iff.1 hwritten
    obtain ⟨hpositive, hvalue⟩ := Option.ite_none_right_eq_some.1 hsome
    rw [stoul_of_wholeInteger hn hpositive] at hparse
    split_ifs at hparse
    exact (Option.some.inj hvalue).symm.trans (Except.ok.inj hparse)
  fallback_passes := hfallback

/-- A setting that is read by `std::stod`, over exact decimals. -/
def seconds (key : String) (fallback : Double) (member : ReporterMembers → Double)
    (passes : Double → Bool) (hfallback : passes fallback = true) : NumericSetting where
  Number := Double
  key := key
  fallback := fallback
  member := member
  parse := stodExact
  passes := passes
  written text := (wholeDecimal text).bind fun q => if 0 < q then some (.finite q) else none
  parse_written := by
    intro text a b hwritten hparse
    obtain ⟨q, hq, hsome⟩ := Option.bind_eq_some_iff.1 hwritten
    obtain ⟨_, hvalue⟩ := Option.ite_none_right_eq_some.1 hsome
    rw [stodExact, stodWith_of_wholeDecimal exactDouble hq, exactDouble] at hparse
    split_ifs at hparse
    exact (Option.some.inj hvalue).symm.trans (Except.ok.inj hparse)
  fallback_passes := hfallback

/-- A size or a threshold, which is refused when it is zero. -/
def size (key : String) (fallback : Nat) (member : ReporterMembers → Nat)
    (hfallback : (fallback != 0) = true) : NumericSetting :=
  count key fallback member (· != 0) hfallback

/-- A delay, which is refused when it is not above zero. -/
def delay (key : String) (fallback : Double) (member : ReporterMembers → Double)
    (hfallback : (!decide (fallback ≤ 0)) = true) : NumericSetting :=
  seconds key fallback member (fun d => !decide (d ≤ 0)) hfallback

end NumericSetting

/-- The numeric settings, in the order of the constructor.  The check does not look at the
timeout. -/
def numericSettings : List NumericSetting :=
  [.seconds "timeout_seconds" (.finite 1) (·.timeoutSeconds) (fun _ => true) rfl,
   .size "batch_size" 10 (·.batchSize) rfl,
   .delay "batch_delay_seconds" (.literal (mkRat 1 10)) (·.batchDelaySeconds)
     (by decide +kernel),
   .size "max_queue_size" 1024 (·.maxQueueSize) rfl,
   .count "retry_max_attempts" 3 (·.maxAttempts) (fun n => n != 0 && !decide (10 < n)) rfl,
   .delay "retry_base_delay_seconds" (.literal (mkRat 1 10)) (·.retryBaseDelaySeconds)
     (by decide +kernel),
   .size "circuit_failure_threshold" 5 (·.circuitFailureThreshold) rfl,
   .delay "circuit_open_seconds" (.finite 30) (·.circuitOpenSeconds) (by decide)]

/-- The check at the end of the constructor is the check of every setting. -/
theorem refused_eq_false_iff (m : ReporterMembers) :
    m.refused = false ↔ ∀ s ∈ numericSettings, s.passes (s.member m) = true := by
  simp only [numericSettings, List.forall_mem_cons, List.not_mem_nil, false_imp_iff,
    implies_true, and_true, ReporterMembers.refused, Bool.or_eq_false_iff,
    NumericSetting.seconds, NumericSetting.size, NumericSetting.delay, NumericSetting.count,
    bne_iff_ne, beq_eq_false_iff_ne, Bool.not_eq_true', Bool.and_eq_true, true_and]
  tauto

/-! ## What the constructor reads -/

namespace NumericSetting

variable (s : NumericSetting) (settings : ErrorContext)

/-- The text of the setting is missing, or the number at its start passes. -/
def Accepts : Prop :=
  ∀ text ∈ settings s.key, ∃ a, s.parse text = .ok a ∧ s.passes a = true

/-- The text of the setting has no number at its start, or one that does not pass. -/
def Refuses : Prop :=
  ∃ text ∈ settings s.key, ∀ a, s.parse text = .ok a → s.passes a = false

/-- The text of the setting is missing, or a positive number as a whole. -/
def Writes : Prop := ∀ text ∈ settings s.key, (s.written text).isSome

/-- The text of the setting is missing, or writes the positive number that the member has. -/
def Holds (m : ReporterMembers) : Prop :=
  ∀ text ∈ settings s.key, s.written text = some (s.member m)

/-- The constructor gives the member this number. -/
def Reads (a : s.Number) : Prop := readSetting s.parse settings s.key s.fallback = .ok a

variable {s settings}

theorem reads_iff {a : s.Number} :
    s.Reads settings a ↔
      settings s.key = none ∧ s.fallback = a ∨ ∃ text ∈ settings s.key, s.parse text = .ok a := by
  unfold Reads readSetting
  cases settings s.key with
  | none => simp
  | some text =>
    cases hparse : s.parse text with
    | error error => simp [Except.mapError, hparse]
    | ok b => simp [Except.mapError, hparse]

theorem not_accepts_iff : ¬ s.Accepts settings ↔ s.Refuses settings := by
  simp only [Accepts, Refuses, not_forall, not_exists, not_and, Bool.not_eq_true, exists_prop]

/-- A setting is accepted when there is a number to read that passes. -/
theorem accepts_iff : s.Accepts settings ↔ ∃ a, s.Reads settings a ∧ s.passes a = true := by
  constructor
  · intro haccepts
    cases htext : settings s.key with
    | none => exact ⟨s.fallback, reads_iff.2 (Or.inl ⟨htext, rfl⟩), s.fallback_passes⟩
    | some text =>
      obtain ⟨a, hparse, hpasses⟩ := haccepts text htext
      exact ⟨a, reads_iff.2 (Or.inr ⟨text, htext, hparse⟩), hpasses⟩
  · rintro ⟨a, hreads, hpasses⟩ text htext
    rcases reads_iff.1 hreads with ⟨hnone, _⟩ | ⟨other, hother, hparse⟩
    · rw [Option.mem_def, hnone] at htext
      cases htext
    · cases Option.mem_unique htext hother
      exact ⟨a, hparse, hpasses⟩

/-- A member that is read holds what a text writes that is a positive number. -/
theorem Reads.holds {m : ReporterMembers} (hreads : s.Reads settings (s.member m))
    (hwrites : s.Writes settings) : s.Holds settings m := by
  intro text htext
  obtain ⟨a, hwritten⟩ := Option.isSome_iff_exists.1 (hwrites text htext)
  rcases reads_iff.1 hreads with ⟨hnone, _⟩ | ⟨other, hother, hparse⟩
  · rw [Option.mem_def, hnone] at htext
    cases htext
  · cases Option.mem_unique htext hother
    rw [hwritten, s.parse_written hwritten hparse]

theorem Holds.writes {m : ReporterMembers} (hholds : s.Holds settings m) :
    s.Writes settings := by
  intro text htext
  rw [hholds text htext]
  rfl

end NumericSetting

variable {provider endpoint : String} {settings : ErrorContext}

/-- The members of a reporter are what the constructor reads. -/
theorem reads_of_construct {reporter : ReporterConfig}
    (h : ReporterConfig.construct stodExact provider endpoint settings = .ok reporter) :
    ∀ s ∈ numericSettings, s.Reads settings (s.member reporter.toReporterMembers) := by
  have hfrom := constructed_iff.1 h
  simp only [numericSettings, List.forall_mem_cons, List.not_mem_nil, false_imp_iff,
    implies_true, and_true]
  exact ⟨hfrom.timeoutSeconds, hfrom.batchSize, hfrom.batchDelaySeconds, hfrom.maxQueueSize,
    hfrom.maxAttempts, hfrom.retryBaseDelaySeconds, hfrom.circuitFailureThreshold,
    hfrom.circuitOpenSeconds⟩

/-- With an endpoint the constructor returns when every setting is accepted. -/
theorem exists_construct_iff (hendpoint : endpoint ≠ "") :
    (∃ reporter, ReporterConfig.construct stodExact provider endpoint settings = .ok reporter) ↔
      ∀ s ∈ numericSettings, s.Accepts settings := by
  constructor
  · rintro ⟨reporter, hconstruct⟩ s hs
    exact NumericSetting.accepts_iff.2 ⟨_, reads_of_construct hconstruct s hs,
      (refused_eq_false_iff _).1 reporter.accepted s hs⟩
  · intro haccepts
    simp only [numericSettings, List.forall_mem_cons, List.not_mem_nil, false_imp_iff,
      implies_true, and_true, NumericSetting.accepts_iff] at haccepts
    obtain ⟨⟨timeoutSeconds, htimeoutSeconds, _⟩, ⟨batchSize, hbatchSize, hpasses₁⟩,
      ⟨batchDelaySeconds, hbatchDelaySeconds, hpasses₂⟩,
      ⟨maxQueueSize, hmaxQueueSize, hpasses₃⟩, ⟨maxAttempts, hmaxAttempts, hpasses₄⟩,
      ⟨retryBaseDelaySeconds, hretryBaseDelaySeconds, hpasses₅⟩,
      ⟨circuitFailureThreshold, hcircuitFailureThreshold, hpasses₆⟩,
      ⟨circuitOpenSeconds, hcircuitOpenSeconds, hpasses₇⟩⟩ := haccepts
    let members : ReporterMembers :=
      { provider
        endpoint := (splitEndpoint endpoint).1
        requestPath := (splitEndpoint endpoint).2
        timeoutSeconds, batchSize, batchDelaySeconds, maxQueueSize, maxAttempts,
        retryBaseDelaySeconds, circuitFailureThreshold, circuitOpenSeconds }
    have haccepted : members.refused = false := by
      rw [refused_eq_false_iff]
      simp only [numericSettings, List.forall_mem_cons, List.not_mem_nil, false_imp_iff,
        implies_true, and_true]
      exact ⟨rfl, hpasses₁, hpasses₂, hpasses₃, hpasses₄, hpasses₅, hpasses₆, hpasses₇⟩
    exact ⟨{ members with accepted := haccepted }, constructed_iff.2 {
      provider := rfl
      endpoint := rfl
      required := splitEndpoint_fst_ne hendpoint
      timeoutSeconds := htimeoutSeconds
      batchSize := hbatchSize
      batchDelaySeconds := hbatchDelaySeconds
      maxQueueSize := hmaxQueueSize
      maxAttempts := hmaxAttempts
      retryBaseDelaySeconds := hretryBaseDelaySeconds
      circuitFailureThreshold := hcircuitFailureThreshold
      circuitOpenSeconds := hcircuitOpenSeconds }⟩

/-! ## The active reporter -/

/-- The configuration gives a provider of the module an endpoint, and a client can be made
for its host. -/
structure ValidEndpoint (process : Process) (config : ErrorReporterConfig) (endpoint : String) :
    Prop where
  chosen : config.provider = "otlp" ∧ OtlpErrorReporter.endpoint process config = endpoint ∨
    config.provider = "sentry" ∧ SentryErrorReporter.endpoint config = .ok endpoint
  nonempty : endpoint ≠ ""
  client : process.clientThrows (splitEndpoint endpoint).1 = false

/-- Every numeric setting that is present is the text of a positive number, and the reporter
holds that number. -/
structure Faithful (settings : ErrorContext) (reporter : ReporterConfig) : Prop where
  holds : ∀ s ∈ numericSettings, s.Holds settings reporter.toReporterMembers
  attempts : 1 ≤ reporter.maxAttempts ∧ reporter.maxAttempts ≤ 10

/-- The reporter that is active does nothing, or holds what its settings write. -/
def Validated (settings : ErrorContext) (active : ErrorReporter) : Prop :=
  active = .noop ∨ ∃ reporter, active = .http reporter ∧ Faithful settings reporter

/-- Every text is a positive number as a whole, or some text has no number at its start that
passes. -/
def PlainTexts (settings : ErrorContext) : Prop :=
  (∀ s ∈ numericSettings, s.Writes settings) ∨ ∃ s ∈ numericSettings, s.Refuses settings

/-- The factory of a provider of the module constructs a reporter for the endpoint. -/
theorem ValidEndpoint.builtIn_eq {process : Process} {config : ErrorReporterConfig}
    (h : ValidEndpoint process config endpoint) :
    ∃ factory provider, builtIn process config.provider = some factory ∧
      factory config =
        (newHttpErrorReporter process provider endpoint config.settings).map some := by
  rcases h.chosen with ⟨hprovider, hendpoint⟩ | ⟨hprovider, hendpoint⟩
  · refine ⟨otlpFactory process, "otlp", by rw [hprovider]; rfl, ?_⟩
    have hne : ∀ other, OtlpErrorReporter.endpoint process config = other → other ≠ "" := by
      rintro _ rfl
      rw [hendpoint]
      exact h.nonempty
    unfold otlpFactory
    simp only [hendpoint]
    refine if_neg ?_
    unfold OtlpErrorReporter.endpoint at hne
    by_cases hdsn : config.dsn = ""
    · simp only [hdsn, ne_eq, not_true_eq_false, if_false] at hne
      simp only [hdsn, if_true]
      cases hsetting : config.settings "otlp_endpoint" with
      | none =>
        rw [hsetting] at hne
        simpa using hne _ rfl
      | some value =>
        rw [hsetting] at hne
        simp [hne _ rfl]
    · simp only [if_neg hdsn]
      exact hdsn
  · refine ⟨sentryFactory process, "sentry", by rw [hprovider]; rfl, ?_⟩
    have hdsn : config.dsn ≠ "" := by
      intro hempty
      unfold SentryErrorReporter.endpoint at hendpoint
      rw [hempty] at hendpoint
      cases hendpoint
    unfold sentryFactory
    rw [if_neg hdsn, hendpoint]

/-- With a valid endpoint the active reporter is the one that is constructed, and there is
none only when the constructor throws. -/
theorem configuredReporter_eq {process : Process} {state : Reporting} {dsn : String}
    (hbuiltIn : (state.registerBuiltInProviders process).providerFactories provider =
      builtIn process provider)
    (hendpoint : ValidEndpoint process
      { provider, dsn, settings := withEnvironmentTimeout process settings } endpoint) :
    ∃ name,
      (∀ reporter,
        ReporterConfig.construct process.stod name endpoint
            (withEnvironmentTimeout process settings) =
            .ok reporter →
          (configureErrorReporter process state provider dsn settings).configuredReporter =
            .http reporter) ∧
      ∀ error,
        ReporterConfig.construct process.stod name endpoint
            (withEnvironmentTimeout process settings) =
            .error error →
          (configureErrorReporter process state provider dsn settings).configuredReporter =
            .noop := by
  obtain ⟨factory, name, hfactory, hmade⟩ := hendpoint.builtIn_eq
  have henabled : ¬ Disabled provider := by
    rcases hendpoint.chosen with ⟨hprovider, _⟩ | ⟨hprovider, _⟩ <;>
    · change provider = _ at hprovider
      subst hprovider
      decide
  have hproduced : (configureErrorReporter process state provider dsn settings).configuredReporter =
      produced (some factory)
        { provider, dsn, settings := withEnvironmentTimeout process settings } := by
    rw [configureErrorReporter_eq, if_neg henabled, hbuiltIn, hfactory]
  refine ⟨name, fun reporter hconstruct => ?_, fun error hconstruct => ?_⟩
  · have hsplit : reporter.endpoint = (splitEndpoint endpoint).1 :=
      congrArg Prod.fst (constructed_iff.1 hconstruct).endpoint
    rw [hproduced]
    simp only [produced, hmade, newHttpErrorReporter, hconstruct, hsplit, hendpoint.client,
      Bool.false_eq_true, if_false]
    rfl
  · rw [hproduced]
    simp only [produced, hmade, newHttpErrorReporter, hconstruct]
    rfl

/-- For a provider of the module with a valid endpoint, either nothing is constructed and the
reporter that does nothing is active, or every numeric setting that is present is the text of
a positive number that the reporter holds, exactly when every text is such a number or some
text is refused: it has no number at its start, or one that the check throws for. -/
theorem validated_iff {process : Process} (hstod : process.stod = stodExact) {state : Reporting}
    {dsn : String}
    (hbuiltIn : (state.registerBuiltInProviders process).providerFactories provider =
      builtIn process provider)
    (hendpoint : ValidEndpoint process
      { provider, dsn, settings := withEnvironmentTimeout process settings } endpoint) :
    Validated (withEnvironmentTimeout process settings)
        (configureErrorReporter process state provider dsn settings).configuredReporter ↔
      PlainTexts (withEnvironmentTimeout process settings) := by
  obtain ⟨name, hmade, hfailed⟩ := configuredReporter_eq hbuiltIn hendpoint
  rw [hstod] at hmade hfailed
  generalize withEnvironmentTimeout process settings = effective at hmade hfailed ⊢
  cases hconstruct : ReporterConfig.construct stodExact name endpoint effective with
  | error error =>
    rw [hfailed error hconstruct]
    refine iff_of_true (Or.inl rfl) (Or.inr ?_)
    by_contra hnone
    simp only [← NumericSetting.not_accepts_iff, not_exists, not_and, not_not] at hnone
    obtain ⟨reporter, hok⟩ : ∃ reporter,
        ReporterConfig.construct stodExact name endpoint effective = .ok reporter :=
      (exists_construct_iff hendpoint.nonempty).2 hnone
    rw [hconstruct] at hok
    cases hok
  | ok reporter =>
    rw [hmade reporter hconstruct]
    have haccepts := (exists_construct_iff hendpoint.nonempty).1 ⟨reporter, hconstruct⟩
    constructor
    · rintro (hnoop | ⟨other, hother, hfaithful⟩)
      · cases hnoop
      · cases hother
        exact Or.inl fun s hs => (hfaithful.holds s hs).writes
    · rintro (hwrites | ⟨s, hs, hrefuses⟩)
      · refine Or.inr ⟨reporter, rfl, fun s hs => ?_, ?_⟩
        · exact (reads_of_construct hconstruct s hs).holds (hwrites s hs)
        · have hbounds := reporter.bounds
          omega
      · exact absurd (haccepts s hs) (NumericSetting.not_accepts_iff.2 hrefuses)

/-- The settings of a local collector, and one more. -/
def collectorSettings (key text : String) : ErrorContext :=
  Values.insert (Values.insert (fun _ => none) "otlp_endpoint" "http://localhost:4318/v1/logs")
    key text

/-- A process without variables that reads exact decimals. -/
def decimalProcess : Process := { plainProcess with stod := stodExact }

theorem validEndpoint_collector (key text : String) (hkey : key ≠ "otlp_endpoint") :
    ValidEndpoint decimalProcess
      { provider := "otlp", dsn := ""
        settings := withEnvironmentTimeout decimalProcess (collectorSettings key text) }
      "http://localhost:4318/v1/logs" where
  chosen := by
    refine Or.inl ⟨rfl, ?_⟩
    have hsetting : collectorSettings key text "otlp_endpoint" =
        some "http://localhost:4318/v1/logs" :=
      (Values.insert_of_ne hkey.symm ..).trans (Values.insert_self ..)
    have hkept : withEnvironmentTimeout decimalProcess (collectorSettings key text)
        "otlp_endpoint" = some "http://localhost:4318/v1/logs" := hsetting
    simp only [OtlpErrorReporter.endpoint, hkept, ne_eq, not_true_eq_false, if_false]
  nonempty := by decide
  client := rfl

theorem validated_iff_collector :
    Validated (withEnvironmentTimeout decimalProcess (collectorSettings "timeout_seconds" "0.25"))
        (configureErrorReporter decimalProcess {} "otlp" ""
          (collectorSettings "timeout_seconds" "0.25")).configuredReporter ↔
      PlainTexts
        (withEnvironmentTimeout decimalProcess (collectorSettings "timeout_seconds" "0.25")) :=
  validated_iff rfl rfl (validEndpoint_collector "timeout_seconds" "0.25" (by decide))

/-- A batch size of minus one is not refused.  It wraps around to the largest size, and no
queue is ever long enough to be flushed at once. -/
theorem negative_batch_size_accepted :
    ¬ ∀ process state provider dsn settings endpoint, process.stod = stodExact →
      (Reporting.registerBuiltInProviders process state).providerFactories provider =
          builtIn process provider →
        ValidEndpoint process
            { provider, dsn, settings := withEnvironmentTimeout process settings } endpoint →
          Validated (withEnvironmentTimeout process settings)
            (configureErrorReporter process state provider dsn settings).configuredReporter := by
  intro hall
  have hvalidated := hall decimalProcess {} "otlp" "" (collectorSettings "batch_size" "-1") _ rfl
    rfl (validEndpoint_collector "batch_size" "-1" (by decide))
  have hactive : (configureErrorReporter decimalProcess {} "otlp" ""
      (collectorSettings "batch_size" "-1")).configuredReporter.provider = "otlp" := by
    decide +kernel
  rcases hvalidated with hnoop | ⟨reporter, _, hfaithful⟩
  · rw [hnoop] at hactive
    exact absurd hactive (by decide)
  · have hholds := hfaithful.holds
      (.size "batch_size" 10 (·.batchSize) rfl) (by simp [numericSettings])
    have hwritten := hholds.writes "-1" rfl
    revert hwritten
    decide

end DrogonStarter.Observability
