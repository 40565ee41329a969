import DrogonStarter.Lib.Number
import DrogonStarter.Lib.Text

/-!
# The settings of an HTTP error reporter

`HttpErrorReporter` reads its settings once, in its constructor, and refuses
those that the rest of the class cannot work with.  `ReporterConfig` is what
an accepted construction leaves behind: the members that never change again,
together with the check that the constructor made.
-/

namespace DrogonStarter.Observability

open CppNumber

/-- `std::map<std::string, std::string>`. -/
abbrev ErrorContext := String → Option String

/-- The exceptions that leave the constructor. -/
inductive ConstructionError where
  | invalidArgument (what : String)
  | conversion (error : ConversionError)
deriving DecidableEq

/-- The constant members of `HttpErrorReporter`, with the initialisers of the
class definition. -/
structure ReporterMembers where
  provider : String
  endpoint : String
  requestPath : String
  timeoutSeconds : Double := .finite 1
  batchSize : Nat := 10
  maxQueueSize : Nat := 1024
  batchDelaySeconds : Double := .literal (mkRat 1 10)
  maxAttempts : Nat := 3
  retryBaseDelaySeconds : Double := .literal (mkRat 1 10)
  circuitFailureThreshold : Nat := 5
  circuitOpenSeconds : Double := .finite 30

/-- The condition under which the constructor throws
`invalid observability batch settings`. -/
def ReporterMembers.refused (m : ReporterMembers) : Bool :=
  m.batchSize == 0 || m.maxQueueSize == 0 || decide (m.batchDelaySeconds ≤ 0) ||
    m.maxAttempts == 0 || decide (10 < m.maxAttempts) ||
    decide (m.retryBaseDelaySeconds ≤ 0) || m.circuitFailureThreshold == 0 ||
    decide (m.circuitOpenSeconds ≤ 0)

/-- The members of a reporter whose construction succeeded. -/
structure ReporterConfig extends ReporterMembers where
  accepted : toReporterMembers.refused = false

/-- The constructor splits its endpoint at the first slash after `://`. -/
def splitEndpoint (endpoint : String) : String × String :=
  let text := endpoint.toList
  let pathStart :=
    (Text.find "://".toList text).bind fun schemeEnd =>
      (Text.find "/".toList (text.drop (schemeEnd + 3))).map (· + (schemeEnd + 3))
  match pathStart with
  | none => (endpoint, "/")
  | some start => (String.ofList (text.take start), String.ofList (text.drop start))

/-- One setting: the parsed text when the key is present, else the default. -/
def readSetting {α : Type} (parse : String → Except ConversionError α)
    (settings : ErrorContext) (key : String) (fallback : α) :
    Except ConstructionError α :=
  match settings key with
  | none => .ok fallback
  | some text => (parse text).mapError .conversion

/-- The constructor of `HttpErrorReporter`, with the `std::stod` of the library. -/
def ReporterConfig.construct (stod : String → Except ConversionError Double)
    (provider endpoint : String) (settings : ErrorContext) :
    Except ConstructionError ReporterConfig := do
  let split := splitEndpoint endpoint
  let base : ReporterMembers :=
    { provider := provider, endpoint := split.1, requestPath := split.2 }
  if base.endpoint = "" then
    throw (.invalidArgument "observability endpoint is required")
  let timeoutSeconds ← readSetting stod settings "timeout_seconds" base.timeoutSeconds
  let batchSize ← readSetting stoul settings "batch_size" base.batchSize
  let batchDelaySeconds ←
    readSetting stod settings "batch_delay_seconds" base.batchDelaySeconds
  let maxQueueSize ← readSetting stoul settings "max_queue_size" base.maxQueueSize
  let maxAttempts ← readSetting stoul settings "retry_max_attempts" base.maxAttempts
  let retryBaseDelaySeconds ←
    readSetting stod settings "retry_base_delay_seconds" base.retryBaseDelaySeconds
  let circuitFailureThreshold ←
    readSetting stoul settings "circuit_failure_threshold" base.circuitFailureThreshold
  let circuitOpenSeconds ←
    readSetting stod settings "circuit_open_seconds" base.circuitOpenSeconds
  let members : ReporterMembers :=
    { base with timeoutSeconds, batchSize, maxQueueSize, batchDelaySeconds, maxAttempts,
                retryBaseDelaySeconds, circuitFailureThreshold, circuitOpenSeconds }
  if accepted : members.refused = false then
    return { members with accepted }
  else
    throw (.invalidArgument "invalid observability batch settings")

/-- What the constructor's check says about the integer settings. -/
theorem ReporterConfig.bounds (cfg : ReporterConfig) :
    0 < cfg.batchSize ∧ 0 < cfg.maxQueueSize ∧ 0 < cfg.maxAttempts ∧
      cfg.maxAttempts ≤ 10 ∧ 0 < cfg.circuitFailureThreshold := by
  have h := cfg.accepted
  simp only [ReporterMembers.refused, Bool.or_eq_false_iff, beq_eq_false_iff_ne,
    decide_eq_false_iff_not] at h
  omega

/-- The `double` of the literal `0.1`. -/
def tenth : Double := .finite (mkRat 3602879701896397 36028797018963968)

/-- The reporter of a local collector, with every default. -/
def localCollector : ReporterConfig where
  provider := "otlp"
  endpoint := "http://localhost:4318"
  requestPath := "/v1/logs"
  batchDelaySeconds := tenth
  retryBaseDelaySeconds := tenth
  accepted := by decide

/-- A local collector whose circuit opens at the first failed batch. -/
def fragileCollector : ReporterConfig :=
  { localCollector with circuitFailureThreshold := 1, accepted := by decide }

example : Double.literal (mkRat 1 10) = tenth := by decide +kernel

end DrogonStarter.Observability
