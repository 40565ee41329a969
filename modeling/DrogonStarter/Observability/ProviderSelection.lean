import DrogonStarter.Lib.Trace
import DrogonStarter.Observability.ErrorReporting

/-!
# Which factory makes the reporter

An application registers factories and configures a provider, in any order.  The factories
that are built in are registered by the first configuration, into the same map.

* `reportingModule` is the module as a server of these calls, and
  `run_configureErrorReporterBody` says that no exception leaves a configuration.
* `registered` and `builtIn` are the factories that the past of a call offers for a
  provider, and `consulted_eq` says which of them a configuration finds.
* `Selects` is what a configuration should do, and `selects_along_iff` says in which runs
  every configuration does it: in those in which the first configuration does not overwrite
  a factory that is asked for later.
-/

namespace DrogonStarter.Observability

open Serving

/-- `registerErrorReporterProvider`.  A factory without a target is `none`. -/
def registerErrorReporterProvider (state : Reporting) (provider : String)
    (factory : Option ErrorReporterFactory) : Except ConstructionError Reporting :=
  match factory with
  | none => .error (.invalidArgument "error reporter provider and factory are required")
  | some factory =>
    if provider = "" then
      .error (.invalidArgument "error reporter provider and factory are required")
    else .ok (state.register provider factory)

/-- The body of `configureErrorReporter`.  What a factory throws is caught, and an exception
does not undo what was assigned before it. -/
def configureErrorReporterBody (process : Process) (requestedProvider sentryDsn : String)
    (settings : ErrorContext) : EStateM FactoryError Reporting Unit := do
  modify (·.registerBuiltInProviders process)
  let provider := if requestedProvider = "" then "none" else requestedProvider
  modify ({ · with configuredReporter := .noop })
  if provider = "none" ∨ provider = "noop" then
    return
  match (← get).providerFactories provider with
  | none => return
  | some factory =>
    tryCatch
      (match factory
          { provider, dsn := sentryDsn, settings := withEnvironmentTimeout process settings } with
        | .ok (some reporter) => modify ({ · with configuredReporter := reporter })
        | .ok none => pure ()
        | .error error => throw error)
      fun _ => pure ()

inductive ReportingCall where
  | registerErrorReporterProvider (provider : String) (factory : Option ErrorReporterFactory)
  | configureErrorReporter (provider dsn : String) (settings : ErrorContext)

/-- The module and its calls.  An answer is an exception, or that there is none. -/
def reportingModule (process : Process) :
    Server Reporting ReportingCall (Except FactoryError Unit) where
  next state
    | .registerErrorReporterProvider provider factory =>
      match registerErrorReporterProvider state provider factory with
      | .ok registered => registered
      | .error _ => state
    | .configureErrorReporter provider dsn settings =>
      match (configureErrorReporterBody process provider dsn settings).run state with
      | .ok _ configured | .error _ configured => configured
  answer state
    | .registerErrorReporterProvider provider factory =>
      match registerErrorReporterProvider state provider factory with
      | .ok _ => .ok ()
      | .error error => .error (.construction error)
    | .configureErrorReporter provider dsn settings =>
      match (configureErrorReporterBody process provider dsn settings).run state with
      | .ok _ _ => .ok ()
      | .error error _ => .error error

/-- No exception leaves the body, whatever the factory does. -/
theorem run_configureErrorReporterBody (process : Process) (state : Reporting)
    (provider dsn : String) (settings : ErrorContext) :
    (configureErrorReporterBody process provider dsn settings).run state =
      .ok () (configureErrorReporter process state provider dsn settings) := by
  unfold configureErrorReporterBody configureErrorReporter
  generalize (if provider = "" then "none" else provider) = requested
  by_cases hquiet : requested = "none" ∨ requested = "noop"
  · simp only [if_pos hquiet]
    rfl
  · simp only [if_neg hquiet]
    cases hfound : (state.registerBuiltInProviders process).providerFactories requested with
    | none =>
      simp only [EStateM.run_bind, EStateM.run_modify, EStateM.run_get, hfound]
      rfl
    | some factory =>
      simp only [EStateM.run_bind, EStateM.run_modify, EStateM.run_get, hfound]
      cases hresult : factory _ with
      | error error => rfl
      | ok reporter => cases reporter <;> rfl

theorem next_configure (process : Process) (state : Reporting) (provider dsn : String)
    (settings : ErrorContext) :
    (reportingModule process).next state (.configureErrorReporter provider dsn settings) =
      configureErrorReporter process state provider dsn settings := by
  simp only [reportingModule, run_configureErrorReporterBody]

theorem answer_configure (process : Process) (state : Reporting) (provider dsn : String)
    (settings : ErrorContext) :
    (reportingModule process).answer state (.configureErrorReporter provider dsn settings) =
      .ok () := by
  simp only [reportingModule, run_configureErrorReporterBody]

/-! ## The past of a configuration -/

namespace ReportingCall

def isConfigure : ReportingCall → Bool
  | .configureErrorReporter .. => true
  | .registerErrorReporterProvider .. => false

/-- The factory that a call registers for a provider. -/
def factoryFor (provider : String) : ReportingCall → Option ErrorReporterFactory
  | .registerErrorReporterProvider name factory =>
    if name = provider ∧ name ≠ "" then factory else none
  | .configureErrorReporter .. => none

end ReportingCall

/-- The factory that the application has registered most recently for a provider. -/
def registered (calls : List ReportingCall) (provider : String) : Option ErrorReporterFactory :=
  (latest (fun call => (call.factoryFor provider).isSome) calls).bind (·.factoryFor provider)

/-- The calls from the first configuration on. -/
def sinceFirstConfigure (calls : List ReportingCall) : List ReportingCall :=
  calls.dropWhile (!·.isConfigure)

/-- The factory that comes with the module. -/
def builtIn (process : Process) (provider : String) : Option ErrorReporterFactory :=
  if provider = "sentry" then some (sentryFactory process)
  else if provider = "otlp" then some (otlpFactory process)
  else none

/-- No reporter is asked for. -/
def Disabled (provider : String) : Prop := provider = "" ∨ provider = "none" ∨ provider = "noop"

instance (provider : String) : Decidable (Disabled provider) :=
  inferInstanceAs (Decidable (_ ∨ _))

/-- The reporter that a factory gives: none is made when there is no factory, and when it
returns null or throws. -/
def produced (factory : Option ErrorReporterFactory) (config : ErrorReporterConfig) :
    ErrorReporter :=
  match factory with
  | none => .noop
  | some factory =>
    match factory config with
    | .ok (some reporter) => reporter
    | .ok none | .error _ => .noop

section Runs

variable (process : Process)

/-- The module after some calls. -/
def reportingAfter (calls : List ReportingCall) : Reporting :=
  (reportingModule process).after {} calls

/-- The factory that a configuration of a provider finds after some calls. -/
def consulted (calls : List ReportingCall) (provider : String) : Option ErrorReporterFactory :=
  ((reportingAfter process calls).registerBuiltInProviders process).providerFactories provider

/-- What a configuration should do after some calls. -/
structure Selects (calls : List ReportingCall) (provider dsn : String)
    (settings : ErrorContext) : Prop where
  noThrow : (reportingModule process).answer (reportingAfter process calls)
    (.configureErrorReporter provider dsn settings) = .ok ()
  disabled : Disabled provider →
    (configureErrorReporter process (reportingAfter process calls) provider dsn
      settings).configuredReporter = .noop
  consults : ¬ Disabled provider →
    consulted process calls provider =
      (registered calls provider).or (builtIn process provider)
  activates : ¬ Disabled provider →
    (configureErrorReporter process (reportingAfter process calls) provider dsn
      settings).configuredReporter =
      produced ((registered calls provider).or (builtIn process provider))
        { provider, dsn, settings := withEnvironmentTimeout process settings }

/-- The application has registered a factory of its own for a provider that comes with the
module, and not again after the first configuration. -/
def Overwritten (calls : List ReportingCall) (provider : String) : Prop :=
  ∃ own ∈ registered calls provider, ∃ other ∈ builtIn process provider,
    own ≠ other ∧ registered (sinceFirstConfigure calls) provider = none

variable {process}

theorem registered_append (before rest : List ReportingCall) (provider : String) :
    registered (before ++ rest) provider =
      (registered rest provider).or (registered before provider) := by
  unfold registered
  rw [latest_append]
  cases hlatest : latest (fun call => (call.factoryFor provider).isSome) rest with
  | none => rfl
  | some call =>
    have hfactory : (call.factoryFor provider).isSome := by
      have hfound := List.find?_some hlatest
      exact hfound
    obtain ⟨factory, hsome⟩ := Option.isSome_iff_exists.1 hfactory
    simp [hsome]

theorem registered_singleton (call : ReportingCall) (provider : String) :
    registered [call] provider = call.factoryFor provider := by
  unfold registered latest
  cases hfactory : call.factoryFor provider <;> simp [hfactory]

/-- Before the first configuration nothing has been registered since. -/
theorem sinceFirstConfigure_of_none {calls : List ReportingCall}
    (h : calls.any (·.isConfigure) = false) : sinceFirstConfigure calls = [] := by
  unfold sinceFirstConfigure
  rw [List.dropWhile_eq_nil_iff]
  intro call hmem
  simpa using fun hconfigure =>
    (Bool.eq_false_iff.1 h) (List.any_eq_true.2 ⟨call, hmem, hconfigure⟩)

theorem sinceFirstConfigure_concat (calls : List ReportingCall) (call : ReportingCall) :
    sinceFirstConfigure (calls ++ [call]) =
      if calls.any (·.isConfigure) ∨ call.isConfigure then sinceFirstConfigure calls ++ [call]
      else [] := by
  unfold sinceFirstConfigure
  rw [List.dropWhile_append]
  by_cases hany : calls.any (·.isConfigure) = true
  · have hsome : (calls.dropWhile (!·.isConfigure)).isEmpty = false := by
      rw [Bool.eq_false_iff]
      intro hempty
      rw [List.isEmpty_iff, List.dropWhile_eq_nil_iff] at hempty
      obtain ⟨configure, hmem, hconfigure⟩ := List.any_eq_true.1 hany
      simpa [hconfigure] using hempty configure hmem
    simp [hsome, hany]
  · have hnone : calls.dropWhile (!·.isConfigure) = [] :=
      sinceFirstConfigure_of_none (Bool.eq_false_iff.2 hany)
    simp only [hnone, List.isEmpty_nil, if_true]
    cases hcall : call.isConfigure <;> simp [hany, hcall]

/-! ## The map of the factories -/

/-- What the map holds after some calls. -/
structure Registers (process : Process) (calls : List ReportingCall) (state : Reporting) :
    Prop where
  builtIns : state.builtInsRegistered = calls.any (·.isConfigure)
  before : calls.any (·.isConfigure) = false →
    ∀ provider, state.providerFactories provider = registered calls provider
  after : calls.any (·.isConfigure) = true →
    ∀ provider, state.providerFactories provider =
      (registered (sinceFirstConfigure calls) provider).or
        ((builtIn process provider).or (registered calls provider))

theorem providerFactories_register (state : Reporting) (provider name : String)
    (factory : ErrorReporterFactory) :
    (state.register provider factory).providerFactories name =
      if name = provider then some factory else state.providerFactories name := rfl

/-- The first configuration puts the factories of the module into the map. -/
theorem providerFactories_registerBuiltInProviders (state : Reporting) (provider : String) :
    (state.registerBuiltInProviders process).providerFactories provider =
      if state.builtInsRegistered then state.providerFactories provider
      else (builtIn process provider).or (state.providerFactories provider) := by
  unfold Reporting.registerBuiltInProviders builtIn
  cases state.builtInsRegistered with
  | true => rfl
  | false =>
    change (if provider = "sentry" then _ else if provider = "otlp" then _ else _) = _
    simp only [Bool.false_eq_true, if_false]
    by_cases hsentry : provider = "sentry"
    · simp [hsentry]
    · by_cases hotlp : provider = "otlp"
      · simp [hotlp]
      · simp [hsentry, hotlp]

/-- What a configuration does: the factories of the module go into the map, and the active
reporter is the one that the factory in the map gives. -/
theorem configureErrorReporter_eq (state : Reporting) (provider dsn : String)
    (settings : ErrorContext) :
    configureErrorReporter process state provider dsn settings =
      { state.registerBuiltInProviders process with
        configuredReporter :=
          if Disabled provider then .noop
          else produced ((state.registerBuiltInProviders process).providerFactories provider)
            { provider, dsn, settings := withEnvironmentTimeout process settings } } := by
  unfold configureErrorReporter
  by_cases hdisabled : Disabled provider
  · have hquiet : (if provider = "" then "none" else provider) = "none" ∨
        (if provider = "" then "none" else provider) = "noop" := by
      by_cases hempty : provider = ""
      · exact Or.inl (if_pos hempty)
      · rw [if_neg hempty]
        exact hdisabled.resolve_left hempty
    simp only [if_pos hquiet, if_pos hdisabled]
  · obtain ⟨hempty, hquiet⟩ := not_or.1 hdisabled
    simp only [if_neg hempty, if_neg hquiet, if_neg hdisabled, produced]
    cases (state.registerBuiltInProviders process).providerFactories provider with
    | none => rfl
    | some factory =>
      generalize ({ provider, dsn, settings := withEnvironmentTimeout process settings } :
        ErrorReporterConfig) = config
      cases hresult : factory config with
      | error error => simp only [hresult]
      | ok reporter => cases reporter <;> simp only [hresult]

theorem builtInsRegistered_registerBuiltInProviders (state : Reporting) :
    (state.registerBuiltInProviders process).builtInsRegistered = true := by
  unfold Reporting.registerBuiltInProviders
  split_ifs with hdone
  · exact hdone
  · rfl

/-- A registration puts its factory into the map, unless it throws. -/
theorem factories_of_register (state : Reporting) (name : String)
    (factory : Option ErrorReporterFactory) (provider : String) :
    ((reportingModule process).next state
        (.registerErrorReporterProvider name factory)).providerFactories provider =
      ((ReportingCall.registerErrorReporterProvider name factory).factoryFor provider).or
        (state.providerFactories provider) ∧
    ((reportingModule process).next state
        (.registerErrorReporterProvider name factory)).builtInsRegistered =
      state.builtInsRegistered := by
  simp only [reportingModule, registerErrorReporterProvider, ReportingCall.factoryFor]
  cases factory with
  | none => simp
  | some factory =>
    by_cases hname : name = ""
    · simp [hname]
    · simp only [if_neg hname]
      refine ⟨?_, rfl⟩
      by_cases hprovider : name = provider
      · simp [providerFactories_register, hprovider, hprovider ▸ hname]
      · simp [providerFactories_register, hprovider, Ne.symm hprovider]

theorem registers_new : Registers process [] {} where
  builtIns := rfl
  before _ _ := rfl
  after hany := absurd hany Bool.false_ne_true

/-- Every call keeps the map and the past together. -/
theorem Registers.next {calls : List ReportingCall} {state : Reporting}
    (h : Registers process calls state) (call : ReportingCall) :
    Registers process (calls ++ [call]) ((reportingModule process).next state call) := by
  cases call with
  | registerErrorReporterProvider name factory =>
    have hany : (calls ++ [ReportingCall.registerErrorReporterProvider name factory]).any
        (·.isConfigure) = calls.any (·.isConfigure) := by
      simp [ReportingCall.isConfigure]
    refine ⟨?_, fun hnone provider => ?_, fun hsome provider => ?_⟩
    · rw [(factories_of_register state name factory "").2, hany]
      exact h.builtIns
    · rw [hany] at hnone
      rw [(factories_of_register state name factory provider).1, h.before hnone,
        registered_append, registered_singleton]
    · rw [hany] at hsome
      rw [(factories_of_register state name factory provider).1, h.after hsome,
        sinceFirstConfigure_concat, if_pos (Or.inl hsome), registered_append,
        registered_append, registered_singleton, Option.or_assoc]
      cases (ReportingCall.registerErrorReporterProvider name factory).factoryFor provider <;>
        simp
  | configureErrorReporter name dsn settings =>
    have hany : (calls ++ [ReportingCall.configureErrorReporter name dsn settings]).any
        (·.isConfigure) = true := by
      simp [ReportingCall.isConfigure]
    have hconfigure : (ReportingCall.configureErrorReporter name dsn settings).isConfigure =
        true := rfl
    have hnothing : ∀ provider, ReportingCall.factoryFor provider
        (.configureErrorReporter name dsn settings) = none := fun _ => rfl
    refine ⟨?_, fun hnone => absurd hany (by rw [hnone]; exact Bool.false_ne_true),
      fun _ provider => ?_⟩
    · rw [next_configure, hany, configureErrorReporter_eq]
      exact builtInsRegistered_registerBuiltInProviders state
    · rw [next_configure, configureErrorReporter_eq]
      change (state.registerBuiltInProviders process).providerFactories provider = _
      rw [providerFactories_registerBuiltInProviders, h.builtIns,
        sinceFirstConfigure_concat, if_pos (Or.inr hconfigure), registered_append,
        registered_append, registered_singleton, hnothing, Option.none_or, Option.none_or]
      cases hbefore : calls.any (·.isConfigure) with
      | true => rw [if_pos rfl, h.after hbefore]
      | false =>
        rw [if_neg Bool.false_ne_true, h.before hbefore, sinceFirstConfigure_of_none hbefore]
        rfl

/-- What the map holds after any calls. -/
theorem registers_after (calls : List ReportingCall) :
    Registers process calls (reportingAfter process calls) := by
  induction calls using List.reverseRecOn with
  | nil => exact registers_new
  | append_singleton calls call ih =>
    rw [reportingAfter, Server.after_concat]
    exact ih.next call

/-- A configuration finds what was registered since the first one, or what comes with the
module, or what was registered before. -/
theorem consulted_eq (calls : List ReportingCall) (provider : String) :
    consulted process calls provider =
      (registered (sinceFirstConfigure calls) provider).or
        ((builtIn process provider).or (registered calls provider)) := by
  have h : Registers process calls (reportingAfter process calls) := registers_after calls
  rw [consulted, providerFactories_registerBuiltInProviders, h.builtIns]
  cases hany : calls.any (·.isConfigure) with
  | true => rw [if_pos rfl, h.after hany]
  | false =>
    rw [if_neg Bool.false_ne_true, h.before hany, sinceFirstConfigure_of_none hany]
    rfl

/-- A configuration finds what the application registered last, or else what comes with the
module, unless the module has overwritten it. -/
theorem consulted_iff (calls : List ReportingCall) (provider : String) :
    consulted process calls provider =
        (registered calls provider).or (builtIn process provider) ↔
      ¬ Overwritten process calls provider := by
  have hsplit : registered calls provider =
      (registered (sinceFirstConfigure calls) provider).or
        (registered (calls.takeWhile (!·.isConfigure)) provider) := by
    conv_lhs => rw [← List.takeWhile_append_dropWhile (p := (!·.isConfigure)) (l := calls)]
    exact registered_append ..
  rw [consulted_eq]
  cases hsince : registered (sinceFirstConfigure calls) provider with
  | some factory =>
    rw [hsince] at hsplit
    refine iff_of_true (by rw [hsplit]; rfl) ?_
    rintro ⟨_, _, _, _, _, hnone⟩
    exact Option.some_ne_none _ (hsince.symm.trans hnone)
  | none =>
    rw [Option.none_or]
    cases hown : registered calls provider with
    | none =>
      refine iff_of_true (by simp) ?_
      rintro ⟨own, hsome, _⟩
      rw [hown] at hsome
      cases hsome
    | some own =>
      cases hother : builtIn process provider with
      | none =>
        refine iff_of_true rfl ?_
        rintro ⟨_, _, other, hsome, _⟩
        rw [hother] at hsome
        cases hsome
      | some other =>
        constructor
        · intro heq hover
          obtain ⟨own', hown', other', hother', hne, _⟩ := hover
          cases Option.mem_unique hown' hown
          cases Option.mem_unique hother' hother
          exact hne (Option.some.inj heq).symm
        · intro hnot
          by_contra hne
          exact hnot ⟨own, hown, other, hother, fun heq => hne (congrArg some heq.symm), hsince⟩

/-- A disabled provider is not one of the module. -/
theorem not_overwritten_of_disabled {calls : List ReportingCall} {provider : String}
    (h : Disabled provider) : ¬ Overwritten process calls provider := by
  rintro ⟨_, _, other, hother, _⟩
  rcases h with rfl | rfl | rfl <;> exact absurd hother (by simp [builtIn])

theorem selects_iff (calls : List ReportingCall) (provider dsn : String)
    (settings : ErrorContext) :
    Selects process calls provider dsn settings ↔ ¬ Overwritten process calls provider := by
  have hactive : (configureErrorReporter process (reportingAfter process calls) provider dsn
      settings).configuredReporter =
      if Disabled provider then .noop
      else produced (consulted process calls provider)
        { provider, dsn, settings := withEnvironmentTimeout process settings } := by
    rw [configureErrorReporter_eq]
    rfl
  constructor
  · intro h
    by_cases hdisabled : Disabled provider
    · exact not_overwritten_of_disabled hdisabled
    · exact (consulted_iff calls provider).1 (h.consults hdisabled)
  · intro h
    have hconsulted := (consulted_iff calls provider).2 h
    exact {
      noThrow := answer_configure ..
      disabled := fun hdisabled => by rw [hactive, if_pos hdisabled]
      consults := fun _ => hconsulted
      activates := fun hdisabled => by rw [hactive, if_neg hdisabled, hconsulted] }

end Runs

/-- Every configuration of a run consults the factory that the application registered last,
or the one of the module when it registered none, and activates what that factory returns,
exactly when the first configuration of the run has not overwritten a factory that is asked
for. -/
theorem selects_along_iff (process : Process) (calls : List ReportingCall) :
    (∀ before provider dsn settings rest,
        calls = before ++ .configureErrorReporter provider dsn settings :: rest →
          Selects process before provider dsn settings) ↔
      ∀ before provider dsn settings rest,
        calls = before ++ .configureErrorReporter provider dsn settings :: rest →
          ¬ Overwritten process before provider := by
  constructor
  · intro h before provider dsn settings rest hsplit
    exact (selects_iff before provider dsn settings).1
      (h before provider dsn settings rest hsplit)
  · intro h before provider dsn settings rest hsplit
    exact (selects_iff before provider dsn settings).2
      (h before provider dsn settings rest hsplit)

/-- An application registers an adapter of its own for Sentry and then configures it.  The
module overwrites the adapter and sends to the DSN itself. -/
theorem adapter_overwritten :
    ¬ ∀ process calls provider dsn settings, Selects process calls provider dsn settings := by
  intro hall
  have hselects := hall { environment := fun _ => none, clientThrows := fun _ => false }
    [.registerErrorReporterProvider "sentry" (some fun _ => .ok (some (.adapter "sentry")))]
    "sentry" "https://public@example.com/42" fun _ => none
  have hactive := hselects.activates (by decide)
  have hdestination := congrArg ErrorReporter.destination hactive
  revert hdestination
  decide +kernel

end DrogonStarter.Observability
