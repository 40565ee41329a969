import DrogonStarter.Observability.ErrorReporting

/-!
# From a DSN to an address

A DSN is `scheme://key@host/project`.  `SentryErrorReporter::endpoint` rebuilds it into the
address of an envelope, and the constructor of `HttpErrorReporter` splits that address
again.  Both look for the first occurrence of a separator.

* `sentryDsn` and `sentryAddress` are the two texts.
* `endpoint_sentryDsn` and `splitEndpoint_sentryAddress` are about the two functions.
* `sentryDsn_translated` is about the reporter that they make together.
-/

namespace DrogonStarter.Observability

/-- The constructor of `SentryErrorReporter`. -/
def newSentryErrorReporter (process : Process) (config : ErrorReporterConfig) :
    Except FactoryError ErrorReporter :=
  match SentryErrorReporter.endpoint config with
  | .error error => .error (.construction error)
  | .ok endpoint => newHttpErrorReporter process "sentry" endpoint config.settings

/-- The factory constructs a reporter unless there is no DSN. -/
theorem sentryFactory_eq (process : Process) (config : ErrorReporterConfig) :
    sentryFactory process config =
      if config.dsn = "" then .ok none else (newSentryErrorReporter process config).map some := by
  unfold sentryFactory newSentryErrorReporter
  cases SentryErrorReporter.endpoint config <;> rfl

/-- The parts of a DSN, without the separators that would end them early. -/
structure DsnParts where
  scheme : String
  key : String
  host : String
  project : String
  scheme_at : '@' ∉ scheme.toList
  scheme_separator : ¬ "://".toList <:+: scheme.toList
  key_at : '@' ∉ key.toList
  host_slash : '/' ∉ host.toList
  project_ne : project ≠ ""

namespace DsnParts

variable (d : DsnParts)

def sentryDsn : String := d.scheme ++ "://" ++ d.key ++ "@" ++ d.host ++ "/" ++ d.project

/-- The scheme and the host: what a client is made for. -/
def origin : String := d.scheme ++ "://" ++ d.host

def envelopePath : String :=
  "/api/" ++ d.project ++ "/envelope/?sentry_version=7&sentry_key=" ++ d.key

def sentryAddress : String := d.origin ++ d.envelopePath

theorem toList_sentryDsn :
    d.sentryDsn.toList =
      (d.scheme.toList ++ ("://".toList ++ d.key.toList)) ++
        '@' :: (d.host.toList ++ '/' :: d.project.toList) := by
  have hat : "@".toList = ['@'] := rfl
  have hslash : "/".toList = ['/'] := rfl
  simp only [sentryDsn, String.toList_append, hat, hslash, List.append_assoc,
    List.cons_append, List.nil_append]

/-- The first `@` ends the key. -/
theorem find_at :
    Text.find "@".toList d.sentryDsn.toList =
      some (d.scheme.toList.length + 3 + d.key.toList.length) := by
  have hbefore : '@' ∉ d.scheme.toList ++ ("://".toList ++ d.key.toList) := by
    have hseparator : '@' ∉ "://".toList := by decide
    simp only [List.mem_append, not_or]
    exact ⟨d.scheme_at, hseparator, d.key_at⟩
  rw [toList_sentryDsn]
  refine (Text.find_singleton_append _ hbefore).trans ?_
  have hlength : "://".toList.length = 3 := rfl
  simp only [List.length_append, hlength, Nat.add_assoc]

/-- The first `://` ends the scheme, in any text that goes on after it. -/
theorem find_separator (rest : List Char) :
    Text.find "://".toList (d.scheme.toList ++ ("://".toList ++ rest)) =
      some d.scheme.toList.length := by
  have hslashes : ':' ∉ ['/', '/'] := by decide
  exact Text.find_append rest hslashes d.scheme_separator

theorem find_separator_sentryDsn :
    Text.find "://".toList d.sentryDsn.toList = some d.scheme.toList.length := by
  rw [toList_sentryDsn, List.append_assoc, List.append_assoc]
  exact d.find_separator _

/-- The DSN is rebuilt into the address. -/
theorem endpoint_sentryDsn (provider : String) (settings : ErrorContext) :
    SentryErrorReporter.endpoint { provider, dsn := d.sentryDsn, settings } =
      .ok d.sentryAddress := by
  have hlength : "://".toList.length = 3 := rfl
  have hscheme : d.sentryDsn.toList.take (d.scheme.toList.length + 3) =
      d.scheme.toList ++ "://".toList := by
    rw [toList_sentryDsn, ← List.append_assoc, List.append_assoc]
    exact List.take_left' (by rw [List.length_append, hlength])
  have hrest : d.sentryDsn.toList.drop (d.scheme.toList.length + 3) =
      d.key.toList ++ '@' :: (d.host.toList ++ '/' :: d.project.toList) := by
    rw [toList_sentryDsn, ← List.append_assoc, List.append_assoc]
    exact List.drop_left' (by rw [List.length_append, hlength])
  have hafter : d.sentryDsn.toList.drop (d.scheme.toList.length + 3 + d.key.toList.length + 1) =
      d.host.toList ++ '/' :: d.project.toList := by
    rw [Nat.add_assoc, ← List.drop_drop, hrest]
    exact Text.drop_append_cons rfl
  have hproject : d.project.toList ≠ [] := fun hnil =>
    d.project_ne (String.toList_eq_nil_iff.1 hnil)
  have hslash : Text.find "/".toList (d.host.toList ++ '/' :: d.project.toList) =
      some d.host.toList.length := Text.find_singleton_append _ d.host_slash
  unfold SentryErrorReporter.endpoint
  simp only [d.find_at, d.find_separator_sentryDsn, hscheme, hrest, hafter, hslash]
  rw [if_neg (by omega : ¬ d.scheme.toList.length + 3 + d.key.toList.length <
    d.scheme.toList.length + 3)]
  have hkey : (d.key.toList ++ '@' :: (d.host.toList ++ '/' :: d.project.toList)).take
      (d.scheme.toList.length + 3 + d.key.toList.length - (d.scheme.toList.length + 3)) =
      d.key.toList := by
    rw [Nat.add_sub_cancel_left, List.take_left]
  have htail : (d.host.toList ++ '/' :: d.project.toList).drop (d.host.toList.length + 1) =
      d.project.toList := Text.drop_append_cons rfl
  rw [hkey, htail, if_neg hproject, List.take_left]
  refine congrArg Except.ok (String.toList_inj.1 ?_)
  simp only [sentryAddress, origin, envelopePath, String.toList_append, String.toList_ofList,
    List.append_assoc]

/-- The address is split into the origin and the path. -/
theorem splitEndpoint_sentryAddress :
    splitEndpoint d.sentryAddress = (d.origin, d.envelopePath) := by
  have hpath : d.envelopePath.toList = '/' :: d.envelopePath.toList.tail := by
    simp only [envelopePath, String.toList_append]
    rfl
  have haddress : d.sentryAddress.toList =
      d.scheme.toList ++ ("://".toList ++ (d.host.toList ++ d.envelopePath.toList)) := by
    simp only [sentryAddress, origin, String.toList_append, List.append_assoc]
  have horigin : d.sentryAddress.toList = d.origin.toList ++ d.envelopePath.toList := by
    rw [sentryAddress, String.toList_append]
  have hlength : d.origin.toList.length = d.host.toList.length + (d.scheme.toList.length + 3) := by
    have hseparator : "://".toList.length = 3 := rfl
    simp only [origin, String.toList_append, List.length_append, hseparator]
    omega
  have hscheme : Text.find "://".toList d.sentryAddress.toList =
      some d.scheme.toList.length := by
    rw [haddress]
    exact d.find_separator _
  have hdrop : d.sentryAddress.toList.drop (d.scheme.toList.length + 3) =
      d.host.toList ++ '/' :: d.envelopePath.toList.tail := by
    have hseparator : "://".toList.length = 3 := rfl
    rw [haddress, ← List.append_assoc, List.drop_left' (by rw [List.length_append, hseparator]),
      ← hpath]
  have hslash : Text.find "/".toList (d.host.toList ++ '/' :: d.envelopePath.toList.tail) =
      some d.host.toList.length := Text.find_singleton_append _ d.host_slash
  unfold splitEndpoint
  simp only [hscheme, Option.bind_some, hdrop, hslash, Option.map_some]
  rw [← hlength, horigin, List.take_left, List.drop_left, String.ofList_toList,
    String.ofList_toList]

/-- With the same settings a reporter can be constructed for the address of the DSN, when one
can be for any endpoint. -/
theorem constructedFrom_sentryAddress
    {stod : String → Except CppNumber.ConversionError CppNumber.Double}
    {endpoint : String} {settings : ErrorContext} {reporter : ReporterConfig}
    (h : ReporterConfig.construct stod "sentry" endpoint settings = .ok reporter) :
    ReporterConfig.construct stod "sentry" d.sentryAddress settings =
      .ok { reporter with endpoint := d.origin, requestPath := d.envelopePath } := by
  have horigin : d.origin ≠ "" := by
    intro hempty
    have hlength := congrArg (fun text : String => text.toList.length) hempty
    simp [origin] at hlength
  have hfrom := constructed_iff.1 h
  exact constructed_iff.2 { hfrom with
    endpoint := d.splitEndpoint_sentryAddress.symm
    required := horigin }

variable (process : Process) (provider : String) (settings : ErrorContext)

theorem newSentryErrorReporter_eq :
    newSentryErrorReporter process { provider, dsn := d.sentryDsn, settings } =
      newHttpErrorReporter process "sentry" d.sentryAddress settings := by
  unfold newSentryErrorReporter
  rw [d.endpoint_sentryDsn]

variable {process provider settings}

/-- A reporter for the DSN has the two parts of the address. -/
theorem parts_of_newSentryErrorReporter {result : ErrorReporter}
    (h : newSentryErrorReporter process { provider, dsn := d.sentryDsn, settings } =
      .ok result) :
    ∃ reporter : ReporterConfig, result = .http reporter ∧ reporter.endpoint = d.origin ∧
      reporter.requestPath = d.envelopePath := by
  rw [newSentryErrorReporter_eq] at h
  unfold newHttpErrorReporter at h
  cases hconstruct : ReporterConfig.construct process.stod "sentry" d.sentryAddress settings with
  | error error =>
    rw [hconstruct] at h
    cases h
  | ok reporter =>
    simp only [hconstruct] at h
    split at h
    · cases h
    · cases h
      have hparts := (constructed_iff.1 hconstruct).endpoint
      rw [splitEndpoint_sentryAddress, Prod.mk.injEq] at hparts
      exact ⟨reporter, rfl, hparts.1, hparts.2⟩

/-- There is a reporter for the DSN when there is one for any endpoint. -/
theorem exists_newSentryErrorReporter {endpoint : String} {other : ReporterConfig}
    (hsettings : ReporterConfig.construct process.stod "sentry" endpoint settings = .ok other)
    (hclient : process.clientThrows d.origin = false) :
    ∃ result,
      newSentryErrorReporter process { provider, dsn := d.sentryDsn, settings } = .ok result := by
  rw [newSentryErrorReporter_eq]
  unfold newHttpErrorReporter
  rw [d.constructedFrom_sentryAddress hsettings]
  simp only [hclient, Bool.false_eq_true, if_false]
  exact ⟨_, rfl⟩

end DsnParts

/-- From a DSN with a scheme, a key, a host and a project, a reporter is constructed that
sends to the host, on the envelope path of the project and with the key.  The DSN is no
reason for an exception: there is such a reporter whenever a client can be made for the host
and the settings let a reporter be constructed for any endpoint. -/
theorem sentryDsn_translated {scheme key host project : String} (hscheme : '@' ∉ scheme.toList)
    (hseparator : ¬ "://".toList <:+: scheme.toList) (hkey : '@' ∉ key.toList)
    (hhost : '/' ∉ host.toList) (hproject : project ≠ "") (process : Process)
    (config : ErrorReporterConfig)
    (hdsn : config.dsn = scheme ++ "://" ++ key ++ "@" ++ host ++ "/" ++ project) :
    (SentryErrorReporter.endpoint config).map splitEndpoint =
        .ok (scheme ++ "://" ++ host,
          "/api/" ++ project ++ "/envelope/?sentry_version=7&sentry_key=" ++ key) ∧
      (∀ result, newSentryErrorReporter process config = .ok result →
        ∃ reporter : ReporterConfig, result = .http reporter ∧
          reporter.endpoint = scheme ++ "://" ++ host ∧
          reporter.requestPath =
            "/api/" ++ project ++ "/envelope/?sentry_version=7&sentry_key=" ++ key) ∧
      (∀ endpoint other,
        ReporterConfig.construct process.stod "sentry" endpoint config.settings = .ok other →
        process.clientThrows (scheme ++ "://" ++ host) = false →
          ∃ result, newSentryErrorReporter process config = .ok result) := by
  obtain ⟨provider, dsn, settings⟩ := config
  cases hdsn
  let d : DsnParts :=
    { scheme, key, host, project, scheme_at := hscheme, scheme_separator := hseparator,
      key_at := hkey, host_slash := hhost, project_ne := hproject }
  refine ⟨?_, fun result h => ?_, fun endpoint other hsettings hclient => ?_⟩
  · exact (congrArg (Except.map splitEndpoint) (d.endpoint_sentryDsn provider settings)).trans
      (congrArg Except.ok d.splitEndpoint_sentryAddress)
  · exact d.parts_of_newSentryErrorReporter h
  · exact d.exists_newSentryErrorReporter hsettings hclient

/-- A project of Sentry's own service, with the default settings. -/
theorem sentryDsn_translated_ingest :
    (SentryErrorReporter.endpoint
          { provider := "sentry"
            dsn := "https" ++ "://" ++ "examplePublicKey" ++ "@" ++ "o0.ingest.sentry.io" ++
              "/" ++ "42"
            settings := fun _ => none }).map splitEndpoint =
        .ok ("https" ++ "://" ++ "o0.ingest.sentry.io",
          "/api/" ++ "42" ++ "/envelope/?sentry_version=7&sentry_key=" ++ "examplePublicKey") :=
  (sentryDsn_translated (by decide) (by decide) (by decide) (by decide) (by decide)
    { environment := fun _ => none, clientThrows := fun _ => false } _ rfl).1

end DrogonStarter.Observability
