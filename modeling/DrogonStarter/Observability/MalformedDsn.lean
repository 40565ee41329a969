import DrogonStarter.Observability.ProviderSelection
import DrogonStarter.Observability.SentryDsn

/-!
# A DSN that is not one

`SentryErrorReporter::endpoint` looks for `@` and for `://` in the whole text, and neither
compares the two positions nor looks whether a part is empty.

* `WellFormed` are the DSNs with four parts, and `Misordered` the texts with an `@` in front of
  their first `://`.
* `endpoint_cases` are the three things that `endpoint` can do.
* `RefusesMalformed` says that a text that is not well formed leaves no reporter, and
  `refusesMalformed_iff` for which texts that is so.
-/

namespace DrogonStarter.Observability

/-- A scheme, a key, a host and a project, none of them empty. -/
def WellFormed (dsn : String) : Prop :=
  ∃ d : DsnParts, d.sentryDsn = dsn ∧ d.scheme ≠ "" ∧ d.key ≠ "" ∧ d.host ≠ ""

/-- `separator - scheme - 3` is less than zero. -/
def Underflows (dsn : String) : Prop :=
  ∃ separator scheme, Text.find "@".toList dsn.toList = some separator ∧
    Text.find "://".toList dsn.toList = some scheme ∧ separator < scheme + 3

/-- The first `@` comes before the first `://`. -/
def Misordered (dsn : String) : Prop :=
  ∃ separator scheme, Text.find "@".toList dsn.toList = some separator ∧
    Text.find "://".toList dsn.toList = some scheme ∧ separator < scheme

/-- A text that is not well formed is refused, without an underflow on the way, and leaves no
reporter while the factory of `sentry` is the one that comes with the module. -/
def RefusesMalformed (dsn : String) : Prop :=
  ¬ WellFormed dsn →
    (∀ provider settings, ∃ what,
      SentryErrorReporter.endpoint { provider, dsn, settings } = .error (.invalidArgument what)) ∧
    ¬ Underflows dsn ∧
    ∀ (process : Process) (state : Reporting) (settings : ErrorContext),
      (state.registerBuiltInProviders process).providerFactories "sentry" =
          some (sentryFactory process) →
        (configureErrorReporter process state "sentry" dsn settings).configuredReporter = .noop

/-! ## The parts of a DSN -/

namespace DsnParts

/-- A text has only one scheme, key and host. -/
theorem parts_unique {d e : DsnParts} (h : d.sentryDsn = e.sentryDsn) :
    d.scheme = e.scheme ∧ d.key = e.key ∧ d.host = e.host := by
  have hscheme : d.scheme.toList.length = e.scheme.toList.length := by
    have hd := d.find_separator_sentryDsn
    rw [h, e.find_separator_sentryDsn] at hd
    exact (Option.some.inj hd).symm
  have hchars := congrArg String.toList h
  rw [toList_sentryDsn, toList_sentryDsn] at hchars
  simp only [List.append_assoc] at hchars
  obtain ⟨hschemes, hrest⟩ := List.append_inj hchars hscheme
  obtain ⟨hkeys, hafter⟩ :=
    CppNumber.append_cons_inj d.key_at e.key_at (List.append_cancel_left hrest)
  obtain ⟨hhosts, _⟩ := CppNumber.append_cons_inj d.host_slash e.host_slash hafter
  exact ⟨String.toList_inj.1 hschemes, String.toList_inj.1 hkeys, String.toList_inj.1 hhosts⟩

theorem not_misordered (d : DsnParts) : ¬ Misordered d.sentryDsn := by
  rintro ⟨separator, scheme, hseparator, hscheme, hlt⟩
  rw [d.find_at, Option.some.injEq] at hseparator
  rw [d.find_separator_sentryDsn, Option.some.injEq] at hscheme
  omega

end DsnParts

/-- An `@` is not inside a `://`, so the count is less than zero only when the `@` is in front
of it. -/
theorem misordered_of_underflows {dsn : String} (h : Underflows dsn) : Misordered dsn := by
  obtain ⟨separator, scheme, hseparator, hscheme, hlt⟩ := h
  refine ⟨separator, scheme, hseparator, hscheme, by_contra fun hge => ?_⟩
  obtain ⟨before, after, hdsn, hlength, _⟩ := Text.find_eq_some (by decide) hscheme
  obtain ⟨before', after', hdsn', hlength', _⟩ := Text.find_singleton_eq_some (c := '@') hseparator
  have hcharacter : dsn.toList[separator]? = some '@' := by
    rw [hdsn']
    exact Text.getElem?_append_cons hlength'
  rw [hdsn, List.getElem?_append_right (by omega),
    List.getElem?_append_left (by rw [show "://".toList.length = 3 from rfl]; omega)] at hcharacter
  exact absurd (List.mem_of_getElem? hcharacter) (by decide)

/-! ## What `endpoint` does -/

/-- A text with the separators in their order has the parts of a DSN. -/
theorem exists_parts {dsn : String} {before after key host project : List Char}
    (hdsn : dsn.toList = before ++ ("://".toList ++ (key ++ '@' :: after)))
    (hafter : after = host ++ '/' :: project) (hseparator : ¬ "://".toList <:+: before)
    (hbefore : '@' ∉ before) (hkey : '@' ∉ key) (hhost : '/' ∉ host) (hproject : project ≠ []) :
    ∃ d : DsnParts, d.sentryDsn = dsn := by
  let d : DsnParts :=
    { scheme := String.ofList before
      key := String.ofList key
      host := String.ofList host
      project := String.ofList project
      scheme_at := by rwa [String.toList_ofList]
      scheme_separator := by simpa only [String.toList_ofList] using hseparator
      key_at := by rwa [String.toList_ofList]
      host_slash := by rwa [String.toList_ofList]
      project_ne := by
        intro hempty
        exact hproject (by simpa using congrArg String.toList hempty) }
  refine ⟨d, String.toList_inj.1 ?_⟩
  simp only [d.toList_sentryDsn, d, String.toList_ofList, hdsn, hafter, List.append_assoc]

/-- After an `@` in front of the `://` there are two slashes, so there is something behind the
first of them. -/
theorem project_of_misordered {rest after host project : List Char}
    (h : rest ++ ("://".toList ++ after) = host ++ '/' :: project) (hhost : '/' ∉ host) :
    project ≠ [] := by
  rintro rfl
  have hcount := congrArg (List.count '/') h
  have hslashes : List.count '/' "://".toList = 2 := rfl
  rw [List.count_append, List.count_append, List.count_append, hslashes,
    List.count_eq_zero.2 hhost, List.count_cons_self, List.count_nil] at hcount
  omega

theorem endpoint_of_misordered {dsn : String} (h : Misordered dsn) (provider : String)
    (settings : ErrorContext) :
    ∃ address, SentryErrorReporter.endpoint { provider, dsn, settings } = .ok address := by
  obtain ⟨separator, scheme, hseparator, hscheme, hlt⟩ := h
  obtain ⟨before, after, hdsn, hlength, _⟩ := Text.find_eq_some (by decide) hscheme
  have hrest : dsn.toList.drop (separator + 1) =
      before.drop (separator + 1) ++ ("://".toList ++ after) := by
    rw [hdsn, List.drop_append_of_le_length (by omega)]
  unfold SentryErrorReporter.endpoint
  simp only [hseparator, hscheme, hrest]
  cases hslash : Text.find "/".toList (before.drop (separator + 1) ++ ("://".toList ++ after)) with
  | none =>
    exact absurd (by simp) (find_singleton_eq_none_iff (c := '/').1 hslash)
  | some hostLength =>
    obtain ⟨host, project, hsplit, rfl, hhost⟩ := Text.find_singleton_eq_some (c := '/') hslash
    have hproject := project_of_misordered hsplit hhost
    have hdrop : (host ++ '/' :: project).drop (host.length + 1) = project :=
      Text.drop_append_cons rfl
    simp only [hsplit, hdrop]
    exact ⟨_, if_neg hproject⟩

/-- With the `://` in front of the `@`, what is between them is the key. -/
theorem exists_key {text : List Char} {separator scheme : Nat}
    (hseparator : Text.find "@".toList text = some separator)
    (hscheme : Text.find "://".toList text = some scheme) (horder : scheme + 3 ≤ separator) :
    ∃ before key, text = before ++ ("://".toList ++ (key ++ '@' :: text.drop (separator + 1))) ∧
      ¬ "://".toList <:+: before ∧ '@' ∉ before ∧ '@' ∉ key := by
  obtain ⟨before, rest, hbefore, hbeforeLength, hinside⟩ := Text.find_eq_some (by decide) hscheme
  obtain ⟨early, after, hearly, hearlyLength, hat⟩ :=
    Text.find_singleton_eq_some (c := '@') hseparator
  have hdrop : text.drop (separator + 1) = after := by
    rw [hearly]
    exact Text.drop_append_cons hearlyLength
  obtain ⟨key, hkey⟩ : before ++ "://".toList <+: early := by
    have hstarts : before ++ "://".toList <+: text := by
      rw [hbefore, ← List.append_assoc]
      exact List.prefix_append _ _
    refine List.prefix_of_prefix_length_le hstarts (hearly ▸ List.prefix_append _ _) ?_
    rw [List.length_append, hbeforeLength, hearlyLength]
    exact horder
  rw [← hkey] at hat hearly
  simp only [List.mem_append, not_or] at hat
  refine ⟨before, key, ?_, hinside, hat.1.1, hat.2⟩
  rw [hdrop, hearly]
  simp only [List.append_assoc]

/-- A text is refused, or it is accepted although its `@` is in front of its `://`, or it has
the parts of a DSN. -/
theorem endpoint_cases (dsn : String) :
    (¬ Misordered dsn ∧ ∃ what, ∀ provider settings,
      SentryErrorReporter.endpoint { provider, dsn, settings } =
        .error (.invalidArgument what)) ∨
    Misordered dsn ∨ ∃ d : DsnParts, d.sentryDsn = dsn := by
  by_cases hmisordered : Misordered dsn
  · exact Or.inr (Or.inl hmisordered)
  unfold SentryErrorReporter.endpoint
  cases hseparator : Text.find "@".toList dsn.toList with
  | none => exact Or.inl ⟨hmisordered, "SENTRY_DSN must be a URL", fun _ _ => by
      simp only [hseparator]⟩
  | some separator =>
    cases hscheme : Text.find "://".toList dsn.toList with
    | none =>
      exact Or.inl ⟨hmisordered, "SENTRY_DSN must be a URL", fun _ _ => by
        simp only [hseparator, hscheme]⟩
    | some scheme =>
      have horder : scheme + 3 ≤ separator := by
        by_contra hlt
        exact hmisordered (misordered_of_underflows
          ⟨separator, scheme, hseparator, hscheme, by omega⟩)
      obtain ⟨before, key, hdsn, hinside, hbefore, hkey⟩ := exists_key hseparator hscheme horder
      cases hslash : Text.find "/".toList (dsn.toList.drop (separator + 1)) with
      | none =>
        refine Or.inl ⟨hmisordered, "SENTRY_DSN must include a project id", fun _ _ => ?_⟩
        simp only [hseparator, hscheme, hslash]
      | some hostLength =>
        obtain ⟨host, project, hsplit, hhostLength, hhost⟩ :=
          Text.find_singleton_eq_some (c := '/') hslash
        by_cases hproject : project = []
        · refine Or.inl ⟨hmisordered, "SENTRY_DSN must include a project id", fun _ _ => ?_⟩
          have hnothing : (dsn.toList.drop (separator + 1)).drop (hostLength + 1) = [] := by
            rw [hsplit, hproject]
            exact Text.drop_append_cons hhostLength
          simp only [hseparator, hscheme, hslash]
          exact if_pos hnothing
        · exact Or.inr (Or.inr (exists_parts hdsn hsplit hinside hbefore hkey hhost hproject))

/-- A text that is not well formed is refused if and only if it has no `@` in front of its
first `://`, and is not a DSN with an empty scheme, key or host. -/
theorem refusesMalformed_iff (dsn : String) :
    RefusesMalformed dsn ↔
      ¬ Misordered dsn ∧ ∀ d : DsnParts, d.sentryDsn = dsn →
        d.scheme ≠ "" ∧ d.key ≠ "" ∧ d.host ≠ "" := by
  constructor
  · intro hrefuses
    constructor
    · intro hmisordered
      have hmalformed : ¬ WellFormed dsn := by
        rintro ⟨d, rfl, _⟩
        exact d.not_misordered hmisordered
      obtain ⟨what, hrefused⟩ := (hrefuses hmalformed).1 "sentry" fun _ => none
      obtain ⟨address, haccepted⟩ := endpoint_of_misordered hmisordered "sentry" fun _ => none
      cases hrefused.symm.trans haccepted
    · rintro d rfl
      by_contra hempty
      have hmalformed : ¬ WellFormed d.sentryDsn := by
        rintro ⟨e, he, hparts⟩
        obtain ⟨hscheme, hkey, hhost⟩ := DsnParts.parts_unique he
        exact hempty (hscheme ▸ hkey ▸ hhost ▸ hparts)
      obtain ⟨what, hrefused⟩ := (hrefuses hmalformed).1 "sentry" fun _ => none
      cases hrefused.symm.trans (d.endpoint_sentryDsn "sentry" fun _ => none)
  · rintro ⟨hordered, hparts⟩ hmalformed
    rcases endpoint_cases dsn with ⟨_, what, hrefused⟩ | hmisordered | ⟨d, hd⟩
    · refine ⟨fun provider settings => ⟨what, hrefused provider settings⟩,
        fun hunder => hordered (misordered_of_underflows hunder), ?_⟩
      intro process state settings hfactory
      have hdisabled : ¬ Disabled "sentry" := by decide
      rw [configureErrorReporter_eq]
      simp only [if_neg hdisabled, hfactory, produced, sentryFactory, hrefused]
      by_cases hempty : dsn = ""
      · rw [if_pos hempty]
      · rw [if_neg hempty]
    · exact absurd hmisordered hordered
    · exact absurd ⟨d, hd, hparts d hd⟩ hmalformed

/-- A DSN without a key is accepted. -/
theorem keyless_dsn_accepted : ¬ RefusesMalformed "https://@host/1" := by
  intro hrefuses
  let d : DsnParts :=
    { scheme := "https", key := "", host := "host", project := "1", scheme_at := by decide
      scheme_separator := by decide, key_at := by decide, host_slash := by decide
      project_ne := by decide }
  have hmalformed : ¬ WellFormed "https://@host/1" := by
    rintro ⟨e, he, _, hkey, _⟩
    have hsame : d.sentryDsn = e.sentryDsn := he.symm
    exact hkey (DsnParts.parts_unique hsame).2.1.symm
  obtain ⟨what, hrefused⟩ := (hrefuses hmalformed).1 "sentry" fun _ => none
  cases hrefused.symm.trans (d.endpoint_sentryDsn "sentry" fun _ => none)

end DrogonStarter.Observability
