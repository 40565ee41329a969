import DrogonStarter.Application.Resources

/-!
# How old a list may be

A client of the whole application that gets a list sees a page that the table held at most
thirty seconds ago, whatever everyone else asked for, and the page of this moment when every
Redis command has worked.

* `status_of_not_admitted` says that a list that is answered with 200 was let through.
* `lists_are_fresh` finds the state that the list shows among those of the application.
-/

namespace DrogonStarter

open Observability Serving

/-- Every command was answered. -/
structure RedisOutcome.Works (o : RedisOutcome) : Prop where
  get : o.get = true
  set : o.set = true
  keys : o.keys = true
  del : ∀ key, o.del key = true

theorem RedisOutcome.Works.noneFailed {o : RedisOutcome} (h : o.Works) :
    o.commands.NoneFailed where
  get := if_pos h.get
  setex := if_pos h.set
  keys := if_pos h.keys
  del key := if_pos (h.del key)

/-- The state of the resources when the service starts. -/
def Service.store (s : Service) : SharedStore ResourceName.Row where
  rows := s.rows
  redis := s.redis

namespace Application

variable (app : Application)

/-- The page that a table of the service holds. -/
def page (order : (r : ResourceName) → Database r.Row) (s : Service) (r : ResourceName)
    (request : PageRequest) : Json :=
  (ResourceName.endpoint app.generateHash r).heldPage app.platform (order r) (s.rows r) request

variable {app}

/-- A request to a resource that is not let through is refused by the limiter or by the
filter. -/
theorem status_of_not_admitted {s : Service} {call : ApiRequest × Moment}
    {r : ResourceName} {made : RecordRequest} (hmade : app.recordRequest call.1 = some (r, made))
    (hnone : app.admitted s call = none) :
    ∀ answer ∈ app.server.answer s call, answer.status = 429 ∨ answer.status = 401 := by
  change ∀ answer ∈ (app.serve s call).2, _
  rcases app.serve_cases s call with ⟨refused, _, hserve, hstatus, _⟩ | ⟨limiter, hserve, hadmitted⟩
  · intro answer hanswer
    rw [hserve] at hanswer
    obtain rfl := List.mem_singleton.1 hanswer
    exact Or.inl hstatus
  · have hverified : ¬ app.Verified call := by
      intro hverified
      rw [hadmitted, if_pos hverified, hmade] at hnone
      cases hnone
    obtain ⟨⟨route, parts⟩, hfind, hmade⟩ := Option.bind_eq_some_iff.1 hmade
    obtain ⟨hmethod, hfilter⟩ := mem_of_ofHandler (mem_registerRoutes_of_find hfind)
      (Option.isSome_iff_exists.2 ⟨_, hmade⟩)
    have hrefused : app.doFilters route.filters call.1 call.2 =
        .refused 401 "Invalid Access token" := by
      rw [doFilters, if_pos hfilter, AuthFilter.doFilter, if_neg]
      exact fun hvalid => hverified (if_pos hvalid)
    intro answer hanswer
    rw [hserve] at hanswer
    unfold Application.route at hanswer
    rw [hfind] at hanswer
    simp only [if_pos hmethod, hrefused] at hanswer
    obtain rfl := List.mem_singleton.1 hanswer
    exact Or.inr rfl

/-- What an admitted call is. -/
theorem eq_of_admitted {s : Service} {call : ApiRequest × Moment}
    {c : SharedCall ResourceName.Row} (hc : app.admitted s call = some c) :
    ∃ r made, app.recordRequest call.1 = some (r, made) ∧ c = resourceCall call.2 r made := by
  rcases app.serve_cases s call with ⟨_, _, _, _, hnone⟩ | ⟨_, _, hadmitted⟩
  · cases hnone.symm.trans hc
  · rw [hadmitted] at hc
    split at hc
    case isFalse => cases hc
    case isTrue =>
      obtain ⟨⟨r, made⟩, hmade, rfl⟩ := Option.map_eq_some_iff.1 hc
      exact ⟨r, made, hmade, rfl⟩

/-- What is passed on in a run whose Redis commands work has no failed command. -/
theorem noneFailed_of_passed {s : Service} {calls : List (ApiRequest × Moment)}
    (hworks : ∀ call ∈ calls, call.2.redis.Works) :
    ∀ c ∈ app.server.passed app.admitted s calls, c.commands.NoneFailed := by
  intro c hc
  obtain ⟨before, rest, hsplit⟩ := List.append_of_mem hc
  obtain ⟨early, call, late, rfl, _, hadmitted⟩ := Server.exists_of_passed hsplit
  obtain ⟨r, made, _, rfl⟩ := eq_of_admitted hadmitted
  exact (hworks call (by simp)).noneFailed

/-- A list that is answered with 200 shows a page that its table held at most thirty seconds
ago, and the page that it holds when every Redis command has worked. -/
theorem lists_are_fresh {order : (r : ResourceName) → Database r.Row} {s : Service}
    (hempty : s.redis = {}) {calls : List (ApiRequest × Moment)} {call : ApiRequest × Moment}
    (htimely : (ResourceName.server app.platform app.generateHash true).Along
      (SharedStore.Timely order) s.store (app.server.passed app.admitted s (calls ++ [call])))
    {r : ResourceName} {parameters : String → Option String}
    (hlist : app.recordRequest call.1 = some (r, .getRecords parameters)) {answer : ApiResponse}
    (hanswer : app.server.answer (app.server.after s calls) call = [answer])
    (hstatus : answer.status = 200) :
    ∃ request, PageRequest.fromParameters parameters = .ok request ∧
      (∃ early j late, calls ++ [call] = early ++ j :: late ∧ j.2.clock ≤ call.2.clock ∧
        call.2.clock ≤ j.2.clock + 30 ∧
        answer.content = some (.json (app.page order (app.server.after s early) r request))) ∧
      ((∀ c ∈ calls, c.2.redis.Works) →
        answer.content = some (.json (app.page order (app.server.after s calls) r request))) := by
  have hsame : SameTables s s.store := ⟨rfl, rfl⟩
  have hshown : ∀ (early : List (ApiRequest × Moment)) (request : PageRequest),
      ((ResourceName.server app.platform app.generateHash true).after s.store
          (app.server.passed app.admitted s early)).page (ResourceName.endpoint app.generateHash)
        app.platform order r request = app.page order (app.server.after s early) r request := by
    intro early request
    unfold SharedStore.page page
    rw [(app.frontend.run hsame early).1.rows]
  cases hc : app.admitted (app.server.after s calls) call with
  | none =>
    have hrefused := status_of_not_admitted hlist hc answer (by rw [hanswer]; simp)
    omega
  | some c =>
    obtain ⟨r', made, hmade, rfl⟩ := eq_of_admitted hc
    obtain ⟨rfl, rfl⟩ := Prod.mk.inj (Option.some.inj (hlist.symm.trans hmade))
    have hpassed : app.server.passed app.admitted s (calls ++ [call]) =
        app.server.passed app.admitted s calls ++
          [resourceCall call.2 r (.getRecords parameters)] := by
      rw [Server.passed_append, Server.passed_singleton, hc]
      rfl
    have hafter := (app.frontend.run hsame calls).1
    have hresource := (serve_of_admitted hafter hc).2
    obtain rfl := List.singleton_inj.1 (hanswer.symm.trans hresource)
    rw [hpassed] at htimely
    obtain ⟨request, hrequest, ⟨early, j, late, hsplit, hbefore, hlate, hbody⟩, hcurrent⟩ :=
      SharedStore.body_of_listed (ResourceName.separate app.generateHash) hempty
        (app.server.passed app.admitted s calls) (resourceCall call.2 r (.getRecords parameters))
        htimely rfl hstatus
    refine ⟨request, hrequest, ?_, fun hworks => ?_⟩
    · rw [← hpassed] at hsplit
      obtain ⟨before, i, rest, hcalls, rfl, hi⟩ := Server.exists_of_passed hsplit
      obtain ⟨r', made, _, rfl⟩ := eq_of_admitted hi
      refine ⟨before, i, rest, hcalls, Int.ofNat_le.1 hbefore, ?_, ?_⟩
      · exact Int.ofNat_le.1 hlate
      · rw [← hshown]
        exact congrArg (Option.map Content.json) hbody
    · rw [← hshown]
      exact congrArg (Option.map Content.json) (hcurrent (noneFailed_of_passed hworks))

/-! ## A list that is not current -/

/-- A list of the users, from a port of its own. -/
def listUsers (port clock : Nat) : ApiRequest × Moment :=
  ({ method := .get, path := "/api/v1/user", peerAddr := ⟨"10.0.0.1", port⟩,
     authorization := "Bearer 0.admin@x.org.s" }, letterMoment clock)

/-- The administrator deletes the user, and the `KEYS` of the invalidation fails. -/
def deleteAda : ApiRequest × Moment :=
  ({ method := .delete, path := "/api/v1/user/d", peerAddr := ⟨"10.0.0.1", 4000⟩,
     authorization := "Bearer 0.admin@x.org.s" },
    { letterMoment 10 with redis := { keys := false } })

def beforeList : List (ApiRequest × Moment) := [createAda, listUsers 4001 2, deleteAda]

/-- The page with the user. -/
def adaPage : Json :=
  letterApplication.page letterOrder (letterApplication.server.after emptyService [createAda])
    .users { page := 1, pageSize := 25 }

theorem isPlain_adaPage : adaPage.isPlain = true := by decide +kernel

theorem redis_of_beforeList :
    (letterApplication.server.after emptyService beforeList).redis.get "users:page=1:size=25" =
      some (compactPlatform.writeString adaPage) := by decide +kernel

theorem admitted_listUsers :
    letterApplication.admitted (letterApplication.server.after emptyService beforeList)
        (listUsers 4002 20) =
      some (resourceCall (letterMoment 20) .users (.getRecords fun _ => none)) := rfl

theorem passed_beforeList :
    letterApplication.server.passed letterApplication.admitted emptyService
        (beforeList ++ [listUsers 4002 20]) =
      [resourceCall (letterMoment 1) .users (.createRecord createAda.1.jsonBody),
        resourceCall (letterMoment 2) .users (.getRecords fun _ => none),
        resourceCall { letterMoment 10 with redis := { keys := false } } .users
          (.deleteRecordById "d"),
        resourceCall (letterMoment 20) .users (.getRecords fun _ => none)] := rfl

/-- The administrator deletes the user, and ten seconds later a list still shows her. -/
theorem lists_are_fresh_of_deleted :
    (∃ request, PageRequest.fromParameters (fun _ => none) = .ok request ∧
      (∃ early j late, beforeList ++ [listUsers 4002 20] = early ++ j :: late ∧ j.2.clock ≤ 20 ∧
        20 ≤ j.2.clock + 30 ∧
        some (Content.json adaPage) = some (.json (letterApplication.page letterOrder
          (letterApplication.server.after emptyService early) .users request))) ∧
      ((∀ c ∈ beforeList, c.2.redis.Works) →
        some (Content.json adaPage) = some (.json (letterApplication.page letterOrder
          (letterApplication.server.after emptyService beforeList) .users request)))) ∧
    letterApplication.server.answer (letterApplication.server.after emptyService beforeList)
      (listUsers 4002 20) = [(handleResponse adaPage 200).api] ∧
    (letterApplication.server.after emptyService beforeList).users = [] := by
  have hafter := (letterApplication.frontend.run
    (⟨rfl, rfl⟩ : SameTables emptyService emptyService.store) beforeList).1
  have hhit : (ResourceName.server letterApplication.platform letterApplication.generateHash
      true).answer ((ResourceName.server letterApplication.platform
        letterApplication.generateHash true).after emptyService.store
          (letterApplication.server.passed letterApplication.admitted emptyService beforeList))
        (resourceCall (letterMoment 20) .users (.getRecords fun _ => none)) =
      handleResponse adaPage 200 := by
    refine SharedStore.answer_of_hit rfl rfl rfl rfl ?_
      (writeString_compactPlatform_ne isPlain_adaPage)
      (parse_writeString_compactPlatform isPlain_adaPage)
    change (SharedStore.redis _).get _ = _
    rw [hafter.redis]
    exact redis_of_beforeList
  have hanswer : letterApplication.server.answer
      (letterApplication.server.after emptyService beforeList) (listUsers 4002 20) =
        [(handleResponse adaPage 200).api] := by
    have hresource := letterApplication.frontend.answer _ _ _ _ hafter admitted_listUsers
    rw [hhit] at hresource
    exact hresource
  have htimely : (ResourceName.server letterApplication.platform letterApplication.generateHash
      true).Along (SharedStore.Timely letterOrder) emptyService.store
        (letterApplication.server.passed letterApplication.admitted emptyService
          (beforeList ++ [listUsers 4002 20])) := by
    rw [passed_beforeList]
    refine ⟨?_, ?_, ?_, ?_, trivial⟩
    all_goals exact SharedStore.timely_of_keys (by decide) (by decide +kernel) rfl
  have hlist : letterApplication.recordRequest (listUsers 4002 20).1 =
      some (.users, .getRecords fun _ => none) := rfl
  exact ⟨lists_are_fresh rfl htimely hlist hanswer rfl, hanswer, rfl⟩

end Application

end DrogonStarter
