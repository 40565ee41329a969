import DrogonStarter.Application.UserSession
import DrogonStarter.Cache.FailOpen
import DrogonStarter.Lib.Frontend

/-!
# The application in front of the resources

Behind the limiter, the routes and the filter are the endpoints of the two resources with one
Redis, which `ResourceName.server` is.

* `recordRequest` is the request that a call makes of a resource, and `admitted` says whether
  it gets there.
* `SameTables` relates a service with the state of the resources, and `frontend` is the step
  of the simulation.
* `application_refines_resources` is the run.
-/

namespace DrogonStarter

open Observability Serving

/-! ## Redis -/

/-- The commands of a request, as they ended.  A disabled cache is one that no command
reaches. -/
def RedisOutcome.commands (o : RedisOutcome) : RedisCommands where
  get := if o.get then .done else .failed false
  setex := if o.set then .done else .failed false
  keys := if o.keys then .done else .failed false
  del key := if o.del key then .done else .failed false

theorem RedisOutcome.outcome_commands (o : RedisOutcome) :
    o.commands.outcome true o.expired = o := by
  have hanswers : ∀ b : Bool,
      (if b then CommandResult.done else .failed false).answers = b := by decide
  have heffect : ∀ b : Bool,
      (if b then CommandResult.done else .failed false).takesEffect = b := by decide
  obtain ⟨expired, get, set, keys, del⟩ := o
  simp only [RedisCommands.outcome, commands, hanswers, heffect, Bool.true_and]

namespace Application

variable (app : Application)

/-! ## Calls of the resources -/

/-- The request that a handler makes of a resource. -/
def ofHandler (request : ApiRequest) (parts : List String) (handler : RouteHandler) :
    Option (ResourceName × RecordRequest) :=
  match handler, request.method with
  | .user, .get => some (.users, .getRecords request.parameters)
  | .user, .post => some (.users, .createRecord request.jsonBody)
  | .userById, .get => some (.users, .getRecordById (parts.headD ""))
  | .userById, .put => some (.users, .updateRecordById (parts.headD "") request.jsonBody)
  | .userById, .delete => some (.users, .deleteRecordById (parts.headD ""))
  | .role, .get => some (.roles, .getRecords request.parameters)
  | .role, .post => some (.roles, .createRecord request.jsonBody)
  | .roleById, .get => some (.roles, .getRecordById (parts.headD ""))
  | .roleById, .put => some (.roles, .updateRecordById (parts.headD "") request.jsonBody)
  | .roleById, .delete => some (.roles, .deleteRecordById (parts.headD ""))
  | _, _ => none

/-- The request that a call makes of a resource. -/
def recordRequest (request : ApiRequest) : Option (ResourceName × RecordRequest) :=
  (app.find request.path).bind fun (route, parts) => ofHandler request parts route.handler

/-- A request to a resource at a moment. -/
def resourceCall (m : Moment) (r : ResourceName) (request : RecordRequest) :
    SharedCall ResourceName.Row where
  resource := r
  request := request
  env :=
    match r with
    | .users => (userSurroundings m).circumstances
    | .roles => roleCircumstances m
  time := m.clock
  expired := m.redis.expired
  commands := m.redis.commands

/-- What a call is to the resources, when the limiter and the filter let it through. -/
def admitted (s : Service) (call : ApiRequest × Moment) : Option (SharedCall ResourceName.Row) :=
  match syncAdvice s.limiter app.rateLimitWindowSeconds call.2.ticks call.1.advised with
  | (some _, _) => none
  | (none, _) =>
    if app.Verified call then
      (app.recordRequest call.1).map fun (r, request) => resourceCall call.2 r request
    else none

end Application

/-- The tables of a service. -/
def Service.rows (s : Service) : (r : ResourceName) → List r.Row
  | .users => s.users
  | .roles => s.roles

/-- The tables and the cache are those of the service. -/
structure SameTables (s : Service) (t : SharedStore ResourceName.Row) : Prop where
  rows : t.rows = s.rows
  redis : t.redis = s.redis

theorem SameTables.of_tables {s s' : Service} {t : SharedStore ResourceName.Row}
    (h : SameTables s t) (htables : s'.tables = s.tables) : SameTables s' t := by
  obtain ⟨husers, hrest⟩ := Prod.mk.inj htables
  obtain ⟨hroles, hredis⟩ := Prod.mk.inj hrest
  refine ⟨h.rows.trans ?_, h.redis.trans hredis.symm⟩
  funext r
  cases r with
  | users => exact husers.symm
  | roles => exact hroles.symm

namespace Application

variable {app : Application}

/-! ## One request -/

section step

variable {s : Service} {t : SharedStore ResourceName.Row}

variable (app) in
/-- What the endpoints of a resource do with a call. -/
theorem serve_resourceCall (h : SameTables s t) (m : Moment) (r : ResourceName)
    (request : RecordRequest) :
    SharedStore.serve (ResourceName.endpoint app.generateHash) app.platform true t
        (resourceCall m r request) =
      (ResourceName.endpoint app.generateHash r).serve app.platform
        { rows := s.rows r, redis := s.redis } (request, (resourceCall m r request).env) := by
  have hrecords : t.records r = { rows := s.rows r, redis := s.redis } := by
    unfold SharedStore.records
    rw [h.rows, h.redis]
  have henv : (resourceCall m r request).circumstances true = (resourceCall m r request).env := by
    cases r with
    | users =>
      exact congrArg (fun redis => { (userSurroundings m).circumstances with redis })
        m.redis.outcome_commands
    | roles =>
      exact congrArg (fun redis => { roleCircumstances m with redis }) m.redis.outcome_commands
  rw [SharedStore.serve, henv]
  exact congrArg (fun records => (ResourceName.endpoint app.generateHash r).serve app.platform
    records (request, (resourceCall m r request).env)) hrecords

/-- The tables after a call. -/
theorem sameTables_next (h : SameTables s t) {s' : Service} (m : Moment) (r : ResourceName)
    (request : RecordRequest)
    (hrows : s'.rows = Function.update s.rows r
      ((ResourceName.endpoint app.generateHash r).serve app.platform
        { rows := s.rows r, redis := s.redis } (request, (resourceCall m r request).env)).1.rows)
    (hredis : s'.redis = ((ResourceName.endpoint app.generateHash r).serve app.platform
        { rows := s.rows r, redis := s.redis } (request, (resourceCall m r request).env)).1.redis) :
    SameTables s' ((ResourceName.server app.platform app.generateHash true).next t
      (resourceCall m r request)) := by
  have hserve := app.serve_resourceCall h m r request
  constructor
  · rw [hrows, ← hserve, ← h.rows]
    rfl
  · rw [hredis, ← hserve]
    rfl

theorem users_eq_next (h : SameTables s t) (m : Moment) (request : UserRequest) :
    SameTables (app.users s m request).1
        ((ResourceName.server app.platform app.generateHash true).next t
          (resourceCall m .users request.record)) ∧
      (app.users s m request).2 =
        [((ResourceName.server app.platform app.generateHash true).answer t
          (resourceCall m .users request.record)).api] := by
  have hdone := serveUsers_eq app.platform app.generateHash s.userStore request
    (userSurroundings m)
  rw [users_eq]
  constructor
  · refine sameTables_next h m .users request.record ?_
      (congrArg (Records.redis ∘ Prod.fst) hdone).symm
    funext r
    cases r with
    | users =>
      rw [Function.update_self]
      exact (congrArg (Records.rows ∘ Prod.fst) hdone).symm
    | roles => exact (Function.update_of_ne (by decide) _ _).symm
  · have hanswer := (app.serve_resourceCall h m .users request.record).trans hdone
    exact congrArg (fun done => [HttpResponse.api done.2]) hanswer.symm

theorem roles_eq_next (h : SameTables s t) (m : Moment) (request : RecordRequest) :
    SameTables (app.roles s m request).1
        ((ResourceName.server app.platform app.generateHash true).next t
          (resourceCall m .roles request)) ∧
      (app.roles s m request).2 =
        [((ResourceName.server app.platform app.generateHash true).answer t
          (resourceCall m .roles request)).api] := by
  rw [roles_eq]
  constructor
  · refine sameTables_next h m .roles request ?_ rfl
    funext r
    cases r with
    | users => exact (Function.update_of_ne (by decide) _ _).symm
    | roles =>
      rw [Function.update_self]
      rfl
  · exact congrArg (fun done => [HttpResponse.api done.2])
      (app.serve_resourceCall h m .roles request).symm

/-- A handler that makes a request of a resource does what the resource does. -/
theorem handle_of_ofHandler (h : SameTables s t) {request : ApiRequest} {parts : List String}
    {handler : RouteHandler} {r : ResourceName} {made : RecordRequest}
    (hmade : ofHandler request parts handler = some (r, made)) (m : Moment) :
    SameTables (app.handle s request m parts handler).1
        ((ResourceName.server app.platform app.generateHash true).next t (resourceCall m r made)) ∧
      (app.handle s request m parts handler).2 =
        [((ResourceName.server app.platform app.generateHash true).answer t
          (resourceCall m r made)).api] := by
  obtain ⟨method, path, peerAddr, authorization, parameters, jsonBody⟩ := request
  cases handler with
  | health | ready | metrics | docs | openapi | swagger | generateJwt => cases hmade
  | user =>
    cases method with
    | get =>
      cases hmade
      exact users_eq_next h m (.getUsers parameters)
    | post =>
      cases hmade
      exact users_eq_next h m (.createUser jsonBody)
    | _ => cases hmade
  | userById =>
    cases method with
    | get =>
      cases hmade
      exact users_eq_next h m (.getUserById (parts.headD ""))
    | put =>
      cases hmade
      exact users_eq_next h m (.updateUserById (parts.headD "") jsonBody)
    | delete =>
      cases hmade
      exact users_eq_next h m (.deleteUserById (parts.headD ""))
    | _ => cases hmade
  | role => cases method <;> cases hmade <;> exact roles_eq_next h m _
  | roleById => cases method <;> cases hmade <;> exact roles_eq_next h m _

/-- The other handlers leave the tables as they are. -/
theorem handle_fst_of_ofHandler_none {request : ApiRequest} {parts : List String}
    {handler : RouteHandler} (hnone : ofHandler request parts handler = none) (s : Service)
    (m : Moment) : (app.handle s request m parts handler).1 = s := by
  cases hresource : handler.ofResource with
  | false => exact handle_fst_of_not_ofResource hresource s request m parts
  | true =>
    obtain ⟨method, path, peerAddr, authorization, parameters, jsonBody⟩ := request
    cases handler with
    | user | userById | role | roleById => cases method <;> first | rfl | cases hnone
    | health | ready | metrics | docs | openapi | swagger | generateJwt => cases hresource

/-- A handler that makes a request of a resource is behind the filter, and the method is one of
its route. -/
theorem mem_of_ofHandler {route : Route} (hroute : route ∈ registerRoutes) {request : ApiRequest}
    {parts : List String} (hmade : (ofHandler request parts route.handler).isSome = true) :
    request.method ∈ route.methods ∧ "AuthFilter" ∈ route.filters := by
  obtain ⟨method, path, peerAddr, authorization, parameters, jsonBody⟩ := request
  simp only [registerRoutes, List.mem_cons, List.not_mem_nil, or_false] at hroute
  rcases hroute with rfl | rfl | rfl | rfl | rfl | rfl | rfl | rfl | rfl | rfl | rfl | rfl <;>
    cases method <;>
      first
      | cases hmade; done
      | exact ⟨List.mem_of_elem_eq_true rfl, List.mem_of_elem_eq_true rfl⟩

/-- A valid token opens the way to the resource. -/
theorem route_of_recordRequest (h : SameTables s t) {call : ApiRequest × Moment}
    (hverified : app.Verified call) {r : ResourceName} {made : RecordRequest}
    (hmade : app.recordRequest call.1 = some (r, made)) :
    SameTables (app.route s call.1 call.2).1
        ((ResourceName.server app.platform app.generateHash true).next t
          (resourceCall call.2 r made)) ∧
      (app.route s call.1 call.2).2 =
        [((ResourceName.server app.platform app.generateHash true).answer t
          (resourceCall call.2 r made)).api] := by
  obtain ⟨⟨route, parts⟩, hfind, hmade⟩ := Option.bind_eq_some_iff.1 hmade
  obtain ⟨hmethod, hfilter⟩ := mem_of_ofHandler (mem_registerRoutes_of_find hfind)
    (Option.isSome_iff_exists.2 ⟨_, hmade⟩)
  have hnext : app.doFilters route.filters call.1 call.2 = .next := (if_pos hfilter).trans hverified
  have hroute : app.route s call.1 call.2 =
      app.respond .handler (app.handle s call.1 call.2 parts route.handler) := by
    unfold Application.route
    rw [hfind]
    simp only [if_pos hmethod, hnext]
  obtain ⟨htables, hanswers⟩ := handle_of_ofHandler h hmade call.2
  rw [hroute]
  exact ⟨htables.of_tables (tables_respond _ _), hanswers⟩

/-- A call that makes no request of a resource leaves the tables as they are. -/
theorem tables_route_of_recordRequest_none {request : ApiRequest}
    (hnone : app.recordRequest request = none) (s : Service) (m : Moment) :
    (app.route s request m).1.tables = s.tables := by
  unfold Application.route
  split
  case h_1 => rfl
  case h_2 route parts hfind =>
    have hhandler : ofHandler request parts route.handler = none := by
      rw [recordRequest, hfind] at hnone
      exact hnone
    split
    case isFalse => rfl
    case isTrue =>
      split
      case h_1 => rw [tables_respond, handle_fst_of_ofHandler_none hhandler s m]
      case h_2 => rfl

variable (app) in
/-- The limiter refuses a call, or it is routed, and is admitted when it has a valid token and
makes a request of a resource. -/
theorem serve_cases (s : Service) (call : ApiRequest × Moment) :
    (∃ (refused : TooManyRequests) (limiter : RateLimiter),
        app.serve s call = ({ s with limiter }, [refused.api]) ∧
        refused.status = 429 ∧ app.admitted s call = none) ∨
    ∃ limiter : RateLimiter, app.serve s call = app.route (s.routing limiter) call.1 call.2 ∧
      app.admitted s call = if app.Verified call then
        (app.recordRequest call.1).map fun (r, request) => resourceCall call.2 r request
      else none := by
  unfold serve admitted
  cases hadvised : syncAdvice s.limiter app.rateLimitWindowSeconds call.2.ticks
      call.1.advised with
  | mk answer limiter =>
    cases answer with
    | some refused => exact Or.inl ⟨refused, limiter, rfl, status_of_advised hadvised, rfl⟩
    | none => exact Or.inr ⟨limiter, rfl, rfl⟩

/-- A call that is admitted does what the resource does. -/
theorem serve_of_admitted (h : SameTables s t) {call : ApiRequest × Moment}
    {c : SharedCall ResourceName.Row} (hc : app.admitted s call = some c) :
    SameTables (app.serve s call).1
        ((ResourceName.server app.platform app.generateHash true).next t c) ∧
      (app.serve s call).2 =
        [((ResourceName.server app.platform app.generateHash true).answer t c).api] := by
  rcases app.serve_cases s call with ⟨_, _, _, _, hnone⟩ | ⟨limiter, hserve, hadmitted⟩
  · cases hnone.symm.trans hc
  · rw [hadmitted] at hc
    split at hc
    case isFalse => cases hc
    case isTrue hverified =>
      obtain ⟨⟨r, made⟩, hmade, rfl⟩ := Option.map_eq_some_iff.1 hc
      rw [hserve]
      exact route_of_recordRequest (h.of_tables (s.tables_routing limiter)) hverified hmade

/-- A call that is not admitted leaves the tables as they are. -/
theorem serve_of_not_admitted (h : SameTables s t) {call : ApiRequest × Moment}
    (hnone : app.admitted s call = none) : SameTables (app.serve s call).1 t := by
  rcases app.serve_cases s call with ⟨_, limiter, hserve, _, _⟩ | ⟨limiter, hserve, hadmitted⟩
  · rw [hserve]
    exact h.of_tables rfl
  · have htables : (app.route (s.routing limiter) call.1 call.2).1.tables = s.tables := by
      by_cases hverified : app.Verified call
      · rw [hadmitted, if_pos hverified, Option.map_eq_none_iff] at hnone
        exact tables_route_of_recordRequest_none hnone (s.routing limiter) call.2
      · exact tables_route_of_not_verified hverified (s.routing limiter)
    rw [hserve]
    exact h.of_tables htables

variable (app) in
/-- The application in front of the resources. -/
theorem frontend : Frontend app.server (ResourceName.server app.platform app.generateHash true)
    SameTables app.admitted fun answer => [answer.api] where
  own _ _ _ h hnone := serve_of_not_admitted h hnone
  next _ _ _ _ h hc := (serve_of_admitted h hc).1
  answer _ _ _ _ h hc := (serve_of_admitted h hc).2

/-! ## A run -/

/-- In any run the application does to the tables and the cache what the endpoints of the
resources do with the calls that are let through, and these calls get the answers of the
endpoints. -/
theorem application_refines_resources (h : SameTables s t)
    (calls : List (ApiRequest × Moment)) :
    SameTables (app.server.after s calls)
        ((ResourceName.server app.platform app.generateHash true).after t
          (app.server.passed app.admitted s calls)) ∧
      app.server.passedAnswers app.admitted s calls =
        ((ResourceName.server app.platform app.generateHash true).answers t
          (app.server.passed app.admitted s calls)).map fun answer => [answer.api] :=
  app.frontend.run h calls

end step

/-- The user that is created and read is the one of the resources. -/
theorem application_refines_resources_of_ada :
    ((ResourceName.server compactPlatform letterApplication.generateHash true).after emptyStore
        (letterApplication.server.passed letterApplication.admitted emptyService
          [createAda, strangerDeletesAda, readAda])).rows .users =
      (letterApplication.server.after emptyService
        [createAda, strangerDeletesAda, readAda]).users := by
  have hsame : SameTables emptyService emptyStore := by
    refine ⟨?_, rfl⟩
    funext r
    cases r <;> rfl
  have hrefines := @application_refines_resources letterApplication _ _ hsame
    [createAda, strangerDeletesAda, readAda]
  exact congrFun hrefines.1.rows .users

end Application

end DrogonStarter
