import DrogonStarter.Observability.ClientLimit
import DrogonStarter.Observability.Metrics
import DrogonStarter.Records.RequestHandlers
import DrogonStarter.Users.Login

/-!
# The way of a request through the application

`main.cc` puts the parts together: the sync advice of the limiter runs first, then the
pre-routing advice counts the request, the framework finds a route and checks its methods, the
filters of the route run, and then the handler that `registerRoutes` gave for it.  The
post-handling advice counts the answer.

* `registerRoutes` are the routes, with their methods and their filters.
* `Application` is what is fixed while the server runs.  How the framework compares a path
  with a pattern is a parameter of it.
* `Service` is the state: the two tables, the cache that both resources share, the limiter and
  the counters of the metrics.
* `Application.serve` is one request and `Application.server` one after another.
* `tables_route_of_not_verified` says that a request without a valid token leaves the tables and
  the cache as they are, and `tables_route` and `route_snd` say that the rest of the state
  decides nothing but the text of `/metrics`.
* `counted_after` says that the counters are those of the machine of `Observability.Metrics`.

The origin header that the controllers add to their answers, the headers that the
post-handling advice adds and the log are left out.
-/

namespace DrogonStarter

open Observability Serving

/-- `drogon::HttpMethod`. -/
inductive HttpMethod where
  | get | post | head | put | delete | options | patch | invalid
deriving DecidableEq

/-! ## The routes -/

/-- The handlers that `registerRoutes` registers. -/
inductive RouteHandler where
  | health | ready | metrics | docs | openapi | swagger
  | generateJwt | user | userById | role | roleById
deriving DecidableEq

structure Route where
  path : String
  handler : RouteHandler
  methods : List HttpMethod := [.get]
  filters : List String := []
deriving DecidableEq

namespace Route

def generateJwt : Route where
  path := "/api/v1/generate-jwt"
  handler := .generateJwt
  methods := [.options, .post]

def user : Route where
  path := "/api/v1/user"
  handler := .user
  methods := [.options, .get, .post]
  filters := ["AuthFilter"]

def userById : Route where
  path := "/api/v1/user/{id}"
  handler := .userById
  methods := [.options, .get, .put, .delete]
  filters := ["AuthFilter"]

def role : Route where
  path := "/api/v1/role"
  handler := .role
  methods := [.options, .get, .post]
  filters := ["AuthFilter"]

def roleById : Route where
  path := "/api/v1/role/{id}"
  handler := .roleById
  methods := [.options, .get, .put, .delete]
  filters := ["AuthFilter"]

end Route

/-- `registerRoutes`, with the user service. -/
def registerRoutes : List Route :=
  [{ path := "/health", handler := .health },
    { path := "/", handler := .health },
    { path := "/ready", handler := .ready },
    { path := "/metrics", handler := .metrics },
    { path := "/docs", handler := .docs },
    { path := "/openapi.yaml", handler := .openapi },
    { path := "/swagger.html", handler := .swagger },
    .generateJwt, .user, .userById, .role, .roleById]

/-- The handlers that read or write the tables behind the filter. -/
def RouteHandler.ofResource (handler : RouteHandler) : Bool :=
  handler = .user || handler = .userById || handler = .role || handler = .roleById

/-- Every route of a resource names the filter. -/
theorem filters_of_ofResource {route : Route} (h : route ∈ registerRoutes)
    (hresource : route.handler.ofResource = true) : "AuthFilter" ∈ route.filters := by
  have hall : ∀ route ∈ registerRoutes,
      route.handler.ofResource = true → "AuthFilter" ∈ route.filters := by decide
  exact hall route h hresource

/-! ## Requests and responses -/

/-- What the application reads of a request. -/
structure ApiRequest where
  /-- The method that the router sees. -/
  method : HttpMethod
  path : String
  peerAddr : Peer
  /-- The header, or an empty text. -/
  authorization : String := ""
  parameters : String → Option String := fun _ => none
  /-- `none` when the request has no JSON body. -/
  jsonBody : Option Json := none

/-- What the sync advice reads of it. -/
def ApiRequest.advised (request : ApiRequest) : AdvisedRequest where
  path := request.path
  peerAddr := request.peerAddr

inductive Content where
  | json (body : Json)
  | text (contentType body : String)

/-- A document as it is, and a text of the same type that is empty. -/
def Content.blank : Content → Content
  | json body => json body
  | text contentType _ => text contentType ""

structure ApiResponse where
  status : Nat
  content : Option Content := none
  headers : List (String × String) := []

/-- The answer of a controller. -/
def HttpResponse.api (response : HttpResponse) : ApiResponse where
  status := response.status
  content := response.body.map .json

def Observability.TooManyRequests.api (response : TooManyRequests) : ApiResponse where
  status := response.status
  content := some (.json response.body)
  headers := [("Retry-After", response.retryAfter)]

/-! ## The application -/

/-- The part of the framework that an answer comes from. -/
inductive AnswerSource where
  | unrouted | notAllowed | filter | handler
deriving DecidableEq

/-- What is fixed while the server runs. -/
structure Application where
  platform : Platform
  generateHash : GenerateHash
  validatePassword : (password hashedPassword : String) → Bool
  /-- The text of `Json::LogicError`. -/
  logicError : String
  jwt : Jwt
  /-- The text of `.env`. -/
  envText : String
  rateLimitWindowSeconds : Nat
  /-- The texts at the placeholders of a pattern, when the path matches it. -/
  parts : (pattern path : String) → Option (List String)
  /-- What the framework answers when the route is not for the method. -/
  notAllowed : HttpMethod → ApiResponse
  /-- Whether the post-handling advice sees the answers of a part of the framework. -/
  postHandled : AnswerSource → Bool := fun source => source = .handler

/-- What decides a request besides the state. -/
structure Moment where
  /-- There is a database client. -/
  connected : Bool := true
  users : Database Users
  roles : Database Roles
  /-- `trantor::Date::now()`. -/
  date : Int
  /-- The seconds of the system clock, which the tokens are dated with. -/
  clock : Nat
  /-- The ticks of the steady clock. -/
  ticks : Nat
  /-- The randomness of `bcrypt::generateHash`. -/
  salt : Nat
  redis : RedisOutcome := {}
  /-- Whether there is a client and all are available, or the exception. -/
  ready : Except String Bool := .ok true
  /-- `newFileResponse`. -/
  file : (path contentType : String) → ApiResponse
  /-- The answer to a path without a route: a file of the document root, or 404. -/
  unrouted : (path : String) → ApiResponse

structure Service where
  users : List Users
  roles : List Roles
  redis : Redis String := {}
  limiter : RateLimiter
  /-- The counters of `metrics()`. -/
  counters : Scraping.Counter → UInt64 := fun _ => 0

namespace Service

/-- What the handlers read and write. -/
def tables (s : Service) : List Users × List Roles × Redis String := (s.users, s.roles, s.redis)

def userStore (s : Service) : UserStore := { users := s.users, redis := s.redis }

def roleRecords (s : Service) : Records Roles := { rows := s.roles, redis := s.redis }

/-- The tables and the cache, with a limiter and counters. -/
def withRest (s : Service) (limiter : RateLimiter) (counters : Scraping.Counter → UInt64) :
    Service :=
  { s with limiter, counters }

/-- A request goes to the routes. -/
def routing (s : Service) (limiter : RateLimiter) : Service :=
  s.withRest limiter (Scraping.record s.counters .recordRequest)

theorem tables_routing (s : Service) (limiter : RateLimiter) :
    (s.routing limiter).tables = s.tables := rfl

end Service

namespace BaseController

/-- The two handlers of `OPTIONS` requests. -/
def preflight (methods : String) : ApiResponse where
  status := 200
  content := some (.json .null)
  headers := [("Access-Control-Allow-Origin", "*"),
    ("Access-Control-Allow-Headers", "Content-Type"),
    ("Access-Control-Allow-Methods", methods)]

/-- `getHeaders`. -/
def getHeaders : ApiResponse := preflight "OPTIONS,POST,GET"

/-- `getByIdHeaders`. -/
def getByIdHeaders : ApiResponse := preflight "OPTIONS,DELETE,PUT,GET"

end BaseController

namespace Application

variable (app : Application)

/-! ## The handlers -/

/-- The handler of `/health` and `/`. -/
def healthHandler : ApiResponse where
  status := 200
  content := some (.json (Json.ofMembers [("status", .string "up")]))

/-- The handler of `/ready`, where an exception is like a database that is not there. -/
def readyHandler (m : Moment) : ApiResponse :=
  let databaseReady := m.ready.toOption.getD false
  { status := if databaseReady then 200 else 503
    content := some (.json (Json.ofMembers
      [("status", .string (if databaseReady then "ready" else "not_ready")),
        ("database", .string (if databaseReady then "up" else "down"))])) }

def metricsHandler (s : Service) : ApiResponse where
  status := 200
  content := some (.text "text/plain; version=0.0.4; charset=utf-8"
    (String.ofList (Scraping.prometheus s.counters)))

/-- The redirection to the Swagger page. -/
def docsHandler : ApiResponse := { status := 302, headers := [("Location", "/swagger.html")] }

def openapiHandler (m : Moment) : ApiResponse := m.file "./docs/openapi.yaml" "application/yaml"

def swaggerHandler (m : Moment) : ApiResponse := m.file "./docs/swagger.html" "text/html"

def loginSurroundings (m : Moment) : LoginSurroundings where
  connected := m.connected
  database := m.users
  logicError := app.logicError
  validatePassword := app.validatePassword
  jwt := app.jwt
  envText := app.envText
  now := m.clock

/-- The login, with the answer of the framework to an exception that leaves it. -/
def login (s : Service) (m : Moment) (jsonBody : Option Json) : Service × List ApiResponse :=
  let handler := AuthController.asyncHandleHttpRequest (app.loginSurroundings m) jsonBody
  let store := (Handler.after handler { store := s.userStore }).store
  ({ s with users := store.users, redis := store.redis },
    (Handler.answered handler s.userStore unhandled).map HttpResponse.api)

def userSurroundings (m : Moment) : Surroundings where
  connected := m.connected
  database := m.users
  now := m.date
  salt := m.salt
  redis := m.redis

/-- A request to `UserController`, before which entries of the cache may have expired. -/
def users (s : Service) (m : Moment) (request : UserRequest) : Service × List ApiResponse :=
  let handler := UserController.handler app.platform app.generateHash
    (userSurroundings m).circumstances request.record
  let records := (s.userStore.expire (userSurroundings m)).records
  let store := (Handler.after handler { store := records }).store
  ({ s with users := store.rows, redis := store.redis },
    (Handler.answered handler records unhandled).map HttpResponse.api)

def roleCircumstances (m : Moment) : Circumstances Roles where
  connected := m.connected
  database := m.roles
  now := m.date
  salt := m.salt
  redis := m.redis

/-- A request to `RoleController`, before which entries of the cache may have expired. -/
def roles (s : Service) (m : Moment) (request : RecordRequest) : Service × List ApiResponse :=
  let handler := RoleController.handler app.platform (roleCircumstances m) request
  let records := { s.roleRecords with redis := RedisCache.expire m.redis s.redis }
  let store := (Handler.after handler { store := records }).store
  ({ s with roles := store.rows, redis := store.redis },
    (Handler.answered handler records unhandled).map HttpResponse.api)

/-- The handlers of `registerRoutes`, on the texts at the placeholders.  A method without a
branch gets no answer; the framework does not let such a request through. -/
def handle (s : Service) (request : ApiRequest) (m : Moment) (parts : List String) :
    RouteHandler → Service × List ApiResponse
  | .health => (s, [healthHandler])
  | .ready => (s, [readyHandler m])
  | .metrics => (s, [metricsHandler s])
  | .docs => (s, [docsHandler])
  | .openapi => (s, [openapiHandler m])
  | .swagger => (s, [swaggerHandler m])
  | .generateJwt =>
    match request.method with
    | .options => (s, [BaseController.getHeaders])
    | .post => app.login s m request.jsonBody
    | _ => (s, [])
  | .user =>
    match request.method with
    | .options => (s, [BaseController.getHeaders])
    | .get => app.users s m (.getUsers request.parameters)
    | .post => app.users s m (.createUser request.jsonBody)
    | _ => (s, [])
  | .userById =>
    match request.method with
    | .options => (s, [BaseController.getByIdHeaders])
    | .get => app.users s m (.getUserById (parts.headD ""))
    | .put => app.users s m (.updateUserById (parts.headD "") request.jsonBody)
    | .delete => app.users s m (.deleteUserById (parts.headD ""))
    | _ => (s, [])
  | .role =>
    match request.method with
    | .options => (s, [BaseController.getHeaders])
    | .get => app.roles s m (.getRecords request.parameters)
    | .post => app.roles s m (.createRecord request.jsonBody)
    | _ => (s, [])
  | .roleById =>
    match request.method with
    | .options => (s, [BaseController.getByIdHeaders])
    | .get => app.roles s m (.getRecordById (parts.headD ""))
    | .put => app.roles s m (.updateRecordById (parts.headD "") request.jsonBody)
    | .delete => app.roles s m (.deleteRecordById (parts.headD ""))
    | _ => (s, [])

/-! ## The pipeline -/

/-- The route of a path, and the texts at its placeholders. -/
def find (path : String) : Option (Route × List String) :=
  registerRoutes.findSome? fun route => (app.parts route.path path).map (route, ·)

/-- The filters of a route. -/
def doFilters (filters : List String) (request : ApiRequest) (m : Moment) : FilterResult :=
  if "AuthFilter" ∈ filters then
    AuthFilter.doFilter app.jwt app.envText request.authorization m.clock
  else .next

/-- The counters after the post-handling advice, for the answers of a part of the framework. -/
def count (source : AnswerSource) (counters : Scraping.Counter → UInt64)
    (answers : List ApiResponse) : Scraping.Counter → UInt64 :=
  if app.postHandled source then
    answers.foldl (fun counters answer =>
      Scraping.record counters (.recordResponse (some answer.status))) counters
  else counters

/-- What a part of the framework does, with the post-handling advice. -/
def respond (source : AnswerSource) (done : Service × List ApiResponse) :
    Service × List ApiResponse :=
  ({ done.1 with counters := app.count source done.1.counters done.2 }, done.2)

/-- What follows the pre-routing advice. -/
def route (s : Service) (request : ApiRequest) (m : Moment) : Service × List ApiResponse :=
  match app.find request.path with
  | none => app.respond .unrouted (s, [m.unrouted request.path])
  | some (route, parts) =>
    if request.method ∈ route.methods then
      match app.doFilters route.filters request m with
      | .next => app.respond .handler (app.handle s request m parts route.handler)
      | .refused status error => app.respond .filter (s, [(errorResponse error status).api])
    else app.respond .notAllowed (s, [app.notAllowed request.method])

/-- One request. -/
def serve (s : Service) (call : ApiRequest × Moment) : Service × List ApiResponse :=
  match syncAdvice s.limiter app.rateLimitWindowSeconds call.2.ticks call.1.advised with
  | (some refused, limiter) => ({ s with limiter }, [refused.api])
  | (none, limiter) => app.route (s.routing limiter) call.1 call.2

/-- The application, one request after another. -/
def server : Server Service (ApiRequest × Moment) (List ApiResponse) where
  next s call := (app.serve s call).1
  answer s call := (app.serve s call).2

/-! ## What a request does not change -/

variable {app}

theorem status_of_advised {limiter after : RateLimiter} {seconds now : Nat}
    {request : AdvisedRequest} {refused : TooManyRequests}
    (h : syncAdvice limiter seconds now request = (some refused, after)) :
    refused.status = 429 := by
  unfold syncAdvice at h
  split at h
  · cases h
  · split at h <;> cases h
    rfl

theorem tables_respond (source : AnswerSource) (done : Service × List ApiResponse) :
    (app.respond source done).1.tables = done.1.tables := rfl

/-- The handlers of `UserController` do what `serveUsers` says, with one answer. -/
theorem users_eq (s : Service) (m : Moment) (request : UserRequest) :
    app.users s m request =
      ({ s with
          users := (serveUsers app.platform app.generateHash s.userStore
            (request, userSurroundings m)).1.users
          redis := (serveUsers app.platform app.generateHash s.userStore
            (request, userSurroundings m)).1.redis },
        [(serveUsers app.platform app.generateHash s.userStore
          (request, userSurroundings m)).2.api]) := by
  obtain ⟨hanswered, hstore⟩ := UserController.serves_handler app.platform app.generateHash
    (userSurroundings m).circumstances (s.userStore.expire (userSurroundings m)).records
    request.record
  rw [UserController.dispatch_eq] at hanswered hstore
  simp only [users, hanswered, hstore]
  rfl

/-- The handlers of `RoleController` do what its endpoint says, with one answer. -/
theorem roles_eq (s : Service) (m : Moment) (request : RecordRequest) :
    app.roles s m request =
      ({ s with
          roles := (RoleController.endpoint.serve app.platform s.roleRecords
            (request, roleCircumstances m)).1.rows
          redis := (RoleController.endpoint.serve app.platform s.roleRecords
            (request, roleCircumstances m)).1.redis },
        [(RoleController.endpoint.serve app.platform s.roleRecords
          (request, roleCircumstances m)).2.api]) := by
  obtain ⟨hanswered, hstore⟩ := RoleController.serves_handler app.platform (roleCircumstances m)
    { s.roleRecords with redis := RedisCache.expire m.redis s.redis } request
  rw [RoleController.dispatch_eq] at hanswered hstore
  simp only [roles, hanswered, hstore]
  rfl

theorem login_fst (s : Service) (m : Moment) (jsonBody : Option Json) :
    (app.login s m jsonBody).1 = s := by
  have hreads := AuthController.reads_asyncHandleHttpRequest (app.loginSurroundings m) jsonBody
    { store := s.userStore }
  simp only [login, hreads]
  rfl

/-- A handler that is not behind the filter changes nothing. -/
theorem handle_fst_of_not_ofResource {handler : RouteHandler}
    (h : handler.ofResource = false) (s : Service) (request : ApiRequest) (m : Moment)
    (parts : List String) : (app.handle s request m parts handler).1 = s := by
  cases handler with
  | health | ready | metrics | docs | openapi | swagger => rfl
  | generateJwt =>
    obtain ⟨method, path, peerAddr, authorization, parameters, jsonBody⟩ := request
    cases method with
    | post => exact login_fst s m jsonBody
    | _ => rfl
  | user | userById | role | roleById => cases h

theorem mem_registerRoutes_of_find {path : String} {found : Route × List String}
    (h : app.find path = some found) : found.1 ∈ registerRoutes := by
  obtain ⟨route, hroute, hparts⟩ := List.exists_of_findSome?_eq_some h
  obtain ⟨parts, -, rfl⟩ := Option.map_eq_some_iff.1 hparts
  exact hroute

/-- The token of a request is one that the filter lets through. -/
def Verified (app : Application) (call : ApiRequest × Moment) : Prop :=
  AuthFilter.doFilter app.jwt app.envText call.1.authorization call.2.clock = .next

instance (app : Application) (call : ApiRequest × Moment) : Decidable (app.Verified call) :=
  inferInstanceAs (Decidable (_ = _))

/-- Without such a token a request leaves the tables and the cache as they are, whatever its
path. -/
theorem tables_route_of_not_verified {call : ApiRequest × Moment} (h : ¬ app.Verified call)
    (s : Service) : (app.route s call.1 call.2).1.tables = s.tables := by
  unfold route
  split
  case h_1 => rfl
  case h_2 route parts hfind =>
    split
    case isFalse => rfl
    case isTrue =>
      split
      case h_2 => rfl
      case h_1 hnext =>
        have hopen : route.handler.ofResource = false := by
          by_contra hresource
          have hfilter := filters_of_ofResource (mem_registerRoutes_of_find hfind)
            (Bool.eq_true_of_not_eq_false hresource)
          unfold doFilters at hnext
          rw [if_pos hfilter] at hnext
          exact h hnext
        have hhandle : (app.handle s call.1 call.2 parts route.handler).1 = s :=
          handle_fst_of_not_ofResource hopen s call.1 call.2 parts
        rw [tables_respond, hhandle]

/-! ## The limiter and the counters -/

/-- A service is its tables, its limiter and its counters. -/
theorem eq_of_tables {s s' : Service} (h : s.tables = s'.tables) :
    s' = s.withRest s'.limiter s'.counters := by
  obtain ⟨users, roles, redis, limiter, counters⟩ := s
  obtain ⟨users', roles', redis', limiter', counters'⟩ := s'
  cases h
  rfl

variable (app) in
/-- The handlers leave the limiter and the counters as they are. -/
theorem handle_fst_rest (s : Service) (limiter : RateLimiter)
    (counters : Scraping.Counter → UInt64) (request : ApiRequest) (m : Moment)
    (parts : List String) (handler : RouteHandler) :
    (app.handle (s.withRest limiter counters) request m parts handler).1 =
      (app.handle s request m parts handler).1.withRest limiter counters := by
  obtain ⟨method, path, peerAddr, authorization, parameters, jsonBody⟩ := request
  cases handler <;> cases method <;> rfl

variable (app) in
/-- And only that of `/metrics` looks at them. -/
theorem handle_snd_rest (s : Service) (limiter : RateLimiter)
    (counters : Scraping.Counter → UInt64) (request : ApiRequest) (m : Moment)
    (parts : List String) {handler : RouteHandler} (hmetrics : handler ≠ .metrics) :
    (app.handle (s.withRest limiter counters) request m parts handler).2 =
      (app.handle s request m parts handler).2 := by
  obtain ⟨method, path, peerAddr, authorization, parameters, jsonBody⟩ := request
  cases handler with
  | metrics => exact absurd rfl hmetrics
  | _ => cases method <;> rfl

theorem limiter_handle (s : Service) (request : ApiRequest) (m : Moment) (parts : List String)
    (handler : RouteHandler) :
    (app.handle s request m parts handler).1.limiter = s.limiter := by
  have hlimiter := congrArg Service.limiter
    (app.handle_fst_rest s s.limiter s.counters request m parts handler)
  exact hlimiter

theorem counters_handle (s : Service) (request : ApiRequest) (m : Moment) (parts : List String)
    (handler : RouteHandler) :
    (app.handle s request m parts handler).1.counters = s.counters := by
  have hcounters := congrArg Service.counters
    (app.handle_fst_rest s s.limiter s.counters request m parts handler)
  exact hcounters

/-- The limiter sees the requests, and nothing else does. -/
theorem limiter_route (s : Service) (request : ApiRequest) (m : Moment) :
    (app.route s request m).1.limiter = s.limiter := by
  unfold route
  split
  case h_1 => rfl
  case h_2 route parts hfind =>
    split
    case isFalse => rfl
    case isTrue =>
      split
      case h_1 => exact limiter_handle s request m parts route.handler
      case h_2 => rfl

variable (app) in
/-- The counters after a request are those before it, with its answers. -/
theorem counters_route (request : ApiRequest) (m : Moment) :
    ∃ source, ∀ s, (app.route s request m).1.counters =
      app.count source s.counters (app.route s request m).2 := by
  unfold route
  cases app.find request.path with
  | none => exact ⟨.unrouted, fun _ => rfl⟩
  | some found =>
    simp only
    split
    case isFalse => exact ⟨.notAllowed, fun _ => rfl⟩
    case isTrue =>
      split
      case h_2 => exact ⟨.filter, fun _ => rfl⟩
      case h_1 =>
        refine ⟨.handler, fun s => ?_⟩
        simp only [respond, counters_handle]

/-- The rest of the state decides nothing about the tables. -/
theorem tables_route {s s' : Service} (h : s.tables = s'.tables) (request : ApiRequest)
    (m : Moment) :
    (app.route s request m).1.tables = (app.route s' request m).1.tables := by
  rw [eq_of_tables h]
  unfold route
  split
  case h_1 => rfl
  case h_2 route parts hfind =>
    split
    case isFalse => rfl
    case isTrue =>
      split
      case h_1 =>
        rw [tables_respond, tables_respond, app.handle_fst_rest s s'.limiter s'.counters]
        rfl
      case h_2 => rfl

variable (app) in
/-- The request is one for the text of the counters. -/
def scrapes (request : ApiRequest) : Bool :=
  (app.find request.path).any fun found => found.1.handler = .metrics

/-- And nothing about the answers to other requests. -/
theorem route_snd {s s' : Service} (h : s.tables = s'.tables) {request : ApiRequest}
    (hscrapes : app.scrapes request = false) (m : Moment) :
    (app.route s request m).2 = (app.route s' request m).2 := by
  rw [eq_of_tables h]
  unfold route
  cases hfind : app.find request.path with
  | none => rfl
  | some found =>
    have hmetrics : found.1.handler ≠ .metrics := by
      rw [scrapes, hfind] at hscrapes
      exact of_decide_eq_false hscrapes
    simp only
    split
    case isFalse => rfl
    case isTrue =>
      split
      case h_1 =>
        exact (app.handle_snd_rest s s'.limiter s'.counters request m found.2 hmetrics).symm
      case h_2 => rfl

/-- What a request for the counters is answered with. -/
theorem route_snd_of_scrapes {request : ApiRequest} (hscrapes : app.scrapes request = true)
    (m : Moment) :
    (∀ s, (app.route s request m).2 = [metricsHandler s]) ∨
      ∃ answers, ∀ s, (app.route s request m).2 = answers := by
  obtain ⟨⟨route, parts⟩, hfind, hmetrics⟩ := (Option.any_eq_true _ _).1 hscrapes
  have hmetrics : route.handler = .metrics := of_decide_eq_true hmetrics
  unfold Application.route
  rw [hfind]
  simp only [hmetrics]
  split
  case isFalse => exact Or.inr ⟨_, fun _ => rfl⟩
  case isTrue =>
    split
    case h_1 => exact Or.inl fun _ => rfl
    case h_2 => exact Or.inr ⟨_, fun _ => rfl⟩

theorem limiter_serve (s : Service) (call : ApiRequest × Moment) :
    (app.serve s call).1.limiter =
      (syncAdvice s.limiter app.rateLimitWindowSeconds call.2.ticks call.1.advised).2 := by
  unfold serve
  split
  case h_1 refused limiter hadvised => rw [hadvised]
  case h_2 limiter hadvised =>
    rw [hadvised]
    exact limiter_route _ _ _

theorem counted_serve {s : Service} (h : Scraping.Counted s.counters)
    (call : ApiRequest × Moment) : Scraping.Counted (app.serve s call).1.counters := by
  have hanswers : ∀ (answers : List ApiResponse) {counters : Scraping.Counter → UInt64},
      Scraping.Counted counters → Scraping.Counted (answers.foldl (fun counters answer =>
        Scraping.record counters (.recordResponse (some answer.status))) counters) := by
    intro answers
    induction answers with
    | nil => exact fun hcounted => hcounted
    | cons answer rest ih => exact fun hcounted => ih (hcounted.record _)
  unfold serve
  split
  case h_1 => exact h
  case h_2 limiter _ =>
    obtain ⟨source, hsource⟩ := app.counters_route call.1 call.2
    have hrouting : Scraping.Counted (s.routing limiter).counters := h.record .recordRequest
    rw [hsource, count]
    split
    · exact hanswers _ hrouting
    · exact hrouting

/-- The counters of a run are those of a run of the calls of `Metrics`. -/
theorem counted_after {s : Service} (h : Scraping.Counted s.counters)
    (calls : List (ApiRequest × Moment)) :
    Scraping.Counted (app.server.after s calls).counters := by
  induction calls generalizing s with
  | nil => exact h
  | cons call rest ih => exact ih (counted_serve h call)

end Application

/-! ## An application with one user -/

/-- Tokens with the time, the identity and the secret in them. -/
def letterJwt : Jwt where
  sign secret identity issued := toString issued ++ "." ++ identity ++ "." ++ secret
  verifies secret token now :=
    let issued := CppNumber.naturalValue 10 (token.toList.takeWhile Char.isDigit)
    decide (issued ≤ now ∧ now < issued + 3600) && ('.' :: secret.toList).isSuffixOf token.toList

/-- The part of a hash that comes from the password: its first 52 characters and a NUL. -/
def letterDigest (password : String) : List Char :=
  (password.toList ++ '\x00' :: List.replicate 52 '.').take 52

theorem length_letterDigest (password : String) : (letterDigest password).length = 52 := by
  simp [letterDigest]

/-- A hash with the salt and the password in it. -/
def letterHash (salt : Nat) (password : String) : BcryptHash :=
  ⟨String.ofList ("$2b$10$".toList ++ Nat.digitChar (salt % 10) :: letterDigest password), by
    rw [String.length_ofList, List.length_append, List.length_cons, length_letterDigest]
    rfl⟩

def letterApplication : Application where
  platform := compactPlatform
  generateHash := letterHash
  validatePassword password hashedPassword :=
    decide (hashedPassword.toList.drop 8 = letterDigest password)
  logicError := "Value is not convertible"
  jwt := letterJwt
  envText := "SECRET_KEY=s"
  rateLimitWindowSeconds := 60
  parts pattern path :=
    if pattern = path then some []
    else if pattern = "/api/v1/user/{id}" ∧ path = "/api/v1/user/d" then some ["d"]
    else none
  notAllowed _ := { status := 405 }

/-- A moment at which the letter databases serve a request. -/
def letterMoment (clock : Nat) : Moment where
  users := letterDatabase Users
  roles := letterDatabase Roles
  date := clock * 1000000
  clock := clock
  ticks := clock
  salt := 0
  file _ _ := { status := 200 }
  unrouted _ := { status := 404 }

namespace Application

def emptyService : Service where
  users := []
  roles := []
  limiter := { limit := 3, window := 60 }

/-- An administrator creates a user. -/
def createAda : ApiRequest × Moment :=
  ({ method := .post
     path := "/api/v1/user"
     peerAddr := ⟨"10.0.0.1", 4000⟩
     authorization := "Bearer 0.admin@x.org.s"
     jsonBody := some (Json.ofMembers
      [("first_name", .string "Ada"), ("last_name", .string "L"), ("email", .string "ada@x.org"),
        ("password", .string "secret")]) }, letterMoment 1)

/-- A stranger without a token wants her deleted. -/
def strangerDeletesAda : ApiRequest × Moment :=
  ({ method := .delete, path := "/api/v1/user/d", peerAddr := ⟨"10.0.0.1", 9⟩ },
    letterMoment 2)

/-- She reads her own row with the token of her login. -/
def readAda : ApiRequest × Moment :=
  ({ method := .get, path := "/api/v1/user/d", peerAddr := ⟨"10.0.0.1", 4000⟩,
     authorization := "Bearer 2.ada@x.org.s" }, letterMoment 3)

end Application

end DrogonStarter
