import DrogonStarter.Lib.Handler
import DrogonStarter.Roles.RoleController

/-!
# The two list handlers

`getUsers` and `getRoles` were written from one text.  Both work with four collaborators: the
database client, the cache, the JSON parser and the list call of their service.  Here they are
handlers over whatever these do, with a record of the accesses to the cache and to the
database.

* `Collaborators` is what the collaborators do, and `SameOutcome` says that those of the two
  handlers do the same.
* `run_respond` is what the `try` block of both comes to.
* `answers_getUsersHandler` and `answers_getRolesHandler` say that the handlers answer and
  store like `getRecords` of the two endpoints.
* `accesses_of_refused` says that a query that `from` refuses touches nothing, and
  `listsAgree_iff` when the two answer with the same status.
-/

namespace DrogonStarter

open Serving

/-- A use of the cache or of the database. -/
inductive Access where
  | get (key : String)
  | list (request : PageRequest)
  | set (key value : String)
deriving DecidableEq

/-- What the collaborators of a list handler do. -/
structure Collaborators (ρ : Type) where
  /-- There is a database client. -/
  connected : Bool := true
  /-- `RedisCache::get`. -/
  get : String → Option String
  /-- `Json::parseFromStream`. -/
  parse : String → Option Json
  /-- `listUsers` or `listRoles`. -/
  list : PageRequest → Except Thrown (PageResult ρ)
  toPublicJson : ρ → Json
  writeString : Json → String

/-- A handler over collaborators.  The store is the record of the accesses. -/
abbrev ListHandler := Handler Thrown (List Access) HttpResponse Unit

namespace Collaborators

variable {ρ : Type} (c : Collaborators ρ)

/-- The `try` block of a list handler. -/
def respond (resource : String) (parameters : String → Option String) : ListHandler := do
  let pageRequest ← Handler.query fun _ =>
    (PageRequest.fromParameters parameters).mapError Thrown.invalidArgument
  let key := pageRequest.cacheKey resource
  Handler.change (· ++ [.get key])
  match (c.get key).bind c.parse with
  | some cachedResponse => Handler.callback (handleResponse cachedResponse 200)
  | none =>
    Handler.change (· ++ [.list pageRequest])
    let page ← Handler.query fun _ => c.list pageRequest
    let results := page.toJson c.toPublicJson
    Handler.change (· ++ [.set key (c.writeString results)])
    Handler.callback (handleResponse results 200)

end Collaborators

/-- `e.what()`. -/
def Thrown.what : Thrown → String
  | .invalidArgument what => what
  | .other what => what

/-- The answer to an exception when the status for `std::invalid_argument` is `refused`. -/
def Thrown.answer (refused : Nat) : Thrown → HttpResponse
  | .invalidArgument what => errorResponse what refused
  | .other what => errorResponse what 500

theorem Thrown.handle_eq {handle : Thrown → ListHandler} {refused : Nat}
    (hrefused : ∀ what, handle (.invalidArgument what) =
      Handler.callback (errorResponse what refused))
    (hfailed : ∀ what, handle (.other what) = Handler.callback (errorResponse what 500))
    (thrown : Thrown) : handle thrown = Handler.callback (thrown.answer refused) := by
  cases thrown with
  | invalidArgument what => exact hrefused what
  | other what => exact hfailed what

/-- `UserController::getUsers`. -/
def UserController.getUsersHandler (c : Collaborators Users)
    (parameters : String → Option String) : ListHandler :=
  if c.connected then
    tryCatch (c.respond "users" parameters)
      fun
        | .invalidArgument what => Handler.callback (errorResponse what 400)
        | .other what => Handler.callback (errorResponse what 500)
  else Handler.callback unableToConnect

/-- `RoleController::getRoles`. -/
def RoleController.getRolesHandler (c : Collaborators Roles)
    (parameters : String → Option String) : ListHandler :=
  if c.connected then
    tryCatch (c.respond "roles" parameters)
      fun thrown => Handler.callback (errorResponse thrown.what 500)
  else Handler.callback UserController.unableToConnect

/-- The answers of a handler and its accesses, when no exception leaves it. -/
def ListHandler.answered (x : ListHandler) : Option (List HttpResponse × List Access) :=
  match x.run { store := [] } with
  | .ok _ session => some (session.sent, session.store)
  | .error _ _ => none

def ListHandler.statuses (x : ListHandler) : Option (List Nat) :=
  x.answered.map fun done => done.1.map (·.status)

def ListHandler.accesses (x : ListHandler) : Option (List Access) := x.answered.map (·.2)

namespace Collaborators

variable {ρ : Type} (c : Collaborators ρ)

/-- What the `try` block comes to, and its accesses. -/
def outcome (resource : String) (parameters : String → Option String) :
    Except Thrown HttpResponse × List Access :=
  match PageRequest.fromParameters parameters with
  | .error what => (.error (.invalidArgument what), [])
  | .ok request =>
    match (c.get (request.cacheKey resource)).bind c.parse with
    | some cachedResponse =>
      (.ok (handleResponse cachedResponse 200), [.get (request.cacheKey resource)])
    | none =>
      match c.list request with
      | .error thrown => (.error thrown, [.get (request.cacheKey resource), .list request])
      | .ok page =>
        (.ok (handleResponse (page.toJson c.toPublicJson) 200),
          [.get (request.cacheKey resource), .list request,
            .set (request.cacheKey resource) (c.writeString (page.toJson c.toPublicJson))])

theorem run_respond (resource : String) (parameters : String → Option String) :
    (c.respond resource parameters).run { store := [] } =
      match c.outcome resource parameters with
      | (.ok answer, accesses) => .ok () ⟨accesses, [answer]⟩
      | (.error thrown, accesses) => .error thrown ⟨accesses, []⟩ := by
  unfold respond outcome
  rw [EStateM.run_bind, Handler.run_query]
  cases PageRequest.fromParameters parameters with
  | error what => rfl
  | ok request =>
    change ((match (c.get (request.cacheKey resource)).bind c.parse with
      | some cachedResponse => _
      | none => _ : ListHandler).run ⟨[.get (request.cacheKey resource)], []⟩) = _
    simp only
    cases (c.get (request.cacheKey resource)).bind c.parse with
    | some cachedResponse => rfl
    | none =>
      change ((Handler.query fun _ => c.list request) >>= _ : ListHandler).run
        ⟨[.get (request.cacheKey resource), .list request], []⟩ = _
      rw [EStateM.run_bind, Handler.run_query]
      simp only
      cases c.list request with
      | error thrown => rfl
      | ok page => rfl

/-- A handler that catches every exception answers once. -/
theorem answered_of_caught (resource : String) (parameters : String → Option String)
    {handle : Thrown → ListHandler} {caught : Thrown → HttpResponse}
    (hhandle : ∀ thrown, handle thrown = Handler.callback (caught thrown)) :
    ListHandler.answered
        (if c.connected then tryCatch (c.respond resource parameters) handle
        else Handler.callback UserController.unableToConnect) =
      some (if c.connected then
        ([match (c.outcome resource parameters).1 with
          | .ok answer => answer
          | .error thrown => caught thrown], (c.outcome resource parameters).2)
        else ([UserController.unableToConnect], [])) := by
  cases c.connected with
  | false => rfl
  | true =>
    simp only [if_true, ListHandler.answered, Handler.run_tryCatch, run_respond]
    obtain ⟨result, accesses⟩ := c.outcome resource parameters
    cases result with
    | ok answer => rfl
    | error thrown =>
      simp only [hhandle]
      rfl

end Collaborators

/-! ## The handlers over a table and a cache -/

/-- The collaborators of a list request. -/
def RecordEndpoint.collaborators {ρ : Type} (endpoint : RecordEndpoint ρ) (p : Platform)
    (s : Records ρ) (env : Circumstances ρ) : Collaborators ρ where
  connected := env.connected
  get := RedisCache.get env.redis s.redis
  parse := p.parse
  list := endpoint.list env.database s.rows
  toPublicJson := endpoint.toPublicJson p
  writeString := p.writeString

/-- What an access leaves of the table and the cache. -/
def Access.perform {ρ : Type} (env : Circumstances ρ) (s : Records ρ) : Access → Records ρ
  | .get _ => s
  | .list _ => s
  | .set key value => { s with redis := RedisCache.set env.redis s.redis key value }

/-- A handler that answers an exception as the endpoint does answers and stores like
`getRecords`. -/
theorem RecordEndpoint.answers_of_caught {ρ : Type} (endpoint : RecordEndpoint ρ)
    (p : Platform) (s : Records ρ) (env : Circumstances ρ) (parameters : String → Option String)
    {handle : Thrown → ListHandler}
    (hrefused : ∀ what, handle (.invalidArgument what) =
      Handler.callback (errorResponse what endpoint.listRefused))
    (hfailed : ∀ what, handle (.other what) = Handler.callback (errorResponse what 500)) :
    ∃ accesses, ListHandler.answered
        (if (endpoint.collaborators p s env).connected then
          tryCatch ((endpoint.collaborators p s env).respond endpoint.resource parameters) handle
        else Handler.callback UserController.unableToConnect) =
      some ([(endpoint.getRecords p s env parameters).2], accesses) ∧
        accesses.foldl (Access.perform env) s = (endpoint.getRecords p s env parameters).1 := by
  rw [Collaborators.answered_of_caught _ _ _ (Thrown.handle_eq hrefused hfailed)]
  unfold getRecords
  change ∃ accesses, some (if env.connected = true then _ else _) = _ ∧ _
  by_cases hconnected : env.connected = true
  case neg =>
    rw [if_neg hconnected, if_neg hconnected]
    exact ⟨_, rfl, rfl⟩
  case pos =>
    rw [if_pos hconnected, if_pos hconnected]
    unfold listing Collaborators.outcome
    cases PageRequest.fromParameters parameters with
    | error what => exact ⟨_, rfl, rfl⟩
    | ok request =>
      simp only [Except.mapError, bind, Except.bind, collaborators]
      cases (RedisCache.get env.redis s.redis (request.cacheKey endpoint.resource)).bind
          p.parse with
      | some cachedResponse => exact ⟨_, rfl, rfl⟩
      | none =>
        simp only
        cases endpoint.list env.database s.rows request with
        | error thrown => cases thrown <;> exact ⟨_, rfl, rfl⟩
        | ok page => exact ⟨_, rfl, rfl⟩

/-- `getUsers` answers and stores as the user endpoint says. -/
theorem UserController.answers_getUsersHandler (generateHash : GenerateHash) (p : Platform)
    (s : Records Users) (env : Circumstances Users) (parameters : String → Option String) :
    ∃ accesses,
      (getUsersHandler ((endpoint generateHash).collaborators p s env) parameters).answered =
          some ([((endpoint generateHash).getRecords p s env parameters).2], accesses) ∧
        accesses.foldl (Access.perform env) s =
          ((endpoint generateHash).getRecords p s env parameters).1 :=
  (endpoint generateHash).answers_of_caught p s env parameters (fun _ => rfl) fun _ => rfl

/-- `getRoles` answers and stores as the role endpoint says. -/
theorem RoleController.answers_getRolesHandler (p : Platform) (s : Records Roles)
    (env : Circumstances Roles) (parameters : String → Option String) :
    ∃ accesses, (getRolesHandler (endpoint.collaborators p s env) parameters).answered =
        some ([(getRoles p s env parameters).2], accesses) ∧
      accesses.foldl (Access.perform env) s = (getRoles p s env parameters).1 :=
  endpoint.answers_of_caught p s env parameters (fun _ => rfl) fun _ => rfl

/-! ## The same outcome -/

/-- What a look into the cache comes to. -/
inductive CacheOutcome where
  | miss
  | unparsable
  | hit
deriving DecidableEq

/-- What the queries of the database come to. -/
inductive DatabaseOutcome where
  | rows
  | invalidArgument
  | otherException
deriving DecidableEq

namespace Collaborators

variable {ρ : Type} (c : Collaborators ρ)

def cacheOutcome (key : String) : CacheOutcome :=
  match c.get key with
  | none => .miss
  | some text =>
    match c.parse text with
    | none => .unparsable
    | some _ => .hit

def databaseOutcome (request : PageRequest) : DatabaseOutcome :=
  match c.list request with
  | .ok _ => .rows
  | .error (.invalidArgument _) => .invalidArgument
  | .error (.other _) => .otherException

/-- The status of a handler that answers `std::invalid_argument` with the status `refused`. -/
def status (resource : String) (refused : Nat) (parameters : String → Option String) : Nat :=
  if c.connected then
    match PageRequest.fromParameters parameters with
    | .error _ => refused
    | .ok request =>
      if c.cacheOutcome (request.cacheKey resource) = .hit then 200
      else
        match c.databaseOutcome request with
        | .rows => 200
        | .invalidArgument => refused
        | .otherException => 500
  else 500

/-- An entry that is missing or is not JSON is not a hit. -/
theorem cacheOutcome_eq_hit_iff (key : String) :
    c.cacheOutcome key = .hit ↔ ((c.get key).bind c.parse).isSome = true := by
  unfold cacheOutcome
  cases c.get key with
  | none => simp
  | some text =>
    simp only [Option.bind_some]
    cases c.parse text <;> simp

/-- The one status of a handler that catches every exception. -/
theorem statuses_of_caught (resource : String) (parameters : String → Option String)
    {handle : Thrown → ListHandler} {refused : Nat}
    (hrefused : ∀ what, handle (.invalidArgument what) =
      Handler.callback (errorResponse what refused))
    (hfailed : ∀ what, handle (.other what) = Handler.callback (errorResponse what 500)) :
    ListHandler.statuses
        (if c.connected then tryCatch (c.respond resource parameters) handle
        else Handler.callback UserController.unableToConnect) =
      some [c.status resource refused parameters] := by
  rw [ListHandler.statuses, c.answered_of_caught _ _ (Thrown.handle_eq hrefused hfailed)]
  unfold status outcome
  cases c.connected with
  | false => rfl
  | true =>
    simp only [if_true]
    cases PageRequest.fromParameters parameters with
    | error what => rfl
    | ok request =>
      simp only
      have hhit := c.cacheOutcome_eq_hit_iff (request.cacheKey resource)
      cases hlookup : (c.get (request.cacheKey resource)).bind c.parse with
      | some cachedResponse =>
        rw [hlookup] at hhit
        rw [if_pos (hhit.2 rfl)]
        rfl
      | none =>
        rw [hlookup] at hhit
        rw [if_neg fun h => Bool.false_ne_true (hhit.1 h)]
        simp only [databaseOutcome]
        cases c.list request with
        | ok page => rfl
        | error thrown => cases thrown <;> rfl

end Collaborators

theorem statuses_getUsersHandler (c : Collaborators Users)
    (parameters : String → Option String) :
    (UserController.getUsersHandler c parameters).statuses =
      some [c.status "users" 400 parameters] :=
  c.statuses_of_caught "users" parameters (fun _ => rfl) fun _ => rfl

theorem statuses_getRolesHandler (c : Collaborators Roles)
    (parameters : String → Option String) :
    (RoleController.getRolesHandler c parameters).statuses =
      some [c.status "roles" 500 parameters] :=
  c.statuses_of_caught "roles" parameters (fun _ => rfl) fun _ => rfl

/-- The collaborators of the two handlers do the same for a query. -/
structure SameOutcome (users : Collaborators Users) (roles : Collaborators Roles)
    (parameters : String → Option String) : Prop where
  connected : users.connected = roles.connected
  cache : ∀ request, PageRequest.fromParameters parameters = .ok request →
    users.cacheOutcome (request.cacheKey "users") = roles.cacheOutcome (request.cacheKey "roles")
  database : ∀ request, PageRequest.fromParameters parameters = .ok request →
    users.databaseOutcome request = roles.databaseOutcome request

theorem SameOutcome.status_eq {users : Collaborators Users} {roles : Collaborators Roles}
    {parameters : String → Option String} (h : SameOutcome users roles parameters)
    (refused : Nat) :
    users.status "users" refused parameters = roles.status "roles" refused parameters := by
  unfold Collaborators.status
  rw [h.connected]
  cases hrequest : PageRequest.fromParameters parameters with
  | error what => rfl
  | ok request => simp only [h.cache request hrequest, h.database request hrequest]

/-- Both handlers answer with one status, and a query that `from` refuses is answered with 400
before any access, by each of the two when it has a database client. -/
structure ListsAgree (users : Collaborators Users) (roles : Collaborators Roles)
    (parameters : String → Option String) : Prop where
  statuses : (RoleController.getRolesHandler roles parameters).statuses =
    (UserController.getUsersHandler users parameters).statuses
  refused : ∀ what, PageRequest.fromParameters parameters = .error what →
    (users.connected = true →
      (UserController.getUsersHandler users parameters).statuses = some [400] ∧
        (UserController.getUsersHandler users parameters).accesses = some []) ∧
    (roles.connected = true →
      (RoleController.getRolesHandler roles parameters).statuses = some [400] ∧
        (RoleController.getRolesHandler roles parameters).accesses = some [])

/-- A query that `from` refuses touches neither the cache nor the database. -/
theorem accesses_of_refused {parameters : String → Option String} {what : String}
    (hfrom : PageRequest.fromParameters parameters = .error what) (users : Collaborators Users)
    (roles : Collaborators Roles) :
    (UserController.getUsersHandler users parameters).accesses = some [] ∧
      (RoleController.getRolesHandler roles parameters).accesses = some [] := by
  have hnothing : ∀ {ρ : Type} (c : Collaborators ρ) (resource : String)
      (handle : Thrown → ListHandler) (caught : Thrown → HttpResponse),
      (∀ thrown, handle thrown = Handler.callback (caught thrown)) →
        ListHandler.accesses
          (if c.connected then tryCatch (c.respond resource parameters) handle
          else Handler.callback UserController.unableToConnect) = some [] := by
    intro ρ c resource handle caught hhandle
    rw [ListHandler.accesses, c.answered_of_caught _ _ hhandle]
    cases c.connected with
    | false => rfl
    | true => simp only [if_true, Collaborators.outcome, hfrom, Option.map_some]
  constructor
  · exact hnothing users "users" _ _ (Thrown.handle_eq (fun _ => rfl) fun _ => rfl)
  · exact hnothing roles "roles" _ _ (Thrown.handle_eq (fun _ => rfl) fun _ => rfl)

/-- With collaborators that do the same, the two lists agree if and only if there is no
database client, or `from` accepts the query and its page is in the cache or the queries throw
no `std::invalid_argument`. -/
theorem listsAgree_iff {users : Collaborators Users} {roles : Collaborators Roles}
    {parameters : String → Option String} (h : SameOutcome users roles parameters) :
    ListsAgree users roles parameters ↔
      (users.connected = true → ∃ request,
        PageRequest.fromParameters parameters = .ok request ∧
          (users.cacheOutcome (request.cacheKey "users") = .hit ∨
            users.databaseOutcome request ≠ .invalidArgument)) := by
  have hstatuses : (RoleController.getRolesHandler roles parameters).statuses =
      (UserController.getUsersHandler users parameters).statuses ↔
        users.status "users" 500 parameters = users.status "users" 400 parameters := by
    rw [statuses_getRolesHandler, statuses_getUsersHandler, ← h.status_eq]
    simp only [Option.some.injEq, List.cons.injEq, and_true]
  constructor
  · intro hagree hconnected
    have hsame := hstatuses.1 hagree.statuses
    unfold Collaborators.status at hsame
    rw [if_pos hconnected, if_pos hconnected] at hsame
    cases hrequest : PageRequest.fromParameters parameters with
    | error what =>
      simp only [hrequest] at hsame
      omega
    | ok request =>
      refine ⟨request, rfl, or_iff_not_imp_left.2 fun hmiss hthrown => ?_⟩
      simp only [hrequest, if_neg hmiss, hthrown] at hsame
      omega
  · intro hcondition
    have hrefused : ∀ what, PageRequest.fromParameters parameters = .error what →
        users.connected ≠ true := by
      intro what hfrom hconnected
      obtain ⟨request, hrequest, _⟩ := hcondition hconnected
      cases hfrom.symm.trans hrequest
    refine ⟨hstatuses.2 ?_, fun what hfrom => ⟨?_, ?_⟩⟩
    · unfold Collaborators.status
      by_cases hconnected : users.connected = true
      case neg => rw [if_neg hconnected, if_neg hconnected]
      case pos =>
        rw [if_pos hconnected, if_pos hconnected]
        obtain ⟨request, hrequest, hserved⟩ := hcondition hconnected
        simp only [hrequest]
        rcases hserved with hhit | hthrown
        · rw [if_pos hhit, if_pos hhit]
        · cases hdatabase : users.databaseOutcome request with
          | invalidArgument => exact absurd hdatabase hthrown
          | rows | otherException => rfl
    · exact fun hconnected => absurd hconnected (hrefused what hfrom)
    · exact fun hconnected => absurd (h.connected.trans hconnected) (hrefused what hfrom)

/-! ## The second page of two users and of two roles -/

/-- The query `page=2&page_size=1`. -/
def secondOfOne (name : String) : Option String :=
  if name = "page" then some "2" else if name = "page_size" then some "1" else none

theorem fromParameters_secondOfOne :
    PageRequest.fromParameters secondOfOne = .ok { page := 2, pageSize := 1 } := by decide +kernel

def twoUsers : List Users :=
  [{ id := some "a", email := some "ada@example.org" },
    { id := some "b", email := some "bob@example.org" }]

def twoRoles : List Roles :=
  [{ id := some "a", name := some "Owner" }, { id := some "b", name := some "Admin" }]

/-- The second page of a table of two rows. -/
def RecordEndpoint.secondPage {ρ : Type} (endpoint : RecordEndpoint ρ) (rows : List ρ) : Json :=
  PageResult.toJson
    { items := rows.drop 1, total := rows.length, request := { page := 2, pageSize := 1 } }
    (endpoint.toPublicJson compactPlatform)

/-- A table, and its second page in Redis. -/
def RecordEndpoint.stored {ρ : Type} (endpoint : RecordEndpoint ρ) (rows : List ρ) :
    Records ρ where
  rows := rows
  redis := Redis.setex {} (endpoint.resource ++ ":page=2:size=1")
    (compactPlatform.writeString (endpoint.secondPage rows))

def RecordEndpoint.storing {ρ : Type} (endpoint : RecordEndpoint ρ) (rows : List ρ) :
    Collaborators ρ :=
  endpoint.collaborators compactPlatform (endpoint.stored rows) (letterCircumstances ρ)

theorem RecordEndpoint.cacheOutcome_storing {ρ : Type} (endpoint : RecordEndpoint ρ)
    {rows : List ρ} {key : String} (hkey : endpoint.resource ++ ":page=2:size=1" = key)
    (hplain : (endpoint.secondPage rows).isPlain = true) :
    (endpoint.storing rows).cacheOutcome key = .hit := by
  have hget : (endpoint.storing rows).get key =
      some (compactPlatform.writeString (endpoint.secondPage rows)) := by
    rw [← hkey]
    exact RedisCache.get_of_redis_get (o := {}) rfl (writeString_compactPlatform_ne hplain)
      (Redis.get_setex_self _ _ _)
  rw [Collaborators.cacheOutcome_eq_hit_iff, hget]
  exact congrArg Option.isSome (parse_writeString_compactPlatform hplain)

theorem sameOutcome_secondOfOne :
    SameOutcome ((UserController.endpoint default).storing twoUsers)
      (RoleController.endpoint.storing twoRoles) secondOfOne := by
  refine ⟨rfl, fun _ h => ?_, fun _ h => ?_⟩ <;>
    cases fromParameters_secondOfOne.symm.trans h
  · have husers : ((UserController.endpoint default).storing twoUsers).cacheOutcome
        "users:page=2:size=1" = .hit :=
      RecordEndpoint.cacheOutcome_storing _ rfl (by decide +kernel)
    exact husers.trans (RoleController.endpoint.cacheOutcome_storing rfl (by decide +kernel)).symm
  · rfl

/-- Both pages are in Redis, and each table has a row for its page. -/
theorem listsAgree_iff_secondOfOne :
    ListsAgree ((UserController.endpoint default).storing twoUsers)
        (RoleController.endpoint.storing twoRoles) secondOfOne ∧
      ((UserController.endpoint default).storing twoUsers).cacheOutcome "users:page=2:size=1" =
        .hit :=
  ⟨(listsAgree_iff sameOutcome_secondOfOne).2 fun _ =>
      ⟨_, fromParameters_secondOfOne,
        Or.inl (RecordEndpoint.cacheOutcome_storing _ rfl (by decide +kernel))⟩,
    RecordEndpoint.cacheOutcome_storing _ rfl (by decide +kernel)⟩

/-- Page zero: the one list answers with 400, and the other with 500. -/
theorem page_zero_differs :
    ¬ ∀ (users : Collaborators Users) (roles : Collaborators Roles)
      (parameters : String → Option String), SameOutcome users roles parameters →
        ListsAgree users roles parameters := by
  intro hall
  have hagree := hall ((UserController.endpoint default).storing twoUsers)
    (RoleController.endpoint.storing twoRoles)
    (fun name => if name = "page" then some "0" else none)
    { connected := rfl
      cache := fun _ h => by cases h
      database := fun _ h => by cases h }
  have hstatuses := hagree.statuses
  rw [statuses_getRolesHandler, statuses_getUsersHandler] at hstatuses
  exact absurd hstatuses (by decide)

end DrogonStarter
