import DrogonStarter.Records.CachedPages
import Mathlib.Data.List.Induction

/-!
# Requests to several resources with one cache

The users and the roles have tables of their own and share Redis.  `SharedStore` is the
state of both, with the time of each `SETEX`, and a `SharedCall` is a request at a time.
Any Redis command of a request may fail, and entries expire after thirty seconds.

* `rows_after_eq` and `status_eq` say that Redis changes neither the tables nor a success.
* `entry_of_after` finds the list request behind an entry of the cache, and
  `current_of_after` says that entries are current as long as no command has failed.
* `cache_failOpen` puts these together for the users and the roles.
-/

namespace DrogonStarter

open Serving

/-! ## Calls and their Redis commands -/

/-- How a Redis command ends.  One that fails may have taken effect. -/
inductive CommandResult where
  | done
  | failed (effective : Bool)
deriving DecidableEq

namespace CommandResult

/-- The client gets the reply. -/
def answers : CommandResult → Bool
  | done => true
  | failed _ => false

def takesEffect : CommandResult → Bool
  | done => true
  | failed effective => effective

end CommandResult

/-- How the Redis commands of a request end. -/
structure RedisCommands where
  get : CommandResult := .done
  setex : CommandResult := .done
  keys : CommandResult := .done
  del : String → CommandResult := fun _ => .done

namespace RedisCommands

/-- No command fails. -/
structure NoneFailed (c : RedisCommands) : Prop where
  get : c.get = .done
  setex : c.setex = .done
  keys : c.keys = .done
  del : ∀ key, c.del key = .done

/-- What `RedisCache` makes of it: without a reply a `GET` is a miss and a `KEYS` finds
nothing, and a `SETEX` or `DEL` counts when it took effect.  A disabled cache sends no command. -/
def outcome (enabled : Bool) (expired : List String) (c : RedisCommands) : RedisOutcome where
  expired := expired
  get := enabled && c.get.answers
  set := enabled && c.setex.takesEffect
  keys := enabled && c.keys.answers
  del key := enabled && (c.del key).takesEffect

end RedisCommands

section Resources

variable {ι : Type} {Row : ι → Type}

/-- The tables, Redis, when the entry of each key was stored, and the time. -/
structure SharedStore (Row : ι → Type) where
  rows : (r : ι) → List (Row r)
  redis : Redis String := {}
  storedAt : String → Int := fun _ => 0
  now : Int := 0

/-- A request to a resource at a time, in seconds, before which entries expired. -/
structure SharedCall (Row : ι → Type) where
  resource : ι
  request : RecordRequest
  env : Circumstances (Row resource)
  time : Int
  expired : List String := []
  commands : RedisCommands := {}

/-- The lifetime that the handlers give an entry. -/
def ttlSeconds : Int := 30

/-- What decides the request, with Redis enabled or not. -/
def SharedCall.circumstances (call : SharedCall Row) (enabled : Bool) :
    Circumstances (Row call.resource) :=
  { call.env with redis := call.commands.outcome enabled call.expired }

namespace SharedStore

/-- The table of a resource, with the cache. -/
def records (s : SharedStore Row) (r : ι) : Records (Row r) where
  rows := s.rows r
  redis := s.redis

variable [DecidableEq ι] (endpoints : (r : ι) → RecordEndpoint (Row r))

/-- The page that the table of a resource holds. -/
def page (p : Platform) (order : (r : ι) → Database (Row r)) (s : SharedStore Row) (r : ι)
    (request : PageRequest) : Json :=
  (endpoints r).heldPage p (order r) (s.rows r) request

/-- One request. -/
def serve (p : Platform) (enabled : Bool) (s : SharedStore Row) (call : SharedCall Row) :
    Records (Row call.resource) × HttpResponse :=
  (endpoints call.resource).serve p (s.records call.resource)
    (call.request, call.circumstances enabled)

/-- The key that a request stores. -/
def storedKey (p : Platform) (enabled : Bool) (s : SharedStore Row) (call : SharedCall Row) :
    Option String :=
  (endpoints call.resource).storedKey p (s.records call.resource)
    (call.request, call.circumstances enabled)

/-- The state after a request. -/
def next (p : Platform) (enabled : Bool) (s : SharedStore Row) (call : SharedCall Row) :
    SharedStore Row where
  rows := Function.update s.rows call.resource (serve endpoints p enabled s call).1.rows
  redis := (serve endpoints p enabled s call).1.redis
  storedAt :=
    match storedKey endpoints p enabled s call with
    | some key => Function.update s.storedAt key call.time
    | none => s.storedAt
  now := call.time

/-- The endpoints of all resources, one request after another. -/
def server (p : Platform) (enabled : Bool) :
    Server (SharedStore Row) (SharedCall Row) HttpResponse where
  next := next endpoints p enabled
  answer s call := (serve endpoints p enabled s call).2

/-- Time goes on, an entry expires thirty seconds after it was stored, and rows with one
creation time have one order. -/
structure Timely (order : (r : ι) → Database (Row r)) (s : SharedStore Row)
    (call : SharedCall Row) : Prop where
  later : s.now ≤ call.time
  expired : ∀ key text, s.redis.get key = some text → s.storedAt key + ttlSeconds < call.time →
    key ∈ call.expired
  order : call.env.database.rank = (order call.resource).rank

/-- The resources have different names. -/
structure Separate : Prop where
  conventional : ∀ r, (endpoints r).Conventional
  names : ∀ r r', (endpoints r).resource = (endpoints r').resource → r = r'

variable {endpoints} {p : Platform} {enabled : Bool} {order : (r : ι) → Database (Row r)}

/-! ## What Redis does not change -/

theorem rows_next (s : SharedStore Row) (call : SharedCall Row) :
    ((server endpoints p enabled).next s call).rows =
      Function.update s.rows call.resource
        ((endpoints call.resource).rowsAfter (s.rows call.resource) (call.request, call.env)) := by
  refine congrArg (Function.update s.rows call.resource) ?_
  exact (endpoints call.resource).rows_serve p (s.records call.resource) _

/-- Lists change no table. -/
theorem rows_after_of_lists {s : SharedStore Row} {calls : List (SharedCall Row)}
    (hlists : ∀ call ∈ calls, ∃ parameters, call.request = .getRecords parameters) :
    ((server endpoints p enabled).after s calls).rows = s.rows := by
  induction calls using List.reverseRecOn with
  | nil => rfl
  | append_singleton before call ih =>
    obtain ⟨parameters, hlist⟩ := hlists call (by simp)
    have hbefore := ih fun c hc => hlists c (List.mem_append_left _ hc)
    have hrows : ∀ rows, (endpoints call.resource).rowsAfter rows (call.request, call.env) =
        rows := fun rows => by simp only [RecordEndpoint.rowsAfter, hlist, ite_self]
    rw [Server.after_append]
    refine (rows_next _ call).trans ?_
    rw [hrows, Function.update_eq_self, hbefore]

/-- The tables after a run do not depend on Redis. -/
theorem rows_after_eq (start : SharedStore Row) (calls : List (SharedCall Row)) :
    ((server endpoints p enabled).after start calls).rows =
      ((server endpoints p false).after start calls).rows := by
  induction calls using List.reverseRecOn with
  | nil => rfl
  | append_singleton before call ih =>
    rw [Server.after_append, Server.after_append]
    refine (rows_next _ call).trans (Eq.trans ?_ (rows_next _ call).symm)
    rw [ih]

/-- A request that succeeds without Redis succeeds with it, and has the same status. -/
theorem status_eq (hsep : Separate endpoints) {s s' : SharedStore Row} (hrows : s.rows = s'.rows)
    (call : SharedCall Row)
    (hsuccess : ((server endpoints p false).answer s' call).status < 300) :
    ((server endpoints p enabled).answer s call).status =
      ((server endpoints p false).answer s' call).status := by
  obtain ⟨resource, request, env, time, expired, commands⟩ := call
  have hrecords : (s.records resource).rows = (s'.records resource).rows := congrFun hrows resource
  by_cases hlist : ∃ parameters, request = .getRecords parameters
  · obtain ⟨parameters, rfl⟩ := hlist
    have hmiss : (commands.outcome false expired).get = false := rfl
    obtain ⟨hwithout, hwith⟩ := @RecordEndpoint.status_of_list _ _ p _
      (hsep.conventional resource) _ hrecords parameters
      { env with redis := commands.outcome enabled expired } _ hmiss hsuccess
    exact hwith.trans hwithout.symm
  · exact congrArg HttpResponse.status
      (RecordEndpoint.answer_of_not_list hrecords (not_exists.1 hlist)
        { env with redis := commands.outcome enabled expired } (commands.outcome false expired))

/-! ## Where the entries come from -/

/-- An entry after a run was stored by a list request of the run, and shows the page that the
table held when that request was answered. -/
theorem entry_of_after {start : SharedStore Row} (hempty : start.redis = {})
    (before : List (SharedCall Row))
    (htimely : (server endpoints p enabled).Along (Timely order) start before) {key text : String}
    (hget : ((server endpoints p enabled).after start before).redis.get key = some text) :
    ∃ early j late r request, before = early ++ j :: late ∧ request.Positive ∧
      key = request.cacheKey (endpoints r).resource ∧
      text = p.writeString
        (((server endpoints p enabled).after start early).page endpoints p order r request) ∧
      ((server endpoints p enabled).after start before).storedAt key = j.time ∧
      j.time ≤ ((server endpoints p enabled).after start before).now := by
  induction before using List.reverseRecOn generalizing key text with
  | nil =>
    have hnone : (({} : Redis String).get key) = some text := hempty ▸ hget
    cases hnone
  | append_singleton before call ih =>
    obtain ⟨hbefore, hcall, _⟩ := (Server.along_append _ _ _ _).1 htimely
    rw [Server.after_append] at hget ⊢
    rcases RecordEndpoint.get_of_get_serve hget with
      ⟨parameters, request, _, hrequest, _, hkey, htext, hstored⟩ | ⟨hold, hexpired, hstored⟩
    · refine ⟨before, call, [], call.resource, request, rfl,
        PageRequest.positive_of_fromParameters hrequest, hkey, ?_, ?_, le_refl _⟩
      · rw [htext]
        exact congrArg p.writeString
          ((endpoints call.resource).heldPage_congr hcall.order _ request)
      · have hstored' : storedKey endpoints p enabled
            ((server endpoints p enabled).after start before) call = some key := hstored
        change (next endpoints p enabled _ call).storedAt key = call.time
        simp only [next, hstored', Function.update_self]
    · obtain ⟨early, j, late, r, request, hsplit, hpositive, hkey, htext, htime, hnow⟩ :=
        ih hbefore hold
      refine ⟨early, j, late ++ [call], r, request,
        by rw [hsplit, List.append_assoc, List.cons_append], hpositive, hkey, htext, ?_,
        le_trans hnow hcall.later⟩
      rw [← htime]
      change (next endpoints p enabled _ call).storedAt key = _
      unfold next
      cases hname : storedKey endpoints p enabled
          ((server endpoints p enabled).after start before) call with
      | none => rfl
      | some other =>
        have hne : key ≠ other := fun hsame => hstored (hsame ▸ hname)
        exact Function.update_of_ne hne _ _

/-- A disabled cache stays empty. -/
theorem get_of_disabled {start : SharedStore Row} (hempty : start.redis = {})
    (calls : List (SharedCall Row)) (key : String) :
    ((server endpoints p false).after start calls).redis.get key = none := by
  induction calls using List.reverseRecOn with
  | nil =>
    change start.redis.get key = none
    rw [hempty]
    rfl
  | append_singleton before call ih =>
    rw [Server.after_append, Option.eq_none_iff_forall_ne_some]
    intro text hget
    rcases RecordEndpoint.get_of_get_serve hget with ⟨_, _, _, _, hset, _⟩ | ⟨hold, _, _⟩
    · cases hset
    · cases ih.symm.trans hold

omit [DecidableEq ι] in
/-- Only one page of one resource has a key. -/
theorem entry_inj (hsep : Separate endpoints) {r r' : ι} {request request' : PageRequest}
    (hkey : request.cacheKey (endpoints r).resource =
      request'.cacheKey (endpoints r').resource) : r = r' ∧ request = request' := by
  obtain ⟨hname, hrequest⟩ := PageRequest.cacheKey_inj hkey
  exact ⟨hsep.names _ _ hname, hrequest⟩

/-! ## Entries that are current -/

variable (endpoints p order) in
/-- Every entry shows the page that its table holds. -/
def Current (s : SharedStore Row) : Prop :=
  ∀ (r : ι) (request : PageRequest) (text : String), request.Positive →
    s.redis.get (request.cacheKey (endpoints r).resource) = some text →
    text = p.writeString (s.page endpoints p order r request)

theorem page_next {s : SharedStore Row} {call : SharedCall Row} {r : ι}
    (hrows : ((server endpoints p enabled).next s call).rows r = s.rows r)
    (request : PageRequest) :
    ((server endpoints p enabled).next s call).page endpoints p order r request =
      s.page endpoints p order r request :=
  congrArg (fun rows => (endpoints r).heldPage p (order r) rows request) hrows

/-- A request without a failed command leaves an entry only when it leaves the table. -/
theorem rows_next_of_entry (hsep : Separate endpoints) {s : SharedStore Row}
    {call : SharedCall Row} (hnone : call.commands.NoneFailed) {r : ι} {request : PageRequest}
    {text : String} (hget : ((server endpoints p true).next s call).redis.get
      (request.cacheKey (endpoints r).resource) = some text) :
    ((server endpoints p true).next s call).rows r = s.rows r := by
  by_contra hrows
  by_cases hr : r = call.resource
  · subst hr
    have hchanged : (serve endpoints p true s call).1.rows ≠ (s.records call.resource).rows :=
      fun hunchanged => hrows ((Function.update_self _ _ _).trans hunchanged)
    have hkeys : (call.circumstances true).redis.keys = true := by
      simp [SharedCall.circumstances, RedisCommands.outcome, hnone.keys, CommandResult.answers]
    have hdel : ∀ key, (call.circumstances true).redis.del key = true := by
      simp [SharedCall.circumstances, RedisCommands.outcome, hnone.del, CommandResult.takesEffect]
    have herased := RecordEndpoint.erased_of_rows_ne (hsep.conventional call.resource) hchanged
      hkeys hdel request
    cases herased.symm.trans hget
  · exact hrows (Function.update_of_ne hr _ _)

/-- A request without a failed command keeps the entries current. -/
theorem Current.next (hsep : Separate endpoints) {s : SharedStore Row}
    (hcurrent : Current endpoints p order s) {call : SharedCall Row}
    (horder : call.env.database.rank = (order call.resource).rank)
    (hnone : call.commands.NoneFailed) :
    Current endpoints p order ((server endpoints p true).next s call) := by
  intro r request text hpositive hget
  rw [page_next (rows_next_of_entry hsep hnone hget)]
  rcases RecordEndpoint.get_of_get_serve hget with
    ⟨parameters, request', _, hrequest, _, hkey, htext, _⟩ | ⟨hold, _, _⟩
  · -- the entry is the one that this list request stored
    obtain ⟨rfl, rfl⟩ := entry_inj hsep hkey
    rw [htext]
    exact congrArg p.writeString ((endpoints call.resource).heldPage_congr horder _ request)
  · exact hcurrent r request text hpositive hold

/-- Without a failed command every entry is current. -/
theorem current_of_after (hsep : Separate endpoints) {start : SharedStore Row}
    (hempty : start.redis = {}) (before : List (SharedCall Row))
    (htimely : (server endpoints p enabled).Along (Timely order) start before)
    (hcommands : ∀ call ∈ before, call.commands.NoneFailed) :
    Current endpoints p order ((server endpoints p enabled).after start before) := by
  cases enabled with
  | false =>
    intro r request text _ hget
    rw [get_of_disabled hempty] at hget
    cases hget
  | true =>
    induction before using List.reverseRecOn with
    | nil =>
      intro r request text _ hget
      have hnone : (({} : Redis String).get (request.cacheKey (endpoints r).resource)) =
          some text := hempty ▸ hget
      cases hnone
    | append_singleton before call ih =>
      obtain ⟨hbefore, hcall, _⟩ := (Server.along_append _ _ _ _).1 htimely
      rw [Server.after_append]
      have hcurrent := ih (fun c hc => hcommands c (List.mem_append_left _ hc)) hbefore
      exact hcurrent.next hsep hcall.order (hcommands call (by simp))

/-! ## The answers -/

/-- The body of a list answer is a page that the table held at most thirty seconds ago, and the
page that it holds when no command has failed. -/
theorem body_of_listed (hsep : Separate endpoints) {start : SharedStore Row}
    (hempty : start.redis = {}) (before : List (SharedCall Row)) (call : SharedCall Row)
    (htimely : (server endpoints p enabled).Along (Timely order) start (before ++ [call]))
    {parameters : String → Option String} (hlist : call.request = .getRecords parameters)
    (hstatus : ((server endpoints p enabled).answer
      ((server endpoints p enabled).after start before) call).status = 200) :
    ∃ request, PageRequest.fromParameters parameters = .ok request ∧
      (∃ early j late, before ++ [call] = early ++ j :: late ∧ j.time ≤ call.time ∧
        call.time ≤ j.time + ttlSeconds ∧
        ((server endpoints p enabled).answer
            ((server endpoints p enabled).after start before) call).body =
          some (((server endpoints p enabled).after start early).page endpoints p order
            call.resource request)) ∧
      ((∀ c ∈ before, c.commands.NoneFailed) →
        ((server endpoints p enabled).answer
            ((server endpoints p enabled).after start before) call).body =
          some (((server endpoints p enabled).after start before).page endpoints p order
            call.resource request)) := by
  obtain ⟨hbefore, hcall, _⟩ := (Server.along_append _ _ _ _).1 htimely
  obtain ⟨resource, request', env, time, expired, commands⟩ := call
  cases hlist
  obtain ⟨request, hrequest, hbody⟩ :=
    RecordEndpoint.body_of_listed (hsep.conventional resource) hstatus
  have hpositive := PageRequest.positive_of_fromParameters hrequest
  refine ⟨request, hrequest, ?_⟩
  rcases hbody with ⟨text, body, hget, hexpired, hparse, hbody⟩ | hbody
  · constructor
    · obtain ⟨early, j, late, r, request', hsplit, _, hkey, htext, htime, hnow⟩ :=
        entry_of_after hempty before hbefore hget
      obtain ⟨rfl, rfl⟩ := entry_inj hsep hkey
      refine ⟨early, j, late ++ [_], by rw [hsplit, List.append_assoc, List.cons_append],
        le_trans hnow hcall.later, ?_, ?_⟩
      · by_contra hlate
        refine hexpired (hcall.expired _ text hget ?_)
        rw [htime]
        exact not_le.1 hlate
      · refine hbody.trans (congrArg some ?_)
        rw [htext] at hparse
        exact p.parse_written hparse
    · intro hnone
      have htext := current_of_after hsep hempty before hbefore hnone _ _ _ hpositive hget
      rw [htext] at hparse
      exact hbody.trans (congrArg some (p.parse_written hparse))
  · have hpage := (endpoints resource).heldPage_congr (p := p) hcall.order
      (((server endpoints p enabled).after start before).rows resource) request
    have hcurrent := hbody.trans (congrArg some hpage)
    refine ⟨⟨before, _, [], rfl, le_refl _, ?_, hcurrent⟩, fun _ => hcurrent⟩
    unfold ttlSeconds
    omega

omit [DecidableEq ι] in
/-- It is enough to look at the keys that Redis has. -/
theorem timely_of_keys {s : SharedStore Row} {call : SharedCall Row} (hlater : s.now ≤ call.time)
    (hexpired : ∀ key ∈ s.redis.entries.map Prod.fst,
      s.storedAt key + ttlSeconds < call.time → key ∈ call.expired)
    (horder : call.env.database.rank = (order call.resource).rank) : Timely order s call where
  later := hlater
  expired key _ hget := hexpired key (List.mem_map_of_mem (Redis.mem_of_get hget))
  order := horder

/-- A list whose page is in Redis is answered with it. -/
theorem answer_of_hit {s : SharedStore Row} {call : SharedCall Row}
    {parameters : String → Option String} {request : PageRequest} {text : String} {body : Json}
    (hlist : call.request = .getRecords parameters) (hconnected : call.env.connected = true)
    (hcommand : call.commands.get = .done)
    (hrequest : PageRequest.fromParameters parameters = .ok request)
    (hget : (RedisCache.expire (call.circumstances true).redis s.redis).get
      (request.cacheKey (endpoints call.resource).resource) = some text)
    (hne : text ≠ "") (hparse : p.parse text = some body) :
    (server endpoints p true).answer s call = handleResponse body 200 := by
  obtain ⟨resource, _, env, time, expired, commands⟩ := call
  cases hlist
  have hworks : (commands.outcome true expired).get = true :=
    congrArg CommandResult.answers hcommand
  exact congrArg Prod.snd (RecordEndpoint.serve_of_hit (s := s.records resource)
    { env with redis := commands.outcome true expired } hconnected hrequest
    (RedisCache.get_of_redis_get hworks hne hget) hparse)

end SharedStore

end Resources

/-! ## The users and the roles -/

inductive ResourceName where
  | users
  | roles
deriving DecidableEq

namespace ResourceName

/-- The rows of a resource. -/
def Row : ResourceName → Type
  | users => Users
  | roles => Roles

def endpoint (generateHash : GenerateHash) : (r : ResourceName) → RecordEndpoint r.Row
  | users => UserController.endpoint generateHash
  | roles => RoleController.endpoint

theorem separate (generateHash : GenerateHash) : SharedStore.Separate (endpoint generateHash) where
  conventional r := by
    cases r with
    | users => exact UserController.conventional generateHash
    | roles => exact RoleController.conventional
  names r r' h := by
    have hdifferent : ("users" : String) ≠ "roles" := by decide
    cases r with
    | users =>
      cases r' with
      | users => rfl
      | roles => exact absurd h hdifferent
    | roles =>
      cases r' with
      | users => exact absurd h.symm hdifferent
      | roles => rfl

/-- The user and the role endpoints with one Redis. -/
def server (p : Platform) (generateHash : GenerateHash) (enabled : Bool) :
    Server (SharedStore Row) (SharedCall Row) HttpResponse :=
  SharedStore.server (endpoint generateHash) p enabled

/-- The page that the table of a resource holds. -/
def page (p : Platform) (generateHash : GenerateHash) (order : (r : ResourceName) → Database r.Row)
    (s : SharedStore Row) (r : ResourceName) (request : PageRequest) : Json :=
  s.page (endpoint generateHash) p order r request

end ResourceName

/-- Redis changes no table and no success.  A list that succeeds shows the page that the table
of its resource held at most thirty seconds ago, and the page that it holds when no Redis
command has failed. -/
theorem cache_failOpen (p : Platform) (generateHash : GenerateHash) (enabled : Bool)
    (order : (r : ResourceName) → Database r.Row) (start : SharedStore ResourceName.Row)
    (hempty : start.redis = {}) (before : List (SharedCall ResourceName.Row))
    (call : SharedCall ResourceName.Row) :
    (((ResourceName.server p generateHash enabled).after start (before ++ [call])).rows =
        ((ResourceName.server p generateHash false).after start (before ++ [call])).rows ∧
      (((ResourceName.server p generateHash false).answer
          ((ResourceName.server p generateHash false).after start before) call).status < 300 →
        ((ResourceName.server p generateHash enabled).answer
            ((ResourceName.server p generateHash enabled).after start before) call).status =
          ((ResourceName.server p generateHash false).answer
            ((ResourceName.server p generateHash false).after start before) call).status)) ∧
    ∀ parameters, call.request = .getRecords parameters →
      (ResourceName.server p generateHash enabled).Along (SharedStore.Timely order) start
        (before ++ [call]) →
      ((ResourceName.server p generateHash enabled).answer
        ((ResourceName.server p generateHash enabled).after start before) call).status = 200 →
      ∃ request, PageRequest.fromParameters parameters = .ok request ∧
        (∃ early j late, before ++ [call] = early ++ j :: late ∧ j.time ≤ call.time ∧
          call.time ≤ j.time + ttlSeconds ∧
          ((ResourceName.server p generateHash enabled).answer
              ((ResourceName.server p generateHash enabled).after start before) call).body =
            some (ResourceName.page p generateHash order
              ((ResourceName.server p generateHash enabled).after start early) call.resource
              request)) ∧
        ((∀ c ∈ before, c.commands.NoneFailed) →
          ((ResourceName.server p generateHash enabled).answer
              ((ResourceName.server p generateHash enabled).after start before) call).body =
            some (ResourceName.page p generateHash order
              ((ResourceName.server p generateHash enabled).after start before) call.resource
              request)) := by
  have hsep := ResourceName.separate generateHash
  refine ⟨⟨?_, ?_⟩, ?_⟩
  · exact SharedStore.rows_after_eq start (before ++ [call])
  · intro hsuccess
    exact SharedStore.status_eq hsep (SharedStore.rows_after_eq start before) call hsuccess
  · intro parameters hlist htimely hstatus
    exact SharedStore.body_of_listed hsep hempty before call htimely hlist hstatus

/-! ## One role -/

def letterOrder : (r : ResourceName) → Database r.Row
  | .users => letterDatabase Users
  | .roles => letterDatabase Roles

def emptyStore : SharedStore ResourceName.Row where
  rows
    | .users => ([] : List Users)
    | .roles => ([] : List Roles)

/-- A table with one role. -/
def ownerStore : SharedStore ResourceName.Row where
  rows
    | .users => ([] : List Users)
    | .roles => ([{ id := some "a", name := some "Owner", createdAt := some 0 }] : List Roles)

def roleList (time : Int) : SharedCall ResourceName.Row where
  resource := .roles
  request := .getRecords fun _ => none
  env := letterCircumstances Roles
  time := time

/-- A second role is created, and the `KEYS` of its invalidation fails. -/
def adminCreation (time : Int) : SharedCall ResourceName.Row where
  resource := .roles
  request := .createRecord (some (.ofMembers
    [("name", .string "Admin"), ("description", .string "All rights")]))
  env := letterCircumstances Roles
  time := time
  commands := { keys := .failed false }

/-- The first page of the roles. -/
def rolePage (s : SharedStore ResourceName.Row) : Json :=
  ResourceName.page compactPlatform default letterOrder s .roles { page := 1, pageSize := 25 }

theorem get?_rolePage_total (s : SharedStore ResourceName.Row) :
    (rolePage s).get? "total" = some (.int (s.rows .roles).length) :=
  Json.get?_ofMembers [_, _, _] (by simp)

theorem isPlain_rolePage : (rolePage ownerStore).isPlain = true := by decide +kernel

theorem redis_after_creation :
    ((ResourceName.server compactPlatform default true).after ownerStore
        [roleList 0, adminCreation 10]).redis.get "roles:page=1:size=25" =
      some (compactPlatform.writeString (rolePage ownerStore)) := rfl

/-- Twenty seconds after the first list, and after the creation, a list comes from Redis. -/
theorem answer_of_stale :
    (ResourceName.server compactPlatform default true).answer
        ((ResourceName.server compactPlatform default true).after ownerStore
          [roleList 0, adminCreation 10]) (roleList 20) =
      handleResponse (rolePage ownerStore) 200 :=
  SharedStore.answer_of_hit rfl rfl rfl rfl redis_after_creation
    (writeString_compactPlatform_ne isPlain_rolePage)
    (parse_writeString_compactPlatform isPlain_rolePage)

/-- The page that a list shows from Redis is twenty seconds old, and no longer the one that the
table holds. -/
theorem cache_failOpen_of_stale :
    (∃ request, PageRequest.fromParameters (fun _ => none) = .ok request ∧
      (∃ early j late, [roleList 0, adminCreation 10] ++ [roleList 20] = early ++ j :: late ∧
        j.time ≤ (roleList 20).time ∧ (roleList 20).time ≤ j.time + ttlSeconds ∧
        ((ResourceName.server compactPlatform default true).answer
            ((ResourceName.server compactPlatform default true).after ownerStore
              [roleList 0, adminCreation 10]) (roleList 20)).body =
          some (ResourceName.page compactPlatform default letterOrder
            ((ResourceName.server compactPlatform default true).after ownerStore early)
            (roleList 20).resource request)) ∧
      ((∀ c ∈ [roleList 0, adminCreation 10], c.commands.NoneFailed) →
        ((ResourceName.server compactPlatform default true).answer
            ((ResourceName.server compactPlatform default true).after ownerStore
              [roleList 0, adminCreation 10]) (roleList 20)).body =
          some (ResourceName.page compactPlatform default letterOrder
            ((ResourceName.server compactPlatform default true).after ownerStore
              [roleList 0, adminCreation 10]) (roleList 20).resource request))) ∧
    ((ResourceName.server compactPlatform default true).answer
        ((ResourceName.server compactPlatform default true).after ownerStore
          [roleList 0, adminCreation 10]) (roleList 20)).body ≠
      some (rolePage ((ResourceName.server compactPlatform default true).after ownerStore
        [roleList 0, adminCreation 10])) := by
  constructor
  · have hstatus : ((ResourceName.server compactPlatform default true).answer
        ((ResourceName.server compactPlatform default true).after ownerStore
          [roleList 0, adminCreation 10]) (roleList 20)).status = 200 := by
      rw [answer_of_stale]
      rfl
    exact (cache_failOpen compactPlatform default true letterOrder ownerStore rfl
      [roleList 0, adminCreation 10] (roleList 20)).2 (fun _ => none) rfl
      ⟨SharedStore.timely_of_keys (by decide) (by decide) rfl,
        SharedStore.timely_of_keys (by decide) (by decide +kernel) rfl,
        SharedStore.timely_of_keys (by decide) (by decide +kernel) rfl, trivial⟩ hstatus
  · rw [answer_of_stale]
    intro hsame
    have htotal : (rolePage ownerStore).get? "total" = _ :=
      congrArg (fun body : Json => body.get? "total") (Option.some.inj hsame)
    rw [get?_rolePage_total, get?_rolePage_total] at htotal
    exact absurd (Json.int.inj (Option.some.inj htotal)) (by decide +kernel)

end DrogonStarter
