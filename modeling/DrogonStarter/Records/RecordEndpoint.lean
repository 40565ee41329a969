import DrogonStarter.Records.RecordService
import DrogonStarter.Users.UserController

/-!
# Endpoints over one table

The handlers of the users and those of the roles do the same with their services.
They differ in the name of the resource, in the JSON forms and in the answers to a
request that is refused or fails, which is what a `RecordEndpoint` is.

* The functions in the namespace `RecordEndpoint` are the five handlers, and `server` is
  what they make up.
* `rows_serve` says what a request does to the table, whatever is in the cache.
* `UserController.endpoint` is the user controller as a member of the family, and
  `serveUsers_eq` says that it answers like `serveUsers`.
-/

namespace DrogonStarter

open Serving

/-- A table and the cache. -/
structure Records (ρ : Type) where
  rows : List ρ
  redis : Redis String := {}

/-- What decides a request besides the table and the cache. -/
structure Circumstances (ρ : Type) where
  /-- There is a database client. -/
  connected : Bool := true
  database : Database ρ
  /-- `trantor::Date::now()`. -/
  now : Int
  /-- The randomness of `bcrypt::generateHash`. -/
  salt : Nat
  redis : RedisOutcome := {}

/-- A body is `none` when the request has no JSON body. -/
inductive RecordRequest where
  | getRecords (parameters : String → Option String)
  | getRecordById (id : String)
  | createRecord (jsonBody : Option Json)
  | updateRecordById (id : String) (jsonBody : Option Json)
  | deleteRecordById (id : String)

/-- What a controller does besides the calls of its service. -/
structure RecordEndpoint (ρ : Type) extends RecordService ρ where
  /-- The resource in the keys of the cache. -/
  resource : String
  /-- How the keys begin that a write erases. -/
  stem : String
  toPublicJson : Platform → ρ → Json
  toJson : Platform → ρ → Json
  /-- The status of a list request with parameters that are refused. -/
  listRefused : Nat
  createRefused : HttpResponse
  createFailed : HttpResponse
  updateRefused : HttpResponse
  updateFailed : HttpResponse

namespace RecordEndpoint

variable {ρ : Type} (endpoint : RecordEndpoint ρ)

/-- How a list request gets its body. -/
inductive Listing where
  | cached (body : Json)
  /-- From the database, to be stored under a key. -/
  | queried (key : String) (body : Json)

/-- The `try` block of the list handler, before it stores and answers. -/
def listing (p : Platform) (s : Records ρ) (env : Circumstances ρ)
    (parameters : String → Option String) : Except Thrown Listing := do
  let pageRequest ← (PageRequest.fromParameters parameters).mapError .invalidArgument
  let key := pageRequest.cacheKey endpoint.resource
  match (RedisCache.get env.redis s.redis key).bind p.parse with
  | some cachedResponse => return .cached cachedResponse
  | none =>
    let page ← endpoint.list env.database s.rows pageRequest
    return .queried key (page.toJson (endpoint.toPublicJson p))

def getRecords (p : Platform) (s : Records ρ) (env : Circumstances ρ)
    (parameters : String → Option String) : Records ρ × HttpResponse :=
  if env.connected then
    match endpoint.listing p s env parameters with
    | .ok (.cached cachedResponse) => (s, handleResponse cachedResponse 200)
    | .ok (.queried key results) =>
      ({ s with redis := RedisCache.set env.redis s.redis key (p.writeString results) },
        handleResponse results 200)
    | .error (.invalidArgument what) => (s, errorResponse what endpoint.listRefused)
    | .error (.other what) => (s, errorResponse what 500)
  else (s, UserController.unableToConnect)

/-- The handler without a `try` block for one record. -/
def getRecordById (p : Platform) (s : Records ρ) (env : Circumstances ρ) (id : String) :
    Records ρ × HttpResponse :=
  if env.connected then
    match endpoint.findById env.database s.rows id with
    | .ok (some record) => (s, handleResponse (endpoint.toPublicJson p record) 200)
    | .ok none => (s, errorResponse "Record not found" 404)
    | .error _ => (s, unhandled)
  else (s, UserController.unableToConnect)

/-- The table after a write, and a cache without the pages of the resource. -/
def written (s : Records ρ) (env : Circumstances ρ) (rows : List ρ) : Records ρ where
  rows := rows
  redis := RedisCache.erasePrefix env.redis s.redis endpoint.stem

def createRecord (p : Platform) (s : Records ρ) (env : Circumstances ρ)
    (jsonBody : Option Json) : Records ρ × HttpResponse :=
  if env.connected then
    match endpoint.create env.database env.now env.salt s.rows (jsonBody.getD .null) with
    | .ok (record, rows) =>
      (endpoint.written s env rows, handleResponse (endpoint.toJson p record) 201)
    | .error (.invalidArgument _) => (s, endpoint.createRefused)
    | .error (.other _) => (s, endpoint.createFailed)
  else (s, UserController.unableToConnect)

def updateRecordById (p : Platform) (s : Records ρ) (env : Circumstances ρ) (id : String)
    (jsonBody : Option Json) : Records ρ × HttpResponse :=
  if env.connected then
    match endpoint.update env.database env.now env.salt s.rows id (jsonBody.getD .null) with
    | .ok (record, rows) =>
      (endpoint.written s env rows, handleResponse (endpoint.toJson p record) 200)
    | .error (.invalidArgument _) => (s, endpoint.updateRefused)
    | .error (.other _) => (s, endpoint.updateFailed)
  else (s, UserController.unableToConnect)

/-- The handler without a `try` block for a deletion. -/
def deleteRecordById (s : Records ρ) (env : Circumstances ρ) (id : String) :
    Records ρ × HttpResponse :=
  if env.connected then
    match endpoint.delete env.database s.rows id with
    | .ok (true, rows) => (endpoint.written s env rows, { status := 204, body := none })
    | .ok (false, rows) => (endpoint.written s env rows, errorResponse "Record not found" 400)
    | .error _ => (s, unhandled)
  else (s, UserController.unableToConnect)

/-- The handler of a request. -/
def dispatch (p : Platform) (s : Records ρ) (env : Circumstances ρ) :
    RecordRequest → Records ρ × HttpResponse
  | .getRecords parameters => endpoint.getRecords p s env parameters
  | .getRecordById id => endpoint.getRecordById p s env id
  | .createRecord jsonBody => endpoint.createRecord p s env jsonBody
  | .updateRecordById id jsonBody => endpoint.updateRecordById p s env id jsonBody
  | .deleteRecordById id => endpoint.deleteRecordById s env id

/-- One request, after entries of the cache may have expired. -/
def serve (p : Platform) (s : Records ρ) (call : RecordRequest × Circumstances ρ) :
    Records ρ × HttpResponse :=
  endpoint.dispatch p { s with redis := RedisCache.expire call.2.redis s.redis } call.2 call.1

/-- The endpoints of one resource, one request after another. -/
def server (p : Platform) :
    Server (Records ρ) (RecordRequest × Circumstances ρ) HttpResponse where
  next s call := (endpoint.serve p s call).1
  answer s call := (endpoint.serve p s call).2

/-! ## What a request does to the table -/

/-- The rows after a request: the cache has no part in it. -/
def rowsAfter (rows : List ρ) (call : RecordRequest × Circumstances ρ) : List ρ :=
  if call.2.connected then
    match call.1 with
    | .getRecords _ => rows
    | .getRecordById _ => rows
    | .createRecord jsonBody =>
      match endpoint.create call.2.database call.2.now call.2.salt rows (jsonBody.getD .null) with
      | .ok done => done.2
      | .error _ => rows
    | .updateRecordById id jsonBody =>
      match endpoint.update call.2.database call.2.now call.2.salt rows id
          (jsonBody.getD .null) with
      | .ok done => done.2
      | .error _ => rows
    | .deleteRecordById id =>
      match endpoint.delete call.2.database rows id with
      | .ok done => done.2
      | .error _ => rows
  else rows

/-- The row that a create request asks for. -/
def requested (env : Circumstances ρ) (jsonBody : Option Json) : ρ :=
  endpoint.table.withDefaults env.database.newId env.database.now
    (endpoint.created env.now env.salt (jsonBody.getD .null))

/-- A create request with a valid body, whose row the database takes. -/
def Inserts (rows : List ρ) (call : RecordRequest × Circumstances ρ) : Prop :=
  ∃ jsonBody, call.1 = .createRecord jsonBody ∧ call.2.connected = true ∧
    endpoint.validateInput (jsonBody.getD .null) = .ok () ∧
    Mapper.insertable endpoint.table call.2.database rows
      (endpoint.requested call.2 jsonBody) = true

/-- What a create does: it inserts the row that is asked for, or nothing. -/
theorem rowsAfter_create (rows : List ρ) (jsonBody : Option Json) (env : Circumstances ρ) :
    (endpoint.Inserts rows (.createRecord jsonBody, env) ∧
        endpoint.rowsAfter rows (.createRecord jsonBody, env) =
          rows ++ [endpoint.requested env jsonBody]) ∨
      (¬ endpoint.Inserts rows (.createRecord jsonBody, env) ∧
        endpoint.rowsAfter rows (.createRecord jsonBody, env) = rows) := by
  unfold rowsAfter
  by_cases hconnected : env.connected = true
  case neg =>
    refine Or.inr ⟨?_, if_neg hconnected⟩
    rintro ⟨_, _, h, _⟩
    exact hconnected h
  case pos =>
    rw [if_pos hconnected]
    simp only [RecordService.create]
    cases hvalid : endpoint.validateInput (jsonBody.getD .null) with
    | error thrown =>
      refine Or.inr ⟨?_, rfl⟩
      rintro ⟨_, ⟨⟩, _, h, _⟩
      cases hvalid.symm.trans h
    | ok _ =>
      simp only [bind, Except.bind, Mapper.insert]
      by_cases hinsertable : Mapper.insertable endpoint.table env.database rows
          (endpoint.requested env jsonBody) = true
      · refine Or.inl ⟨⟨jsonBody, rfl, hconnected, hvalid, hinsertable⟩, ?_⟩
        unfold requested at hinsertable
        rw [if_pos hinsertable]
        rfl
      · refine Or.inr ⟨?_, ?_⟩
        · rintro ⟨_, ⟨⟩, _, _, h⟩
          exact hinsertable h
        · unfold requested at hinsertable
          rw [if_neg hinsertable]

/-- What a request does to the table: nothing, or it inserts the row that is asked for, assigns
to the rows with a key, or deletes them. -/
theorem rowsAfter_cases (rows : List ρ) (call : RecordRequest × Circumstances ρ) :
    (¬ endpoint.Inserts rows call ∧ endpoint.rowsAfter rows call = rows) ∨
      (∃ jsonBody, endpoint.Inserts rows call ∧
        endpoint.rowsAfter rows call = rows ++ [endpoint.requested call.2 jsonBody]) ∨
      (∃ id input key, endpoint.rowsAfter rows call =
        rows.map fun row =>
          if endpoint.table.id row = some key then
            endpoint.table.assign (endpoint.updated call.2.now call.2.salt id input) row
          else row) ∨
      ∃ key, endpoint.rowsAfter rows call =
        rows.filter (endpoint.table.id · ≠ some key) := by
  obtain ⟨request, env⟩ := call
  have hother : (∀ jsonBody, request ≠ .createRecord jsonBody) →
      ¬ endpoint.Inserts rows (request, env) := by
    rintro hrequest ⟨jsonBody, hcall, _⟩
    exact hrequest jsonBody hcall
  cases request with
  | getRecords parameters => exact Or.inl ⟨hother nofun, ite_self rows⟩
  | getRecordById id => exact Or.inl ⟨hother nofun, ite_self rows⟩
  | createRecord jsonBody =>
    rcases endpoint.rowsAfter_create rows jsonBody env with h | h
    · exact Or.inr (Or.inl ⟨jsonBody, h⟩)
    · exact Or.inl h
  | updateRecordById id jsonBody =>
    have hnothing := hother nofun
    unfold rowsAfter
    by_cases hconnected : env.connected = true
    case neg => exact Or.inl ⟨hnothing, if_neg hconnected⟩
    case pos =>
      simp only [if_pos hconnected, RecordService.update, Mapper.update]
      cases endpoint.validateInput (jsonBody.getD .null) with
      | error thrown => exact Or.inl ⟨hnothing, rfl⟩
      | ok _ =>
        simp only [bind, Except.bind]
        cases env.database.uuid ((endpoint.table.id
            (endpoint.updated env.now env.salt id (jsonBody.getD .null))).getD "") with
        | none => exact Or.inl ⟨hnothing, rfl⟩
        | some key =>
          simp only
          cases Mapper.updatable endpoint.table env.database rows key
              (endpoint.updated env.now env.salt id (jsonBody.getD .null)) with
          | false => exact Or.inl ⟨hnothing, rfl⟩
          | true => exact Or.inr (Or.inr (Or.inl ⟨id, jsonBody.getD .null, key, rfl⟩))
  | deleteRecordById id =>
    have hnothing := hother nofun
    unfold rowsAfter
    by_cases hconnected : env.connected = true
    case neg => exact Or.inl ⟨hnothing, if_neg hconnected⟩
    case pos =>
      simp only [if_pos hconnected, RecordService.delete, Mapper.deleteByPrimaryKey,
        Mapper.execute]
      cases env.database.uuid id with
      | none => exact Or.inl ⟨hnothing, rfl⟩
      | some key =>
        simp only [bind, Except.bind]
        cases env.database.failure with
        | some what => exact Or.inl ⟨hnothing, rfl⟩
        | none => exact Or.inr (Or.inr (Or.inr ⟨key, rfl⟩))

theorem rows_serve (p : Platform) (s : Records ρ) (call : RecordRequest × Circumstances ρ) :
    (endpoint.serve p s call).1.rows = endpoint.rowsAfter s.rows call := by
  obtain ⟨request, env⟩ := call
  by_cases hconnected : env.connected = true
  case neg =>
    cases request <;>
      simp only [serve, dispatch, getRecords, getRecordById, createRecord, updateRecordById,
        deleteRecordById, rowsAfter, if_neg hconnected]
  case pos =>
    simp only [serve, dispatch, rowsAfter, if_pos hconnected]
    cases request with
    | getRecords parameters =>
      simp only [getRecords, if_pos hconnected]
      split <;> rfl
    | getRecordById id =>
      simp only [getRecordById, if_pos hconnected]
      split <;> rfl
    | createRecord jsonBody =>
      simp only [createRecord, if_pos hconnected]
      cases endpoint.create env.database env.now env.salt s.rows (jsonBody.getD .null) with
      | ok done => rfl
      | error thrown => cases thrown <;> rfl
    | updateRecordById id jsonBody =>
      simp only [updateRecordById, if_pos hconnected]
      cases endpoint.update env.database env.now env.salt s.rows id (jsonBody.getD .null) with
      | ok done => rfl
      | error thrown => cases thrown <;> rfl
    | deleteRecordById id =>
      simp only [deleteRecordById, if_pos hconnected]
      cases endpoint.delete env.database s.rows id with
      | ok done =>
        obtain ⟨deleted, rows⟩ := done
        cases deleted <;> rfl
      | error thrown => rfl

end RecordEndpoint

/-- A request that the letter database serves. -/
def letterCircumstances (ρ : Type) : Circumstances ρ where
  database := letterDatabase ρ
  now := 1000000
  salt := 0

/-! ## The users -/

def UserStore.records (s : UserStore) : Records Users := { rows := s.users, redis := s.redis }

def Surroundings.circumstances (env : Surroundings) : Circumstances Users where
  connected := env.connected
  database := env.database
  now := env.now
  salt := env.salt
  redis := env.redis

def UserRequest.record : UserRequest → RecordRequest
  | .getUsers parameters => .getRecords parameters
  | .getUserById id => .getRecordById id
  | .createUser jsonBody => .createRecord jsonBody
  | .updateUserById userId jsonBody => .updateRecordById userId jsonBody
  | .deleteUserById userId => .deleteRecordById userId

namespace UserController

/-- The user controller as a member of the family. -/
def endpoint (generateHash : GenerateHash) : RecordEndpoint Users where
  toRecordService := UserService.records generateHash
  resource := "users"
  stem := "users:"
  toPublicJson := UserService.toPublicJson
  toJson := Users.toJson
  listRefused := 400
  createRefused := invalidBody
  createFailed := errorResponse "Unable to create user" 400
  updateRefused := invalidBody
  updateFailed := errorResponse "Unable to update user" 500

/-- A result of a user handler as one of the family. -/
def recorded (result : UserStore × HttpResponse) : Records Users × HttpResponse :=
  (result.1.records, result.2)

/-- Both look for the database client first, and answer the same when there is none. -/
theorem recorded_ite {connected : Bool} {x y : Records Users × HttpResponse}
    {x' y' : UserStore × HttpResponse} (hyes : x = recorded x') (hno : y = recorded y') :
    (if connected = true then x else y) = recorded (if connected = true then x' else y') := by
  cases connected with
  | false => exact hno
  | true => exact hyes

theorem getUsers_eq (p : Platform) (generateHash : GenerateHash) (s : UserStore)
    (env : Surroundings) (parameters : String → Option String) :
    (endpoint generateHash).getRecords p s.records env.circumstances parameters =
      recorded (getUsers p s env parameters) := by
  unfold RecordEndpoint.getRecords getUsers RecordEndpoint.listing listPage
  refine recorded_ite ?_ rfl
  simp only [Surroundings.circumstances, UserStore.records, endpoint,
    ← UserService.listUsers_eq generateHash]
  cases PageRequest.fromParameters parameters with
  | error what => rfl
  | ok pageRequest =>
    simp only [Except.mapError, bind, Except.bind]
    cases (RedisCache.get env.redis s.redis (pageRequest.cacheKey "users")).bind p.parse with
    | some cachedResponse => rfl
    | none =>
      cases UserService.listUsers env.database s.users pageRequest with
      | error thrown => cases thrown <;> rfl
      | ok users => rfl

theorem getUserById_eq (p : Platform) (generateHash : GenerateHash) (s : UserStore)
    (env : Surroundings) (id : String) :
    (endpoint generateHash).getRecordById p s.records env.circumstances id =
      recorded (getUserById p s env id) := by
  unfold RecordEndpoint.getRecordById getUserById
  refine recorded_ite ?_ rfl
  simp only [Surroundings.circumstances, UserStore.records, endpoint,
    ← UserService.findById_eq generateHash]
  cases UserService.findById env.database s.users id with
  | error thrown => rfl
  | ok user => cases user <;> rfl

theorem createUser_eq_createRecord (p : Platform) (generateHash : GenerateHash) (s : UserStore)
    (env : Surroundings) (jsonBody : Option Json) :
    (endpoint generateHash).createRecord p s.records env.circumstances jsonBody =
      recorded (createUser p generateHash s env jsonBody) := by
  unfold RecordEndpoint.createRecord createUser
  refine recorded_ite ?_ rfl
  simp only [Surroundings.circumstances, UserStore.records, endpoint,
    ← UserService.createUser_eq_create]
  cases UserService.createUser generateHash env.database env.now env.salt s.users
      (jsonBody.getD .null) with
  | error thrown => cases thrown <;> rfl
  | ok done => rfl

theorem updateUserById_eq_updateRecordById (p : Platform) (generateHash : GenerateHash)
    (s : UserStore) (env : Surroundings) (userId : String) (jsonBody : Option Json) :
    (endpoint generateHash).updateRecordById p s.records env.circumstances userId jsonBody =
      recorded (updateUserById p generateHash s env userId jsonBody) := by
  unfold RecordEndpoint.updateRecordById updateUserById
  refine recorded_ite ?_ rfl
  simp only [Surroundings.circumstances, UserStore.records, endpoint,
    ← UserService.updateUser_eq_update]
  cases UserService.updateUser generateHash env.database env.now env.salt s.users userId
      (jsonBody.getD .null) with
  | error thrown => cases thrown <;> rfl
  | ok done => rfl

theorem deleteUserById_eq (generateHash : GenerateHash) (s : UserStore) (env : Surroundings)
    (userId : String) :
    (endpoint generateHash).deleteRecordById s.records env.circumstances userId =
      recorded (deleteUserById s env userId) := by
  unfold RecordEndpoint.deleteRecordById deleteUserById
  refine recorded_ite ?_ rfl
  simp only [Surroundings.circumstances, UserStore.records, endpoint,
    ← UserService.deleteUser_eq generateHash]
  cases UserService.deleteUser env.database s.users userId with
  | error thrown => rfl
  | ok done =>
    obtain ⟨deleted, users⟩ := done
    cases deleted <;> rfl

theorem dispatch_eq (p : Platform) (generateHash : GenerateHash) (s : UserStore)
    (env : Surroundings) (request : UserRequest) :
    (endpoint generateHash).dispatch p s.records env.circumstances request.record =
      recorded (dispatch p generateHash s env request) := by
  cases request with
  | getUsers parameters => exact getUsers_eq p generateHash s env parameters
  | getUserById id => exact getUserById_eq p generateHash s env id
  | createUser jsonBody => exact createUser_eq_createRecord p generateHash s env jsonBody
  | updateUserById userId jsonBody =>
    exact updateUserById_eq_updateRecordById p generateHash s env userId jsonBody
  | deleteUserById userId => exact deleteUserById_eq generateHash s env userId

end UserController

/-- The user endpoints answer like the family, and change the same. -/
theorem serveUsers_eq (p : Platform) (generateHash : GenerateHash) (s : UserStore)
    (request : UserRequest) (env : Surroundings) :
    (UserController.endpoint generateHash).serve p s.records (request.record, env.circumstances) =
      UserController.recorded (serveUsers p generateHash s (request, env)) :=
  UserController.dispatch_eq p generateHash (s.expire env) env request

end DrogonStarter
