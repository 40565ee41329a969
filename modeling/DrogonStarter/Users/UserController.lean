import DrogonStarter.Cache.RedisCache
import DrogonStarter.Lib.Unwinding
import DrogonStarter.Pagination.PageResponse
import DrogonStarter.Users.UserService

/-!
# The user endpoints

`UserController` has one handler for each of the five requests, behind the
filter that checks the token.  A handler takes the users table and the cache,
and gives the next ones and a response.  The handlers run one after another:
`userEndpoints` is the server that they make up.

`Surroundings` is everything else that decides a request, so that two runs with
the same surroundings differ only in the table and in `bcrypt::generateHash`.
-/

namespace DrogonStarter

open Serving

/-- A status and, unless it is empty, a JSON body. -/
structure HttpResponse where
  status : Nat
  body : Option Json

/-- The users table and the cache. -/
structure UserStore where
  users : List Users
  redis : Redis String := {}

/-- What decides a request besides the table and the cache. -/
structure Surroundings where
  /-- There is a database client. -/
  connected : Bool := true
  database : Database Users
  /-- `trantor::Date::now()`. -/
  now : Int
  /-- The randomness of `bcrypt::generateHash`. -/
  salt : Nat
  redis : RedisOutcome := {}

/-- A body is `none` when the request has no JSON body. -/
inductive UserRequest where
  | getUsers (parameters : String → Option String)
  | getUserById (id : String)
  | createUser (jsonBody : Option Json)
  | updateUserById (userId : String) (jsonBody : Option Json)
  | deleteUserById (userId : String)

/-- `BaseController::handleResponse`. -/
def handleResponse (responseData : Json) (statusCode : Nat) : HttpResponse :=
  { status := statusCode, body := some responseData }

/-- The responses with an `error` member. -/
def errorResponse (what : String) (statusCode : Nat) : HttpResponse :=
  handleResponse (Json.ofMembers [("error", .string what)]) statusCode

/-- What the framework sends for an exception that leaves a handler. -/
def unhandled : HttpResponse := { status := 500, body := none }

namespace UserController

def unableToConnect : HttpResponse := errorResponse "Unable to connect to database" 500

/-- The `try` block of `getUsers`. -/
def listPage (p : Platform) (s : UserStore) (env : Surroundings)
    (parameters : String → Option String) : Except Thrown (UserStore × HttpResponse) := do
  let pageRequest ← (PageRequest.fromParameters parameters).mapError .invalidArgument
  let key := pageRequest.cacheKey "users"
  match (RedisCache.get env.redis s.redis key).bind p.parse with
  | some cachedResponse => return (s, handleResponse cachedResponse 200)
  | none =>
    let users ← UserService.listUsers env.database s.users pageRequest
    let userResults := users.toJson (UserService.toPublicJson p)
    let redis := RedisCache.set env.redis s.redis key (p.writeString userResults)
    return ({ s with redis := redis }, handleResponse userResults 200)

/-- `getUsers`. -/
def getUsers (p : Platform) (s : UserStore) (env : Surroundings)
    (parameters : String → Option String) : UserStore × HttpResponse :=
  if env.connected then
    match listPage p s env parameters with
    | .ok result => result
    | .error (.invalidArgument what) => (s, errorResponse what 400)
    | .error (.other what) => (s, errorResponse what 500)
  else (s, unableToConnect)

/-- `getUserById`, without a `try` block. -/
def getUserById (p : Platform) (s : UserStore) (env : Surroundings) (id : String) :
    UserStore × HttpResponse :=
  if env.connected then
    match UserService.findById env.database s.users id with
    | .ok (some user) => (s, handleResponse (UserService.toPublicJson p user) 200)
    | .ok none => (s, errorResponse "Record not found" 404)
    | .error _ => (s, unhandled)
  else (s, unableToConnect)

/-- The store after a write: the new table, and a cache without the users
pages. -/
def written (s : UserStore) (env : Surroundings) (users : List Users) : UserStore where
  users := users
  redis := RedisCache.erasePrefix env.redis s.redis "users:"

/-- The text for a body that `validateUserInput` refuses. -/
def invalidBody : HttpResponse :=
  errorResponse "Request body must contain first_name, last_name, email and password" 400

/-- `createUser`. -/
def createUser (p : Platform) (generateHash : GenerateHash) (s : UserStore)
    (env : Surroundings) (jsonBody : Option Json) : UserStore × HttpResponse :=
  if env.connected then
    match UserService.createUser generateHash env.database env.now env.salt s.users
        (jsonBody.getD .null) with
    | .ok (user, users) => (written s env users, handleResponse (user.toJson p) 201)
    | .error (.invalidArgument _) => (s, invalidBody)
    | .error (.other _) => (s, errorResponse "Unable to create user" 400)
  else (s, unableToConnect)

/-- `updateUserById`. -/
def updateUserById (p : Platform) (generateHash : GenerateHash) (s : UserStore)
    (env : Surroundings) (userId : String) (jsonBody : Option Json) :
    UserStore × HttpResponse :=
  if env.connected then
    match UserService.updateUser generateHash env.database env.now env.salt s.users userId
        (jsonBody.getD .null) with
    | .ok (user, users) => (written s env users, handleResponse (user.toJson p) 200)
    | .error (.invalidArgument _) => (s, invalidBody)
    | .error (.other _) => (s, errorResponse "Unable to update user" 500)
  else (s, unableToConnect)

/-- `deleteUserById`, without a `try` block. -/
def deleteUserById (s : UserStore) (env : Surroundings) (userId : String) :
    UserStore × HttpResponse :=
  if env.connected then
    match UserService.deleteUser env.database s.users userId with
    | .ok (true, users) => (written s env users, { status := 204, body := none })
    | .ok (false, users) => (written s env users, errorResponse "Record not found" 400)
    | .error _ => (s, unhandled)
  else (s, unableToConnect)

/-- The handler of a request. -/
def dispatch (p : Platform) (generateHash : GenerateHash) (s : UserStore) (env : Surroundings) :
    UserRequest → UserStore × HttpResponse
  | .getUsers parameters => getUsers p s env parameters
  | .getUserById id => getUserById p s env id
  | .createUser jsonBody => createUser p generateHash s env jsonBody
  | .updateUserById userId jsonBody => updateUserById p generateHash s env userId jsonBody
  | .deleteUserById userId => deleteUserById s env userId

end UserController

/-- The store when a request starts: entries of the cache may have expired. -/
def UserStore.expire (s : UserStore) (env : Surroundings) : UserStore :=
  { s with redis := RedisCache.expire env.redis s.redis }

/-- One request. -/
def serveUsers (p : Platform) (generateHash : GenerateHash) (s : UserStore)
    (call : UserRequest × Surroundings) : UserStore × HttpResponse :=
  UserController.dispatch p generateHash (s.expire call.2) call.2 call.1

/-- The user endpoints, one request after another. -/
def userEndpoints (p : Platform) (generateHash : GenerateHash) :
    Server UserStore (UserRequest × Surroundings) HttpResponse where
  next s call := (serveUsers p generateHash s call).1
  answer s call := (serveUsers p generateHash s call).2

end DrogonStarter
