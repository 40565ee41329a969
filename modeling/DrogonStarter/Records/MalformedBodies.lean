import DrogonStarter.Records.RecordHandler
import DrogonStarter.Roles.RoleController
import DrogonStarter.Users.AuthController

/-!
# Malformed request bodies

Five handlers take a body: the login, and the two writes of each resource.  A body that is
not an object with the texts that the handler needs must be answered with 400, once, and
change nothing.

* `HasTexts` says which bodies are well formed, and the checks of the three sources refuse
  the others.
* `handle` is the handler of each of the five requests, on the two tables and the cache.
* `rejectedCleanly_iff`: every malformed body is rejected cleanly but that of a login with a
  value that is neither null nor an object, where the access to a member throws and nothing
  catches it.
-/

namespace DrogonStarter

open Serving

/-! ## Well-formed bodies -/

/-- A body is an object whose members with the names are strings. -/
def HasTexts (names : List String) (body : Json) : Prop :=
  body.isObject = true ∧ ∀ name ∈ names, ∃ text, body.get? name = some (.string text)

theorem isString_field_iff (body : Json) (name : String) :
    (UserService.field body name).isString = true ↔
      ∃ text, body.get? name = some (.string text) := by
  unfold UserService.field
  cases body.get? name with
  | none => simp [Json.isString]
  | some value => cases value <;> simp [Json.isString]

theorem hasTexts_iff {names : List String} {body : Json} :
    HasTexts names body ↔
      body.isObject = true ∧ ∀ name ∈ names, (UserService.field body name).isString = true :=
  and_congr_right fun _ => forall₂_congr fun name _ => (isString_field_iff body name).symm

namespace UserService

def requiredMembers : List String := ["first_name", "last_name", "email", "password"]

theorem validateUserInput_of_malformed {input : Json} (h : ¬ HasTexts requiredMembers input) :
    validateUserInput input =
      .error (.invalidArgument
        "Request body must contain first_name, last_name, email and password") := by
  unfold validateUserInput
  refine if_pos (by_contra fun hvalid => h (hasTexts_iff.2 ?_))
  simp only [Bool.or_eq_true, Bool.not_eq_true', not_or, Bool.not_eq_false] at hvalid
  obtain ⟨⟨⟨⟨hobject, hfirst⟩, hlast⟩, hemail⟩, hpassword⟩ := hvalid
  exact ⟨hobject, by simp [requiredMembers, hfirst, hlast, hemail, hpassword]⟩

end UserService

namespace RoleService

def requiredMembers : List String := ["name", "description"]

theorem validateRoleInput_of_malformed {input : Json} (h : ¬ HasTexts requiredMembers input) :
    validateRoleInput input =
      .error (.invalidArgument "Request body must contain name and description") := by
  unfold validateRoleInput
  refine if_pos (by_contra fun hvalid => h (hasTexts_iff.2 ?_))
  simp only [Bool.or_eq_true, Bool.not_eq_true', not_or, Bool.not_eq_false] at hvalid
  obtain ⟨⟨hobject, hname⟩, hdescription⟩ := hvalid
  exact ⟨hobject, by simp [requiredMembers, hname, hdescription]⟩

end RoleService

namespace AuthController

def requiredMembers : List String := ["email", "password"]

theorem lacksCredentials_of_malformed {env : LoginSurroundings} {jsonBody : Json}
    (haccessible : Accessible jsonBody) (h : ¬ HasTexts requiredMembers jsonBody) :
    lacksCredentials env jsonBody = .ok true := by
  rw [lacksCredentials_of_accessible haccessible]
  refine congrArg Except.ok (by_contra fun hvalid => h (hasTexts_iff.2 ?_))
  simp only [Bool.not_eq_true, Bool.not_eq_false', Bool.and_eq_true] at hvalid
  obtain ⟨hemail, hpassword⟩ := hvalid
  have hobject : jsonBody.isObject = true := by
    rcases haccessible with rfl | hobject
    · cases hemail
    · exact hobject
  exact ⟨hobject, by simp [requiredMembers, hemail, hpassword]⟩

end AuthController

/-! ## The five requests -/

/-- The two tables and the cache. -/
structure Site where
  users : List Users
  roles : List Roles
  redis : Redis String := {}

/-- What decides a request with a body besides the tables and the cache. -/
structure Arrival where
  /-- There is a database client. -/
  connected : Bool := true
  usersDatabase : Database Users
  rolesDatabase : Database Roles
  /-- `trantor::Date::now()`. -/
  now : Int
  /-- The randomness of `bcrypt::generateHash`. -/
  salt : Nat
  redis : RedisOutcome := {}
  /-- The text of `Json::LogicError`. -/
  logicError : String
  /-- `bcrypt::validatePassword`. -/
  validatePassword : (password hashedPassword : String) → Bool
  jwt : Jwt
  /-- The text of `.env`. -/
  envText : String

namespace Arrival

variable (arrival : Arrival)

def login : LoginSurroundings where
  connected := arrival.connected
  database := arrival.usersDatabase
  logicError := arrival.logicError
  validatePassword := arrival.validatePassword
  jwt := arrival.jwt
  envText := arrival.envText
  now := (arrival.now / 1000000).toNat

def users : Circumstances Users where
  connected := arrival.connected
  database := arrival.usersDatabase
  now := arrival.now
  salt := arrival.salt
  redis := arrival.redis

def roles : Circumstances Roles where
  connected := arrival.connected
  database := arrival.rolesDatabase
  now := arrival.now
  salt := arrival.salt
  redis := arrival.redis

end Arrival

/-- A request with a body, which is `none` when it is absent or no JSON text. -/
inductive BodyRequest where
  | login (jsonBody : Option Json)
  | createUser (jsonBody : Option Json)
  | updateUserById (userId : String) (jsonBody : Option Json)
  | createRole (jsonBody : Option Json)
  | updateRoleById (roleId : String) (jsonBody : Option Json)

namespace BodyRequest

def jsonBody : BodyRequest → Option Json
  | .login jsonBody | .createUser jsonBody | .updateUserById _ jsonBody
  | .createRole jsonBody | .updateRoleById _ jsonBody => jsonBody

def requiredMembers : BodyRequest → List String
  | .login _ => AuthController.requiredMembers
  | .createUser _ | .updateUserById _ _ => UserService.requiredMembers
  | .createRole _ | .updateRoleById _ _ => RoleService.requiredMembers

/-- The body is an object with the texts that the handler needs. -/
def WellFormed (request : BodyRequest) : Prop :=
  ∃ body, request.jsonBody = some body ∧ HasTexts request.requiredMembers body

/-- A login with a JSON value that is neither null nor an object. -/
def IsOddLogin : BodyRequest → Prop
  | .login (some body) => ¬ AuthController.Accessible body
  | _ => False

end BodyRequest

namespace Site

def userStore (site : Site) : UserStore := { users := site.users, redis := site.redis }

def putUserStore (s : UserStore) (site : Site) : Site :=
  { site with users := s.users, redis := s.redis }

def userRecords (site : Site) : Records Users := { rows := site.users, redis := site.redis }

def putUserRecords (s : Records Users) (site : Site) : Site :=
  { site with users := s.rows, redis := s.redis }

def roleRecords (site : Site) : Records Roles := { rows := site.roles, redis := site.redis }

def putRoleRecords (s : Records Roles) (site : Site) : Site :=
  { site with roles := s.rows, redis := s.redis }

end Site

/-- The login, on the users table and the cache. -/
def onUserStore (x : Handler Thrown UserStore HttpResponse Unit) :
    Handler Thrown Site HttpResponse Unit :=
  Handler.within Site.userStore Site.putUserStore x

/-- A write of a user. -/
def onUsers (x : Handler Thrown (Records Users) HttpResponse Unit) :
    Handler Thrown Site HttpResponse Unit :=
  Handler.within Site.userRecords Site.putUserRecords x

/-- A write of a role. -/
def onRoles (x : Handler Thrown (Records Roles) HttpResponse Unit) :
    Handler Thrown Site HttpResponse Unit :=
  Handler.within Site.roleRecords Site.putRoleRecords x

/-- The handler of a request. -/
def handle (p : Platform) (generateHash : GenerateHash) (arrival : Arrival) :
    BodyRequest → Handler Thrown Site HttpResponse Unit
  | .login jsonBody => onUserStore (AuthController.asyncHandleHttpRequest arrival.login jsonBody)
  | .createUser jsonBody =>
    onUsers ((UserController.endpoint generateHash).createHandler p arrival.users jsonBody)
  | .updateUserById userId jsonBody =>
    onUsers ((UserController.endpoint generateHash).updateHandler p arrival.users userId jsonBody)
  | .createRole jsonBody => onRoles (RoleController.endpoint.createHandler p arrival.roles jsonBody)
  | .updateRoleById roleId jsonBody =>
    onRoles (RoleController.endpoint.updateHandler p arrival.roles roleId jsonBody)

/-! ## Clean rejections -/

/-- No exception leaves the handler, the callback gets one answer, with status 400, and the
tables and the cache stay as they are. -/
def RejectedCleanly (x : Handler Thrown Site HttpResponse Unit) (site : Site) : Prop :=
  ∃ answer, Handler.Answers x site answer site ∧ answer.status = 400

theorem not_hasTexts_getD {names : List String} {jsonBody : Option Json}
    (h : ¬ ∃ body, jsonBody = some body ∧ HasTexts names body) :
    ¬ HasTexts names (jsonBody.getD .null) := by
  intro htexts
  cases jsonBody with
  | none => cases htexts.1
  | some body => exact h ⟨body, rfl, htexts⟩

section rejections

variable {site : Site} {answer : HttpResponse} (hstatus : answer.status = 400)

include hstatus

theorem rejectedCleanly_onUserStore {x : Handler Thrown UserStore HttpResponse Unit}
    (h : Handler.Answers x site.userStore answer site.userStore) :
    RejectedCleanly (onUserStore x) site :=
  ⟨answer, h.within Site.putUserStore, hstatus⟩

theorem rejectedCleanly_onUsers {x : Handler Thrown (Records Users) HttpResponse Unit}
    (h : Handler.Answers x site.userRecords answer site.userRecords) :
    RejectedCleanly (onUsers x) site :=
  ⟨answer, h.within Site.putUserRecords, hstatus⟩

theorem rejectedCleanly_onRoles {x : Handler Thrown (Records Roles) HttpResponse Unit}
    (h : Handler.Answers x site.roleRecords answer site.roleRecords) :
    RejectedCleanly (onRoles x) site :=
  ⟨answer, h.within Site.putRoleRecords, hstatus⟩

end rejections

namespace AuthController

variable (env : LoginSurroundings) (hconnected : env.connected = true) (s : UserStore)

include hconnected

/-- A value that has members, or may get them, but not the two texts, and no value. -/
theorem answers_of_malformed {jsonBody : Option Json}
    (hmalformed : ¬ (BodyRequest.login jsonBody).WellFormed)
    (hodd : ¬ (BodyRequest.login jsonBody).IsOddLogin) :
    Handler.Answers (asyncHandleHttpRequest env jsonBody) s invalidBody s := by
  unfold asyncHandleHttpRequest
  rw [if_pos hconnected]
  cases jsonBody with
  | none => exact Handler.answers_callback invalidBody s
  | some body =>
    have hlacks : lacksCredentials env body = .ok true :=
      lacksCredentials_of_malformed (not_not.1 hodd) fun htexts => hmalformed ⟨body, rfl, htexts⟩
    refine Handler.answers_query_bind (s := s) hlacks ?_
    exact Handler.answers_callback invalidBody s

/-- Any other value: the first access to a member throws, outside any `try` block. -/
theorem escapes_of_not_accessible {body : Json} (hodd : ¬ Accessible body) :
    Handler.Escapes (asyncHandleHttpRequest env (some body)) s (.other env.logicError) := by
  unfold asyncHandleHttpRequest
  rw [if_pos hconnected]
  exact Handler.escapes_query_bind (s := s) (lacksCredentials_of_not_accessible hodd) _

end AuthController

theorem escapes_of_isOddLogin {arrival : Arrival} (hconnected : arrival.connected = true)
    {request : BodyRequest} (hodd : request.IsOddLogin) (p : Platform)
    (generateHash : GenerateHash) (site : Site) :
    Handler.Escapes (handle p generateHash arrival request) site (.other arrival.logicError) := by
  match request with
  | .login (some body) =>
    have hescapes := AuthController.escapes_of_not_accessible arrival.login hconnected
      site.userStore hodd
    exact hescapes.within Site.putUserStore rfl
  | .login none | .createUser _ | .updateUserById _ _ | .createRole _ | .updateRoleById _ _ =>
    exact hodd.elim

section writes

variable {arrival : Arrival} (hconnected : arrival.connected = true) (p : Platform)
  {jsonBody : Option Json} (site : Site)

include hconnected

theorem userWrites_rejectedCleanly (generateHash : GenerateHash)
    (hmalformed : ¬ (BodyRequest.createUser jsonBody).WellFormed) (userId : String) :
    RejectedCleanly (handle p generateHash arrival (.createUser jsonBody)) site ∧
      RejectedCleanly (handle p generateHash arrival (.updateUserById userId jsonBody)) site := by
  have hrefused := (UserController.endpoint generateHash).answers_of_refused p arrival.users
    hconnected (UserService.validateUserInput_of_malformed (not_hasTexts_getD hmalformed)) userId
    site.userRecords
  exact ⟨rejectedCleanly_onUsers rfl hrefused.1, rejectedCleanly_onUsers rfl hrefused.2⟩

theorem roleWrites_rejectedCleanly (generateHash : GenerateHash)
    (hmalformed : ¬ (BodyRequest.createRole jsonBody).WellFormed) (roleId : String) :
    RejectedCleanly (handle p generateHash arrival (.createRole jsonBody)) site ∧
      RejectedCleanly (handle p generateHash arrival (.updateRoleById roleId jsonBody)) site := by
  have hrefused := RoleController.endpoint.answers_of_refused p arrival.roles hconnected
    (RoleService.validateRoleInput_of_malformed (not_hasTexts_getD hmalformed)) roleId
    site.roleRecords
  exact ⟨rejectedCleanly_onRoles rfl hrefused.1, rejectedCleanly_onRoles rfl hrefused.2⟩

end writes

/-- A malformed body is rejected cleanly exactly when it is not that of a login with a value
that is neither null nor an object. -/
theorem rejectedCleanly_iff (p : Platform) (generateHash : GenerateHash) (arrival : Arrival)
    (hconnected : arrival.connected = true) (request : BodyRequest)
    (hmalformed : ¬ request.WellFormed) (site : Site) :
    RejectedCleanly (handle p generateHash arrival request) site ↔ ¬ request.IsOddLogin := by
  cases request with
  | login jsonBody =>
    constructor
    · rintro ⟨answer, hanswers, -⟩ hodd
      have hescapes := escapes_of_isOddLogin hconnected hodd p generateHash site
      exact hescapes.not_answers answer site hanswers
    · intro hodd
      exact rejectedCleanly_onUserStore rfl
        (AuthController.answers_of_malformed arrival.login hconnected _ hmalformed hodd)
  | createUser jsonBody =>
    have hwrites := userWrites_rejectedCleanly hconnected p site generateHash hmalformed ""
    exact iff_of_true hwrites.1 not_false
  | updateUserById userId jsonBody =>
    have hwrites := userWrites_rejectedCleanly hconnected p site generateHash hmalformed userId
    exact iff_of_true hwrites.2 not_false
  | createRole jsonBody =>
    have hwrites := roleWrites_rejectedCleanly hconnected p site generateHash hmalformed ""
    exact iff_of_true hwrites.1 not_false
  | updateRoleById roleId jsonBody =>
    have hwrites := roleWrites_rejectedCleanly hconnected p site generateHash hmalformed roleId
    exact iff_of_true hwrites.2 not_false

/-- A request that the letter database serves. -/
def letterArrival : Arrival where
  usersDatabase := letterDatabase Users
  rolesDatabase := letterDatabase Roles
  now := 1
  salt := 0
  logicError := "in Json::Value::resolveReference(key, end): requires objectValue"
  validatePassword _ _ := false
  jwt := { sign := fun _ _ _ => "", verifies := fun _ _ _ => false }
  envText := ""

theorem not_wellFormed_of_get? {request : BodyRequest} {body : Json} (name : String)
    (hbody : request.jsonBody = some body) (hrequired : name ∈ request.requiredMembers)
    (hmissing : body.get? name = none) : ¬ request.WellFormed := by
  rintro ⟨other, hother, -, htexts⟩
  obtain ⟨text, htext⟩ := htexts name hrequired
  rw [hbody, Option.some.injEq] at hother
  rw [← hother, hmissing] at htext
  cases htext

/-- A role without a description. -/
theorem rejectedCleanly_iff_role :
    RejectedCleanly
      (handle compactPlatform (fun _ _ => default) letterArrival
        (.createRole (some (.object [("name", .string "editor")]))))
      { users := [], roles := [] } :=
  (rejectedCleanly_iff compactPlatform (fun _ _ => default) letterArrival rfl
    (.createRole (some (.object [("name", .string "editor")])))
    (not_wellFormed_of_get? "description" rfl (by decide) rfl) { users := [], roles := [] }).2
    not_false

/-- An empty array in place of the email and the password. -/
theorem array_login_escapes :
    ¬ ∀ (p : Platform) (generateHash : GenerateHash) (arrival : Arrival),
      arrival.connected = true → ∀ (request : BodyRequest), ¬ request.WellFormed →
        ∀ (site : Site), RejectedCleanly (handle p generateHash arrival request) site := by
  intro hall
  have hmalformed : ¬ (BodyRequest.login (some (.array []))).WellFormed :=
    not_wellFormed_of_get? "email" rfl (by decide) rfl
  obtain ⟨answer, hanswers, -⟩ := hall compactPlatform (fun _ _ => default) letterArrival rfl
    (.login (some (.array []))) hmalformed { users := [], roles := [] }
  have hodd : (BodyRequest.login (some (.array []))).IsOddLogin := by
    rintro (hnull | hobject)
    · cases hnull
    · cases hobject
  exact (escapes_of_isOddLogin rfl hodd _ _ _).not_answers answer _ hanswers

end DrogonStarter
