import DrogonStarter.Config.SigningSecret
import DrogonStarter.Lib.Handler
import DrogonStarter.Users.UserController

/-!
# The login

`AuthController` looks up the users with an email, checks the password of each and
answers with a token.  It is one handler without a `try` block.

* `member` is the access to a member of the body that is not `const`, and
  `lacksCredentials` the check that makes two of them.
* `asyncHandleHttpRequest` is the handler.
* `answers_login` says that what follows the check of the body gives one answer, when no two
  users share an email.
-/

namespace DrogonStarter

open Serving

/-- What decides a login besides the table. -/
structure LoginSurroundings where
  /-- There is a database client. -/
  connected : Bool := true
  database : Database Users
  /-- The text of `Json::LogicError`. -/
  logicError : String
  /-- `bcrypt::validatePassword`. -/
  validatePassword : (password hashedPassword : String) → Bool
  jwt : Jwt
  /-- The text of `.env`. -/
  envText : String
  /-- The seconds of the clock. -/
  now : Nat

namespace AuthController

variable (env : LoginSurroundings)

/-- `(*jsonBody)[name]`.  The access makes an object of a null value, and it throws on
any other value that is not an object. -/
def member (jsonBody : Json) (name : String) : Except Thrown Json :=
  match jsonBody with
  | .null => .ok .null
  | .object members => .ok ((members.lookup name).getD .null)
  | _ => .error (.other env.logicError)

/-- The condition of the refusal, which reads the password only after an email. -/
def lacksCredentials (jsonBody : Json) : Except Thrown Bool := do
  if !(← member env jsonBody "email").isString then return true
  return !(← member env jsonBody "password").isString

/-- The member `user` of an answer has these. -/
def userJson (user : Users) : Json :=
  Json.ofMembers
    [("id", .string (user.id.getD "")),
      ("first_name", .string (user.firstName.getD "")),
      ("last_name", .string (user.lastName.getD "")),
      ("email", .string (user.email.getD ""))]

def invalidCredentials : HttpResponse := errorResponse "Invalid credentials" 401

/-- The loop over the users that were found, with those that it has taken so far. -/
def verify (email password : String) :
    (usersJson : List Json) → List Users → Handler Thrown UserStore HttpResponse Unit
  | _, [] => pure ()
  | usersJson, user :: rest =>
    if env.validatePassword password (user.password.getD "") then do
      let usersJson := usersJson ++ [userJson user]
      let access := access env.jwt env.envText email env.now
      Handler.callback
        (handleResponse (Json.ofMembers [("access", .string access), ("user", .array usersJson)])
          200)
      verify email password usersJson rest
    else Handler.callback invalidCredentials

/-- What follows the check of the body. -/
def login (email password : String) : Handler Thrown UserStore HttpResponse Unit := do
  let result ← Handler.query fun s =>
    Mapper.findBy env.database s.users fun user => decide (user.email = some email)
  if result.isEmpty then Handler.callback invalidCredentials
  else verify env email password [] result

/-- The answer to a body without the two texts. -/
def invalidBody : HttpResponse :=
  errorResponse "Request body must contain email and password" 400

/-- `asyncHandleHttpRequest`, on the body that `getJsonObject` returns. -/
def asyncHandleHttpRequest (jsonBody : Option Json) :
    Handler Thrown UserStore HttpResponse Unit :=
  if env.connected then
    match jsonBody with
    | none => Handler.callback invalidBody
    | some jsonBody => do
      if ← Handler.query fun _ => lacksCredentials env jsonBody then
        Handler.callback invalidBody
      else
        login env (UserService.field jsonBody "email").asString
          (UserService.field jsonBody "password").asString
  else Handler.callback (errorResponse "Unable to connect to the database" 500)

/-! ## The check of the body -/

variable {env}

/-- A value is one that has members, or may get them. -/
def Accessible (jsonBody : Json) : Prop := jsonBody = .null ∨ jsonBody.isObject = true

theorem member_of_accessible {jsonBody : Json} (h : Accessible jsonBody) (name : String) :
    member env jsonBody name = .ok (UserService.field jsonBody name) := by
  cases jsonBody with
  | null => rfl
  | object members => rfl
  | bool _ | int _ | real _ | string _ | array _ => simp [Accessible, Json.isObject] at h

theorem member_of_not_accessible {jsonBody : Json} (h : ¬ Accessible jsonBody) (name : String) :
    member env jsonBody name = .error (.other env.logicError) := by
  cases jsonBody with
  | null => exact absurd (Or.inl rfl) h
  | object members => exact absurd (Or.inr rfl) h
  | bool _ | int _ | real _ | string _ | array _ => rfl

theorem lacksCredentials_of_accessible {jsonBody : Json} (h : Accessible jsonBody) :
    lacksCredentials env jsonBody =
      .ok !((UserService.field jsonBody "email").isString &&
        (UserService.field jsonBody "password").isString) := by
  unfold lacksCredentials
  simp only [member_of_accessible h, bind, Except.bind]
  cases (UserService.field jsonBody "email").isString <;>
    cases (UserService.field jsonBody "password").isString <;> rfl

theorem lacksCredentials_of_not_accessible {jsonBody : Json} (h : ¬ Accessible jsonBody) :
    lacksCredentials env jsonBody = .error (.other env.logicError) := by
  unfold lacksCredentials
  simp only [member_of_not_accessible h]
  rfl

/-! ## One answer -/

variable {s : UserStore}

theorem answers_verify_single (email password : String) (user : Users) :
    ∃ answer, Handler.Answers (verify env email password [] [user]) s answer s ∧
      (answer.status = 200 ∨ answer.status = 401) := by
  unfold verify
  by_cases hverified : env.validatePassword password (user.password.getD "") = true
  · rw [if_pos hverified]
    exact ⟨_, fun _ => rfl, Or.inl rfl⟩
  · rw [if_neg hverified]
    exact ⟨_, Handler.answers_callback _ s, Or.inr rfl⟩

/-- The loop answers for each user that it finds, so that one answer takes distinct emails. -/
theorem answers_login (hfailure : env.database.failure = none)
    (hdistinct : s.users.Pairwise fun user other => user.email ≠ other.email)
    (email password : String) :
    ∃ answer, Handler.Answers (login env email password) s answer s ∧
      (answer.status = 200 ∨ answer.status = 401) := by
  have hfound : Mapper.findBy env.database s.users (fun user => decide (user.email = some email)) =
      .ok (s.users.filter fun user => decide (user.email = some email)) := by
    unfold Mapper.findBy Mapper.execute
    rw [hfailure]
  have hshared : ∀ user ∈ s.users.filter fun user => decide (user.email = some email),
      user.email = some email := by
    intro user huser
    exact of_decide_eq_true (List.mem_filter.1 huser).2
  have hfiltered := hdistinct.filter fun user => decide (user.email = some email)
  generalize s.users.filter (fun user => decide (user.email = some email)) = found
    at hfound hshared hfiltered
  unfold login
  match found with
  | [] =>
    refine ⟨invalidCredentials, ?_, Or.inr rfl⟩
    refine Handler.answers_query_bind (s := s) hfound ?_
    exact Handler.answers_callback invalidCredentials s
  | [user] =>
    obtain ⟨answer, hanswer, hstatus⟩ := answers_verify_single email password user
    refine ⟨answer, ?_, hstatus⟩
    refine Handler.answers_query_bind (s := s) hfound ?_
    exact hanswer
  | user :: other :: rest =>
    have hne := (List.pairwise_cons.1 hfiltered).1 other List.mem_cons_self
    have hfirst := hshared user List.mem_cons_self
    have hsecond := hshared other (List.mem_cons_of_mem _ List.mem_cons_self)
    exact absurd (hfirst.trans hsecond.symm) hne

end AuthController

end DrogonStarter
