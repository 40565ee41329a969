import DrogonStarter.Users.AuthController

/-!
# What a login looks at

A login reads the users and changes nothing, and the only thing it tells a caller whom it
refuses is that it refuses.

* `reads_asyncHandleHttpRequest` says that it leaves the store as it is.
* `answered_cases` says which bodies get as far as the table.
* `Accepts` is what a login asks of the table, and `answered_of_refused` says that all tables
  that refuse a body are alike to its sender.
* `answers_of_accepted` is the answer to the password of a user whose email no other user has.
* `answered_of_distinct` says that a login gets one answer when no two users share an email.
-/

namespace DrogonStarter

open Serving

namespace AuthController

variable (env : LoginSurroundings)

theorem reads_verify (email password : String) (usersJson : List Json) (found : List Users) :
    Handler.Reads (verify env email password usersJson found) := by
  induction found generalizing usersJson with
  | nil => exact Handler.reads_pure ()
  | cons user rest ih =>
    unfold verify
    split
    · exact (Handler.reads_callback _).bind fun _ => ih _
    · exact Handler.reads_callback _

theorem reads_login (email password : String) : Handler.Reads (login env email password) := by
  refine (Handler.reads_query _).bind fun result => ?_
  split
  · exact Handler.reads_callback _
  · exact reads_verify env email password [] result

theorem reads_asyncHandleHttpRequest (jsonBody : Option Json) :
    Handler.Reads (asyncHandleHttpRequest env jsonBody) := by
  unfold asyncHandleHttpRequest
  split
  case isFalse => exact Handler.reads_callback _
  case isTrue =>
    cases jsonBody with
    | none => exact Handler.reads_callback _
    | some jsonBody =>
      refine (Handler.reads_query _).bind fun lacks => ?_
      split
      · exact Handler.reads_callback _
      · exact reads_login env _ _

/-! ## A login that is refused -/

/-- The users that a body asks for. -/
def asked (users : List Users) (jsonBody : Json) : List Users :=
  users.filter fun user => decide (user.email = some (UserService.field jsonBody "email").asString)

/-- The first of the users that a body asks for has its password. -/
def Accepts (users : List Users) (jsonBody : Option Json) : Bool :=
  match jsonBody with
  | none => false
  | some jsonBody =>
    match asked users jsonBody with
    | [] => false
    | user :: _ =>
      env.validatePassword (UserService.field jsonBody "password").asString
        (user.password.getD "")

/-- The answer to a body that no user accepts. -/
def refusal (jsonBody : Option Json) : HttpResponse :=
  if env.connected then
    match jsonBody with
    | none => invalidBody
    | some jsonBody =>
      match lacksCredentials env jsonBody with
      | .error _ => unhandled
      | .ok true => invalidBody
      | .ok false => if env.database.failure.isSome then unhandled else invalidCredentials
  else errorResponse "Unable to connect to the database" 500

variable {env}

theorem findBy_asked (hfailure : env.database.failure = none) (users : List Users)
    (jsonBody : Json) :
    (Mapper.findBy env.database users fun user =>
        decide (user.email = some (UserService.field jsonBody "email").asString)) =
      .ok (asked users jsonBody) := by
  unfold Mapper.findBy Mapper.execute
  rw [hfailure]
  rfl

/-- A database that fails leaves the answer to the framework. -/
theorem answered_login_of_failure {what : String} (hfailure : env.database.failure = some what)
    (s : UserStore) (email password : String) :
    Handler.answered (login env email password) s unhandled = [unhandled] := by
  have hthrown : (Mapper.findBy env.database s.users fun user =>
      decide (user.email = some email)) = .error (.other what) := by
    unfold Mapper.findBy Mapper.execute
    rw [hfailure]
  exact Handler.answered_query_bind_error (s := s) hthrown _ unhandled

/-- What follows the check of the body, when it is refused. -/
theorem answered_login_of_refused {s : UserStore} {jsonBody : Json}
    (h : Accepts env s.users (some jsonBody) = false) :
    Handler.answered (login env (UserService.field jsonBody "email").asString
        (UserService.field jsonBody "password").asString) s unhandled =
      [if env.database.failure.isSome then unhandled else invalidCredentials] := by
  cases hfailure : env.database.failure with
  | some what => exact answered_login_of_failure hfailure s _ _
  | none =>
    unfold login
    refine (Handler.answered_query_bind (s := s) (findBy_asked hfailure s.users jsonBody) _
      unhandled).trans ?_
    unfold Accepts at h
    cases hasked : asked s.users jsonBody with
    | nil => exact (Handler.answers_callback invalidCredentials s).answered unhandled
    | cons user rest =>
      simp only [hasked] at h
      unfold verify
      rw [h]
      exact (Handler.answers_callback invalidCredentials s).answered unhandled

/-- The table matters to a body with the two texts only. -/
theorem answered_cases (s : UserStore) (jsonBody : Option Json) :
    Handler.answered (asyncHandleHttpRequest env jsonBody) s unhandled =
        [refusal env jsonBody] ∨
      ∃ body, jsonBody = some body ∧ env.connected = true ∧
        lacksCredentials env body = .ok false ∧
        Handler.answered (asyncHandleHttpRequest env jsonBody) s unhandled =
          Handler.answered (login env (UserService.field body "email").asString
            (UserService.field body "password").asString) s unhandled := by
  unfold asyncHandleHttpRequest refusal
  by_cases hconnected : env.connected = true
  case neg =>
    rw [if_neg hconnected, if_neg hconnected]
    exact Or.inl ((Handler.answers_callback _ s).answered unhandled)
  case pos =>
    rw [if_pos hconnected, if_pos hconnected]
    cases jsonBody with
    | none => exact Or.inl ((Handler.answers_callback _ s).answered unhandled)
    | some body =>
      simp only
      cases hlacks : lacksCredentials env body with
      | error thrown =>
        exact Or.inl
          (Handler.answered_query_bind_error (f := fun _ => .error thrown) (s := s) rfl _ _)
      | ok lacks =>
        rw [Handler.answered_query_bind (f := fun _ => .ok lacks) (s := s) rfl]
        cases lacks with
        | true => exact Or.inl ((Handler.answers_callback _ s).answered unhandled)
        | false => exact Or.inr ⟨body, rfl, hconnected, hlacks, rfl⟩

/-- The answer has nothing of the table: an email that nobody has is like a password that is
not the user's. -/
theorem answered_of_refused {s : UserStore} {jsonBody : Option Json}
    (h : Accepts env s.users jsonBody = false) :
    Handler.answered (asyncHandleHttpRequest env jsonBody) s unhandled =
      [refusal env jsonBody] := by
  rcases answered_cases s jsonBody with hrefused | ⟨body, rfl, hconnected, hlacks, hlogin⟩
  · exact hrefused
  · rw [hlogin, answered_login_of_refused h, refusal, if_pos hconnected]
    simp only [hlacks]

/-! ## A login that is accepted -/

/-- What a user gets for the password. -/
def accepted (env : LoginSurroundings) (user : Users) (email : String) : HttpResponse :=
  handleResponse
    (Json.ofMembers
      [("access", .string (access env.jwt env.envText email env.now)),
        ("user", .array [userJson user])]) 200

theorem answers_of_accepted {s : UserStore} (hconnected : env.connected = true)
    (hfailure : env.database.failure = none) {jsonBody : Json}
    (hobject : jsonBody.isObject = true)
    (hemail : (UserService.field jsonBody "email").isString = true)
    (hpassword : (UserService.field jsonBody "password").isString = true)
    {user : Users} (hasked : asked s.users jsonBody = [user])
    (haccepts : Accepts env s.users (some jsonBody) = true) :
    Handler.Answers (asyncHandleHttpRequest env (some jsonBody)) s
      (accepted env user (UserService.field jsonBody "email").asString) s := by
  have hlacks : lacksCredentials env jsonBody = .ok false := by
    rw [lacksCredentials_of_accessible (Or.inr hobject), hemail, hpassword]
    rfl
  simp only [Accepts, hasked] at haccepts
  unfold asyncHandleHttpRequest
  rw [if_pos hconnected]
  refine Handler.answers_query_bind (s := s) hlacks ?_
  refine Handler.answers_query_bind (s := s) (findBy_asked hfailure s.users jsonBody) ?_
  rw [hasked]
  unfold verify
  rw [haccepts]
  exact fun _ => rfl

/-! ## One answer -/

variable (env) in
theorem answered_of_distinct (s : UserStore)
    (hdistinct : s.users.Pairwise fun user other => user.email ≠ other.email)
    (jsonBody : Option Json) :
    ∃ answer, Handler.answered (asyncHandleHttpRequest env jsonBody) s unhandled = [answer] := by
  rcases answered_cases s jsonBody with hrefused | ⟨body, _, _, _, hlogin⟩
  · exact ⟨_, hrefused⟩
  · rw [hlogin]
    cases hfailure : env.database.failure with
    | some what => exact ⟨_, answered_login_of_failure hfailure s _ _⟩
    | none =>
      obtain ⟨answer, hanswer, _⟩ := answers_login hfailure hdistinct
        (UserService.field body "email").asString (UserService.field body "password").asString
      exact ⟨answer, hanswer.answered unhandled⟩

end AuthController

end DrogonStarter
