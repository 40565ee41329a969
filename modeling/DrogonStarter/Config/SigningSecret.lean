import DrogonStarter.Config.AppConfig

/-!
# The secret behind the access tokens

`AuthController` signs a token and `AuthFilter` verifies one.  Both ask
`getEnv` for the secret, and `getEnv` reads `.env` and nothing else.  The
configuration validates the same key after the environment has overridden the
file.

* `Jwt` is what the two use of the token library.
* `AuthController.access` and `AuthFilter.doFilter` are the two sides.
* `secret_agrees_iff` says when their secret is the validated one.
-/

namespace DrogonStarter

/-- The token library: signing the claims of `generateJWT` for an identity at a
time, and decoding and verifying a token at a time without an exception. -/
structure Jwt where
  sign : (secret identity : String) → (now : Nat) → String
  verifies : (secret token : String) → (now : Nat) → Bool

/-- `generateJWT`. -/
def generateJWT (jwt : Jwt) (secretKey email : String) (now : Nat) : String :=
  jwt.sign secretKey email now

/-- `verifyJWT`. -/
def verifyJWT (jwt : Jwt) (secretKey tokenString : String) (now : Nat) : Bool :=
  if secretKey ≠ "" ∧ tokenString ≠ "" then
    let token :=
      if "Bearer ".toList.isPrefixOf tokenString.toList then
        String.ofList (tokenString.toList.drop 7)
      else tokenString
    jwt.verifies secretKey token now
  else false

namespace AuthController

/-- The secret that a login signs with. -/
def secretKey (envText : String) : String := Env.getEnv envText "SECRET_KEY"

/-- The token of a successful login. -/
def access (jwt : Jwt) (envText email : String) (now : Nat) : String :=
  generateJWT jwt (secretKey envText) email now

end AuthController

/-- What `doFilter` does with a request. -/
inductive FilterResult where
  | next
  | refused (status : Nat) (error : String)
deriving DecidableEq

namespace AuthFilter

/-- The secret that a request is verified with. -/
def secretKey (envText : String) : String := Env.getEnv envText "SECRET_KEY"

/-- `doFilter`, on the `Authorization` header. -/
def doFilter (jwt : Jwt) (envText authorization : String) (now : Nat) : FilterResult :=
  if verifyJWT jwt (secretKey envText) authorization now then .next
  else .refused 401 "Invalid Access token"

end AuthFilter

/-- What the library promises about the tokens that it signs: they are valid for
an hour, under the secret that signed them. -/
def Jwt.Lawful (jwt : Jwt) : Prop :=
  ∀ secret identity issued now, issued ≤ now → now < issued + 3600 →
    jwt.verifies secret (jwt.sign secret identity issued) now = true

/-- The filter takes a bearer token apart again. -/
theorem verifyJWT_bearer (jwt : Jwt) {secret : String} (hsecret : secret ≠ "")
    (token : String) (now : Nat) :
    verifyJWT jwt secret ("Bearer " ++ token) now = jwt.verifies secret token now := by
  have hchars : ("Bearer " ++ token).toList = "Bearer ".toList ++ token.toList :=
    String.toList_append
  have hnonempty : "Bearer " ++ token ≠ "" := by
    intro hempty
    rw [hempty] at hchars
    simp at hchars
  have hbearer : "Bearer ".toList.isPrefixOf ("Bearer " ++ token).toList = true := by
    rw [hchars, List.isPrefixOf_iff_prefix]
    exact List.prefix_append _ _
  have hdrop : ("Bearer " ++ token).toList.drop 7 = token.toList := by
    rw [hchars]
    rfl
  rw [verifyJWT, if_pos ⟨hsecret, hnonempty⟩]
  simp only [hbearer, if_true, hdrop, String.ofList_toList]

/-- A token of a login passes the filter for an hour, whatever the secret is,
because both sides read it from the same place. -/
theorem doFilter_access {jwt : Jwt} (hlawful : jwt.Lawful) {envText : String}
    (hsecret : AuthFilter.secretKey envText ≠ "") (email : String) {issued now : Nat}
    (hissued : issued ≤ now) (hfresh : now < issued + 3600) :
    AuthFilter.doFilter jwt envText
      ("Bearer " ++ AuthController.access jwt envText email issued) now = .next := by
  rw [AuthFilter.doFilter, verifyJWT_bearer jwt hsecret]
  exact if_pos (hlawful _ _ _ _ hissued hfresh)

/-- The secret that both sides use is what the file says about the key, or
nothing. -/
theorem secretKey_eq_file (envText : String) :
    AuthController.secretKey envText =
        ((AppConfig.readEnvFile envText "SECRET_KEY").getD "") ∧
      AuthFilter.secretKey envText =
        ((AppConfig.readEnvFile envText "SECRET_KEY").getD "") := by
  have hplain : PlainKey "SECRET_KEY" := by decide
  rw [readEnvFile_agree hplain]
  exact ⟨rfl, rfl⟩

/-- What the configuration validates is the environment's value, and the
file's value only when the environment has none. -/
theorem secretKey_of_load {envText : String} {environment : Values} {config : AppConfig}
    (h : AppConfig.load envText environment = .ok config) :
    (environment "SECRET_KEY").or (AppConfig.readEnvFile envText "SECRET_KEY") =
        some config.secretKey ∧
      config.secretKey ≠ "" := by
  obtain ⟨hvalue, hnonempty⟩ := AppConfig.secretKey_of_fromValues h
  rw [AppConfig.overrideFromEnvironment_apply, if_pos (by decide)] at hvalue
  exact ⟨hvalue, hnonempty⟩

/-- Both secrets are the validated one exactly when the environment has no
`SECRET_KEY` of its own, or the one of the file. -/
theorem secret_agrees_iff (envText : String) (environment : Values) (config : AppConfig)
    (h : AppConfig.load envText environment = .ok config) :
    (AuthController.secretKey envText = config.secretKey ∧
        AuthFilter.secretKey envText = config.secretKey) ↔
      ∀ value, environment "SECRET_KEY" = some value →
        AppConfig.readEnvFile envText "SECRET_KEY" = some value := by
  obtain ⟨hvalid, hnonempty⟩ := secretKey_of_load h
  obtain ⟨hsigning, hverifying⟩ := secretKey_eq_file envText
  rw [hsigning, hverifying, and_self]
  cases henvironment : environment "SECRET_KEY" with
  | none =>
    rw [henvironment, Option.none_or] at hvalid
    rw [hvalid]
    exact iff_of_true rfl (by simp)
  | some value =>
    have hvalue : value = config.secretKey := by
      rw [henvironment, Option.some_or, Option.some.injEq] at hvalid
      exact hvalid
    subst hvalue
    cases hfile : AppConfig.readEnvFile envText "SECRET_KEY" with
    | none => exact iff_of_false (fun heq => hnonempty heq.symm) (by simp)
    | some text =>
      constructor
      · intro heq other hother
        cases hother
        exact congrArg some heq
      · intro hall
        exact Option.some.inj (hall _ rfl)

/-- Without a `SECRET_KEY` in the environment both sides use the file's. -/
theorem secret_agrees_iff_file :
    AuthController.secretKey
          "# local\nSECRET_KEY=old\nDB_HOST=db\nDB_NAME=app\nDB_USER=app\nSECRET_KEY=new\n" =
        "new" ∧
      AuthFilter.secretKey
          "# local\nSECRET_KEY=old\nDB_HOST=db\nDB_NAME=app\nDB_USER=app\nSECRET_KEY=new\n" =
        "new" :=
  (secret_agrees_iff _ (fun _ => none)
    { secretKey := "new", dbHost := "db", dbName := "app", dbUser := "app" } rfl).2
    (fun _ hnone => by simp at hnone)

/-- The environment overrides the secret of the file, and the tokens are signed
and verified with the one that it overrides. -/
theorem overridden_secret_signs :
    ¬ ∀ (envText : String) (environment : Values) (config : AppConfig),
      AppConfig.load envText environment = .ok config →
        AuthController.secretKey envText = config.secretKey ∧
          AuthFilter.secretKey envText = config.secretKey := by
  intro hall
  have hboth := hall "SECRET_KEY=change-me\nDB_HOST=db\nDB_NAME=app\nDB_USER=app\n"
    (fun key => if key = "SECRET_KEY" then some "deployed" else none)
    { secretKey := "deployed", dbHost := "db", dbName := "app", dbUser := "app" } rfl
  revert hboth
  decide

end DrogonStarter
