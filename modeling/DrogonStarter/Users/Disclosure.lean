import DrogonStarter.Users.Masking

/-!
# Which password hashes reach a client

The two requests that write users answer with the generated `Users.toJson`,
which shows the hash that was just made.  All others keep the hashes secret.

* `answersAgree_iff` says which sequences of requests have the same responses
  in every run with other hashes.
* `CleanCache` is the invariant behind the bodies that come from the cache.
* `hashesSecret_iff` puts the two together.
-/

namespace DrogonStarter

open Serving UserController

/-! ## What a write shows -/

/-- A create or update request that goes through is answered with a user whose
password is the hash that was just made. -/
theorem answer_of_goesThrough {s : UserStore} {env : Surroundings} {request : UserRequest}
    (hrequest : goesThrough s env request = true) :
    ∃ password, ∀ (p : Platform) (generateHash : GenerateHash) (t : UserStore),
      goesThrough t env request = true →
        ∃ user : Users, (dispatch p generateHash t env request).2.body = some (user.toJson p) ∧
          user.password = some (generateHash env.salt password).val := by
  cases request with
  | getUsers parameters => cases hrequest
  | getUserById id => cases hrequest
  | deleteUserById userId => cases hrequest
  | createUser jsonBody =>
    refine ⟨(UserService.field (jsonBody.getD .null) "password").asString, ?_⟩
    intro p generateHash t hthrough
    refine ⟨storedUser generateHash env jsonBody, ?_, rfl⟩
    rw [dispatch, createUser_eq, if_pos hthrough]
    rfl
  | updateUserById userId jsonBody =>
    refine ⟨(UserService.field (jsonBody.getD .null) "password").asString, ?_⟩
    intro p generateHash t hthrough
    refine ⟨assignedUser generateHash env userId jsonBody, ?_, rfl⟩
    rw [dispatch, updateUserById_eq, if_pos hthrough]
    rfl

/-- The generated form tells two hashes apart. -/
theorem Users.toJson_ne (p : Platform) {user other : Users} {hash hash' : BcryptHash}
    (huser : user.password = some hash.val) (hother : other.password = some hash'.val)
    (hne : hash ≠ hash') : user.toJson p ≠ other.toJson p := by
  intro heq
  have hpassword := congrArg (Json.get? · "password") heq
  simp only [Users.get?_toJson_password, huser, hother, Users.column, Option.some.injEq,
    Json.string.injEq] at hpassword
  exact hne (Subtype.ext hpassword)

/-- Sixty times one character. -/
def constantHash (c : Char) : BcryptHash :=
  ⟨String.ofList (List.replicate 60 c), by simp⟩

theorem exists_hash_ne (hash : BcryptHash) : ∃ other : BcryptHash, hash ≠ other := by
  by_cases ha : hash = constantHash 'a'
  · refine ⟨constantHash 'b', ?_⟩
    rw [ha]
    decide
  · exact ⟨constantHash 'a', ha⟩

/-- The responses to the requests are those of every run that differs in the
stored and the produced hashes only. -/
def AnswersAgree (p : Platform) (generateHash : GenerateHash) (s : UserStore)
    (calls : List (UserRequest × Surroundings)) : Prop :=
  ∀ generateHash' s', SameButPasswords s s' →
    (userEndpoints p generateHash).answers s calls =
      (userEndpoints p generateHash').answers s' calls

/-- No create or update request goes through. -/
def Quiet (p : Platform) (generateHash : GenerateHash) (s : UserStore)
    (calls : List (UserRequest × Surroundings)) : Prop :=
  ∀ before call rest, calls = before ++ call :: rest →
    goesThrough ((userEndpoints p generateHash).after s before) call.2 call.1 = false

theorem quiet_iff_along {p : Platform} {generateHash : GenerateHash} {s : UserStore}
    {calls : List (UserRequest × Surroundings)} :
    Quiet p generateHash s calls ↔ (userEndpoints p generateHash).Along
      (fun t call => goesThrough t call.2 call.1 = false) s calls :=
  (Server.along_iff_splits fun (t : UserStore) (call : UserRequest × Surroundings) =>
    goesThrough t call.2 call.1 = false).symm

/-- The hashes are secret exactly as long as nothing is written. -/
theorem answersAgree_iff (p : Platform) (generateHash : GenerateHash) (s : UserStore)
    (calls : List (UserRequest × Surroundings)) :
    AnswersAgree p generateHash s calls ↔ Quiet p generateHash s calls := by
  constructor
  · intro hagree before call rest hsplit
    by_contra hthrough
    have hthrough : goesThrough ((userEndpoints p generateHash).after s before) call.2 call.1 =
        true := Bool.eq_true_of_not_eq_false hthrough
    obtain ⟨password, hanswer⟩ := answer_of_goesThrough hthrough
    obtain ⟨other, hne⟩ := exists_hash_ne (generateHash call.2.salt password)
    -- The other run makes another hash, and its store differs in hashes only.
    have hafter : SameButPasswords ((userEndpoints p generateHash).after s before)
        ((userEndpoints p fun _ _ => other).after s before) :=
      (unwinding p generateHash fun _ _ => other).after rfl before
    have hthrough' : goesThrough ((userEndpoints p fun _ _ => other).after s before) call.2
        call.1 = true := by
      rw [← goesThrough_masked, ← (show UserStore.withoutPasswords _ = _ from hafter),
        goesThrough_masked]
      exact hthrough
    obtain ⟨user, hbody, huser⟩ := hanswer p generateHash
      (((userEndpoints p generateHash).after s before).expire call.2) hthrough
    obtain ⟨user', hbody', huser'⟩ := hanswer p (fun _ _ => other)
      (((userEndpoints p fun _ _ => other).after s before).expire call.2) hthrough'
    have hequal := Server.answer_eq_of_answers_eq (hsplit ▸ hagree (fun _ _ => other) s rfl)
    have hjson : some (user.toJson p) = some (user'.toJson p) := by
      rw [← hbody, ← hbody']
      exact congrArg HttpResponse.body hequal
    exact Users.toJson_ne p huser huser' hne (Option.some.inj hjson)
  · intro hquiet generateHash' s' hsame
    exact (unwinding p generateHash generateHash').answers_eq hsame
      (quiet_iff_along.1 hquiet)

/-! ## Bodies with a password -/

/-- The body of the response has a password member somewhere. -/
def HttpResponse.ShowsPassword (response : HttpResponse) : Prop :=
  ∃ body, response.body = some body ∧ body.HasMember "password"

/-- No page in the cache has a password member. -/
def CleanCache (p : Platform) (r : Redis String) : Prop :=
  ∀ (request : PageRequest) (text : String) (body : Json),
    r.get (request.cacheKey "users") = some text → p.parse text = some body →
      ¬ body.HasMember "password"

theorem CleanCache.of_get {p : Platform} {r r' : Redis String} (h : CleanCache p r)
    (hget : ∀ {key text}, r'.get key = some text → r.get key = some text) :
    CleanCache p r' :=
  fun request text body htext => h request text body (hget htext)

theorem not_showsPassword {j : Json} (status : Nat) (h : ¬ j.HasMember "password") :
    ¬ (handleResponse j status).ShowsPassword := by
  intro hshows
  obtain ⟨body, hbody, hmember⟩ := hshows
  cases hbody
  exact h hmember

theorem not_showsPassword_error (what : String) (status : Nat) :
    ¬ (errorResponse what status).ShowsPassword := by
  refine not_showsPassword status (Json.not_hasMember_ofMembers fun member hmember => ?_)
  rw [List.mem_singleton.1 hmember]
  exact ⟨by simp, Json.not_hasMember_string _ _⟩

theorem not_showsPassword_empty (status : Nat) :
    ¬ ({ status := status, body := none } : HttpResponse).ShowsPassword := by
  intro hshows
  obtain ⟨body, hbody, -⟩ := hshows
  cases hbody

namespace UserController

/-- A handler on a clean cache leaves a clean one and does not show a
password. -/
def Discreet (p : Platform) (result : UserStore × HttpResponse) : Prop :=
  CleanCache p result.1.redis ∧ ¬ result.2.ShowsPassword

theorem discreet_error {p : Platform} {s : UserStore} (hclean : CleanCache p s.redis)
    (what : String) (status : Nat) : Discreet p (s, errorResponse what status) :=
  ⟨hclean, not_showsPassword_error what status⟩

theorem cleanCache_written {p : Platform} {s : UserStore} (hclean : CleanCache p s.redis)
    (env : Surroundings) (users : List Users) : CleanCache p (written s env users).redis :=
  hclean.of_get RedisCache.get_of_get_erasePrefix

/-- A cached page is clean, and a page from the database is of public users. -/
theorem listPage_discreet {p : Platform} {s : UserStore} {env : Surroundings}
    {parameters : String → Option String} {result : UserStore × HttpResponse}
    (hclean : CleanCache p s.redis) (h : listPage p s env parameters = .ok result) :
    Discreet p result := by
  unfold listPage at h
  cases hrequest : PageRequest.fromParameters parameters with
  | error what => simp [hrequest, Except.mapError, bind, Except.bind] at h
  | ok pageRequest =>
    simp only [hrequest, Except.mapError, bind, Except.bind] at h
    cases hcached : (RedisCache.get env.redis s.redis (pageRequest.cacheKey "users")).bind
        p.parse with
    | some cachedResponse =>
      simp only [hcached] at h
      cases h
      obtain ⟨text, hget, hparse⟩ := Option.bind_eq_some_iff.1 hcached
      exact ⟨hclean, not_showsPassword 200
        (hclean pageRequest text cachedResponse (RedisCache.get_redis_get hget) hparse)⟩
    | none =>
      simp only [hcached] at h
      cases husers : UserService.listUsers env.database s.users pageRequest with
      | error thrown => simp [husers] at h
      | ok users =>
        simp only [husers] at h
        cases h
        have hpublic : ¬ (users.toJson (UserService.toPublicJson p)).HasMember "password" :=
          PageResult.not_hasMember_toJson (by decide) fun user _ =>
            UserService.not_hasMember_toPublicJson p user
        refine ⟨?_, not_showsPassword 200 hpublic⟩
        intro request text body htext hparse
        rcases RedisCache.get_set htext with ⟨-, rfl⟩ | hold
        · rw [p.parse_written hparse]
          exact hpublic
        · exact hclean request text body hold hparse

theorem getUsers_discreet {p : Platform} {s : UserStore} (hclean : CleanCache p s.redis)
    (env : Surroundings) (parameters : String → Option String) :
    Discreet p (getUsers p s env parameters) := by
  unfold getUsers
  split_ifs
  · cases hpage : listPage p s env parameters with
    | ok result => exact listPage_discreet hclean hpage
    | error thrown => cases thrown <;> exact discreet_error hclean _ _
  · exact discreet_error hclean _ _

theorem getUserById_discreet {p : Platform} {s : UserStore} (hclean : CleanCache p s.redis)
    (env : Surroundings) (id : String) : Discreet p (getUserById p s env id) := by
  unfold getUserById
  split_ifs
  · match UserService.findById env.database s.users id with
    | .ok (some user) =>
      exact ⟨hclean, not_showsPassword 200 (UserService.not_hasMember_toPublicJson p user)⟩
    | .ok none => exact discreet_error hclean _ _
    | .error thrown => exact ⟨hclean, not_showsPassword_empty 500⟩
  · exact discreet_error hclean _ _

theorem deleteUserById_discreet {p : Platform} {s : UserStore} (hclean : CleanCache p s.redis)
    (env : Surroundings) (userId : String) : Discreet p (deleteUserById s env userId) := by
  unfold deleteUserById
  split_ifs
  · match UserService.deleteUser env.database s.users userId with
    | .ok (true, users) => exact ⟨cleanCache_written hclean env users, not_showsPassword_empty 204⟩
    | .ok (false, users) => exact discreet_error (cleanCache_written hclean env users) _ _
    | .error thrown => exact ⟨hclean, not_showsPassword_empty 500⟩
  · exact discreet_error hclean _ _

theorem refusal_discreet {p : Platform} {s : UserStore} (hclean : CleanCache p s.redis)
    (env : Surroundings) (jsonBody : Option Json) (what : String) (status : Nat) :
    Discreet p (s, refusal env jsonBody (errorResponse what status)) := by
  unfold refusal
  split_ifs <;> exact discreet_error hclean _ _

/-- Every request leaves the cache clean. -/
theorem cleanCache_dispatch {p : Platform} {s : UserStore} (hclean : CleanCache p s.redis)
    (generateHash : GenerateHash) (env : Surroundings) (request : UserRequest) :
    CleanCache p (dispatch p generateHash s env request).1.redis := by
  cases request with
  | getUsers parameters => exact (getUsers_discreet hclean env parameters).1
  | getUserById id => exact (getUserById_discreet hclean env id).1
  | deleteUserById userId => exact (deleteUserById_discreet hclean env userId).1
  | createUser jsonBody =>
    rw [dispatch, createUser_eq]
    split_ifs
    · exact cleanCache_written hclean env _
    · exact hclean
  | updateUserById userId jsonBody =>
    rw [dispatch, updateUserById_eq]
    split_ifs
    · exact cleanCache_written hclean env _
    · exact hclean

/-- A request that does not go through shows no password. -/
theorem not_showsPassword_dispatch {p : Platform} {s : UserStore}
    (hclean : CleanCache p s.redis) (generateHash : GenerateHash) {env : Surroundings}
    {request : UserRequest} (hrequest : goesThrough s env request = false) :
    ¬ (dispatch p generateHash s env request).2.ShowsPassword := by
  cases request with
  | getUsers parameters => exact (getUsers_discreet hclean env parameters).2
  | getUserById id => exact (getUserById_discreet hclean env id).2
  | deleteUserById userId => exact (deleteUserById_discreet hclean env userId).2
  | createUser jsonBody =>
    rw [dispatch, createUser_eq, hrequest]
    exact (refusal_discreet hclean env jsonBody _ _).2
  | updateUserById userId jsonBody =>
    rw [dispatch, updateUserById_eq, hrequest]
    exact (refusal_discreet hclean env jsonBody _ _).2

end UserController

/-- On a clean cache, the responses show no password as long as nothing is
written. -/
theorem noPassword_of_quiet {p : Platform} {generateHash : GenerateHash} {s : UserStore}
    {calls : List (UserRequest × Surroundings)} (hclean : CleanCache p s.redis)
    (hquiet : Quiet p generateHash s calls) :
    ∀ response ∈ (userEndpoints p generateHash).answers s calls, ¬ response.ShowsPassword := by
  have hexpire : ∀ (t : UserStore) (env : Surroundings), CleanCache p t.redis →
      CleanCache p (t.expire env).redis := fun _ _ ht => ht.of_get RedisCache.get_of_get_expire
  refine Server.answers_forall (fun t => CleanCache p t.redis) ?_ ?_ hclean
    (quiet_iff_along.1 hquiet)
  · intro t call ht _
    exact cleanCache_dispatch (hexpire t call.2 ht) generateHash call.2 call.1
  · intro t call ht hcall
    exact not_showsPassword_dispatch (hexpire t call.2 ht) generateHash hcall

/-- The converse: the body of a write that goes through has a password. -/
theorem quiet_of_noPassword {p : Platform} {generateHash : GenerateHash} {s : UserStore}
    {calls : List (UserRequest × Surroundings)}
    (hnone : ∀ response ∈ (userEndpoints p generateHash).answers s calls,
      ¬ response.ShowsPassword) :
    Quiet p generateHash s calls := by
  intro before call rest hsplit
  by_contra hthrough
  have hthrough : goesThrough ((userEndpoints p generateHash).after s before) call.2 call.1 =
      true := Bool.eq_true_of_not_eq_false hthrough
  obtain ⟨password, hanswer⟩ := answer_of_goesThrough hthrough
  obtain ⟨user, hbody, -⟩ := hanswer p generateHash
    (((userEndpoints p generateHash).after s before).expire call.2) hthrough
  have hmember : (user.toJson p).HasMember "password" :=
    Json.HasMember.of_get? (Users.get?_toJson_password p user)
  refine hnone ((userEndpoints p generateHash).answer _ call) ?_ ⟨user.toJson p, hbody, hmember⟩
  rw [hsplit]
  exact Server.answer_mem_answers s before call rest

theorem noPassword_iff (p : Platform) (generateHash : GenerateHash) {s : UserStore}
    (hclean : CleanCache p s.redis) (calls : List (UserRequest × Surroundings)) :
    (∀ response ∈ (userEndpoints p generateHash).answers s calls, ¬ response.ShowsPassword) ↔
      Quiet p generateHash s calls :=
  ⟨quiet_of_noPassword, noPassword_of_quiet hclean⟩

/-- The hashes never reach a client: every run with other hashes has the same
responses, and no body has a password member. -/
structure HashesSecret (p : Platform) (generateHash : GenerateHash) (s : UserStore)
    (calls : List (UserRequest × Surroundings)) : Prop where
  agree : AnswersAgree p generateHash s calls
  noPassword : ∀ response ∈ (userEndpoints p generateHash).answers s calls,
    ¬ response.ShowsPassword

/-- The hashes stay secret exactly in the sequences of requests in which no
create or update request goes through. -/
theorem hashesSecret_iff (p : Platform) (generateHash : GenerateHash) {s : UserStore}
    (hclean : CleanCache p s.redis) (calls : List (UserRequest × Surroundings)) :
    HashesSecret p generateHash s calls ↔ Quiet p generateHash s calls := by
  constructor
  · intro hsecret
    exact (answersAgree_iff p generateHash s calls).1 hsecret.agree
  · intro hquiet
    exact ⟨(answersAgree_iff p generateHash s calls).2 hquiet,
      (noPassword_iff p generateHash hclean calls).2 hquiet⟩

/-! ## One user -/

def adaHash : BcryptHash :=
  ⟨"$2b$10$N9qo8uLOickgx2ZMRZoMyeIjZAgcfl7p92ldGxad68LJZdL17lhWy", by decide⟩

def ada : Users where
  id := some "7d793037-a076-4018-9d1d-1c7dd1f4e1a5"
  firstName := some "Ada"
  lastName := some "Lovelace"
  email := some "ada@example.com"
  password := some adaHash.val
  isDeleted := some true
  createdAt := some 1000000
  updatedAt := some 1000000

def adaBody : Json :=
  Json.ofMembers
    [("first_name", .string "Ada"), ("last_name", .string "Lovelace"),
      ("email", .string "ada@example.com"), ("password", .string "engine")]

/-- The first page of a table with `ada` alone. -/
def adaText : String :=
  "\x7b\n\t\"has_next\" : false,\n\t\"page\" : 1,\n\t\"page_size\" : 25,\n" ++
  "\t\"results\" : \n\t[\n\t\t\x7b\n" ++
  "\t\t\t\"created_at\" : \"1970-01-01 00:00:01\",\n" ++
  "\t\t\t\"email\" : \"ada@example.com\",\n\t\t\t\"first_name\" : \"Ada\",\n" ++
  "\t\t\t\"id\" : \"7d793037-a076-4018-9d1d-1c7dd1f4e1a5\",\n" ++
  "\t\t\t\"last_name\" : \"Lovelace\",\n" ++
  "\t\t\t\"updated_at\" : \"1970-01-01 00:00:01\"\n\t\t\x7d\n\t],\n\t\"total\" : 1\n\x7d"

/-- Libraries that know this page, and the first minute of the epoch. -/
def adaPlatform : Platform where
  writeString
    | .object [("has_next", .bool false), ("page", .int 1), ("page_size", .int 25),
        ("results", .array [.object [("created_at", .string "1970-01-01 00:00:01"),
          ("email", .string "ada@example.com"), ("first_name", .string "Ada"),
          ("id", .string "7d793037-a076-4018-9d1d-1c7dd1f4e1a5"),
          ("last_name", .string "Lovelace"), ("updated_at", .string "1970-01-01 00:00:01")]]),
        ("total", .int 1)] => adaText
    | _ => ""
  parse text :=
    if text = adaText then
      some (.object [("has_next", .bool false), ("page", .int 1), ("page_size", .int 25),
        ("results", .array [.object [("created_at", .string "1970-01-01 00:00:01"),
          ("email", .string "ada@example.com"), ("first_name", .string "Ada"),
          ("id", .string "7d793037-a076-4018-9d1d-1c7dd1f4e1a5"),
          ("last_name", .string "Lovelace"), ("updated_at", .string "1970-01-01 00:00:01")]]),
        ("total", .int 1)])
    else none
  parse_written := by
    intro body parsed h
    split at h
    · rw [if_pos rfl] at h
      exact (Option.some.inj h).symm
    · rw [if_neg (by decide)] at h
      cases h
  toDbString micros := if micros = 1000000 then "1970-01-01 00:00:01" else "1970-01-01"
  toDbStringLocal micros := if micros = 1000000 then "1970-01-01 00:00:01" else "1970-01-01"

/-- A request at the first second, with everything working. -/
def firstSecond : Surroundings where
  database :=
    { newId := "7d793037-a076-4018-9d1d-1c7dd1f4e1a5"
      now := 1000000
      uuid := fun text => if text.length = 36 then some text else none
      rank := fun _ => 0
      violation := fun _ => "ERROR:  duplicate key value violates unique constraint\n"
      invalidKey := fun key => "ERROR:  invalid input syntax for type uuid: " ++ key ++ "\n"
      negativeOffset := "ERROR:  OFFSET must not be negative\n" }
  now := 1000000
  salt := 1

theorem cleanCache_empty (p : Platform) : CleanCache p {} := by
  intro request text body htext
  cases htext

/-- A sign-up on an empty table answers with the hash, and another hash gives
another response. -/
theorem hash_of_new_user_disclosed :
    ¬ HashesSecret adaPlatform (fun _ _ => adaHash) { users := [] }
      [(.createUser (some adaBody), firstSecond)] := by
  intro hsecret
  have hquiet := (answersAgree_iff adaPlatform _ _ _).1 hsecret.agree [] _ [] rfl
  have hthrough : goesThrough { users := [] } firstSecond (.createUser (some adaBody)) = true := by
    decide +kernel
  exact Bool.noConfusion (hquiet.symm.trans hthrough)

/-- Reading the user twice, a sign-up with the same address, and deleting the
user. -/
theorem hashesSecret_of_reads :
    HashesSecret adaPlatform (fun _ _ => adaHash) { users := [ada] }
      [(.getUsers fun _ => none, firstSecond), (.getUsers fun _ => none, firstSecond),
        (.getUserById "7d793037-a076-4018-9d1d-1c7dd1f4e1a5", firstSecond),
        (.createUser (some adaBody), firstSecond),
        (.deleteUserById "7d793037-a076-4018-9d1d-1c7dd1f4e1a5", firstSecond)] := by
  refine (hashesSecret_iff adaPlatform _ (cleanCache_empty adaPlatform) _).2 ?_
  exact quiet_iff_along.2 ⟨rfl, rfl, rfl, by decide +kernel, rfl, trivial⟩

end DrogonStarter
