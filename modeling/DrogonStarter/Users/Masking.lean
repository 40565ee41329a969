import DrogonStarter.Users.UserController

/-!
# The user endpoints without the passwords

`UserService.toPublicJson` leaves the password out of the users that it shows,
and the requests that read or delete go through it or show no user.  This
module proves that they do not depend on the stored hashes, and says what the
two requests that write do.

* `SameButPasswords` relates two stores that differ in the stored hashes only.
* `goesThrough` is what a write request has to meet, and
  `UserController.createUser_eq` and `UserController.updateUserById_eq` say what
  happens then, and otherwise.
* `unwinding` compares two runs.
-/

namespace DrogonStarter

open Serving

/-! ## Stores without passwords -/

/-- A row as it looks to someone who may not see the hash. -/
def Users.withoutPassword (user : Users) : Users := { user with password := none }

def UserStore.withoutPasswords (s : UserStore) : UserStore :=
  { s with users := s.users.map Users.withoutPassword }

/-- The stores are equal except for the stored hashes. -/
def SameButPasswords (s s' : UserStore) : Prop := s.withoutPasswords = s'.withoutPasswords

@[simp] theorem UserStore.redis_withoutPasswords (s : UserStore) :
    s.withoutPasswords.redis = s.redis := rfl

@[simp] theorem UserStore.users_withoutPasswords (s : UserStore) :
    s.withoutPasswords.users = s.users.map Users.withoutPassword := rfl

/-- No statement looks at the password column. -/
theorem Users.table_ignores : Users.table.Ignores Users.withoutPassword where
  id _ := rfl
  createdAt _ := rfl
  withDefaults _ _ _ := rfl
  assign _ _ := rfl
  clash _ _ := rfl

/-- A hash fits its column. -/
theorem Users.fits_withoutPassword {user : Users} (hash : BcryptHash)
    (hpassword : user.password = some hash.val) : user.withoutPassword.fits = user.fits := by
  have hlength : hash.val.length ≤ 255 := by
    have := hash.property
    omega
  simp [fits, withoutPassword, hpassword, hlength]

/-! ## The service without passwords -/

namespace UserService

theorem toPublicJson_withoutPassword (p : Platform) :
    toPublicJson p ∘ Users.withoutPassword = toPublicJson p := rfl

theorem listUsers_withoutPassword (db : Database Users) (rows : List Users)
    (request : PageRequest) :
    listUsers db (rows.map Users.withoutPassword) request =
      (listUsers db rows request).map (PageResult.map · Users.withoutPassword) := by
  unfold listUsers
  rw [Mapper.count_mask, Mapper.findAll_mask Users.table_ignores]
  cases Mapper.count db rows with
  | error _ => rfl
  | ok total => cases Mapper.findAll Users.table db rows request.pageSize request.offset <;> rfl

theorem findById_withoutPassword (db : Database Users) (rows : List Users) (id : String) :
    findById db (rows.map Users.withoutPassword) id =
      (findById db rows id).map (Option.map Users.withoutPassword) := by
  unfold findById
  rw [Mapper.findByPrimaryKey_mask Users.table_ignores]
  cases Mapper.findByPrimaryKey Users.table db rows id with
  | error _ => rfl
  | ok user => cases hid : user.id <;> simp [Except.map, bind, Except.bind, hid, pure,
      Except.pure, Users.withoutPassword]

theorem deleteUser_withoutPassword (db : Database Users) (rows : List Users) (id : String) :
    deleteUser db (rows.map Users.withoutPassword) id =
      (deleteUser db rows id).map fun done => (done.1, done.2.map Users.withoutPassword) := by
  unfold deleteUser
  rw [Mapper.deleteByPrimaryKey_mask Users.table_ignores]
  cases Mapper.deleteByPrimaryKey Users.table db rows id <;> rfl

end UserService

/-! ## The handlers that read and delete -/

namespace UserController

/-- A result on the stores without passwords. -/
def masked (result : UserStore × HttpResponse) : UserStore × HttpResponse :=
  (result.1.withoutPasswords, result.2)

theorem listPage_masked (p : Platform) (s : UserStore) (env : Surroundings)
    (parameters : String → Option String) :
    listPage p s.withoutPasswords env parameters =
      (listPage p s env parameters).map masked := by
  unfold listPage
  cases PageRequest.fromParameters parameters with
  | error what => rfl
  | ok pageRequest =>
    simp only [Except.mapError, bind, Except.bind, UserStore.redis_withoutPasswords,
      UserStore.users_withoutPasswords, UserService.listUsers_withoutPassword]
    cases (RedisCache.get env.redis s.redis (pageRequest.cacheKey "users")).bind p.parse with
    | some cachedResponse => rfl
    | none =>
      cases UserService.listUsers env.database s.users pageRequest with
      | error thrown => rfl
      | ok users =>
        simp only [Except.map, PageResult.toJson_map,
          UserService.toPublicJson_withoutPassword]
        rfl

theorem getUsers_masked (p : Platform) (s : UserStore) (env : Surroundings)
    (parameters : String → Option String) :
    getUsers p s.withoutPasswords env parameters = masked (getUsers p s env parameters) := by
  unfold getUsers
  rw [listPage_masked]
  split_ifs
  · cases listPage p s env parameters with
    | ok result => rfl
    | error thrown => cases thrown <;> rfl
  · rfl

theorem getUserById_masked (p : Platform) (s : UserStore) (env : Surroundings) (id : String) :
    getUserById p s.withoutPasswords env id = masked (getUserById p s env id) := by
  unfold getUserById
  rw [UserStore.users_withoutPasswords, UserService.findById_withoutPassword]
  split_ifs
  · cases UserService.findById env.database s.users id with
    | error thrown => rfl
    | ok user => cases user <;> rfl
  · rfl

theorem deleteUserById_masked (s : UserStore) (env : Surroundings) (userId : String) :
    deleteUserById s.withoutPasswords env userId = masked (deleteUserById s env userId) := by
  unfold deleteUserById
  rw [UserStore.users_withoutPasswords, UserService.deleteUser_withoutPassword]
  split_ifs
  · match UserService.deleteUser env.database s.users userId with
    | .error thrown => rfl
    | .ok (true, users) => rfl
    | .ok (false, users) => rfl
  · rfl

end UserController

/-! ## The handlers that write -/

/-- `validateUserInput` takes the body. -/
def validBody (jsonBody : Option Json) : Bool :=
  (UserService.validateUserInput (jsonBody.getD .null)).isOk

/-- The row that a create request asks for, still without a hash. -/
def bareRow (env : Surroundings) (jsonBody : Option Json) : Users :=
  Users.table.withDefaults env.database.newId env.database.now
    (UserService.created env.now (jsonBody.getD .null) none)

/-- The columns that an update request assigns, still without a hash. -/
def bareUpdate (env : Surroundings) (userId : String) (jsonBody : Option Json) : Users :=
  UserService.updated env.now userId (jsonBody.getD .null) none

/-- A create or update request that goes through: there is a connection, the
body has the four texts and the database takes the row. -/
def goesThrough (s : UserStore) (env : Surroundings) : UserRequest → Bool
  | .createUser jsonBody =>
    env.connected && validBody jsonBody &&
      Mapper.insertable Users.table env.database s.users (bareRow env jsonBody)
  | .updateUserById userId jsonBody =>
    env.connected && validBody jsonBody &&
      (env.database.uuid userId).any fun id =>
        Mapper.updatable Users.table env.database s.users id (bareUpdate env userId jsonBody)
  | _ => false

namespace UserController

/-- The hash of the password in a body. -/
def hashOf (generateHash : GenerateHash) (env : Surroundings) (jsonBody : Option Json) :
    BcryptHash :=
  generateHash env.salt (UserService.field (jsonBody.getD .null) "password").asString

/-- The row that a create request stores. -/
def storedUser (generateHash : GenerateHash) (env : Surroundings) (jsonBody : Option Json) :
    Users :=
  Users.table.withDefaults env.database.newId env.database.now
    (UserService.created env.now (jsonBody.getD .null)
      (some (hashOf generateHash env jsonBody).val))

/-- The columns that an update request assigns. -/
def assignedUser (generateHash : GenerateHash) (env : Surroundings) (userId : String)
    (jsonBody : Option Json) : Users :=
  UserService.updated env.now userId (jsonBody.getD .null)
    (some (hashOf generateHash env jsonBody).val)

/-- The table after an update. -/
def updatedRows (s : UserStore) (env : Surroundings) (userId : String) (object : Users) :
    List Users :=
  match env.database.uuid userId with
  | none => s.users
  | some id =>
    s.users.map fun row =>
      if Users.table.id row = some id then Users.table.assign object row else row

/-- How a write request is answered that does not go through. -/
def refusal (env : Surroundings) (jsonBody : Option Json) (failed : HttpResponse) :
    HttpResponse :=
  if env.connected then if validBody jsonBody then failed else invalidBody
  else unableToConnect

theorem validateUserInput_cases (jsonBody : Option Json) :
    (validBody jsonBody = true ∧
        UserService.validateUserInput (jsonBody.getD .null) = .ok ()) ∨
      (validBody jsonBody = false ∧
        ∃ what, UserService.validateUserInput (jsonBody.getD .null) =
          .error (.invalidArgument what)) := by
  unfold validBody UserService.validateUserInput
  split_ifs
  · exact Or.inr ⟨rfl, _, rfl⟩
  · exact Or.inl ⟨rfl, rfl⟩

@[simp] theorem bareRow_withoutPassword (env : Surroundings) (jsonBody : Option Json) :
    (bareRow env jsonBody).withoutPassword = bareRow env jsonBody := rfl

@[simp] theorem bareUpdate_withoutPassword (env : Surroundings) (userId : String)
    (jsonBody : Option Json) :
    (bareUpdate env userId jsonBody).withoutPassword = bareUpdate env userId jsonBody := rfl

@[simp] theorem storedUser_withoutPassword (generateHash : GenerateHash) (env : Surroundings)
    (jsonBody : Option Json) :
    (storedUser generateHash env jsonBody).withoutPassword = bareRow env jsonBody := rfl

@[simp] theorem assignedUser_withoutPassword (generateHash : GenerateHash)
    (env : Surroundings) (userId : String) (jsonBody : Option Json) :
    (assignedUser generateHash env userId jsonBody).withoutPassword =
      bareUpdate env userId jsonBody := rfl

/-- Whether a row can be inserted does not depend on its hash. -/
theorem insertable_storedUser (generateHash : GenerateHash) (s : UserStore)
    (env : Surroundings) (jsonBody : Option Json) :
    Mapper.insertable Users.table env.database s.users (storedUser generateHash env jsonBody) =
      Mapper.insertable Users.table env.database s.users (bareRow env jsonBody) := by
  refine Mapper.insertable_congr Users.table_ignores env.database s.users ?_
    (Users.fits_withoutPassword (hashOf generateHash env jsonBody) rfl) ?_
  · rw [storedUser_withoutPassword, bareRow_withoutPassword]
  · rw [bareRow_withoutPassword]

theorem updatable_assignedUser (generateHash : GenerateHash) (s : UserStore)
    (env : Surroundings) (userId id : String) (jsonBody : Option Json) :
    Mapper.updatable Users.table env.database s.users id
        (assignedUser generateHash env userId jsonBody) =
      Mapper.updatable Users.table env.database s.users id (bareUpdate env userId jsonBody) := by
  refine Mapper.updatable_congr Users.table_ignores env.database s.users id ?_
    (Users.fits_withoutPassword (hashOf generateHash env jsonBody) rfl) ?_
  · rw [assignedUser_withoutPassword, bareUpdate_withoutPassword]
  · rw [bareUpdate_withoutPassword]

/-- What `createUser` does. -/
theorem createUser_eq (p : Platform) (generateHash : GenerateHash) (s : UserStore)
    (env : Surroundings) (jsonBody : Option Json) :
    createUser p generateHash s env jsonBody =
      if goesThrough s env (.createUser jsonBody) then
        (written s env (s.users ++ [storedUser generateHash env jsonBody]),
          handleResponse ((storedUser generateHash env jsonBody).toJson p) 201)
      else (s, refusal env jsonBody (errorResponse "Unable to create user" 400)) := by
  rw [goesThrough, ← insertable_storedUser generateHash]
  unfold createUser UserService.createUser refusal
  cases hconnected : env.connected with
  | false => simp
  | true =>
    rcases validateUserInput_cases jsonBody with ⟨hvalid, hinput⟩ | ⟨hvalid, what, hinput⟩
    · have hrow : Users.table.withDefaults env.database.newId env.database.now
          (UserService.created env.now (jsonBody.getD .null)
            (some (generateHash env.salt
              (UserService.field (jsonBody.getD .null) "password").asString).val)) =
          storedUser generateHash env jsonBody := rfl
      simp only [hinput, hvalid, bind, Except.bind, if_true, Bool.true_and, Mapper.insert, hrow]
      cases Mapper.insertable Users.table env.database s.users
        (storedUser generateHash env jsonBody) <;> rfl
    · simp [hinput, hvalid, bind, Except.bind]

/-- What `updateUserById` does. -/
theorem updateUserById_eq (p : Platform) (generateHash : GenerateHash) (s : UserStore)
    (env : Surroundings) (userId : String) (jsonBody : Option Json) :
    updateUserById p generateHash s env userId jsonBody =
      if goesThrough s env (.updateUserById userId jsonBody) then
        (written s env (updatedRows s env userId (assignedUser generateHash env userId jsonBody)),
          handleResponse ((assignedUser generateHash env userId jsonBody).toJson p) 200)
      else (s, refusal env jsonBody (errorResponse "Unable to update user" 500)) := by
  simp only [goesThrough, ← updatable_assignedUser generateHash]
  unfold updateUserById UserService.updateUser refusal updatedRows
  cases hconnected : env.connected with
  | false => simp
  | true =>
    rcases validateUserInput_cases jsonBody with ⟨hvalid, hinput⟩ | ⟨hvalid, what, hinput⟩
    · have hobject : UserService.updated env.now userId (jsonBody.getD .null)
          (some (generateHash env.salt
            (UserService.field (jsonBody.getD .null) "password").asString).val) =
          assignedUser generateHash env userId jsonBody := rfl
      have hkey : (Users.table.id (assignedUser generateHash env userId jsonBody)).getD "" =
          userId := rfl
      simp only [hinput, hvalid, bind, Except.bind, if_true, Bool.true_and, Mapper.update,
        hobject, hkey]
      cases env.database.uuid userId with
      | none => rfl
      | some id =>
        simp only [Option.any_some]
        cases Mapper.updatable Users.table env.database s.users id
          (assignedUser generateHash env userId jsonBody) <;> rfl
    · simp [hinput, hvalid, bind, Except.bind]

end UserController

/-! ## Two runs -/

open UserController

theorem Users.map_withoutPassword_idem (rows : List Users) :
    (rows.map withoutPassword).map withoutPassword = rows.map withoutPassword := by
  rw [List.map_map]
  rfl

theorem UserStore.withoutPasswords_idem (s : UserStore) :
    s.withoutPasswords.withoutPasswords = s.withoutPasswords := by
  rw [withoutPasswords, users_withoutPasswords, Users.map_withoutPassword_idem]
  rfl

theorem goesThrough_masked (s : UserStore) (env : Surroundings) (request : UserRequest) :
    goesThrough s.withoutPasswords env request = goesThrough s env request := by
  cases request with
  | getUsers parameters => rfl
  | getUserById id => rfl
  | deleteUserById userId => rfl
  | createUser jsonBody =>
    have hinsert := Mapper.insertable_mask Users.table_ignores env.database s.users
      (bareRow env jsonBody) (by rw [bareRow_withoutPassword])
    rw [bareRow_withoutPassword] at hinsert
    rw [goesThrough, goesThrough, UserStore.users_withoutPasswords, hinsert]
  | updateUserById userId jsonBody =>
    have hupdate := fun id => Mapper.updatable_mask Users.table_ignores env.database s.users id
      (bareUpdate env userId jsonBody) (by rw [bareUpdate_withoutPassword])
    simp only [bareUpdate_withoutPassword] at hupdate
    simp only [goesThrough, UserStore.users_withoutPasswords, hupdate]

theorem written_masked {s : UserStore} (env : Surroundings) {rows rows' : List Users}
    (h : rows.map Users.withoutPassword = rows'.map Users.withoutPassword) :
    (written s env rows).withoutPasswords =
      (written s.withoutPasswords env rows').withoutPasswords := by
  unfold written UserStore.withoutPasswords
  rw [h]

theorem updatedRows_masked (generateHash generateHash' : GenerateHash) (s : UserStore)
    (env : Surroundings) (userId : String) (jsonBody : Option Json) :
    (updatedRows s env userId (assignedUser generateHash env userId jsonBody)).map
        Users.withoutPassword =
      (updatedRows s.withoutPasswords env userId
        (assignedUser generateHash' env userId jsonBody)).map Users.withoutPassword := by
  unfold updatedRows
  cases env.database.uuid userId with
  | none => exact (Users.map_withoutPassword_idem s.users).symm
  | some id =>
    simp only [Mapper.map_assign_mask Users.table_ignores, assignedUser_withoutPassword,
      UserStore.users_withoutPasswords, Users.map_withoutPassword_idem]

/-- What a request leaves behind, without the passwords, depends on nothing but
the store without passwords. -/
theorem dispatch_next_masked (p : Platform) (generateHash generateHash' : GenerateHash)
    (s : UserStore) (env : Surroundings) (request : UserRequest) :
    (dispatch p generateHash s env request).1.withoutPasswords =
      (dispatch p generateHash' s.withoutPasswords env request).1.withoutPasswords := by
  have hidem := UserStore.withoutPasswords_idem
  cases request with
  | getUsers parameters =>
    simp only [dispatch, getUsers_masked, masked, hidem]
  | getUserById id =>
    simp only [dispatch, getUserById_masked, masked, hidem]
  | deleteUserById userId =>
    simp only [dispatch, deleteUserById_masked, masked, hidem]
  | createUser jsonBody =>
    rw [dispatch, dispatch, createUser_eq, createUser_eq, goesThrough_masked]
    split_ifs
    · refine written_masked env ?_
      rw [List.map_append, List.map_append, UserStore.users_withoutPasswords,
        Users.map_withoutPassword_idem]
      rfl
    · exact (hidem s).symm
  | updateUserById userId jsonBody =>
    rw [dispatch, dispatch, updateUserById_eq, updateUserById_eq, goesThrough_masked]
    split_ifs
    · exact written_masked env (updatedRows_masked generateHash generateHash' s env userId
        jsonBody)
    · exact (hidem s).symm

/-- So does the response, unless the request goes through. -/
theorem dispatch_answer_masked (p : Platform) (generateHash generateHash' : GenerateHash)
    {s : UserStore} {env : Surroundings} {request : UserRequest}
    (hrequest : goesThrough s env request = false) :
    (dispatch p generateHash s env request).2 =
      (dispatch p generateHash' s.withoutPasswords env request).2 := by
  have hrequest' : goesThrough s.withoutPasswords env request = false := by
    rw [goesThrough_masked, hrequest]
  cases request with
  | getUsers parameters => simp only [dispatch, getUsers_masked, masked]
  | getUserById id => simp only [dispatch, getUserById_masked, masked]
  | deleteUserById userId => simp only [dispatch, deleteUserById_masked, masked]
  | createUser jsonBody =>
    rw [dispatch, dispatch, createUser_eq, createUser_eq, hrequest, hrequest']
    rfl
  | updateUserById userId jsonBody =>
    rw [dispatch, dispatch, updateUserById_eq, updateUserById_eq, hrequest, hrequest']
    rfl

/-- Two runs that differ in the hashes only cannot be told apart by the
requests that do not go through. -/
theorem unwinding (p : Platform) (generateHash generateHash' : GenerateHash) :
    Unwinding (userEndpoints p generateHash) (userEndpoints p generateHash') SameButPasswords
      (fun s call => goesThrough s call.2 call.1 = false) where
  next s s' call hsame := by
    have hstart : (s.expire call.2).withoutPasswords = (s'.expire call.2).withoutPasswords :=
      congrArg (UserStore.expire · call.2) hsame
    have hleft := dispatch_next_masked p generateHash generateHash' (s.expire call.2) call.2 call.1
    have hright :=
      dispatch_next_masked p generateHash' generateHash' (s'.expire call.2) call.2 call.1
    rw [hstart] at hleft
    exact hleft.trans hright.symm
  answer s s' call hsame hcall := by
    have hstart : (s.expire call.2).withoutPasswords = (s'.expire call.2).withoutPasswords :=
      congrArg (UserStore.expire · call.2) hsame
    have hcall' : goesThrough (s'.expire call.2) call.2 call.1 = false := by
      rw [← goesThrough_masked, ← hstart, goesThrough_masked]
      exact hcall
    have hleft := dispatch_answer_masked p generateHash generateHash'
      (s := s.expire call.2) hcall
    have hright := dispatch_answer_masked p generateHash' generateHash' hcall'
    rw [hstart] at hleft
    exact hleft.trans hright.symm

end DrogonStarter
