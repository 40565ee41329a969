import DrogonStarter.Application.RequestPipeline
import DrogonStarter.Records.StoredRow
import DrogonStarter.Users.Disclosure

/-!
# From a new user to a session

A user who is created can log in with the password of the request, and the token opens the
endpoints for an hour, whatever the other clients do in the meantime.

* `userRequest` is the request that the users' controller gets, and `users_serve_cases` says
  what a call does to the users.
* `SoundUsers` is the invariant of the table, and `mem_after` keeps a row through a run in
  which nobody changes or deletes it.
* `session_of_created` puts the steps together.
-/

namespace DrogonStarter

open KeyedRows Observability Serving

namespace Application

variable {app : Application}

/-! ## The requests to the users' controller -/

theorem route_eq_of_handler {route : Route} (h : route ∈ registerRoutes) :
    (route.handler = .user → route = .user) ∧ (route.handler = .userById → route = .userById) ∧
      (route.handler = .generateJwt → route = .generateJwt) := by
  have hall : ∀ route ∈ registerRoutes,
      (route.handler = .user → route = .user) ∧ (route.handler = .userById → route = .userById) ∧
        (route.handler = .generateJwt → route = .generateJwt) := by decide
  exact hall route h

/-- The request that a call makes of the users' controller. -/
def userRequest (app : Application) (request : ApiRequest) : Option UserRequest :=
  match app.find request.path with
  | none => none
  | some (route, parts) =>
    match route.handler, request.method with
    | .user, .get => some (.getUsers request.parameters)
    | .user, .post => some (.createUser request.jsonBody)
    | .userById, .get => some (.getUserById (parts.headD ""))
    | .userById, .put => some (.updateUserById (parts.headD "") request.jsonBody)
    | .userById, .delete => some (.deleteUserById (parts.headD ""))
    | _, _ => none

/-- With a valid token the controller gets its request. -/
theorem route_of_userRequest {call : ApiRequest × Moment} {request : UserRequest}
    (hrequest : app.userRequest call.1 = some request) (hverified : app.Verified call)
    (s : Service) :
    app.route s call.1 call.2 = app.respond .handler (app.users s call.2 request) := by
  unfold userRequest at hrequest
  cases hfind : app.find call.1.path with
  | none =>
    rw [hfind] at hrequest
    cases hrequest
  | some found =>
    obtain ⟨route, parts⟩ := found
    rw [hfind] at hrequest
    obtain ⟨huser, hbyId, -⟩ := route_eq_of_handler (mem_registerRoutes_of_find hfind)
    unfold Application.route
    rw [hfind]
    simp only at hrequest ⊢
    cases hhandler : route.handler with
    | user =>
      have hroute : route = .user := huser hhandler
      subst hroute
      cases hmethod : call.1.method with
      | get | post =>
        rw [hhandler, hmethod] at hrequest
        cases hrequest
        have hnext : app.doFilters Route.user.filters call.1 call.2 = .next := hverified
        rw [if_pos (by decide), hnext]
        simp only [handle, hmethod]
      | _ =>
        rw [hhandler, hmethod] at hrequest
        cases hrequest
    | userById =>
      have hroute : route = .userById := hbyId hhandler
      subst hroute
      cases hmethod : call.1.method with
      | get | put | delete =>
        rw [hhandler, hmethod] at hrequest
        cases hrequest
        have hnext : app.doFilters Route.userById.filters call.1 call.2 = .next := hverified
        rw [if_pos (by decide), hnext]
        simp only [handle, hmethod]
      | _ =>
        rw [hhandler, hmethod] at hrequest
        cases hrequest
    | _ =>
      rw [hhandler] at hrequest
      cases hrequest

/-- A handler of another controller leaves the users as they are. -/
theorem users_handle_of_userRequest_none {request : ApiRequest} {route : Route}
    {parts : List String} (hfind : app.find request.path = some (route, parts))
    (hrequest : app.userRequest request = none) (s : Service) (m : Moment) :
    (app.handle s request m parts route.handler).1.users = s.users := by
  unfold userRequest at hrequest
  rw [hfind] at hrequest
  obtain ⟨method, path, peerAddr, authorization, parameters, jsonBody⟩ := request
  simp only at hrequest
  cases hhandler : route.handler with
  | health | ready | metrics | docs | openapi | swagger => rfl
  | generateJwt =>
    rw [handle_fst_of_not_ofResource rfl]
  | role | roleById => cases method <;> rfl
  | user | userById =>
    rw [hhandler] at hrequest
    cases method <;> first | rfl | cases hrequest

/-- What a call does to the users: nothing, or, with a valid token, what its request to the
controller does. -/
theorem users_serve_cases (s : Service) (call : ApiRequest × Moment) :
    (app.serve s call).1.users = s.users ∨
      ∃ request, app.userRequest call.1 = some request ∧ app.Verified call ∧
        (app.serve s call).1.users =
          (UserController.endpoint app.generateHash).rowsAfter s.users
            (request.record, (userSurroundings call.2).circumstances) := by
  unfold serve
  split
  case h_1 => exact Or.inl rfl
  case h_2 limiter _ =>
    by_cases hverified : app.Verified call
    case neg =>
      have htables := tables_route_of_not_verified hverified (s.routing limiter)
      exact Or.inl (congrArg Prod.fst htables)
    case pos =>
      cases hrequest : app.userRequest call.1 with
      | some request =>
        refine Or.inr ⟨request, rfl, hverified, ?_⟩
        rw [route_of_userRequest hrequest hverified, users_eq]
        have hserve := serveUsers_eq app.platform app.generateHash s.userStore request
          (userSurroundings call.2)
        have hrows := (UserController.endpoint app.generateHash).rows_serve app.platform
          s.userStore.records (request.record, (userSurroundings call.2).circumstances)
        rw [hserve] at hrows
        exact hrows
      | none =>
        refine Or.inl ?_
        unfold Application.route
        split
        case h_1 => rfl
        case h_2 found parts hfind =>
          split
          case isFalse => rfl
          case isTrue =>
            split
            case h_1 => exact users_handle_of_userRequest_none hfind hrequest (s.routing limiter) _
            case h_2 => rfl

/-! ## The table -/

/-- What the primary key and the unique column say about the users. -/
structure SoundUsers (s : Service) : Prop where
  keyed : Keyed Users.table.id s.users
  emails : DistinctBy Users.email s.users

theorem soundUsers_serve {s : Service} (h : SoundUsers s) (call : ApiRequest × Moment) :
    SoundUsers (app.serve s call).1 := by
  have hlawful : (UserController.endpoint app.generateHash).Lawful
    (UserService.changed app.generateHash) := UserService.lawful app.generateHash
  have hcolumn : (UserController.endpoint app.generateHash).UniqueColumn Users.email :=
    UserService.uniqueEmail app.generateHash
  rcases app.users_serve_cases s call with heq | ⟨request, -, -, heq⟩
  · exact ⟨heq ▸ h.keyed, heq ▸ h.emails⟩
  · constructor
    · rw [heq]
      exact RecordEndpoint.keyed_rowsAfter hlawful h.keyed _
    · rw [heq]
      exact RecordEndpoint.distinct_rowsAfter hlawful hcolumn h.keyed h.emails _

/-- The call is to change or delete the user with a key, and has a valid token. -/
def WritesUser (app : Application) (key : String) (call : ApiRequest × Moment) : Prop :=
  app.Verified call ∧ ∃ request, app.userRequest call.1 = some request ∧
    RecordRequest.Writes (request.record, (userSurroundings call.2).circumstances) key

theorem mem_serve {s : Service} {user : Users} {key : String} (huser : user ∈ s.users)
    (hkey : user.id = some key) {call : ApiRequest × Moment}
    (hcall : ¬ app.WritesUser key call) : user ∈ (app.serve s call).1.users := by
  have hlawful : (UserController.endpoint app.generateHash).Lawful
    (UserService.changed app.generateHash) := UserService.lawful app.generateHash
  rcases app.users_serve_cases s call with heq | ⟨request, hrequest, hverified, heq⟩
  · exact heq ▸ huser
  · rw [heq]
    exact RecordEndpoint.mem_rowsAfter hlawful huser hkey fun hwrites =>
      hcall ⟨hverified, request, hrequest, hwrites⟩

/-- A user stays through a run in which nobody changes or deletes it. -/
theorem mem_after {s : Service} (hsound : SoundUsers s) {user : Users} {key : String}
    (huser : user ∈ s.users) (hkey : user.id = some key) {calls : List (ApiRequest × Moment)}
    (hcalls : ∀ call ∈ calls, ¬ app.WritesUser key call) :
    SoundUsers (app.server.after s calls) ∧ user ∈ (app.server.after s calls).users := by
  induction calls generalizing s with
  | nil => exact ⟨hsound, huser⟩
  | cons call rest ih =>
    exact ih (soundUsers_serve hsound call)
      (mem_serve huser hkey (hcalls call List.mem_cons_self))
      fun other hother => hcalls other (List.mem_cons_of_mem call hother)

/-! ## The steps of a session -/

/-- The limiter lets the call through. -/
def LetThrough (app : Application) (s : Service) (call : ApiRequest × Moment) : Prop :=
  (syncAdvice s.limiter app.rateLimitWindowSeconds call.2.ticks call.1.advised).1 = none

theorem serve_of_letThrough {s : Service} {call : ApiRequest × Moment}
    (h : app.LetThrough s call) :
    ∃ limiter, app.serve s call = app.route (s.routing limiter) call.1 call.2 := by
  unfold LetThrough at h
  cases hadvised : syncAdvice s.limiter app.rateLimitWindowSeconds call.2.ticks
      call.1.advised with
  | mk answer limiter =>
    rw [hadvised] at h
    cases h
    refine ⟨limiter, ?_⟩
    unfold serve
    rw [hadvised]

/-- The user that a create request stores. -/
def newUser (app : Application) (call : ApiRequest × Moment) : Users :=
  UserController.storedUser app.generateHash (userSurroundings call.2) call.1.jsonBody

/-- A create request that goes through, by a client with a valid token. -/
structure Creates (app : Application) (s : Service) (call : ApiRequest × Moment) : Prop where
  token : app.Verified call
  request : app.userRequest call.1 = some (.createUser call.1.jsonBody)
  created : (app.server.answer s call).map ApiResponse.status = [201]

theorem goesThrough_of_creates {s : Service} {call : ApiRequest × Moment}
    (h : app.Creates s call) :
    goesThrough s.userStore (userSurroundings call.2) (.createUser call.1.jsonBody) = true ∧
      (app.server.next s call).users = s.users ++ [app.newUser call] := by
  have hcreated := h.created
  change ((app.serve s call).2.map ApiResponse.status) = [201] at hcreated
  change _ ∧ (app.serve s call).1.users = _
  unfold serve at hcreated ⊢
  split at hcreated
  case h_1 refused limiter hadvised =>
    have hstatus : refused.status = 201 := (List.cons.inj hcreated).1
    rw [status_of_advised hadvised] at hstatus
    cases hstatus
  case h_2 limiter hadvised =>
    rw [route_of_userRequest h.request h.token, users_eq] at hcreated ⊢
    have hdispatch : serveUsers app.platform app.generateHash s.userStore
        (.createUser call.1.jsonBody, userSurroundings call.2) = _ :=
      UserController.createUser_eq app.platform app.generateHash
        (s.userStore.expire (userSurroundings call.2)) (userSurroundings call.2) call.1.jsonBody
    change [(serveUsers app.platform app.generateHash s.userStore
      (.createUser call.1.jsonBody, userSurroundings call.2)).2.status] = [201] at hcreated
    change _ ∧ (serveUsers app.platform app.generateHash s.userStore
      (.createUser call.1.jsonBody, userSurroundings call.2)).1.users = _
    rw [hdispatch] at hcreated ⊢
    split at hcreated
    case isTrue hthrough =>
      rw [if_pos hthrough]
      exact ⟨hthrough, rfl⟩
    case isFalse =>
      unfold UserController.refusal at hcreated
      split_ifs at hcreated <;> cases hcreated

/-- The two texts of a body that went through. -/
theorem isString_of_creates {s : Service} {call : ApiRequest × Moment} (h : app.Creates s call) :
    (UserService.field (call.1.jsonBody.getD .null) "email").isString = true ∧
      (UserService.field (call.1.jsonBody.getD .null) "password").isString = true := by
  have hthrough := (goesThrough_of_creates h).1
  simp only [goesThrough, validBody, Bool.and_eq_true] at hthrough
  have hvalid := hthrough.1.2
  unfold UserService.validateUserInput at hvalid
  split at hvalid
  case isTrue => cases hvalid
  case isFalse hfields =>
    simp only [Bool.or_eq_true, Bool.not_eq_true', not_or, Bool.not_eq_false] at hfields
    exact ⟨hfields.1.2, hfields.2⟩

/-- The email of a create request. -/
def newEmail (call : ApiRequest × Moment) : String :=
  (UserService.field (call.1.jsonBody.getD .null) "email").asString

/-- A login with the email and the password of a create request, which reaches the table. -/
structure LogsIn (app : Application) (s : Service) (create call : ApiRequest × Moment) :
    Prop where
  letThrough : app.LetThrough s call
  route : ∃ parts, app.find call.1.path = some (.generateJwt, parts)
  method : call.1.method = .post
  connected : call.2.connected = true
  failure : call.2.users.failure = none
  body : ∃ jsonBody, call.1.jsonBody = some jsonBody ∧ jsonBody.isObject = true ∧
    ∀ name ∈ ["email", "password"],
      UserService.field jsonBody name = UserService.field (create.1.jsonBody.getD .null) name

/-- What `validatePassword` promises about the hashes of `generateHash`. -/
def HashesVerify (app : Application) : Prop :=
  ∀ salt password, app.validatePassword password (app.generateHash salt password).val = true

theorem answer_of_logsIn (hhashes : app.HashesVerify) {t s : Service}
    {create call : ApiRequest × Moment} (hcreate : app.Creates t create)
    (hsound : SoundUsers s) (huser : app.newUser create ∈ s.users)
    (h : app.LogsIn s create call) :
    app.server.answer s call =
      [(AuthController.accepted (app.loginSurroundings call.2) (app.newUser create)
        (newEmail create)).api] := by
  obtain ⟨limiter, hserve⟩ := serve_of_letThrough h.letThrough
  obtain ⟨parts, hfind⟩ := h.route
  obtain ⟨jsonBody, hbody, hobject, hfields⟩ := h.body
  have hemail := hfields "email" (by simp)
  have hpassword := hfields "password" (by simp)
  obtain ⟨hemailText, hpasswordText⟩ := isString_of_creates hcreate
  have hasked : AuthController.asked s.users jsonBody = [app.newUser create] := by
    unfold AuthController.asked
    rw [hemail]
    exact hsound.emails.filter_eq huser rfl
  have haccepts : AuthController.Accepts (app.loginSurroundings call.2) s.users (some jsonBody) =
      true := by
    simp only [AuthController.Accepts, hasked, hpassword]
    exact hhashes _ _
  have hanswers : Handler.Answers (AuthController.asyncHandleHttpRequest
      (app.loginSurroundings call.2) (some jsonBody)) s.userStore
        (AuthController.accepted (app.loginSurroundings call.2) (app.newUser create)
          (UserService.field jsonBody "email").asString) s.userStore :=
    AuthController.answers_of_accepted h.connected h.failure hobject (hemail ▸ hemailText)
      (hpassword ▸ hpasswordText) hasked haccepts
  change (app.serve s call).2 = _
  rw [hserve]
  unfold Application.route
  rw [show app.find call.1.path = _ from hfind]
  simp only
  rw [if_pos (by rw [h.method]; decide)]
  have hopen : app.doFilters Route.generateJwt.filters call.1 call.2 = .next := rfl
  rw [hopen]
  simp only [handle, Route.generateJwt, h.method, hbody, login]
  change List.map HttpResponse.api (Handler.answered _ s.userStore unhandled) = _
  rw [hanswers.answered unhandled, hemail]
  rfl

/-- A request for the user of a create request, with the token of a login, in the hour
after it. -/
structure ReadsNewUser (app : Application) (s : Service) (create login call : ApiRequest × Moment) :
    Prop where
  letThrough : app.LetThrough s call
  request : ∃ id, app.userRequest call.1 = some (.getUserById id) ∧
    call.2.users.uuid id = some create.2.users.newId
  authorization : call.1.authorization =
    "Bearer " ++ AuthController.access app.jwt app.envText (newEmail create) login.2.clock
  issued : login.2.clock ≤ call.2.clock
  fresh : call.2.clock < login.2.clock + 3600
  connected : call.2.connected = true
  failure : call.2.users.failure = none

theorem answer_of_readsNewUser (hjwt : app.jwt.Lawful)
    (hsecret : AuthFilter.secretKey app.envText ≠ "") {s : Service}
    {create login call : ApiRequest × Moment} (hsound : SoundUsers s)
    (huser : app.newUser create ∈ s.users) (h : app.ReadsNewUser s create login call) :
    app.server.answer s call =
      [(handleResponse (UserService.toPublicJson app.platform (app.newUser create)) 200).api] := by
  obtain ⟨limiter, hserve⟩ := serve_of_letThrough h.letThrough
  obtain ⟨id, hrequest, hid⟩ := h.request
  have hverified : app.Verified call := by
    unfold Verified
    rw [h.authorization]
    exact doFilter_access hjwt hsecret (newEmail create) h.issued h.fresh
  have hview : view (UserController.endpoint app.generateHash).table.id s.userStore.records.rows
      create.2.users.newId = some (app.newUser create) := by
    have hmem : app.newUser create ∈
        (view Users.table.id s.users create.2.users.newId).toList := by
      rw [← hsound.keyed.filter_eq]
      exact List.mem_filter.2 ⟨huser, decide_eq_true rfl⟩
    exact Option.mem_toList.1 hmem
  have hget : ((UserController.endpoint app.generateHash).serve app.platform s.userStore.records
      (.getRecordById id, (userSurroundings call.2).circumstances)).2 = _ :=
    RecordEndpoint.serve_get h.connected hsound.keyed h.failure hid
  change (app.serve s call).2 = _
  rw [hserve, route_of_userRequest hrequest hverified, users_eq]
  have heq := congrArg Prod.snd (serveUsers_eq app.platform app.generateHash s.userStore
    (.getUserById id) (userSurroundings call.2))
  refine congrArg (fun response => [HttpResponse.api response]) (heq.symm.trans ?_)
  rw [hview] at hget
  exact hget

/-- A login is no request to the users' controller. -/
theorem LogsIn.not_writesUser {s : Service} {create call : ApiRequest × Moment}
    (h : app.LogsIn s create call) (key : String) : ¬ app.WritesUser key call := by
  intro hwrites
  obtain ⟨-, request, hrequest, -⟩ := hwrites
  obtain ⟨parts, hfind⟩ := h.route
  unfold userRequest at hrequest
  rw [hfind] at hrequest
  simp only [Route.generateJwt, h.method] at hrequest
  cases hrequest

/-- Create a user, log in, read: whatever the others do in between, unless they change or
delete the user, the login answers with a token and for an hour the token shows the user. -/
theorem session_of_created (app : Application) (hjwt : app.jwt.Lawful)
    (hsecret : AuthFilter.secretKey app.envText ≠ "") (hhashes : app.HashesVerify) {s : Service}
    (hsound : SoundUsers s) {create login read : ApiRequest × Moment}
    {between later : List (ApiRequest × Moment)} (hcreate : app.Creates s create)
    (hothers : ∀ call ∈ between ++ later, ¬ app.WritesUser create.2.users.newId call)
    (hlogin : app.LogsIn (app.server.after s (create :: between)) create login)
    (hread : app.ReadsNewUser (app.server.after s (create :: between ++ login :: later))
      create login read) :
    app.server.answer (app.server.after s (create :: between)) login =
        [(AuthController.accepted (app.loginSurroundings login.2) (app.newUser create)
          (newEmail create)).api] ∧
      app.server.answer (app.server.after s (create :: between ++ login :: later)) read =
        [(handleResponse (UserService.toPublicJson app.platform (app.newUser create))
          200).api] := by
  have hstored : app.newUser create ∈ (app.server.next s create).users := by
    rw [(goesThrough_of_creates hcreate).2]
    exact List.mem_append_right _ List.mem_cons_self
  have hkey : (app.newUser create).id = some create.2.users.newId := rfl
  have hsoundCreated : SoundUsers (app.server.next s create) := soundUsers_serve hsound create
  have hbetween : ∀ call ∈ between, ¬ app.WritesUser create.2.users.newId call :=
    fun call hcall => hothers call (List.mem_append_left _ hcall)
  have hrun : ∀ call ∈ between ++ login :: later,
      ¬ app.WritesUser create.2.users.newId call := by
    intro call hcall
    rcases List.mem_append.1 hcall with hfirst | hrest
    · exact hbetween call hfirst
    · rcases List.mem_cons.1 hrest with rfl | hlater
      · exact hlogin.not_writesUser _
      · exact hothers call (List.mem_append_right _ hlater)
  obtain ⟨hsoundLogin, huserLogin⟩ := mem_after hsoundCreated hstored hkey hbetween
  obtain ⟨hsoundRead, huserRead⟩ := mem_after hsoundCreated hstored hkey hrun
  exact ⟨answer_of_logsIn hhashes hcreate hsoundLogin huserLogin hlogin,
    answer_of_readsNewUser hjwt hsecret hsoundRead huserRead hread⟩

/-! ## The session of a user -/

theorem letterJwt_lawful : letterJwt.Lawful := by
  intro secret identity issued now hissued hfresh
  have htoken : (letterJwt.sign secret identity issued).toList =
      Nat.toDigits 10 issued ++ '.' :: (identity.toList ++ '.' :: secret.toList) := by
    simp only [letterJwt, String.toList_append, CppNumber.toList_toString, List.append_assoc]
    rfl
  have htime : (letterJwt.sign secret identity issued).toList.takeWhile Char.isDigit =
      Nat.toDigits 10 issued := by
    rw [htoken, List.takeWhile_append_of_pos fun c hc => CppNumber.isDigit_of_mem_toDigits hc]
    exact List.append_nil _
  have hsecret : ('.' :: secret.toList).isSuffixOf (letterJwt.sign secret identity issued).toList =
      true := by
    rw [List.isSuffixOf_iff_suffix, htoken, ← List.cons_append, ← List.append_assoc]
    exact List.suffix_append _ _
  unfold letterJwt at htime hsecret ⊢
  simp only [htime, CppNumber.naturalValue_toDigits, hsecret, Bool.and_true]
  exact decide_eq_true ⟨hissued, hfresh⟩

theorem hashesVerify_letterApplication : letterApplication.HashesVerify := by
  intro salt password
  have htext : (letterHash salt password).val.toList =
      "$2b$10$".toList ++ Nat.digitChar (salt % 10) :: letterDigest password :=
    String.toList_ofList
  have hdigest : (letterHash salt password).val.toList.drop 8 = letterDigest password := by
    rw [htext]
    rfl
  exact decide_eq_true hdigest

def loginAda : ApiRequest × Moment :=
  ({ method := .post
     path := "/api/v1/generate-jwt"
     peerAddr := ⟨"10.0.0.1", 4000⟩
     jsonBody := some (Json.ofMembers
      [("email", .string "ada@x.org"), ("password", .string "secret")]) }, letterMoment 2)

/-- A new user logs in and reads itself, and the deletion that a stranger asks for does not
matter. -/
theorem session_of_ada :
    letterApplication.server.answer
        (letterApplication.server.after emptyService [createAda, strangerDeletesAda]) loginAda =
        [(AuthController.accepted (letterApplication.loginSurroundings loginAda.2)
          (letterApplication.newUser createAda) (newEmail createAda)).api] ∧
      letterApplication.server.answer
          (letterApplication.server.after emptyService [createAda, strangerDeletesAda, loginAda])
            readAda =
        [(handleResponse (UserService.toPublicJson compactPlatform
          (letterApplication.newUser createAda)) 200).api] := by
  have hsecret : AuthFilter.secretKey letterApplication.envText ≠ "" := by decide
  have hsound : SoundUsers emptyService := ⟨Keyed.nil, List.Pairwise.nil⟩
  have hcreate : letterApplication.Creates emptyService createAda := ⟨by decide +kernel, rfl, rfl⟩
  have hothers : ∀ call ∈ [strangerDeletesAda] ++ [],
      ¬ letterApplication.WritesUser createAda.2.users.newId call := by
    intro call hcall hwrites
    simp only [List.append_nil, List.mem_singleton] at hcall
    subst hcall
    have hrefused : ¬ letterApplication.Verified strangerDeletesAda := by decide +kernel
    exact hrefused hwrites.1
  have hlogin : letterApplication.LogsIn
      (letterApplication.server.after emptyService [createAda, strangerDeletesAda]) createAda
        loginAda :=
    { letThrough := rfl
      route := ⟨[], rfl⟩
      method := rfl
      connected := rfl
      failure := rfl
      body := ⟨_, rfl, rfl, by simp; exact ⟨rfl, rfl⟩⟩ }
  have hread : letterApplication.ReadsNewUser
      (letterApplication.server.after emptyService [createAda, strangerDeletesAda, loginAda])
        createAda loginAda readAda :=
    { letThrough := rfl
      request := ⟨"d", rfl, rfl⟩
      authorization := by decide +kernel
      issued := by decide
      fresh := by decide
      connected := rfl
      failure := rfl }
  exact session_of_created letterApplication letterJwt_lawful hsecret
    hashesVerify_letterApplication hsound hcreate hothers hlogin hread

end Application

end DrogonStarter
