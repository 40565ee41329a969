import DrogonStarter.Application.RequestPipeline

/-!
# Clients without a token

The filter is the only thing that keeps the tables from a client who has no token.  The limiter
and the counters are the only state that its requests reach, and the counters are in the text of
`/metrics` for everyone.

* `withoutCounts` is the application with that text left blank.
* `LimiterAgree` relates two limiters that decide alike for the peers who are not outsiders,
  and `purging` says that the requests of the outsiders leave no trace for the others.
* `outsiders_leave_no_trace` is the run of all requests beside the run without the outsiders.
* `Uninformed` says that a request has no token and no password of a user.
  `answers_of_uninformed` says that such requests cannot tell one service from another.
-/

namespace DrogonStarter

open Observability Serving

/-! ## The limiter -/

/-- The limiters decide alike for the peers who are not outsiders. -/
structure LimiterAgree (outsider : Peer → Bool) (r r' : RateLimiter) : Prop where
  limit : r.limit = r'.limit
  window : r.window = r'.window
  requests : ∀ peer, outsider peer = false →
    r.requests peer.toIpPort = r'.requests peer.toIpPort

namespace LimiterAgree

variable {outsider : Peer → Bool} {r r' : RateLimiter}

theorem refl (outsider : Peer → Bool) (r : RateLimiter) : LimiterAgree outsider r r :=
  ⟨rfl, rfl, fun _ _ => rfl⟩

/-- A call for a peer whom both limiters treat alike. -/
theorem allow (h : LimiterAgree outsider r r') {peer : Peer} (hpeer : outsider peer = false)
    (now : Nat) :
    (r.allow now peer.toIpPort).1 = (r'.allow now peer.toIpPort).1 ∧
      LimiterAgree outsider (r.allow now peer.toIpPort).2 (r'.allow now peer.toIpPort).2 := by
  have hremaining : r.remaining now peer.toIpPort = r'.remaining now peer.toIpPort := by
    rw [RateLimiter.remaining, RateLimiter.remaining, h.window, h.requests peer hpeer]
  have hput : ∀ timestamps, LimiterAgree outsider (r.put peer.toIpPort timestamps)
      (r'.put peer.toIpPort timestamps) := by
    intro timestamps
    refine ⟨h.limit, h.window, fun other hother => ?_⟩
    by_cases hkey : other.toIpPort = peer.toIpPort
    · rw [hkey, RateLimiter.put_requests_self, RateLimiter.put_requests_self]
    · rw [RateLimiter.put_requests_of_ne _ hkey, RateLimiter.put_requests_of_ne _ hkey,
        h.requests other hother]
  unfold RateLimiter.allow
  rw [h.limit, hremaining]
  split
  · exact ⟨rfl, h⟩
  · split
    · exact ⟨rfl, hput _⟩
    · exact ⟨rfl, hput _⟩

/-- A call for an outsider changes a queue that no other peer uses. -/
theorem allow_outsider (h : LimiterAgree outsider r r') {peer : Peer}
    (hpeer : outsider peer = true) (now : Nat) :
    LimiterAgree outsider (r.allow now peer.toIpPort).2 r' := by
  refine ⟨(r.allow_limit now _).trans h.limit, (r.allow_window now _).trans h.window, ?_⟩
  intro other hother
  have hne : other.toIpPort ≠ peer.toIpPort := by
    intro hkey
    rw [Peer.toIpPort_injective hkey, hpeer] at hother
    cases hother
  rw [r.allow_requests_of_ne now hne]
  exact h.requests other hother

theorem syncAdvice (h : LimiterAgree outsider r r') (seconds now : Nat)
    {request : AdvisedRequest} (hpeer : outsider request.peerAddr = false) :
    (Observability.syncAdvice r seconds now request).1 =
        (Observability.syncAdvice r' seconds now request).1 ∧
      LimiterAgree outsider (Observability.syncAdvice r seconds now request).2
        (Observability.syncAdvice r' seconds now request).2 := by
  obtain ⟨hallowed, hafter⟩ := h.allow hpeer now
  unfold Observability.syncAdvice
  split
  · exact ⟨rfl, h⟩
  · cases hr : r.allow now request.peerAddr.toIpPort with
    | mk allowed after =>
      cases hr' : r'.allow now request.peerAddr.toIpPort with
      | mk allowed' after' =>
        rw [hr, hr'] at hallowed hafter
        cases hallowed
        cases allowed <;> exact ⟨rfl, hafter⟩

theorem syncAdvice_outsider (h : LimiterAgree outsider r r') (seconds now : Nat)
    {request : AdvisedRequest} (hpeer : outsider request.peerAddr = true) :
    LimiterAgree outsider (Observability.syncAdvice r seconds now request).2 r' := by
  have hafter := h.allow_outsider hpeer now
  unfold Observability.syncAdvice
  split
  · exact h
  · split
    case h_1 after hallowed =>
      rw [hallowed] at hafter
      exact hafter
    case h_2 after hrefused =>
      rw [hrefused] at hafter
      exact hafter

end LimiterAgree

namespace Application

variable {app : Application}

/-! ## No trace -/

variable (app) in
/-- The answers of a call, without the numbers in the text of the counters. -/
def hideCounts (call : ApiRequest × Moment) (answers : List ApiResponse) : List ApiResponse :=
  if app.scrapes call.1 then
    answers.map fun answer => { answer with content := answer.content.map Content.blank }
  else answers

variable (app) in
/-- The application for a client who does not see the counters. -/
def withoutCounts : Server Service (ApiRequest × Moment) (List ApiResponse) where
  next := app.server.next
  answer s call := app.hideCounts call (app.server.answer s call)

/-- The handler of `/metrics` writes the same around the numbers. -/
theorem hideCounts_metricsHandler {call : ApiRequest × Moment}
    (hscrapes : app.scrapes call.1 = true) (s s' : Service) :
    app.hideCounts call [metricsHandler s] = app.hideCounts call [metricsHandler s'] := by
  simp only [hideCounts, hscrapes, if_true, List.map_cons, List.map_nil, metricsHandler,
    Option.map_some, Content.blank]

theorem hideCounts_route {s s' : Service} (h : s.tables = s'.tables)
    (call : ApiRequest × Moment) :
    app.hideCounts call (app.route s call.1 call.2).2 =
      app.hideCounts call (app.route s' call.1 call.2).2 := by
  cases hscrapes : app.scrapes call.1 with
  | false => rw [route_snd h hscrapes]
  | true =>
    rcases route_snd_of_scrapes hscrapes call.2 with hmetrics | ⟨answers, hanswers⟩
    · rw [hmetrics, hmetrics]
      exact hideCounts_metricsHandler hscrapes s s'
    · rw [hanswers, hanswers]

/-- The services differ in the counters and in the queues of outsiders only. -/
def Alike (outsider : Peer → Bool) (s s' : Service) : Prop :=
  s.tables = s'.tables ∧ LimiterAgree outsider s.limiter s'.limiter

/-- Two requests to services with the same tables. -/
theorem serve_of_tables {s s' : Service} (h : s.tables = s'.tables)
    {call : ApiRequest × Moment}
    (hadvice : (syncAdvice s.limiter app.rateLimitWindowSeconds call.2.ticks call.1.advised).1 =
      (syncAdvice s'.limiter app.rateLimitWindowSeconds call.2.ticks call.1.advised).1) :
    (app.serve s call).1.tables = (app.serve s' call).1.tables ∧
      app.hideCounts call (app.serve s call).2 = app.hideCounts call (app.serve s' call).2 := by
  unfold serve
  cases hadvised : syncAdvice s.limiter app.rateLimitWindowSeconds call.2.ticks
      call.1.advised with
  | mk answer limiter =>
    cases hadvised' : syncAdvice s'.limiter app.rateLimitWindowSeconds call.2.ticks
        call.1.advised with
    | mk answer' limiter' =>
      rw [hadvised, hadvised'] at hadvice
      cases hadvice
      cases answer with
      | some refused => exact ⟨h, rfl⟩
      | none =>
        have hrouting : (s.routing limiter).tables = (s'.routing limiter').tables := h
        exact ⟨tables_route hrouting call.1 call.2, hideCounts_route hrouting call⟩

theorem tables_serve_of_not_verified {call : ApiRequest × Moment} (h : ¬ app.Verified call)
    (s : Service) : (app.serve s call).1.tables = s.tables := by
  unfold serve
  split
  case h_1 => rfl
  case h_2 limiter _ => exact tables_route_of_not_verified h (s.routing limiter)

/-- The peer of a request is no outsider. -/
def insider (outsider : Peer → Bool) (call : ApiRequest × Moment) : Bool :=
  !outsider call.1.peerAddr

theorem purging (outsider : Peer → Bool) :
    Purging app.withoutCounts (Alike outsider) (insider outsider)
      fun call => ¬ app.Verified call where
  next s s' call hsame hinsider := by
    have hpeer : outsider call.1.advised.peerAddr = false := by
      simpa [insider, ApiRequest.advised] using hinsider
    obtain ⟨hadvice, hlimiter⟩ :=
      hsame.2.syncAdvice app.rateLimitWindowSeconds call.2.ticks hpeer
    refine ⟨(serve_of_tables hsame.1 hadvice).1, ?_⟩
    change LimiterAgree outsider (app.serve s call).1.limiter (app.serve s' call).1.limiter
    rw [limiter_serve, limiter_serve]
    exact hlimiter
  answer s s' call hsame hinsider := by
    have hpeer : outsider call.1.advised.peerAddr = false := by
      simpa [insider, ApiRequest.advised] using hinsider
    exact (serve_of_tables hsame.1 (hsame.2.syncAdvice _ _ hpeer).1).2
  hidden s s' call hsame houtsider hrefused := by
    have hpeer : outsider call.1.advised.peerAddr = true := by
      simpa [insider, ApiRequest.advised] using houtsider
    refine ⟨(tables_serve_of_not_verified hrefused s).trans hsame.1, ?_⟩
    change LimiterAgree outsider (app.serve s call).1.limiter s'.limiter
    rw [limiter_serve]
    exact hsame.2.syncAdvice_outsider _ _ hpeer

/-- Take any peers who never show a valid token.  The tables, the cache and the answers to
everyone else are as if their requests had not been made, and so is the rate limit; only the
numbers in the text of `/metrics` count them. -/
theorem outsiders_leave_no_trace (app : Application) (outsider : Peer → Bool) (s : Service)
    (calls : List (ApiRequest × Moment))
    (hcalls : ∀ call ∈ calls, outsider call.1.peerAddr = true → ¬ app.Verified call) :
    (app.server.after s calls).tables =
        (app.server.after s (calls.filter (insider outsider))).tables ∧
      app.withoutCounts.answersTo (insider outsider) s calls =
        app.withoutCounts.answers s (calls.filter (insider outsider)) := by
  have hquiet : ∀ call ∈ calls, insider outsider call = false → ¬ app.Verified call := by
    intro call hcall houtsider
    exact hcalls call hcall (by simpa [insider] using houtsider)
  have hpurging : Purging app.withoutCounts (Alike outsider) (insider outsider)
    fun call => ¬ app.Verified call := purging outsider
  obtain ⟨halike, hanswers⟩ := hpurging.run
    (⟨rfl, LimiterAgree.refl outsider s.limiter⟩ : Alike outsider s s) hquiet
  exact ⟨halike.1, hanswers⟩

/-- A scrape of the counters. -/
def scrape : ApiRequest × Moment :=
  ({ method := .get, path := "/metrics", peerAddr := ⟨"10.0.0.1", 4000⟩ }, letterMoment 3)

/-- A stranger asks for a deletion, between a create request and a read of the new user, and
is counted. -/
theorem stranger_leaves_no_trace :
    ((letterApplication.server.after emptyService
          [createAda, strangerDeletesAda, scrape, readAda]).tables =
        (letterApplication.server.after emptyService [createAda, scrape, readAda]).tables ∧
      letterApplication.withoutCounts.answersTo (insider fun peer => peer.port == 9) emptyService
          [createAda, strangerDeletesAda, scrape, readAda] =
        letterApplication.withoutCounts.answers emptyService [createAda, scrape, readAda]) ∧
    (letterApplication.server.after emptyService [createAda, strangerDeletesAda]).counters
      .requests = 2 := by
  have hinsiders : [createAda, strangerDeletesAda, scrape, readAda].filter
    (insider fun peer => peer.port == 9) = [createAda, scrape, readAda] := rfl
  have hrefused : ¬ letterApplication.Verified strangerDeletesAda := by decide +kernel
  have htrace := outsiders_leave_no_trace letterApplication (fun peer => peer.port == 9)
    emptyService [createAda, strangerDeletesAda, scrape, readAda] (by
      intro call hcall houtsider
      simp only [List.mem_cons, List.not_mem_nil, or_false] at hcall
      rcases hcall with rfl | rfl | rfl | rfl
      · exact absurd houtsider (by decide)
      · exact hrefused
      · exact absurd houtsider (by decide)
      · exact absurd houtsider (by decide))
  rw [hinsiders] at htrace
  exact ⟨htrace, by decide +kernel⟩

/-! ## No information -/

/-- A request with no valid token and, if it is a login, not with the password of a user. -/
structure Uninformed (app : Application) (s : Service) (call : ApiRequest × Moment) : Prop where
  token : ¬ app.Verified call
  password : ∀ route parts, app.find call.1.path = some (route, parts) →
    route.handler = .generateJwt → call.1.method = .post →
      AuthController.Accepts (app.loginSurroundings call.2) s.users call.1.jsonBody = false

theorem login_snd_of_refused {s : Service} {m : Moment} {jsonBody : Option Json}
    (h : AuthController.Accepts (app.loginSurroundings m) s.users jsonBody = false) :
    (app.login s m jsonBody).2 =
      [(AuthController.refusal (app.loginSurroundings m) jsonBody).api] := by
  have hanswered : Handler.answered
      (AuthController.asyncHandleHttpRequest (app.loginSurroundings m) jsonBody) s.userStore
        unhandled = _ := AuthController.answered_of_refused h
  simp only [login, hanswered]
  rfl

/-- The answer to such a request has nothing of the tables or the cache. -/
theorem route_snd_of_uninformed {s s' : Service} {call : ApiRequest × Moment}
    (h : Uninformed app s call) (h' : Uninformed app s' call)
    (hscrapes : app.scrapes call.1 = false) :
    (app.route s call.1 call.2).2 = (app.route s' call.1 call.2).2 := by
  unfold route
  cases hfind : app.find call.1.path with
  | none => rfl
  | some found =>
    obtain ⟨route, parts⟩ := found
    simp only
    split
    case isFalse => rfl
    case isTrue =>
      split
      case h_2 => rfl
      case h_1 hnext =>
        have hopen : "AuthFilter" ∉ route.filters := by
          intro hfilter
          unfold doFilters at hnext
          rw [if_pos hfilter] at hnext
          exact h.token hnext
        have hresource : ¬ route.handler.ofResource = true := fun hresource =>
          hopen (filters_of_ofResource (mem_registerRoutes_of_find hfind) hresource)
        cases hhandler : route.handler with
        | health | ready | docs | openapi | swagger => rfl
        | metrics =>
          rw [scrapes, hfind] at hscrapes
          exact absurd hhandler (of_decide_eq_false hscrapes)
        | user | userById | role | roleById =>
          rw [hhandler] at hresource
          exact absurd rfl hresource
        | generateJwt =>
          cases hmethod : call.1.method with
          | post =>
            have hrefused := h.password route parts hfind hhandler hmethod
            have hrefused' := h'.password route parts hfind hhandler hmethod
            simp only [respond, handle, hmethod]
            rw [login_snd_of_refused hrefused, login_snd_of_refused hrefused']
          | _ => simp only [respond, handle, hmethod]

theorem Uninformed.of_users {s t : Service} {call : ApiRequest × Moment}
    (h : Uninformed app s call) (husers : t.users = s.users) : Uninformed app t call where
  token := h.token
  password route parts hfind hhandler hmethod := by
    rw [husers]
    exact h.password route parts hfind hhandler hmethod

/-- Nor has a request for the counters, which shows them. -/
theorem hideCounts_route_of_uninformed {s s' : Service} {call : ApiRequest × Moment}
    (h : Uninformed app s call) (h' : Uninformed app s' call) :
    app.hideCounts call (app.route s call.1 call.2).2 =
        app.hideCounts call (app.route s' call.1 call.2).2 ∧
      (s.counters = s'.counters →
        (app.route s call.1 call.2).2 = (app.route s' call.1 call.2).2) := by
  cases hscrapes : app.scrapes call.1 with
  | false =>
    have hanswers := route_snd_of_uninformed h h' hscrapes
    exact ⟨congrArg (app.hideCounts call) hanswers, fun _ => hanswers⟩
  | true =>
    rcases route_snd_of_scrapes hscrapes call.2 with hmetrics | ⟨answers, hanswers⟩
    · rw [hmetrics, hmetrics]
      refine ⟨hideCounts_metricsHandler hscrapes s s', fun hcounters => ?_⟩
      simp only [metricsHandler, hcounters]
    · rw [hanswers, hanswers]
      exact ⟨rfl, fun _ => rfl⟩

theorem serve_of_uninformed {s s' : Service} (hlimiter : s.limiter = s'.limiter)
    {call : ApiRequest × Moment} (h : Uninformed app s call) (h' : Uninformed app s' call) :
    app.hideCounts call (app.serve s call).2 = app.hideCounts call (app.serve s' call).2 ∧
      (s.counters = s'.counters →
        (app.serve s call).2 = (app.serve s' call).2 ∧
          (app.serve s call).1.counters = (app.serve s' call).1.counters) := by
  unfold serve
  rw [hlimiter]
  split
  case h_1 => exact ⟨rfl, fun hcounters => ⟨rfl, hcounters⟩⟩
  case h_2 limiter _ =>
    have hrouted : Uninformed app (s.routing limiter) call := h.of_users rfl
    have hrouted' : Uninformed app (s'.routing limiter) call := h'.of_users rfl
    obtain ⟨hhidden, hshown⟩ := hideCounts_route_of_uninformed hrouted hrouted'
    refine ⟨hhidden, fun hcounters => ?_⟩
    have hrouting : (s.routing limiter).counters = (s'.routing limiter).counters :=
      congrArg (Scraping.record · .recordRequest) hcounters
    obtain ⟨source, hsource⟩ := app.counters_route call.1 call.2
    rw [hsource, hsource, hshown hrouting, hrouting]
    exact ⟨rfl, rfl⟩

/-- Without a token and without the password of a user a client gets the same answers from
any two services, whatever is in their tables and caches: it does not even learn whether an
email is a user's.  When the counters are the same at first, so are those that it sees. -/
theorem answers_of_uninformed (app : Application) {s s' : Service}
    (hlimiter : s.limiter = s'.limiter) {calls : List (ApiRequest × Moment)}
    (h : ∀ call ∈ calls, Uninformed app s call)
    (h' : ∀ call ∈ calls, Uninformed app s' call) :
    app.withoutCounts.answers s calls = app.withoutCounts.answers s' calls ∧
      (s.counters = s'.counters → app.server.answers s calls = app.server.answers s' calls) := by
  induction calls generalizing s s' with
  | nil => exact ⟨rfl, fun _ => rfl⟩
  | cons call rest ih =>
    have hcall := h call List.mem_cons_self
    have hcall' := h' call List.mem_cons_self
    have htables := tables_serve_of_not_verified hcall.token s
    have htables' := tables_serve_of_not_verified hcall.token s'
    have hnext : (app.serve s call).1.limiter = (app.serve s' call).1.limiter := by
      rw [limiter_serve, limiter_serve, hlimiter]
    obtain ⟨hhidden, hshown⟩ := ih hnext
      (fun other hother =>
        (h other (List.mem_cons_of_mem call hother)).of_users (congrArg Prod.fst htables))
      (fun other hother =>
        (h' other (List.mem_cons_of_mem call hother)).of_users (congrArg Prod.fst htables'))
    obtain ⟨hfirst, hfirstShown⟩ := serve_of_uninformed hlimiter hcall hcall'
    refine ⟨congrArg₂ List.cons hfirst hhidden, fun hcounters => ?_⟩
    obtain ⟨hanswer, hcounted⟩ := hfirstShown hcounters
    exact congrArg₂ List.cons hanswer (hshown hcounted)

/-- A service with a user, whose email a stranger guesses. -/
def adaService : Service :=
  { emptyService with
    users := [{ id := some "d", email := some "ada@x.org", password := some "$2b$12$" }] }

def guess : ApiRequest × Moment :=
  ({ method := .post
     path := "/api/v1/generate-jwt"
     peerAddr := ⟨"10.0.0.1", 9⟩
     jsonBody := some (Json.ofMembers
      [("email", .string "ada@x.org"), ("password", .string "guess")]) }, letterMoment 1)

theorem uninformed_guess {s : Service}
    (hrefused : ∀ m, AuthController.Accepts (letterApplication.loginSurroundings m) s.users
      guess.1.jsonBody = false) :
    ∀ call ∈ [guess, scrape], Uninformed letterApplication s call := by
  intro call hcall
  simp only [List.mem_cons, List.not_mem_nil, or_false] at hcall
  rcases hcall with rfl | rfl
  · have hguess : ¬ letterApplication.Verified guess := by decide +kernel
    exact ⟨hguess, fun _ _ _ _ _ => hrefused _⟩
  · have hscrape : ¬ letterApplication.Verified scrape := by decide +kernel
    exact ⟨hscrape, fun _ _ _ _ hmethod => nomatch hmethod⟩

/-- The guess of a password is answered as if there were no user. -/
theorem answers_of_guess :
    letterApplication.server.answers emptyService [guess, scrape] =
      letterApplication.server.answers adaService [guess, scrape] := by
  have hlimiter : emptyService.limiter = adaService.limiter := rfl
  exact (answers_of_uninformed letterApplication hlimiter (uninformed_guess fun _ => rfl)
    (uninformed_guess fun _ => rfl)).2 rfl

end Application

end DrogonStarter
