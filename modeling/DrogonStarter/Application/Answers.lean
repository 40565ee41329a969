import DrogonStarter.Application.Resources

/-!
# One answer for each request

A handler that answers twice, or not at all, is a fault of a server with callbacks.  The handlers
of the resources call back once on each of their paths, or throw before they do.  The login
answers for each user whom it finds, so it is the table that makes its answer one.

* `exists_answer_users`, `exists_answer_roles` and `exists_answer_login` are the handlers.
* `exists_answer_handle` is one handler with a method of its route, and `exists_answer_serve`
  one call.
* `every_call_is_answered_once` is the run, in which the emails stay apart.
-/

namespace DrogonStarter

open Observability Serving

namespace Application

variable {app : Application}

theorem exists_answer_login {s : Service} (hdistinct : DistinctBy Users.email s.users) (m : Moment)
    (jsonBody : Option Json) : ∃ answer, (app.login s m jsonBody).2 = [answer] := by
  obtain ⟨answer, hanswered⟩ := AuthController.answered_of_distinct (app.loginSurroundings m)
    s.userStore hdistinct jsonBody
  exact ⟨answer.api, congrArg (List.map HttpResponse.api) hanswered⟩

theorem exists_answer_users (s : Service) (m : Moment) (request : UserRequest) :
    ∃ answer, (app.users s m request).2 = [answer] := by
  rw [users_eq]
  exact ⟨_, rfl⟩

theorem exists_answer_roles (s : Service) (m : Moment) (request : RecordRequest) :
    ∃ answer, (app.roles s m request).2 = [answer] := by
  rw [roles_eq]
  exact ⟨_, rfl⟩

/-- The handler of a route has a branch for each of its methods, and answers there. -/
theorem exists_answer_handle {s : Service} (hdistinct : DistinctBy Users.email s.users)
    {route : Route} (hroute : route ∈ registerRoutes) {request : ApiRequest}
    (hmethod : request.method ∈ route.methods) (m : Moment) (parts : List String) :
    ∃ answer, (app.handle s request m parts route.handler).2 = [answer] := by
  obtain ⟨method, path, peerAddr, authorization, parameters, jsonBody⟩ := request
  simp only [registerRoutes, List.mem_cons, List.not_mem_nil, or_false] at hroute
  rcases hroute with rfl | rfl | rfl | rfl | rfl | rfl | rfl | rfl | rfl | rfl | rfl | rfl <;>
    cases method <;>
      first
      | exact exists_answer_users s m _
      | exact exists_answer_roles s m _
      | exact ⟨_, rfl⟩
      | exact exists_answer_login hdistinct m jsonBody
      | exact absurd (List.elem_eq_true_of_mem hmethod) Bool.false_ne_true

/-- One call. -/
theorem exists_answer_serve {s : Service} (hdistinct : DistinctBy Users.email s.users)
    (call : ApiRequest × Moment) : ∃ answer, (app.serve s call).2 = [answer] := by
  rcases app.serve_cases s call with ⟨refused, _, hserve, _, _⟩ | ⟨limiter, hserve, _⟩
  · rw [hserve]
    exact ⟨refused.api, rfl⟩
  · rw [hserve]
    unfold Application.route
    split
    case h_1 => exact ⟨_, rfl⟩
    case h_2 route parts hfind =>
      split
      case isFalse => exact ⟨_, rfl⟩
      case isTrue hmethod =>
        split
        case h_1 =>
          exact exists_answer_handle (s := s.routing limiter) hdistinct
            (mem_registerRoutes_of_find hfind) hmethod call.2 parts
        case h_2 => exact ⟨_, rfl⟩

/-- From a table with distinct ids and emails, every call of a run gets one answer. -/
theorem every_call_is_answered_once {s : Service} (h : SoundUsers s)
    (calls : List (ApiRequest × Moment)) :
    ∀ answers ∈ app.server.answers s calls, ∃ answer, answers = [answer] :=
  Server.answers_forall SoundUsers (fun _ call hs (_ : True) => soundUsers_serve hs call)
    (fun _ call hs _ => exists_answer_serve hs.emails call) h
    ((Server.along_iff_splits _).2 fun _ _ _ _ => trivial)

/-- The login of a new user, after a deletion that a stranger asked for. -/
theorem every_call_is_answered_once_of_ada :
    ∃ answer, letterApplication.server.answer
      (letterApplication.server.after emptyService [createAda, strangerDeletesAda]) loginAda =
        [answer] :=
  @every_call_is_answered_once letterApplication emptyService ⟨.nil, .nil⟩
    [createAda, strangerDeletesAda, loginAda] _
    (Server.answer_mem_answers emptyService [createAda, strangerDeletesAda] loginAda [])

end Application

end DrogonStarter
