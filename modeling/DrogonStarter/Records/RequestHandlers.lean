import DrogonStarter.Records.ListHandlers
import DrogonStarter.Records.RecordHandler

/-!
# The five handlers of a resource

The handlers of `ListHandlers` and `RecordHandler` on the table and the cache of one resource,
and what the caller of each sees.

* `listHandler` runs a list handler on the table and the cache, and stores what it sets.
* `RecordEndpoint.handler` is the handler of a request, and `serves_handler` says that its
  caller sees one answer and the state that `dispatch` says.
* `UserController.handler` and `RoleController.handler` are those of the two resources.
-/

namespace DrogonStarter

open Serving

namespace RecordEndpoint

variable {ρ : Type} (endpoint : RecordEndpoint ρ)

/-- A list handler whose collaborators are the table and the cache. -/
def listHandler (list : Collaborators ρ → (String → Option String) → ListHandler) (p : Platform)
    (env : Circumstances ρ) (parameters : String → Option String) :
    Handler Thrown (Records ρ) HttpResponse Unit := fun session =>
  match (list (endpoint.collaborators p session.store env) parameters).run { store := [] } with
  | .ok _ done =>
    .ok () ⟨done.store.foldl (Access.perform env) session.store, session.sent ++ done.sent⟩
  | .error thrown done =>
    .error thrown
      ⟨done.store.foldl (Access.perform env) session.store, session.sent ++ done.sent⟩

/-- The handler of a request, with the list handler of the resource. -/
def handler (list : Collaborators ρ → (String → Option String) → ListHandler) (p : Platform)
    (env : Circumstances ρ) : RecordRequest → Handler Thrown (Records ρ) HttpResponse Unit
  | .getRecords parameters => endpoint.listHandler list p env parameters
  | .getRecordById id => endpoint.getHandler p env id
  | .createRecord jsonBody => endpoint.createHandler p env jsonBody
  | .updateRecordById id jsonBody => endpoint.updateHandler p env id jsonBody
  | .deleteRecordById id => endpoint.deleteHandler env id

/-- A list handler that answers once answers once on the table and the cache. -/
theorem answers_listHandler
    {list : Collaborators ρ → (String → Option String) → ListHandler} {p : Platform}
    {env : Circumstances ρ} {parameters : String → Option String} {s next : Records ρ}
    {answer : HttpResponse} {accesses : List Access}
    (hanswered : (list (endpoint.collaborators p s env) parameters).answered =
      some ([answer], accesses))
    (hnext : accesses.foldl (Access.perform env) s = next) :
    Handler.Answers (endpoint.listHandler list p env parameters) s answer next := by
  intro sent
  unfold ListHandler.answered at hanswered
  change endpoint.listHandler list p env parameters ⟨s, sent⟩ = _
  unfold listHandler
  cases hrun : (list (endpoint.collaborators p s env) parameters).run { store := [] } with
  | error thrown done =>
    rw [hrun] at hanswered
    cases hanswered
  | ok value done =>
    rw [hrun] at hanswered
    obtain ⟨hsent, hstore⟩ := Prod.mk.inj (Option.some.inj hanswered)
    simp only [hsent, hstore, hnext]

/-- The caller of a handler sees one answer, whatever the service, the database and Redis do. -/
theorem serves_handler {list : Collaborators ρ → (String → Option String) → ListHandler}
    {p : Platform} {env : Circumstances ρ} {s : Records ρ}
    (hlist : ∀ parameters, Handler.Answers (endpoint.listHandler list p env parameters) s
      (endpoint.getRecords p s env parameters).2 (endpoint.getRecords p s env parameters).1)
    (request : RecordRequest) :
    Handler.Serves (endpoint.handler list p env request) s unhandled
      (endpoint.dispatch p s env request).2 (endpoint.dispatch p s env request).1 := by
  cases request with
  | getRecords parameters => exact (hlist parameters).serves unhandled
  | getRecordById id => exact endpoint.serves_getHandler p env id s
  | createRecord jsonBody =>
    exact (endpoint.answers_createHandler p env jsonBody s).serves unhandled
  | updateRecordById id jsonBody =>
    exact (endpoint.answers_updateHandler p env id jsonBody s).serves unhandled
  | deleteRecordById id => exact endpoint.serves_deleteHandler env id s

end RecordEndpoint

/-! ## The two resources -/

/-- The handler of a request to `UserController`. -/
def UserController.handler (p : Platform) (generateHash : GenerateHash)
    (env : Circumstances Users) :
    RecordRequest → Handler Thrown (Records Users) HttpResponse Unit :=
  (endpoint generateHash).handler getUsersHandler p env

theorem UserController.serves_handler (p : Platform) (generateHash : GenerateHash)
    (env : Circumstances Users) (s : Records Users) (request : RecordRequest) :
    Handler.Serves (handler p generateHash env request) s unhandled
      ((endpoint generateHash).dispatch p s env request).2
      ((endpoint generateHash).dispatch p s env request).1 := by
  refine (endpoint generateHash).serves_handler (fun parameters => ?_) request
  obtain ⟨accesses, hanswered, hnext⟩ := answers_getUsersHandler generateHash p s env parameters
  exact (endpoint generateHash).answers_listHandler hanswered hnext

/-- The handler of a request to `RoleController`. -/
def RoleController.handler (p : Platform) (env : Circumstances Roles) :
    RecordRequest → Handler Thrown (Records Roles) HttpResponse Unit :=
  endpoint.handler getRolesHandler p env

theorem RoleController.serves_handler (p : Platform) (env : Circumstances Roles)
    (s : Records Roles) (request : RecordRequest) :
    Handler.Serves (handler p env request) s unhandled (dispatch p s env request).2
      (dispatch p s env request).1 := by
  rw [dispatch_eq]
  refine endpoint.serves_handler (fun parameters => ?_) request
  obtain ⟨accesses, hanswered, hnext⟩ := answers_getRolesHandler p s env parameters
  exact endpoint.answers_listHandler hanswered hnext

end DrogonStarter
