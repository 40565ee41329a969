import DrogonStarter.Lib.Handler
import DrogonStarter.Records.RecordEndpoint

/-!
# The handlers of one record with a callback

`createRecord`, `updateRecordById`, `getRecordById` and `deleteRecordById` say what a request
leaves and answers.  The handlers here say how: through a callback, with the call of the service,
the erasing of the pages and the answer.  The two with a body have a `try` block.

* `RecordEndpoint.writing` is the shape of those two.
* `answers_createHandler` and `answers_updateHandler` say that a handler answers once,
  whatever the service does, and that no exception leaves it.
* `serves_getHandler` and `serves_deleteHandler` say what the caller of the other two sees,
  where it answers for an exception.
* `answers_of_refused` is the answer to a body that the service refuses.
-/

namespace DrogonStarter

open Serving

namespace RecordEndpoint

variable {ρ : Type} (endpoint : RecordEndpoint ρ)

/-- A handler that writes a record.  The call of the service, the erasing of the pages and
the answer are in the `try` block. -/
def writing (p : Platform) (env : Circumstances ρ)
    (write : List ρ → Except Thrown (ρ × List ρ)) (status : Nat)
    (refused failed : HttpResponse) : Handler Thrown (Records ρ) HttpResponse Unit :=
  if env.connected then
    tryCatch
      (do
        let record ← Handler.command fun s =>
          (write s.rows).map fun done => (done.1, { s with rows := done.2 })
        Handler.change fun s =>
          { s with redis := RedisCache.erasePrefix env.redis s.redis endpoint.stem }
        Handler.callback (handleResponse (endpoint.toJson p record) status))
      fun
        | .invalidArgument _ => Handler.callback refused
        | .other _ => Handler.callback failed
  else Handler.callback UserController.unableToConnect

def createHandler (p : Platform) (env : Circumstances ρ) (jsonBody : Option Json) :
    Handler Thrown (Records ρ) HttpResponse Unit :=
  endpoint.writing p env
    (fun rows => endpoint.create env.database env.now env.salt rows (jsonBody.getD .null))
    201 endpoint.createRefused endpoint.createFailed

def updateHandler (p : Platform) (env : Circumstances ρ) (id : String)
    (jsonBody : Option Json) : Handler Thrown (Records ρ) HttpResponse Unit :=
  endpoint.writing p env
    (fun rows => endpoint.update env.database env.now env.salt rows id (jsonBody.getD .null))
    200 endpoint.updateRefused endpoint.updateFailed

/-- What a write leaves and answers, from the result of the service. -/
def outcome (p : Platform) (env : Circumstances ρ) (status : Nat)
    (refused failed : HttpResponse) (s : Records ρ) (result : Except Thrown (ρ × List ρ)) :
    Records ρ × HttpResponse :=
  if env.connected then
    match result with
    | .ok (record, rows) =>
      (endpoint.written s env rows, handleResponse (endpoint.toJson p record) status)
    | .error (.invalidArgument _) => (s, refused)
    | .error (.other _) => (s, failed)
  else (s, UserController.unableToConnect)

/-- A write answers once, and no exception leaves it. -/
theorem answers_writing (p : Platform) (env : Circumstances ρ)
    (write : List ρ → Except Thrown (ρ × List ρ)) (status : Nat)
    (refused failed : HttpResponse) (s : Records ρ) :
    Handler.Answers (endpoint.writing p env write status refused failed) s
      (endpoint.outcome p env status refused failed s (write s.rows)).2
      (endpoint.outcome p env status refused failed s (write s.rows)).1 := by
  unfold writing outcome
  by_cases hconnected : env.connected = true
  case neg =>
    simp only [if_neg hconnected]
    exact Handler.answers_callback UserController.unableToConnect s
  case pos =>
    simp only [if_pos hconnected]
    cases hwrite : write s.rows with
    | ok done =>
      refine Handler.Answers.tryCatch ?_ _
      refine Handler.answers_command_bind (s := s) (by rw [hwrite]; rfl) ?_
      exact Handler.answers_change_bind (Handler.answers_callback _ _)
    | error thrown =>
      refine Handler.Escapes.tryCatch
        (Handler.escapes_command_bind (s := s) (by rw [hwrite]; rfl) _) ?_
      cases thrown with
      | invalidArgument what => exact Handler.answers_callback refused s
      | other what => exact Handler.answers_callback failed s

/-- The create handler does what `createRecord` says, with one answer. -/
theorem answers_createHandler (p : Platform) (env : Circumstances ρ) (jsonBody : Option Json)
    (s : Records ρ) :
    Handler.Answers (endpoint.createHandler p env jsonBody) s
      (endpoint.createRecord p s env jsonBody).2 (endpoint.createRecord p s env jsonBody).1 :=
  endpoint.answers_writing p env
    (fun rows => endpoint.create env.database env.now env.salt rows (jsonBody.getD .null))
    201 endpoint.createRefused endpoint.createFailed s

/-- The update handler does what `updateRecordById` says, with one answer. -/
theorem answers_updateHandler (p : Platform) (env : Circumstances ρ) (id : String)
    (jsonBody : Option Json) (s : Records ρ) :
    Handler.Answers (endpoint.updateHandler p env id jsonBody) s
      (endpoint.updateRecordById p s env id jsonBody).2
      (endpoint.updateRecordById p s env id jsonBody).1 :=
  endpoint.answers_writing p env
    (fun rows => endpoint.update env.database env.now env.salt rows id (jsonBody.getD .null))
    200 endpoint.updateRefused endpoint.updateFailed s

/-! ## The handlers without a `try` block -/

def getHandler (p : Platform) (env : Circumstances ρ) (id : String) :
    Handler Thrown (Records ρ) HttpResponse Unit :=
  if env.connected then do
    let record ← Handler.query fun s => endpoint.findById env.database s.rows id
    match record with
    | none => Handler.callback (errorResponse "Record not found" 404)
    | some record => Handler.callback (handleResponse (endpoint.toPublicJson p record) 200)
  else Handler.callback UserController.unableToConnect

def deleteHandler (env : Circumstances ρ) (id : String) :
    Handler Thrown (Records ρ) HttpResponse Unit :=
  if env.connected then do
    let deleted ← Handler.command fun s =>
      (endpoint.delete env.database s.rows id).map fun done => (done.1, { s with rows := done.2 })
    Handler.change fun s =>
      { s with redis := RedisCache.erasePrefix env.redis s.redis endpoint.stem }
    if deleted then Handler.callback { status := 204, body := none }
    else Handler.callback (errorResponse "Record not found" 400)
  else Handler.callback UserController.unableToConnect

/-- An exception of the query is answered by the framework, and so is nothing else. -/
theorem serves_getHandler (p : Platform) (env : Circumstances ρ) (id : String) (s : Records ρ) :
    Handler.Serves (endpoint.getHandler p env id) s unhandled
      (endpoint.getRecordById p s env id).2 (endpoint.getRecordById p s env id).1 := by
  unfold getHandler getRecordById
  by_cases hconnected : env.connected = true
  case neg =>
    rw [if_neg hconnected, if_neg hconnected]
    exact (Handler.answers_callback _ s).serves unhandled
  case pos =>
    rw [if_pos hconnected, if_pos hconnected]
    cases hfound : endpoint.findById env.database s.rows id with
    | error thrown => exact (Handler.escapes_query_bind (s := s) hfound _).serves unhandled
    | ok record =>
      refine (Handler.answers_query_bind (s := s) hfound ?_).serves unhandled
      cases record <;> exact Handler.answers_callback _ s

theorem serves_deleteHandler (env : Circumstances ρ) (id : String) (s : Records ρ) :
    Handler.Serves (endpoint.deleteHandler env id) s unhandled
      (endpoint.deleteRecordById s env id).2 (endpoint.deleteRecordById s env id).1 := by
  unfold deleteHandler deleteRecordById
  by_cases hconnected : env.connected = true
  case neg =>
    rw [if_neg hconnected, if_neg hconnected]
    exact (Handler.answers_callback _ s).serves unhandled
  case pos =>
    rw [if_pos hconnected, if_pos hconnected]
    cases hdelete : endpoint.delete env.database s.rows id with
    | error thrown =>
      exact (Handler.escapes_command_bind (s := s) (by rw [hdelete]; rfl) _).serves unhandled
    | ok done =>
      obtain ⟨deleted, rows⟩ := done
      refine (Handler.answers_command_bind (s := s)
        (?_ : _ = Except.ok ((deleted, { s with rows }) : Bool × Records ρ))
        (Handler.answers_change_bind ?_)).serves unhandled
      · rw [hdelete]
        rfl
      · cases deleted <;> exact Handler.answers_callback _ _

/-! ## Refused bodies -/

/-- A body that the service refuses is refused before anything else happens. -/
theorem answers_of_refused (p : Platform) (env : Circumstances ρ)
    (hconnected : env.connected = true) {jsonBody : Option Json} {what : String}
    (hrefused : endpoint.validateInput (jsonBody.getD .null) = .error (.invalidArgument what))
    (id : String) (s : Records ρ) :
    Handler.Answers (endpoint.createHandler p env jsonBody) s endpoint.createRefused s ∧
      Handler.Answers (endpoint.updateHandler p env id jsonBody) s endpoint.updateRefused s := by
  have hcreate : endpoint.createRecord p s env jsonBody = (s, endpoint.createRefused) := by
    unfold createRecord RecordService.create
    rw [if_pos hconnected, hrefused]
    rfl
  have hupdate : endpoint.updateRecordById p s env id jsonBody = (s, endpoint.updateRefused) := by
    unfold updateRecordById RecordService.update
    rw [if_pos hconnected, hrefused]
    rfl
  have hcreated := endpoint.answers_createHandler p env jsonBody s
  have hupdated := endpoint.answers_updateHandler p env id jsonBody s
  rw [hcreate] at hcreated
  rw [hupdate] at hupdated
  exact ⟨hcreated, hupdated⟩

end RecordEndpoint

end DrogonStarter
