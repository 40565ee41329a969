import DrogonStarter.Lib.KeyedRows
import DrogonStarter.Roles.RoleController

/-!
# The by-id endpoints and a record store

What the endpoints for one record are for is `KeyedRows.store`: a map from keys to
records that is read, changed and erased.  This module compares the two.

* `RecordService.Lawful` is what the services share, and `keyed_rowsAfter` keeps the
  keys of a table apart.
* `serve_get`, `serve_update` and `serve_delete` say what the three handlers do.
* `Refines` says that a request is answered as the store answers it, and `FindsRow` that it
  does not ask for, or change, a row that is not there.  `refines_iff_findsRow` is the
  equivalence for one request and `refines_along_iff` the one for runs.
-/

namespace DrogonStarter

open Serving KeyedRows

/-! ## The keys of a table -/

/-- The columns that a service sets leave the primary key to the table, and an update makes
the change to its row. -/
structure RecordService.Lawful {ρ : Type} (service : RecordService ρ)
    (change : Int → Nat → Json → ρ → ρ) : Prop where
  withDefaults : ∀ newId now object,
    (service.table.id (service.table.withDefaults newId now object)).isSome
  assign : ∀ object row, service.table.id (service.table.assign object row) = service.table.id row
  updated : ∀ now salt id input, service.table.id (service.updated now salt id input) = some id
  change : ∀ now salt id input row,
    service.table.assign (service.updated now salt id input) row = change now salt input row

/-- A user after an update: the four fields of the body, the password hashed, and
`updated_at`. -/
def UserService.changed (generateHash : GenerateHash) (now : Int) (salt : Nat) (input : Json)
    (user : Users) : Users :=
  { user with
    firstName := some (field input "first_name").asString
    lastName := some (field input "last_name").asString
    email := some (field input "email").asString
    password := some (generateHash salt (field input "password").asString).val
    updatedAt := some now }

/-- A role after an update: the two fields of the body and `updated_at`. -/
def RoleService.changed (now : Int) (_salt : Nat) (input : Json) (role : Roles) : Roles :=
  { role with
    name := some (UserService.field input "name").asString
    description := some (UserService.field input "description").asString
    updatedAt := some now }

theorem UserService.lawful (generateHash : GenerateHash) :
    (records generateHash).Lawful (changed generateHash) where
  withDefaults newId now object := by
    change (object.id.or (some newId)).isSome = true
    simp
  assign _ _ := rfl
  updated _ _ _ _ := rfl
  change _ _ _ _ _ := rfl

theorem RoleService.lawful : records.Lawful changed where
  withDefaults newId now object := by
    change (object.id.or (some newId)).isSome = true
    simp
  assign _ _ := rfl
  updated _ _ _ _ := rfl
  change _ _ _ _ _ := rfl

namespace RecordService

variable {ρ : Type} {service : RecordService ρ} {change : Int → Nat → Json → ρ → ρ}

theorem keyed_of_create (h : service.Lawful change) {db : Database ρ} {now : Int} {salt : Nat}
    {rows : List ρ} {input : Json} {done : ρ × List ρ} (hrows : Keyed service.table.id rows)
    (hcreate : service.create db now salt rows input = .ok done) :
    Keyed service.table.id done.2 := by
  unfold RecordService.create Mapper.insert at hcreate
  cases hvalid : service.validateInput input with
  | error thrown =>
    rw [hvalid] at hcreate
    cases hcreate
  | ok _ =>
    simp only [hvalid, bind, Except.bind] at hcreate
    split at hcreate
    case isFalse => cases hcreate
    case isTrue hinsertable =>
      cases hcreate
      refine hrows.concat (h.withDefaults _ _ _) fun old hold hsame => ?_
      simp only [Mapper.insertable, Bool.and_eq_true, Bool.not_eq_true', List.any_eq_false,
        Bool.or_eq_true, decide_eq_true_eq, not_or] at hinsertable
      exact (hinsertable.2 old hold).1 hsame

theorem keyed_of_update (h : service.Lawful change) {db : Database ρ} {now : Int} {salt : Nat}
    {rows : List ρ} {id : String} {input : Json} {done : ρ × List ρ}
    (hrows : Keyed service.table.id rows)
    (hupdate : service.update db now salt rows id input = .ok done) :
    Keyed service.table.id done.2 := by
  unfold RecordService.update Mapper.update at hupdate
  cases hvalid : service.validateInput input with
  | error thrown =>
    rw [hvalid] at hupdate
    cases hupdate
  | ok _ =>
    simp only [hvalid, bind, Except.bind] at hupdate
    cases huuid : db.uuid ((service.table.id (service.updated now salt id input)).getD "") with
    | none =>
      rw [huuid] at hupdate
      cases hupdate
    | some key =>
      cases hupdatable : Mapper.updatable service.table db rows key
          (service.updated now salt id input) with
      | false =>
        simp only [huuid, hupdatable, Bool.false_eq_true, if_false] at hupdate
        cases hupdate
      | true =>
        simp only [huuid, hupdatable, if_true] at hupdate
        cases hupdate
        exact hrows.map (h.assign _) key

theorem keyed_of_delete {db : Database ρ} {rows : List ρ} {id : String} {done : Bool × List ρ}
    (hrows : Keyed service.table.id rows) (hdelete : service.delete db rows id = .ok done) :
    Keyed service.table.id done.2 := by
  unfold RecordService.delete Mapper.deleteByPrimaryKey Mapper.execute at hdelete
  cases huuid : db.uuid id with
  | none =>
    rw [huuid] at hdelete
    cases hdelete
  | some key =>
    simp only [huuid, bind, Except.bind] at hdelete
    cases hfailure : db.failure with
    | some what =>
      rw [hfailure] at hdelete
      cases hdelete
    | none =>
      simp only [hfailure] at hdelete
      cases hdelete
      exact hrows.filter _

end RecordService

/-- The id of a request for one record. -/
def RecordRequest.id : RecordRequest → Option String
  | .getRecordById id => some id
  | .updateRecordById id _ => some id
  | .deleteRecordById id => some id
  | .getRecords _ => none
  | .createRecord _ => none

namespace RecordEndpoint

variable {ρ : Type} {endpoint : RecordEndpoint ρ} {change : Int → Nat → Json → ρ → ρ}

/-- No request makes two rows with one key. -/
theorem keyed_rowsAfter (h : endpoint.Lawful change) {rows : List ρ}
    (hrows : Keyed endpoint.table.id rows) (call : RecordRequest × Circumstances ρ) :
    Keyed endpoint.table.id (endpoint.rowsAfter rows call) := by
  obtain ⟨request, env⟩ := call
  unfold rowsAfter
  split
  case isFalse => exact hrows
  case isTrue =>
    cases request with
    | getRecords parameters => exact hrows
    | getRecordById id => exact hrows
    | createRecord jsonBody =>
      simp only
      split
      case h_1 done hdone => exact RecordService.keyed_of_create h hrows hdone
      case h_2 => exact hrows
    | updateRecordById id jsonBody =>
      simp only
      split
      case h_1 done hdone => exact RecordService.keyed_of_update h hrows hdone
      case h_2 => exact hrows
    | deleteRecordById id =>
      simp only
      split
      case h_1 done hdone => exact RecordService.keyed_of_delete hrows hdone
      case h_2 => exact hrows

theorem keyed_next (h : endpoint.Lawful change) (p : Platform) {s : Records ρ}
    (hrows : Keyed endpoint.table.id s.rows) (call : RecordRequest × Circumstances ρ) :
    Keyed endpoint.table.id ((endpoint.server p).next s call).rows := by
  have hnext : ((endpoint.server p).next s call).rows = endpoint.rowsAfter s.rows call :=
    endpoint.rows_serve p s call
  rw [hnext]
  exact keyed_rowsAfter h hrows call

theorem keyed_after (h : endpoint.Lawful change) (p : Platform) {s : Records ρ}
    (hrows : Keyed endpoint.table.id s.rows) (requests : List (RecordRequest × Circumstances ρ)) :
    Keyed endpoint.table.id ((endpoint.server p).after s requests).rows := by
  induction requests generalizing s with
  | nil => exact hrows
  | cons call rest ih => exact ih (keyed_next h p hrows call)

/-! ## The three handlers -/

section Handlers

variable {p : Platform} {s : Records ρ} {env : Circumstances ρ} {id key : String}

/-- A look-up finds the row that the map has for the key, and throws when there is none. -/
theorem findById_eq (hrows : Keyed endpoint.table.id s.rows)
    (hfailure : env.database.failure = none) (hkey : env.database.uuid id = some key) :
    endpoint.findById env.database s.rows id =
      match view endpoint.table.id s.rows key with
      | none => .error (.other "0 rows found")
      | some row => .ok (some row) := by
  unfold RecordService.findById Mapper.findByPrimaryKey
  simp only [hkey, hrows.filter_eq]
  cases hview : view endpoint.table.id s.rows key with
  | none => rfl
  | some row =>
    have hid : endpoint.table.id row = some key := key_of_view hview
    simp only [Option.toList_some, Mapper.execute, hfailure, bind, Except.bind, hid,
      Option.isNone_some, Bool.false_eq_true, if_false]
    rfl

theorem serve_get (hconnected : env.connected = true) (hrows : Keyed endpoint.table.id s.rows)
    (hfailure : env.database.failure = none) (hkey : env.database.uuid id = some key) :
    (endpoint.serve p s (.getRecordById id, env)).2 =
      match view endpoint.table.id s.rows key with
      | none => unhandled
      | some row => handleResponse (endpoint.toPublicJson p row) 200 := by
  have hfind : endpoint.findById env.database s.rows id = _ := findById_eq hrows hfailure hkey
  simp only [serve, dispatch, getRecordById, if_pos hconnected, hfind]
  cases view endpoint.table.id s.rows key <;> rfl

/-- An update without a violated constraint answers 200, whether there is a row or not. -/
theorem update_eq (h : endpoint.Lawful change) (hkey : env.database.uuid id = some key)
    {input : Json} (hvalid : endpoint.validateInput input = .ok ())
    (hupdatable : Mapper.updatable endpoint.table env.database s.rows key
      (endpoint.updated env.now env.salt id input) = true) :
    endpoint.update env.database env.now env.salt s.rows id input =
      .ok (endpoint.updated env.now env.salt id input,
        s.rows.map fun row =>
          if endpoint.table.id row = some key then
            endpoint.table.assign (endpoint.updated env.now env.salt id input) row
          else row) := by
  unfold RecordService.update Mapper.update
  simp only [hvalid, h.updated, Option.getD_some, hkey, hupdatable, bind, Except.bind, if_true]
  rfl

theorem serve_update (h : endpoint.Lawful change) (hconnected : env.connected = true)
    (hkey : env.database.uuid id = some key) {jsonBody : Option Json}
    (hvalid : endpoint.validateInput (jsonBody.getD .null) = .ok ())
    (hupdatable : Mapper.updatable endpoint.table env.database s.rows key
      (endpoint.updated env.now env.salt id (jsonBody.getD .null)) = true) :
    (endpoint.serve p s (.updateRecordById id jsonBody, env)).1.rows =
        (s.rows.map fun row =>
          if endpoint.table.id row = some key then
            change env.now env.salt (jsonBody.getD .null) row
          else row) ∧
      (endpoint.serve p s (.updateRecordById id jsonBody, env)).2.status = 200 := by
  have hupdate := update_eq (s := s) h hkey hvalid hupdatable
  simp only [h.change] at hupdate
  simp only [serve, dispatch, updateRecordById, if_pos hconnected, hupdate]
  exact ⟨rfl, rfl⟩

theorem serve_delete (hconnected : env.connected = true)
    (hrows : Keyed endpoint.table.id s.rows) (hfailure : env.database.failure = none)
    (hkey : env.database.uuid id = some key) :
    (endpoint.serve p s (.deleteRecordById id, env)).1.rows =
        s.rows.filter (endpoint.table.id · ≠ some key) ∧
      (endpoint.serve p s (.deleteRecordById id, env)).2 =
        match view endpoint.table.id s.rows key with
        | none => errorResponse "Record not found" 400
        | some _ => { status := 204, body := none } := by
  have hdelete : endpoint.delete env.database s.rows id =
      .ok (decide ((view endpoint.table.id s.rows key).toList.length ≠ 0),
        s.rows.filter (endpoint.table.id · ≠ some key)) := by
    unfold RecordService.delete Mapper.deleteByPrimaryKey
    simp only [hkey, Mapper.execute, hfailure, bind, Except.bind, hrows.countP_eq]
    rfl
  simp only [serve, dispatch, deleteRecordById, if_pos hconnected, hdelete]
  cases view endpoint.table.id s.rows key <;> exact ⟨rfl, rfl⟩

end Handlers

/-! ## The comparison -/

/-- The request to the store that a request with a well-formed id is about. -/
def storeCall (change : Int → Nat → Json → ρ → ρ) (uuid : String → Option String)
    (call : RecordRequest × Circumstances ρ) : Option (Call ρ String) :=
  match call.1 with
  | .getRecordById id => (uuid id).map .get
  | .updateRecordById id jsonBody =>
    (uuid id).map fun key => .update key (change call.2.now call.2.salt (jsonBody.getD .null))
  | .deleteRecordById id => (uuid id).map .delete
  | .getRecords _ => none
  | .createRecord _ => none

/-- A request for one record with a well-formed id and, if it has a body, a valid one that
violates no constraint of the table.  The database is there and reads ids as `uuid`. -/
structure WellFormed (endpoint : RecordEndpoint ρ) (uuid : String → Option String)
    (s : Records ρ) (call : RecordRequest × Circumstances ρ) : Prop where
  connected : call.2.connected = true
  failure : call.2.database.failure = none
  reading : call.2.database.uuid = uuid
  named : ∃ id key, call.1.id = some id ∧ uuid id = some key
  body : ∀ id jsonBody key, call.1 = .updateRecordById id jsonBody → uuid id = some key →
    endpoint.validateInput (jsonBody.getD .null) = .ok () ∧
      Mapper.updatable endpoint.table call.2.database s.rows key
        (endpoint.updated call.2.now call.2.salt id (jsonBody.getD .null)) = true

/-- The response to a request that the store answers with `reply`. -/
def Answers (endpoint : RecordEndpoint ρ) (p : Platform) (response : HttpResponse) :
    Call ρ String → Reply ρ → Prop
  | .get _, .found record => response = handleResponse (endpoint.toPublicJson p record) 200
  | .get _, _ => response.status = 404
  | .update _ _, .updated => response.status = 200
  | .update _ _, _ => response.status ≠ 200
  | .delete _, .deleted => response.status = 204
  | .delete _, _ => response.status ≠ 204

/-- A request does to the table and answers what the store does and answers.  A read and a
request for a row that is not there leave the table as it is, and no exception leaves the
handler. -/
structure Refines (endpoint : RecordEndpoint ρ) (change : Int → Nat → Json → ρ → ρ)
    (p : Platform) (uuid : String → Option String) (s : Records ρ)
    (call : RecordRequest × Circumstances ρ) : Prop where
  answer : ∀ c, storeCall change uuid call = some c →
    endpoint.Answers p ((endpoint.server p).answer s call) c
      ((store ρ String).answer (view endpoint.table.id s.rows) c)
  rows : ∀ c, storeCall change uuid call = some c →
    view endpoint.table.id ((endpoint.server p).next s call).rows =
      (store ρ String).next (view endpoint.table.id s.rows) c
  unchanged : ∀ c, storeCall change uuid call = some c →
    (view endpoint.table.id s.rows c.key = none ∨ ∃ key, c = .get key) →
      ((endpoint.server p).next s call).rows = s.rows
  caught : (endpoint.server p).answer s call ≠ unhandled

/-- A request that reads or changes a record names one that is there. -/
def FindsRow (endpoint : RecordEndpoint ρ) (uuid : String → Option String) (s : Records ρ)
    (call : RecordRequest × Circumstances ρ) : Prop :=
  match call.1 with
  | .getRecordById id => ∃ key, uuid id = some key ∧ (view endpoint.table.id s.rows key).isSome
  | .updateRecordById id _ =>
    ∃ key, uuid id = some key ∧ (view endpoint.table.id s.rows key).isSome
  | .deleteRecordById _ => True
  | .getRecords _ => True
  | .createRecord _ => True

section Comparison

variable {p : Platform} {uuid : String → Option String} {s : Records ρ}

/-- A read refines the store exactly when it finds its row. -/
theorem refines_get_iff {id key : String} {env : Circumstances ρ}
    (hrows : Keyed endpoint.table.id s.rows) (hconnected : env.connected = true)
    (hfailure : env.database.failure = none) (hreading : env.database.uuid = uuid)
    (hkey : uuid id = some key) :
    Refines endpoint change p uuid s (.getRecordById id, env) ↔
      (view endpoint.table.id s.rows key).isSome := by
  have hcall : storeCall change uuid (.getRecordById id, env) = some (.get key) := by
    simp only [storeCall, hkey, Option.map_some]
  have hrowsNext : ((endpoint.server p).next s (.getRecordById id, env)).rows = s.rows := by
    refine (endpoint.rows_serve p s _).trans ?_
    simp only [rowsAfter, ite_self]
  have hanswer : (endpoint.server p).answer s (.getRecordById id, env) = _ :=
    serve_get (p := p) hconnected hrows hfailure (hreading ▸ hkey)
  cases hview : view endpoint.table.id s.rows key with
  | none =>
    refine iff_of_false (fun h => h.caught ?_) (by simp)
    rw [hanswer, hview]
  | some row =>
    rw [hview] at hanswer
    refine iff_of_true ⟨?_, ?_, ?_, ?_⟩ rfl
    · intro c hc
      cases hcall.symm.trans hc
      simp only [store, reply, Call.key, hview, Answers, hanswer]
    · intro c hc
      cases hcall.symm.trans hc
      rw [hrowsNext]
      rfl
    · intro c hc _
      exact hrowsNext
    · rw [hanswer]
      simp [handleResponse, unhandled]

/-- An update refines the store exactly when it finds its row: it answers 200 in any case. -/
theorem refines_update_iff (h : endpoint.Lawful change) {id key : String} {jsonBody : Option Json}
    {env : Circumstances ρ} (hconnected : env.connected = true)
    (hreading : env.database.uuid = uuid) (hkey : uuid id = some key)
    (hvalid : endpoint.validateInput (jsonBody.getD .null) = .ok ())
    (hupdatable : Mapper.updatable endpoint.table env.database s.rows key
      (endpoint.updated env.now env.salt id (jsonBody.getD .null)) = true) :
    Refines endpoint change p uuid s (.updateRecordById id jsonBody, env) ↔
      (view endpoint.table.id s.rows key).isSome := by
  have hcall : storeCall change uuid (.updateRecordById id jsonBody, env) =
      some (.update key (change env.now env.salt (jsonBody.getD .null))) := by
    simp only [storeCall, hkey, Option.map_some]
  obtain ⟨hrowsNext, hstatus⟩ := serve_update (p := p) h hconnected (hreading ▸ hkey) hvalid
    hupdatable
  cases hview : view endpoint.table.id s.rows key with
  | none =>
    refine iff_of_false (fun hrefines => ?_) (by simp)
    have hanswer := hrefines.answer _ hcall
    simp only [store, reply, Call.key, hview, Answers] at hanswer
    exact hanswer hstatus
  | some row =>
    refine iff_of_true ⟨?_, ?_, ?_, ?_⟩ rfl
    · intro c hc
      cases hcall.symm.trans hc
      simp only [store, reply, Call.key, hview, Answers]
      exact hstatus
    · intro c hc
      cases hcall.symm.trans hc
      have hkeys : ∀ row, endpoint.table.id (change env.now env.salt (jsonBody.getD .null) row) =
          endpoint.table.id row := by
        intro row
        rw [← h.change env.now env.salt id, h.assign]
      exact (congrArg (view endpoint.table.id) hrowsNext).trans (view_map hkeys s.rows key)
    · intro c hc habsent
      cases hcall.symm.trans hc
      simp only [Call.key, hview, reduceCtorEq, exists_false, or_self] at habsent
    · intro hunhandled
      have hstatus' : unhandled.status = 200 := hunhandled ▸ hstatus
      cases hstatus'

/-- A deletion always refines the store. -/
theorem refines_delete {id key : String} {env : Circumstances ρ}
    (hrows : Keyed endpoint.table.id s.rows) (hconnected : env.connected = true)
    (hfailure : env.database.failure = none) (hreading : env.database.uuid = uuid)
    (hkey : uuid id = some key) : Refines endpoint change p uuid s (.deleteRecordById id, env) := by
  have hcall : storeCall change uuid (.deleteRecordById id, env) = some (.delete key) := by
    simp only [storeCall, hkey, Option.map_some]
  obtain ⟨hrowsNext, hresponse⟩ := serve_delete (p := p) hconnected hrows hfailure
    (hreading ▸ hkey)
  have hanswer : (endpoint.server p).answer s (.deleteRecordById id, env) = _ := hresponse
  refine ⟨?_, ?_, ?_, ?_⟩
  · intro c hc
    cases hcall.symm.trans hc
    rw [hanswer]
    simp only [store, reply, Call.key]
    cases view endpoint.table.id s.rows key with
    | none => simp [Answers, errorResponse, handleResponse]
    | some row => rfl
  · intro c hc
    cases hcall.symm.trans hc
    exact (congrArg (view endpoint.table.id) hrowsNext).trans (view_filter s.rows key)
  · intro c hc habsent
    cases hcall.symm.trans hc
    rcases habsent with hview | ⟨other, hget⟩
    · exact hrowsNext.trans (filter_of_view_none hview)
    · cases hget
  · rw [hanswer]
    cases view endpoint.table.id s.rows key <;> simp [errorResponse, handleResponse, unhandled]

/-- One request refines the store exactly when it finds the row that it reads or changes. -/
theorem refines_iff_findsRow (h : endpoint.Lawful change) (hrows : Keyed endpoint.table.id s.rows)
    {call : RecordRequest × Circumstances ρ} (hwell : WellFormed endpoint uuid s call) :
    Refines endpoint change p uuid s call ↔ FindsRow endpoint uuid s call := by
  obtain ⟨request, env⟩ := call
  obtain ⟨id, key, hid, hkey⟩ := hwell.named
  cases request with
  | getRecords parameters => cases hid
  | createRecord jsonBody => cases hid
  | getRecordById id' =>
    cases hid
    rw [refines_get_iff hrows hwell.connected hwell.failure hwell.reading hkey]
    simp [FindsRow, hkey]
  | updateRecordById id' jsonBody =>
    cases hid
    obtain ⟨hvalid, hupdatable⟩ := hwell.body id jsonBody key rfl hkey
    rw [refines_update_iff h hwell.connected hwell.reading hkey hvalid hupdatable]
    simp [FindsRow, hkey]
  | deleteRecordById id' =>
    cases hid
    exact iff_of_true (refines_delete hrows hwell.connected hwell.failure hwell.reading hkey)
      trivial

/-- The requests of a run refine the store exactly when they find their rows. -/
theorem refines_along_iff (h : endpoint.Lawful change) (hrows : Keyed endpoint.table.id s.rows)
    {requests : List (RecordRequest × Circumstances ρ)}
    (hwell : (endpoint.server p).Along (WellFormed endpoint uuid) s requests) :
    (endpoint.server p).Along (Refines endpoint change p uuid) s requests ↔
      (endpoint.server p).Along (FindsRow endpoint uuid) s requests := by
  induction requests generalizing s with
  | nil => exact Iff.rfl
  | cons call rest ih =>
    obtain ⟨hcall, hrest⟩ := hwell
    exact and_congr (refines_iff_findsRow h hrows hcall) (ih (keyed_next h p hrows call) hrest)

end Comparison

end RecordEndpoint

/-! ## The two resources -/

/-- Every request of a run is well formed in the table that it finds. -/
abbrev RecordEndpoint.RunWellFormed {ρ : Type} (endpoint : RecordEndpoint ρ) (p : Platform)
    (uuid : String → Option String) (s : Records ρ)
    (requests : List (RecordRequest × Circumstances ρ)) : Prop :=
  (endpoint.server p).Along (WellFormed endpoint uuid) s requests

/-- Every request of a run refines the store. -/
abbrev RecordEndpoint.RunRefines {ρ : Type} (endpoint : RecordEndpoint ρ)
    (change : Int → Nat → Json → ρ → ρ) (p : Platform) (uuid : String → Option String)
    (s : Records ρ) (requests : List (RecordRequest × Circumstances ρ)) : Prop :=
  (endpoint.server p).Along (Refines endpoint change p uuid) s requests

/-- Every read and update of a run finds its row. -/
abbrev RecordEndpoint.RunFindsRows {ρ : Type} (endpoint : RecordEndpoint ρ) (p : Platform)
    (uuid : String → Option String) (s : Records ρ)
    (requests : List (RecordRequest × Circumstances ρ)) : Prop :=
  (endpoint.server p).Along (FindsRow endpoint uuid) s requests

/-- From every table that earlier requests can leave, a run of the user endpoints for one
record refines the store exactly when each of its reads and updates finds its row, and so does
a run of the role endpoints. -/
theorem recordStore_refined_iff (p : Platform) (generateHash : GenerateHash)
    (uuid : String → Option String) :
    (∀ (start : Records Users) (earlier requests : List (RecordRequest × Circumstances Users)),
      Keyed Users.table.id start.rows →
      (UserController.endpoint generateHash).RunWellFormed p uuid
        (((UserController.endpoint generateHash).server p).after start earlier) requests →
      ((UserController.endpoint generateHash).RunRefines (UserService.changed generateHash) p uuid
          (((UserController.endpoint generateHash).server p).after start earlier) requests ↔
        (UserController.endpoint generateHash).RunFindsRows p uuid
          (((UserController.endpoint generateHash).server p).after start earlier) requests)) ∧
    ∀ (start : Records Roles) (earlier requests : List (RecordRequest × Circumstances Roles)),
      Keyed Roles.table.id start.rows →
      RoleController.endpoint.RunWellFormed p uuid
        ((RoleController.endpoint.server p).after start earlier) requests →
      (RoleController.endpoint.RunRefines RoleService.changed p uuid
          ((RoleController.endpoint.server p).after start earlier) requests ↔
        RoleController.endpoint.RunFindsRows p uuid
          ((RoleController.endpoint.server p).after start earlier) requests) := by
  constructor
  · intro start earlier requests hstart hwell
    have hlawful : (UserController.endpoint generateHash).Lawful
        (UserService.changed generateHash) := UserService.lawful generateHash
    exact RecordEndpoint.refines_along_iff hlawful
      (RecordEndpoint.keyed_after hlawful p hstart earlier) hwell
  · intro start earlier requests hstart hwell
    have hlawful : RoleController.endpoint.Lawful RoleService.changed := RoleService.lawful
    exact RecordEndpoint.refines_along_iff hlawful
      (RecordEndpoint.keyed_after hlawful p hstart earlier) hwell

def adaId : String := "7d793037-a076-4018-9d1d-1c7dd1f4e1a5"

def letterRole : Json :=
  .object [("description", .string "May read"), ("name", .string "reader")]

/-- Reading a user, and deleting it twice; renaming a role. -/
theorem recordStore_refined_iff_letters :
    (UserController.endpoint default).RunRefines (UserService.changed default) compactPlatform some
      { rows := [{ id := some adaId }, { id := some "b" }] }
      [(.getRecordById adaId, letterCircumstances Users),
        (.deleteRecordById adaId, letterCircumstances Users),
        (.deleteRecordById adaId, letterCircumstances Users)] ∧
    RoleController.endpoint.RunRefines RoleService.changed compactPlatform some
      { rows := [{ id := some adaId }] }
      [(.updateRecordById adaId (some letterRole), letterCircumstances Roles)] := by
  have hboth := recordStore_refined_iff compactPlatform default some
  constructor
  · refine (hboth.1 _ [] _ ⟨by decide, by decide⟩ ?_).2
      ⟨⟨adaId, rfl, rfl⟩, trivial, trivial, trivial⟩
    exact ⟨⟨rfl, rfl, rfl, ⟨adaId, adaId, rfl, rfl⟩, nofun⟩,
      ⟨rfl, rfl, rfl, ⟨adaId, adaId, rfl, rfl⟩, nofun⟩,
      ⟨rfl, rfl, rfl, ⟨adaId, adaId, rfl, rfl⟩, nofun⟩, trivial⟩
  · refine (hboth.2 _ [] _ ⟨by decide, by decide⟩ ?_).2 ⟨⟨adaId, rfl, rfl⟩, trivial⟩
    refine ⟨⟨rfl, rfl, rfl, ⟨adaId, adaId, rfl, rfl⟩, ?_⟩, trivial⟩
    intro id jsonBody key hrequest hkey
    cases hrequest
    cases hkey
    exact ⟨rfl, by decide +kernel⟩

/-- Reading a user that is not there: the exception of the mapper leaves the handler, and the
response is not a 404. -/
theorem absent_get_escapes :
    ¬ ∀ (start : Records Users) (requests : List (RecordRequest × Circumstances Users)),
      Keyed Users.table.id start.rows →
      (UserController.endpoint default).RunWellFormed compactPlatform some start requests →
      (UserController.endpoint default).RunRefines (UserService.changed default) compactPlatform
        some start requests := by
  intro hall
  have hrefines := hall { rows := [] } [(.getRecordById adaId, letterCircumstances Users)] .nil
    ⟨⟨rfl, rfl, rfl, ⟨adaId, adaId, rfl, rfl⟩, nofun⟩, trivial⟩
  exact hrefines.1.caught rfl

end DrogonStarter
