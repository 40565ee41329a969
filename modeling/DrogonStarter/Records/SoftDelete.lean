import DrogonStarter.Roles.RoleController

/-!
# The columns of a soft deletion

The schema has `is_deleted` and `deleted_at` in both tables.  The service deletes rows for
good, so a row that is there is live, and the two columns should say so.

* `seed` is what the seed file does to the roles, and `serviceTables` is the server of the seed
  and of the requests of both resources.
* `SoftDelete` names the two columns of a table, and `SoftDelete.Kept` is what the proofs use
  of a service.
* `Live` is what the calls keep that insert nothing, and `not_consistent_of_inserts` what a
  create leaves that does.
* `consistent_along_iff` says that the columns agree in every state of a run exactly if none of
  its requests inserts a row.
-/

namespace DrogonStarter

open Serving

/-! ## The two tables -/

structure ServiceTables where
  users : List Users := []
  roles : List Roles := []

/-- The role of the seed file. -/
def seedRole : Roles where
  name := some "admin"
  description := some "Full service administrator"

/-- The first statement of the seed file, an `INSERT` with `ON CONFLICT (name) DO UPDATE`.  A
file that fails changes nothing. -/
def seed (db : Database Roles) (rows : List Roles) : List Roles :=
  if db.failure.isSome then rows
  else if rows.any (decide <| ·.name = seedRole.name) then
    rows.map fun row =>
      if row.name = seedRole.name then
        { row with
          description := seedRole.description
          updatedAt := some db.now
          isDeleted := some false }
      else row
  else
    match Mapper.insert Roles.table db rows seedRole with
    | .ok done => done.2
    | .error _ => rows

/-- A run of the seed file, or a request of one of the resources. -/
inductive TableCall where
  | seed (db : Database Roles)
  | users (call : RecordRequest × Circumstances Users)
  | roles (call : RecordRequest × Circumstances Roles)

def ServiceTables.next (generateHash : GenerateHash) (s : ServiceTables) :
    TableCall → ServiceTables
  | .seed db => { s with roles := DrogonStarter.seed db s.roles }
  | .users call =>
    { s with users := (UserController.endpoint generateHash).rowsAfter s.users call }
  | .roles call => { s with roles := RoleController.endpoint.rowsAfter s.roles call }

/-- The tables, one call after another.  What the requests answer has no part in it. -/
def serviceTables (generateHash : GenerateHash) : Server ServiceTables TableCall Unit where
  next := ServiceTables.next generateHash
  answer _ _ := ()

/-! ## The columns -/

/-- The two columns of a table. -/
structure SoftDelete (ρ : Type) where
  isDeleted : ρ → Option Bool
  deletedAt : ρ → Option Int

def Users.softDelete : SoftDelete Users := ⟨Users.isDeleted, Users.deletedAt⟩

def Roles.softDelete : SoftDelete Roles := ⟨Roles.isDeleted, Roles.deletedAt⟩

namespace SoftDelete

variable {ρ : Type} (columns : SoftDelete ρ)

/-- A row is marked as deleted exactly if it has the time of its deletion. -/
def Consistent (rows : List ρ) : Prop :=
  ∀ row ∈ rows, columns.isDeleted row = some true ↔ columns.deletedAt row ≠ none

/-- No row is deleted. -/
def Live (rows : List ρ) : Prop :=
  ∀ row ∈ rows, columns.isDeleted row = some false ∧ columns.deletedAt row = none

/-- A create marks its row and gives it no time, and an update leaves both columns alone. -/
structure Kept (endpoint : RecordEndpoint ρ) : Prop where
  marked : ∀ env jsonBody, columns.isDeleted (endpoint.requested env jsonBody) = some true
  untimed : ∀ env jsonBody, columns.deletedAt (endpoint.requested env jsonBody) = none
  isDeleted : ∀ now salt id input row,
    columns.isDeleted (endpoint.table.assign (endpoint.updated now salt id input) row) =
      columns.isDeleted row
  deletedAt : ∀ now salt id input row,
    columns.deletedAt (endpoint.table.assign (endpoint.updated now salt id input) row) =
      columns.deletedAt row

variable {columns}

theorem Live.consistent {rows : List ρ} (h : columns.Live rows) : columns.Consistent rows := by
  intro row hrow
  obtain ⟨hmark, htime⟩ := h row hrow
  rw [hmark, htime]
  exact iff_of_false (by simp) (fun hne => hne rfl)

variable {endpoint : RecordEndpoint ρ}

/-- A request that inserts nothing leaves live rows live. -/
theorem Live.rowsAfter (hkept : columns.Kept endpoint) {rows : List ρ} (h : columns.Live rows)
    {call : RecordRequest × Circumstances ρ} (hnot : ¬ endpoint.Inserts rows call) :
    columns.Live (endpoint.rowsAfter rows call) := by
  rcases endpoint.rowsAfter_cases rows call with
    ⟨_, hrows⟩ | ⟨_, hinserts, _⟩ | ⟨id, input, key, hrows⟩ | ⟨key, hrows⟩
  · rw [hrows]
    exact h
  · exact absurd hinserts hnot
  · rw [hrows]
    intro row hrow
    obtain ⟨old, hold, rfl⟩ := List.mem_map.1 hrow
    split_ifs
    · rw [hkept.isDeleted, hkept.deletedAt]
      exact h old hold
    · exact h old hold
  · rw [hrows]
    exact fun row hrow => h row (List.mem_filter.1 hrow).1

/-- A request that inserts a row leaves one that is marked and has no time. -/
theorem not_consistent_of_inserts (hkept : columns.Kept endpoint) {rows : List ρ}
    {call : RecordRequest × Circumstances ρ} (h : endpoint.Inserts rows call) :
    ¬ columns.Consistent (endpoint.rowsAfter rows call) := by
  obtain ⟨request, env⟩ := call
  obtain ⟨jsonBody, hcall, _⟩ := id h
  cases hcall
  rcases endpoint.rowsAfter_create rows jsonBody env with ⟨_, hrows⟩ | ⟨hnot, _⟩
  · intro hconsistent
    rw [hrows] at hconsistent
    have hrow := hconsistent (endpoint.requested env jsonBody)
      (List.mem_append_right _ List.mem_cons_self)
    exact hrow.1 (hkept.marked env jsonBody) (hkept.untimed env jsonBody)
  · exact absurd h hnot

end SoftDelete

theorem UserController.kept (generateHash : GenerateHash) :
    Users.softDelete.Kept (endpoint generateHash) where
  marked _ _ := rfl
  untimed _ _ := rfl
  isDeleted _ _ _ _ _ := rfl
  deletedAt _ _ _ _ _ := rfl

theorem RoleController.kept : Roles.softDelete.Kept endpoint where
  marked _ _ := rfl
  untimed _ _ := rfl
  isDeleted _ _ _ _ _ := rfl
  deletedAt _ _ _ _ _ := rfl

/-- The role of the seed file is live, and so is a role that it updates. -/
theorem live_seed {db : Database Roles} {rows : List Roles} (h : Roles.softDelete.Live rows) :
    Roles.softDelete.Live (seed db rows) := by
  unfold seed
  split_ifs
  · exact h
  · intro row hrow
    obtain ⟨old, hold, rfl⟩ := List.mem_map.1 hrow
    split_ifs
    · exact ⟨rfl, (h old hold).2⟩
    · exact h old hold
  · unfold Mapper.insert
    simp only
    split_ifs
    · intro row hrow
      rcases List.mem_append.1 hrow with hold | hnew
      · exact h row hold
      · rw [List.mem_singleton.1 hnew]
        exact ⟨rfl, rfl⟩
    · exact h

/-! ## Runs -/

namespace ServiceTables

structure Consistent (s : ServiceTables) : Prop where
  users : Users.softDelete.Consistent s.users
  roles : Roles.softDelete.Consistent s.roles

structure Live (s : ServiceTables) : Prop where
  users : Users.softDelete.Live s.users
  roles : Roles.softDelete.Live s.roles

/-- The call is a create request that inserts a row. -/
def Inserts (generateHash : GenerateHash) (s : ServiceTables) : TableCall → Prop
  | .seed _ => False
  | .users call => (UserController.endpoint generateHash).Inserts s.users call
  | .roles call => RoleController.endpoint.Inserts s.roles call

variable {generateHash : GenerateHash}

theorem Live.consistent {s : ServiceTables} (h : s.Live) : s.Consistent :=
  ⟨h.users.consistent, h.roles.consistent⟩

theorem Live.next {s : ServiceTables} (h : s.Live) {call : TableCall}
    (hnot : ¬ s.Inserts generateHash call) : (s.next generateHash call).Live := by
  cases call with
  | seed db => exact ⟨h.users, live_seed h.roles⟩
  | users call => exact ⟨h.users.rowsAfter (UserController.kept generateHash) hnot, h.roles⟩
  | roles call => exact ⟨h.users, h.roles.rowsAfter RoleController.kept hnot⟩

theorem not_consistent_of_inserts {s : ServiceTables} {call : TableCall}
    (h : s.Inserts generateHash call) : ¬ (s.next generateHash call).Consistent := by
  intro hconsistent
  cases call with
  | seed db => exact h
  | users call =>
    exact SoftDelete.not_consistent_of_inserts (UserController.kept generateHash) h
      hconsistent.users
  | roles call =>
    exact SoftDelete.not_consistent_of_inserts RoleController.kept h hconsistent.roles

/-- Calls that insert nothing leave live tables live. -/
theorem Live.after {s : ServiceTables} (h : s.Live) {calls : List TableCall}
    (halong : (serviceTables generateHash).Along (fun s call => ¬ s.Inserts generateHash call)
      s calls) : ((serviceTables generateHash).after s calls).Live := by
  induction calls generalizing s with
  | nil => exact h
  | cons call calls ih => exact ih (h.next halong.1) halong.2

end ServiceTables

open ServiceTables

/-- The two columns agree in every state of a run from the empty tables if and only if none of
its create requests inserts a row. -/
theorem consistent_along_iff (generateHash : GenerateHash) (calls : List TableCall) :
    (∀ before rest, calls = before ++ rest →
        ((serviceTables generateHash).after {} before).Consistent) ↔
      (serviceTables generateHash).Along (fun s call => ¬ s.Inserts generateHash call) {}
        calls := by
  constructor
  · intro hconsistent
    rw [Server.along_iff_splits]
    intro before call rest hsplit hinserts
    have hafter := hconsistent (before ++ [call]) rest (by rw [hsplit, List.append_assoc]; rfl)
    rw [Server.after_append] at hafter
    exact not_consistent_of_inserts hinserts hafter
  · rintro halong before rest rfl
    have hempty : ({} : ServiceTables).Live :=
      ⟨fun _ hrow => absurd hrow List.not_mem_nil, fun _ hrow => absurd hrow List.not_mem_nil⟩
    exact (hempty.after ((Server.along_append _ _ _ _).1 halong).1).consistent

/-- The first role that is created is marked as deleted. -/
theorem created_role_marked :
    ¬ ∀ (generateHash : GenerateHash) (calls : List TableCall),
      ((serviceTables generateHash).after {} calls).Consistent := by
  intro hall
  have hroles := (hall (fun _ _ => default)
    [.roles (.createRecord (some (.object [("description", .string ""), ("name", .string "a")])),
      letterCircumstances Roles)]).roles
  have hrow := hroles
    { id := some "d", name := some "a", description := some "", isDeleted := some true
      createdAt := some 1000000, updatedAt := some 1000000 } (List.mem_singleton.2 (by decide))
  exact hrow.1 rfl rfl

end DrogonStarter
