import DrogonStarter.Lib.Arrangement
import DrogonStarter.Lib.KeyedRows
import DrogonStarter.Pagination.Crawl

/-!
# The order of a list page

`listUsers` and `listRoles` order their rows by `created_at` and nothing else, so the
database may put rows of one creation time in any order, and in another one for the next
page.

* `Mapper.arrangement_of_rank` and `Mapper.exists_rank` say that the orders of the mapper
  are the arrangements of the rows by creation time, all of them.
* `RecordService.pagesAgree_iff` says when a page does not depend on the choice, and
  `pages_determined_iff` says it of the two services.
-/

namespace DrogonStarter

open KeyedRows Ties

variable {ρ : Type}

/-- The creation time of a row. -/
def Table.createdTime (t : Table ρ) (row : ρ) : Int := (t.createdAt row).getD 0

/-- The database with other choices among the rows of one creation time. -/
def Database.reranked (db : Database ρ) (rank : String → Nat) : Database ρ :=
  { db with rank := rank }

namespace Mapper

theorem precedes_total (t : Table ρ) (db : Database ρ) : Std.Total (Precedes t db) := by
  refine ⟨fun a b => ?_⟩
  unfold Precedes
  omega

theorem precedes_trans (t : Table ρ) (db : Database ρ) : IsTrans ρ (Precedes t db) := by
  refine ⟨fun a b c hab hbc => ?_⟩
  unfold Precedes at hab hbc ⊢
  omega

/-- Whatever the database chooses, the rows are in the order of their creation times. -/
theorem arrangement_of_rank (t : Table ρ) (db : Database ρ) (rows : List ρ) :
    Arrangement t.createdTime rows (rows.insertionSort (Precedes t db)) := by
  have htotal := precedes_total t db
  have htrans := precedes_trans t db
  refine ⟨List.perm_insertionSort _ rows, ?_⟩
  refine (List.pairwise_insertionSort (Precedes t db) rows).imp fun {a b} hab => ?_
  rcases hab with hlt | ⟨heq, _⟩
  · exact hlt.le
  · exact heq.le

/-- Where a key stands in an order. -/
def rankIn (t : Table ρ) (order : List ρ) (id : String) : Nat :=
  (order.map fun row => (t.id row).getD "").idxOf id

/-- Every order by creation times is one that the database may choose. -/
theorem exists_rank {t : Table ρ} (db : Database ρ) {rows order : List ρ}
    (hrows : Keyed t.id rows) (h : Arrangement t.createdTime rows order) :
    rows.insertionSort (Precedes t (db.reranked (rankIn t order))) = order := by
  have hids : (order.map fun row => (t.id row).getD "").Nodup := by
    have hkeys : (order.map t.id).Nodup := (h.perm.map t.id).nodup_iff.2 hrows.distinct
    rw [List.nodup_iff_pairwise_ne, List.pairwise_map] at hkeys ⊢
    refine hkeys.imp_of_mem fun {a b} ha hb hne heq => hne ?_
    obtain ⟨x, hx⟩ := Option.isSome_iff_exists.1 (hrows.total a (h.perm.mem_iff.1 ha))
    obtain ⟨y, hy⟩ := Option.isSome_iff_exists.1 (hrows.total b (h.perm.mem_iff.1 hb))
    rw [hx, hy] at heq ⊢
    exact congrArg some heq
  have hrank : ∀ i (hi : i < order.length), rankIn t order ((t.id order[i]).getD "") = i := by
    intro i hi
    have hlength : i < (order.map fun row => (t.id row).getD "").length := by
      rwa [List.length_map]
    have hindex := hids.idxOf_getElem i hlength
    rwa [List.getElem_map] at hindex
  have htotal := precedes_total t (db.reranked (rankIn t order))
  have htrans := precedes_trans t (db.reranked (rankIn t order))
  -- Both lists are in the order of the ranks, and no two rows have one rank.
  refine List.Perm.eq_of_pairwise ?_
    (List.pairwise_insertionSort _ rows) ?_ ((List.perm_insertionSort _ rows).trans h.perm.symm)
  · intro a b ha hb hab hba
    have ha' : a ∈ order := h.perm.mem_iff.2 (List.mem_insertionSort _ |>.1 ha)
    obtain ⟨i, hi, rfl⟩ := List.getElem_of_mem ha'
    obtain ⟨j, hj, rfl⟩ := List.getElem_of_mem hb
    have hrank' : (db.reranked (rankIn t order)).rank = rankIn t order := rfl
    unfold Precedes at hab hba
    rw [hrank', hrank i hi, hrank j hj] at hab hba
    have hij : i = j := by omega
    simp only [hij]
  · rw [List.pairwise_iff_getElem]
    intro i j hi hj hij
    have hkey : t.createdTime order[i] ≤ t.createdTime order[j] :=
      List.pairwise_iff_getElem.1 h.sorted i j hi hj hij
    have hrank' : (db.reranked (rankIn t order)).rank = rankIn t order := rfl
    unfold Precedes
    rw [hrank', hrank i hi, hrank j hj]
    unfold Table.createdTime at hkey
    omega

end Mapper

/-- Two runs of a list request that differ only in the choices of the database give the
same result. -/
def PagesAgree (list : Database ρ → List ρ → PageRequest → Except Thrown (PageResult ρ))
    (rows : List ρ) (request : PageRequest) : Prop :=
  ∀ (db : Database ρ) (rank rank' : String → Nat),
    list (db.reranked rank) rows request = list (db.reranked rank') rows request

/-- No row of the page has its creation time in common with another row. -/
def PageUntied (t : Table ρ) (rows : List ρ) (request : PageRequest) : Prop :=
  ∀ time ∈ slice request.offset.toNat request.pageSize.toNat (sortedKeys t.createdTime rows),
    Untied t.createdTime rows time

namespace RecordService

variable (service : RecordService ρ)

/-- A list request whose offset is negative fails, whatever the order is. -/
theorem list_of_negative {rows : List ρ} {request : PageRequest} (hoffset : request.offset < 0)
    (db : Database ρ) (rank : String → Nat) :
    service.list (db.reranked rank) rows request = service.list db rows request := by
  simp only [list, Mapper.count, Mapper.findAll, if_pos hoffset]
  rfl

/-- A list request of a database that does not answer fails, whatever the order is. -/
theorem list_of_failure {db : Database ρ} {what : String} (hdb : db.failure = some what)
    (rank : String → Nat) (rows : List ρ) (request : PageRequest) :
    service.list (db.reranked rank) rows request = .error (.other what) := by
  have hfailure : (db.reranked rank).failure = some what := hdb
  simp only [list, Mapper.count, Mapper.execute, hfailure, bind, Except.bind]

/-- The rows of a page are a slice of an arrangement. -/
theorem list_of_arrangement {db : Database ρ} (hdb : db.failure = none) {rows : List ρ}
    {request : PageRequest} (hoffset : 0 ≤ request.offset) (rank : String → Nat) :
    service.list (db.reranked rank) rows request =
      .ok { items := slice request.offset.toNat request.pageSize.toNat
              (rows.insertionSort (Mapper.Precedes service.table (db.reranked rank)))
            total := rows.length
            request } := by
  have hconnected : (db.reranked rank).failure = none := hdb
  exact service.list_of_connected hconnected rows hoffset

/-- A page does not depend on the choices of the database when it has no offset, or when none
of its rows is tied. -/
theorem pagesAgree_iff {rows : List ρ} (hrows : Keyed service.table.id rows)
    (request : PageRequest) :
    PagesAgree service.list rows request ↔
      request.offset < 0 ∨ PageUntied service.table rows request := by
  have hnodup : rows.Nodup := hrows.distinct.of_map _
  have hslices := slices_agree_iff service.table.createdTime hnodup
    request.offset.toNat request.pageSize.toNat
  constructor
  · intro hagree
    by_cases hoffset : request.offset < 0
    · exact Or.inl hoffset
    · refine Or.inr (hslices.1 fun order order' h h' => ?_)
      have hpages := hagree (letterDatabase ρ) (Mapper.rankIn service.table order)
        (Mapper.rankIn service.table order')
      have hdb : (letterDatabase ρ).failure = none := rfl
      rw [service.list_of_arrangement hdb (not_lt.1 hoffset),
        service.list_of_arrangement hdb (not_lt.1 hoffset), Mapper.exists_rank _ hrows h,
        Mapper.exists_rank _ hrows h'] at hpages
      exact congrArg PageResult.items (Except.ok.inj hpages)
  · rintro (hoffset | huntied) db rank rank'
    · rw [service.list_of_negative hoffset, service.list_of_negative hoffset]
    · cases hdb : db.failure with
      | some what => rw [service.list_of_failure hdb, service.list_of_failure hdb]
      | none =>
        by_cases hoffset : request.offset < 0
        · rw [service.list_of_negative hoffset, service.list_of_negative hoffset]
        · have hitems := hslices.2 huntied _ _
            (Mapper.arrangement_of_rank service.table (db.reranked rank) rows)
            (Mapper.arrangement_of_rank service.table (db.reranked rank') rows)
          rw [service.list_of_arrangement hdb (not_lt.1 hoffset),
            service.list_of_arrangement hdb (not_lt.1 hoffset), hitems]

end RecordService

/-- A page of users or of roles is determined by its table exactly when its offset is
negative, which no database accepts, or no row of it shares its creation time. -/
theorem pages_determined_iff {users : List Users} {roles : List Roles}
    (husers : Keyed Users.table.id users) (hroles : Keyed Roles.table.id roles)
    (request : PageRequest) :
    (PagesAgree UserService.listUsers users request ↔
        request.offset < 0 ∨ PageUntied Users.table users request) ∧
      (PagesAgree RoleService.listRoles roles request ↔
        request.offset < 0 ∨ PageUntied Roles.table roles request) := by
  have hservice := UserService.listUsers_eq (fun _ _ => (default : BcryptHash))
  refine ⟨?_, RoleService.records.pagesAgree_iff hroles request⟩
  rw [hservice]
  exact RecordService.pagesAgree_iff _ husers request

/-- A role with a key and a creation time. -/
def timedRole (id : String) (createdAt : Int) : Roles :=
  { id := some id, name := some id, createdAt := some createdAt }

/-- No users, and two roles of different times. -/
theorem pages_determined_iff_two :
    (PagesAgree UserService.listUsers [] {} ↔
        PageRequest.offset {} < 0 ∨ PageUntied Users.table [] {}) ∧
      (PagesAgree RoleService.listRoles [timedRole "a" 1, timedRole "b" 2] {} ↔
        PageRequest.offset {} < 0 ∨
          PageUntied Roles.table [timedRole "a" 1, timedRole "b" 2] {}) :=
  pages_determined_iff Keyed.nil ⟨by decide, by decide⟩ {}

/-- Two roles of one time, one to a page: each of them can be the first page. -/
theorem tied_roles_move :
    ¬ ∀ roles : List Roles, Keyed Roles.table.id roles → ∀ request : PageRequest,
      request.Positive → PagesAgree RoleService.listRoles roles request := by
  intro hall
  have hkeyed : Keyed Roles.table.id [timedRole "a" 1, timedRole "b" 1] :=
    ⟨by decide, by decide⟩
  have hpages := hall _ hkeyed { page := 1, pageSize := 1 } ⟨by decide, by decide⟩
    (letterDatabase Roles) (fun id => if id = "a" then 0 else 1)
    (fun id => if id = "a" then 1 else 0)
  have hfirst : (RoleService.listRoles ((letterDatabase Roles).reranked
      fun id => if id = "a" then 0 else 1) [timedRole "a" 1, timedRole "b" 1]
      { page := 1, pageSize := 1 }).map PageResult.items = .ok [timedRole "a" 1] := by rfl
  have hsecond : (RoleService.listRoles ((letterDatabase Roles).reranked
      fun id => if id = "a" then 1 else 0) [timedRole "a" 1, timedRole "b" 1]
      { page := 1, pageSize := 1 }).map PageResult.items = .ok [timedRole "b" 1] := by rfl
  rw [hpages, hsecond] at hfirst
  have hsame := List.cons.inj (Except.ok.inj hfirst)
  exact absurd (congrArg Roles.id hsame.1) (by decide)

end DrogonStarter
