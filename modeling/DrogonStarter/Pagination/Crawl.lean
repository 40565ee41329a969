import DrogonStarter.Lib.Decimal
import DrogonStarter.Roles.RoleService
import DrogonStarter.Users.UserController

/-!
# Reading a table page by page

A client asks for the first page, and for the next one as long as the last answer
says that there is one.  `crawl` is that loop, on the bodies of the answers, and
`pageBody` answers one request as the list endpoints do without a cached page.

* `flatMap_slices` says that consecutive slices put a list together again.
* `pageCount` is the number of pages, and `hasNext_pageAt` says that the comparison
  of `hasNext` finds the last one.
* `crawl_from` is the induction over the pages, and `crawl_covers` the result for
  the two services.
-/

namespace DrogonStarter

open CppNumber

/-- The range of a 32-bit `int`. -/
def FitsInt (n : Int) : Prop := -2147483648 ≤ n ∧ n ≤ 2147483647

/-- No intermediate result of `offset()` and `hasNext()` overflows. -/
structure PageRequest.Exact (r : PageRequest) : Prop where
  before : FitsInt (r.page - 1)
  offset : FitsInt ((r.page - 1) * r.pageSize)
  after : FitsInt ((r.page - 1) * r.pageSize + r.pageSize)

/-- The query parameters of a request for a page. -/
def pageParameters (page pageSize : Nat) : String → Option String := fun name =>
  if name = "page" then some (toString page)
  else if name = "page_size" then some (toString pageSize)
  else none

/-- The body of an answer to a list request, from its parameters and the `list` function
of a service. -/
def pageBody {ρ : Type} (list : PageRequest → Except Thrown (PageResult ρ))
    (project : ρ → Json) (parameters : String → Option String) : Except Thrown Json := do
  let request ← (PageRequest.fromParameters parameters).mapError .invalidArgument
  let page ← list request
  return page.toJson project

/-- The member `has_next` of a body is true. -/
def saysNext (body : Json) : Bool :=
  match body.get? "has_next" with
  | some (.bool next) => next
  | _ => false

/-- The items of the member `results` of a body. -/
def results (body : Json) : List Json :=
  match body.get? "results" with
  | some (.array items) => items
  | _ => []

/-- The bodies that a client gets which starts with `page` and goes on while there is a
next one.  It is `none` when a request fails or there is more to ask than `fuel`. -/
def crawl (ask : (String → Option String) → Except Thrown Json) (pageSize : Nat) :
    (fuel page : Nat) → Option (List Json)
  | 0, _ => none
  | fuel + 1, page =>
    match ask (pageParameters page pageSize) with
    | .error _ => none
    | .ok body =>
      if saysNext body then (crawl ask pageSize fuel (page + 1)).map (body :: ·) else some [body]

/-- The `try` block of `getUsers` answers with `pageBody` when the page is not cached. -/
theorem UserController.listPage_of_miss {p : Platform} {s : UserStore} {env : Surroundings}
    (hmiss : env.redis.get = false) (parameters : String → Option String) :
    (UserController.listPage p s env parameters).map (fun result => result.2.body) =
      (pageBody (UserService.listUsers env.database s.users) (UserService.toPublicJson p)
        parameters).map some := by
  unfold UserController.listPage pageBody
  have hget : ∀ key, RedisCache.get env.redis s.redis key = none := by
    intro key
    rw [RedisCache.get, if_neg (by simp [hmiss])]
  cases PageRequest.fromParameters parameters with
  | error what => rfl
  | ok request =>
    simp only [Except.mapError, bind, Except.bind, hget, Option.bind_none]
    cases UserService.listUsers env.database s.users request with
    | error what => rfl
    | ok page => rfl

/-! ## Slices and pages -/

/-- The first slices of a list are its beginning. -/
theorem flatMap_slices {α : Type} (l : List α) (size count : Nat) :
    (List.range count).flatMap (fun k => (l.drop (k * size)).take size) =
      l.take (count * size) := by
  induction count with
  | zero => simp
  | succ count ih =>
    rw [List.range_succ, List.flatMap_append, ih, List.flatMap_singleton, Nat.succ_mul,
      List.take_add]

/-- How many pages there are, and one when there is nothing to show. -/
def pageCount (total size : Nat) : Nat := max 1 ((total + size - 1) / size)

theorem pageCount_pos (total size : Nat) : 0 < pageCount total size := by
  unfold pageCount
  omega

theorem lt_pageCount_iff {total size k : Nat} (hsize : 0 < size) (hk : 0 < k) :
    k < pageCount total size ↔ k * size < total := by
  have hdiv : k + 1 ≤ (total + size - 1) / size ↔ k * size < total := by
    rw [Nat.le_div_iff_mul_le hsize, Nat.succ_mul]
    omega
  unfold pageCount
  omega

theorem le_pageCount_mul {total size : Nat} (hsize : 0 < size) :
    total ≤ pageCount total size * size := by
  by_contra hlt
  have hshort : pageCount total size * size < total := by omega
  have habsurd := (lt_pageCount_iff hsize (pageCount_pos total size)).2 hshort
  omega

/-! ## One page -/

/-- The request for the page after `k` others. -/
def requestAt (size k : Nat) : PageRequest := { page := (k : Int) + 1, pageSize := size }

/-- A page that there is begins within the table. -/
theorem mul_le_of_lt_pageCount {total size k : Nat} (hsize : 0 < size)
    (hk : k < pageCount total size) : k * size ≤ total := by
  rcases Nat.eq_zero_or_pos k with rfl | hpos
  · omega
  · have hlt := (lt_pageCount_iff hsize hpos).1 hk
    omega

theorem exact_requestAt {total size k : Nat} (htotal : total ≤ 2147483547)
    (hsize : 0 < size) (hsize' : size ≤ 100) (hk : k < pageCount total size) :
    (requestAt size k).Exact := by
  have hbegin := mul_le_of_lt_pageCount hsize hk
  have hcount : k ≤ k * size := Nat.le_mul_of_pos_right k hsize
  have hpage : (requestAt size k).page - 1 = (k : Int) := add_sub_cancel_right _ _
  have hproduct : (k : Int) * (requestAt size k).pageSize = ((k * size : Nat) : Int) := by
    unfold requestAt
    push_cast
    rfl
  have hpageSize : (requestAt size k).pageSize = (size : Int) := rfl
  constructor
  · rw [hpage]
    unfold FitsInt
    omega
  · rw [hpage, hproduct]
    unfold FitsInt
    omega
  · rw [hpage, hproduct, hpageSize]
    unfold FitsInt
    omega

theorem int32_of_fitsInt {n : Int} (h : FitsInt n) : int32 n = n := by
  obtain ⟨hlow, hhigh⟩ := h
  unfold int32
  apply Int.bmod_eq_of_le
  · norm_num
    omega
  · norm_num
    omega

theorem PageRequest.Exact.offset_eq {r : PageRequest} (h : r.Exact) :
    r.offset = (r.page - 1) * r.pageSize := by
  rw [PageRequest.offset, int32_of_fitsInt h.before, int32_of_fitsInt h.offset]

theorem offset_requestAt {size k : Nat} (h : (requestAt size k).Exact) :
    (requestAt size k).offset = ((k * size : Nat) : Int) := by
  have hpage : (requestAt size k).page - 1 = (k : Int) := add_sub_cancel_right _ _
  rw [h.offset_eq, hpage, Nat.cast_mul]
  rfl

/-- The request is read from its parameters. -/
theorem fromParameters_pageParameters {size k : Nat} (hsize : 0 < size) (hsize' : size ≤ 100)
    (hk : k + 1 ≤ 2147483647) :
    PageRequest.fromParameters (pageParameters (k + 1) size) = .ok (requestAt size k) := by
  have hpage : ∀ fallback, PageRequest.readParameter (pageParameters (k + 1) size) "page"
      fallback = .ok ((k + 1 : Nat) : Int) := by
    intro fallback
    have hname : pageParameters (k + 1) size "page" = some (toString (k + 1)) := if_pos rfl
    simp only [PageRequest.readParameter, hname, stoi_toString hk]
    rfl
  have hpageSize : ∀ fallback, PageRequest.readParameter (pageParameters (k + 1) size)
      "page_size" fallback = .ok (size : Int) := by
    intro fallback
    have hname : pageParameters (k + 1) size "page_size" = some (toString size) := by
      rw [pageParameters, if_neg (by decide), if_pos rfl]
    simp only [PageRequest.readParameter, hname, stoi_toString (n := size) (by omega)]
    rfl
  simp only [PageRequest.fromParameters, hpage, hpageSize, bind, Except.bind]
  rw [if_neg (by unfold PageRequest.kMaxPageSize; omega)]
  rfl

/-- The page of a table that answers the request. -/
def pageAt {ρ : Type} (ordered : List ρ) (size k : Nat) : PageResult ρ where
  items := (ordered.drop (k * size)).take size
  total := ordered.length
  request := requestAt size k

/-- `hasNext` is false exactly on the last page. -/
theorem hasNext_pageAt {ρ : Type} {ordered : List ρ} {size k : Nat} (hsize : 0 < size)
    (h : (requestAt size k).Exact) :
    (pageAt ordered size k).hasNext = true ↔ k + 1 < pageCount ordered.length size := by
  have hnext : (requestAt size k).offset + (requestAt size k).pageSize =
      (((k + 1) * size : Nat) : Int) := by
    rw [offset_requestAt h, Nat.succ_mul, Nat.cast_add]
    rfl
  have hfits : FitsInt (((k + 1) * size : Nat) : Int) := by
    rw [← hnext, h.offset_eq]
    exact h.after
  have hvalue : toSize (int32 (((k + 1) * size : Nat) : Int)) = (k + 1) * size := by
    rw [int32_of_fitsInt hfits, toSize]
    unfold FitsInt at hfits
    omega
  rw [lt_pageCount_iff hsize k.succ_pos]
  simp only [PageResult.hasNext, pageAt, hnext, hvalue, decide_eq_true_eq]

/-- What a `list` function does when the database answers: a slice of the rows in their
order. -/
theorem RecordService.list_of_connected {ρ : Type} (service : RecordService ρ)
    {db : Database ρ} (hdb : db.failure = none) (rows : List ρ) {request : PageRequest}
    (hoffset : 0 ≤ request.offset) :
    service.list db rows request =
      .ok { items := ((rows.insertionSort (Mapper.Precedes service.table db)).drop
              request.offset.toNat).take request.pageSize.toNat
            total := rows.length
            request } := by
  simp only [RecordService.list, Mapper.count, Mapper.findAll, Mapper.execute, hdb, bind,
    Except.bind]
  rw [if_neg (by omega)]
  rfl

/-- A request for a page that there is gets it. -/
theorem pageBody_pageAt {ρ : Type} (service : RecordService ρ) (project : ρ → Json)
    {db : Database ρ} (hdb : db.failure = none) {rows : List ρ} {size k : Nat}
    (htotal : rows.length ≤ 2147483547) (hsize : 0 < size) (hsize' : size ≤ 100)
    (hk : k < pageCount rows.length size) :
    pageBody (service.list db rows) project (pageParameters (k + 1) size) =
      .ok ((pageAt (rows.insertionSort (Mapper.Precedes service.table db)) size k).toJson
        project) := by
  have hexact := exact_requestAt htotal hsize hsize' hk
  have hbegin := mul_le_of_lt_pageCount hsize hk
  have hcount : k ≤ k * size := Nat.le_mul_of_pos_right k hsize
  have hoffset := offset_requestAt hexact
  have hrequest := fromParameters_pageParameters hsize hsize' (k := k) (by omega)
  have hlist := service.list_of_connected hdb rows
    (show 0 ≤ (requestAt size k).offset by rw [hoffset]; omega)
  rw [hoffset] at hlist
  simp only [pageBody, hrequest, hlist, bind, Except.bind, Except.mapError]
  unfold pageAt
  rw [List.length_insertionSort]
  rfl

/-! ## The members of a body -/

section Members

variable {ρ : Type} (page : PageResult ρ) (project : ρ → Json)

theorem results_toJson : results (page.toJson project) = page.items.map project := by
  have hmember : (page.toJson project).get? "results" =
      some (.array (page.items.map project)) := Json.get?_ofMembers [] (by simp)
  rw [results, hmember]

theorem page_toJson : (page.toJson project).get? "page" = some (.int page.request.page) :=
  Json.get?_ofMembers [_] (by simp)

theorem pageSize_toJson :
    (page.toJson project).get? "page_size" = some (.int page.request.pageSize) :=
  Json.get?_ofMembers [_, _] (by simp)

theorem total_toJson : (page.toJson project).get? "total" = some (.int page.total) :=
  Json.get?_ofMembers [_, _, _] (by simp)

theorem saysNext_toJson : saysNext (page.toJson project) = page.hasNext := by
  have hmember : (page.toJson project).get? "has_next" = some (.bool page.hasNext) :=
    Json.get?_ofMembers [_, _, _, _] (by simp)
  rw [saysNext, hmember]

end Members

/-! ## All pages -/

/-- From the page after `k` others the client gets the rest, in order. -/
theorem crawl_from {ρ : Type} {ordered : List ρ} {project : ρ → Json} {size : Nat}
    {ask : (String → Option String) → Except Thrown Json}
    (htotal : ordered.length ≤ 2147483547) (hsize : 0 < size) (hsize' : size ≤ 100)
    (hask : ∀ k < pageCount ordered.length size,
      ask (pageParameters (k + 1) size) = .ok ((pageAt ordered size k).toJson project)) :
    ∀ (left k fuel : Nat), k + (left + 1) = pageCount ordered.length size → left < fuel →
      crawl ask size fuel (k + 1) =
        some ((List.range' k (left + 1)).map fun i => (pageAt ordered size i).toJson project) := by
  intro left
  induction left with
  | zero =>
    intro k fuel hlast hfuel
    obtain ⟨fuel, rfl⟩ : ∃ rest, fuel = rest + 1 := ⟨fuel - 1, by omega⟩
    have hexact := exact_requestAt htotal hsize hsize' (k := k) (by omega)
    have hnext : (pageAt ordered size k).hasNext = false := by
      rw [Bool.eq_false_iff, Ne, hasNext_pageAt hsize hexact]
      omega
    rw [crawl, hask k (by omega)]
    simp only [saysNext_toJson, hnext, Bool.false_eq_true, if_false]
    rfl
  | succ left ih =>
    intro k fuel hlast hfuel
    obtain ⟨fuel, rfl⟩ : ∃ rest, fuel = rest + 1 := ⟨fuel - 1, by omega⟩
    have hexact := exact_requestAt htotal hsize hsize' (k := k) (by omega)
    have hnext : (pageAt ordered size k).hasNext = true := by
      rw [hasNext_pageAt hsize hexact]
      omega
    rw [crawl, hask k (by omega)]
    simp only [saysNext_toJson, hnext, if_true]
    rw [ih (k + 1) fuel (by omega) (by omega), List.range'_succ]
    rfl

/-- The bodies are the pages of a table: there are as many as there are pages, their items
put together are `items`, each one says where it stands, and no number on the way was too
large. -/
structure Covers (bodies : List Json) (items : List Json) (size : Nat) : Prop where
  length : bodies.length = pageCount items.length size
  joined : bodies.flatMap results = items
  page : ∀ (k : Nat) (body : Json), bodies[k]? = some body →
    body.get? "page" = some (.int ((k : Int) + 1))
  pageSize : ∀ body ∈ bodies, body.get? "page_size" = some (.int size)
  total : ∀ body ∈ bodies, body.get? "total" = some (.int items.length)
  exact : ∀ k < bodies.length, (requestAt size k).Exact

theorem covers_pages {ρ : Type} (ordered : List ρ) (project : ρ → Json) {size : Nat}
    (htotal : ordered.length ≤ 2147483547) (hsize : 0 < size) (hsize' : size ≤ 100) :
    Covers ((List.range (pageCount ordered.length size)).map fun k =>
      (pageAt ordered size k).toJson project) (ordered.map project) size where
  length := by simp
  joined := by
    rw [List.flatMap_map]
    simp only [results_toJson, pageAt, List.map_take, List.map_drop]
    rw [flatMap_slices, List.take_of_length_le]
    rw [List.length_map]
    exact le_pageCount_mul hsize
  page := by
    intro k body hbody
    rw [List.getElem?_map] at hbody
    obtain ⟨i, hi, rfl⟩ := Option.map_eq_some_iff.1 hbody
    obtain ⟨_, hi⟩ := List.getElem?_eq_some_iff.1 hi
    rw [List.getElem_range] at hi
    rw [page_toJson, ← hi]
    rfl
  pageSize := by
    intro body hbody
    obtain ⟨k, _, rfl⟩ := List.mem_map.1 hbody
    exact pageSize_toJson _ _
  total := by
    intro body hbody
    obtain ⟨k, _, rfl⟩ := List.mem_map.1 hbody
    rw [total_toJson, List.length_map]
    rfl
  exact := by
    intro k hk
    rw [List.length_map, List.length_range] at hk
    exact exact_requestAt htotal hsize hsize' hk

/-- A client that reads one service page by page gets its table. -/
theorem RecordService.exists_covering_crawl {ρ : Type} (service : RecordService ρ)
    (project : ρ → Json) {db : Database ρ} (hdb : db.failure = none) {rows : List ρ}
    {size : Nat} (htotal : rows.length ≤ 2147483547) (hsize : 0 < size) (hsize' : size ≤ 100) :
    ∃ bodies,
      (∀ fuel, pageCount rows.length size ≤ fuel →
        crawl (pageBody (service.list db rows) project) size fuel 1 = some bodies) ∧
      Covers bodies
        ((rows.insertionSort (Mapper.Precedes service.table db)).map project) size := by
  have hlength := List.length_insertionSort (Mapper.Precedes service.table db) rows
  refine ⟨_, ?_, covers_pages (rows.insertionSort (Mapper.Precedes service.table db)) project
    (by omega) hsize hsize'⟩
  intro fuel hfuel
  rw [← hlength] at hfuel
  have hpos := pageCount_pos
    (rows.insertionSort (Mapper.Precedes service.table db)).length size
  have hask : ∀ k < pageCount (rows.insertionSort (Mapper.Precedes service.table db)).length size,
      pageBody (service.list db rows) project (pageParameters (k + 1) size) =
        .ok ((pageAt (rows.insertionSort (Mapper.Precedes service.table db)) size k).toJson
          project) :=
    fun k hk => pageBody_pageAt service project hdb htotal hsize hsize' (hlength ▸ hk)
  have hpages := crawl_from (by omega) hsize hsize' hask
    (pageCount (rows.insertionSort (Mapper.Precedes service.table db)).length size - 1) 0 fuel
    (by omega) (by omega)
  rw [List.range_eq_range', hpages, Nat.sub_add_cancel hpos]

/-- The pages of the users and those of the roles cover the two tables. -/
theorem crawl_covers (p : Platform) {users : List Users} {dbUsers : Database Users}
    {roles : List Roles} {dbRoles : Database Roles} {size : Nat}
    (hdbUsers : dbUsers.failure = none) (hdbRoles : dbRoles.failure = none)
    (husers : users.length ≤ 2147483547) (hroles : roles.length ≤ 2147483547)
    (hsize : 0 < size) (hsize' : size ≤ 100) :
    (∃ bodies,
      (∀ fuel, pageCount users.length size ≤ fuel →
        crawl (pageBody (UserService.listUsers dbUsers users) (UserService.toPublicJson p)) size
          fuel 1 = some bodies) ∧
      Covers bodies ((users.insertionSort (Mapper.Precedes Users.table dbUsers)).map
        (UserService.toPublicJson p)) size) ∧
    (∃ bodies,
      (∀ fuel, pageCount roles.length size ≤ fuel →
        crawl (pageBody (RoleService.listRoles dbRoles roles) (RoleService.toPublicJson p)) size
          fuel 1 = some bodies) ∧
      Covers bodies ((roles.insertionSort (Mapper.Precedes Roles.table dbRoles)).map
        (RoleService.toPublicJson p)) size) := by
  constructor
  · exact (UserService.records default).exists_covering_crawl (UserService.toPublicJson p)
      hdbUsers husers hsize hsize'
  · exact RoleService.records.exists_covering_crawl (RoleService.toPublicJson p) hdbRoles hroles
      hsize hsize'

/-- Three users on two pages, and no role on one. -/
theorem crawl_covers_three :
    (∃ bodies,
      (∀ fuel, pageCount 3 2 ≤ fuel →
        crawl (pageBody (UserService.listUsers (letterDatabase Users)
          [{ id := some "c" }, { id := some "a" }, { id := some "b" }])
          (UserService.toPublicJson compactPlatform)) 2 fuel 1 = some bodies) ∧
      Covers bodies (([{ id := some "c" }, { id := some "a" }, { id := some "b" }].insertionSort
        (Mapper.Precedes Users.table (letterDatabase Users))).map
        (UserService.toPublicJson compactPlatform)) 2) ∧
    (∃ bodies,
      (∀ fuel, pageCount 0 2 ≤ fuel →
        crawl (pageBody (RoleService.listRoles (letterDatabase Roles) [])
          (RoleService.toPublicJson compactPlatform)) 2 fuel 1 = some bodies) ∧
      Covers bodies ((([] : List Roles).insertionSort
        (Mapper.Precedes Roles.table (letterDatabase Roles))).map
        (RoleService.toPublicJson compactPlatform)) 2) :=
  @crawl_covers compactPlatform [{ id := some "c" }, { id := some "a" }, { id := some "b" }]
    (letterDatabase Users) [] (letterDatabase Roles) 2 rfl rfl (by decide) (by decide) (by decide)
    (by decide)

end DrogonStarter
