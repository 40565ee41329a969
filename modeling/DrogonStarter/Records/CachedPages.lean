import DrogonStarter.Roles.RoleController

/-!
# The handlers and the cache

What the handlers of one resource do to the cache, and what the cache does to their
answers.

* `heldPage` is the body of the page that a table holds, and `storedKey` the key of the
  `SETEX` that a request gets through.
* `get_of_get_serve` says where an entry after a request comes from, and
  `erased_of_rows_ne` that a write leaves none when its commands take effect.
* `body_of_listed` says where the body of a list answer comes from.
* `answer_of_not_list` and `status_of_list` say that the cache changes no other answer, and
  not the success of a list.
-/

namespace DrogonStarter

namespace RecordEndpoint

variable {ρ : Type} (endpoint : RecordEndpoint ρ)

/-- What the proofs use of the values of a controller. -/
structure Conventional : Prop where
  stem : endpoint.stem = endpoint.resource ++ ":"
  resource : ':' ∉ endpoint.resource.toList
  listRefused : 300 ≤ endpoint.listRefused

/-- The body for the page that a table holds for a request. -/
def heldPage (p : Platform) (db : Database ρ) (rows : List ρ) (request : PageRequest) : Json :=
  PageResult.toJson
    { items := ((rows.insertionSort (Mapper.Precedes endpoint.table db)).drop
        request.offset.toNat).take request.pageSize.toNat
      total := rows.length
      request }
    (endpoint.toPublicJson p)

/-- A page depends on the database only through the order of rows with one time. -/
theorem heldPage_congr {p : Platform} {db db' : Database ρ} (h : db.rank = db'.rank)
    (rows : List ρ) (request : PageRequest) :
    endpoint.heldPage p db rows request = endpoint.heldPage p db' rows request := by
  obtain ⟨_, _, _, _, rank, _, _, _⟩ := db
  obtain ⟨_, _, _, _, rank', _, _, _⟩ := db'
  cases h
  rfl

/-- A list that the database answers is the page that the table holds. -/
theorem toJson_of_list_ok {p : Platform} {db : Database ρ} {rows : List ρ}
    {request : PageRequest} {page : PageResult ρ}
    (h : endpoint.list db rows request = .ok page) :
    page.toJson (endpoint.toPublicJson p) = endpoint.heldPage p db rows request := by
  unfold RecordService.list Mapper.count Mapper.findAll Mapper.execute at h
  cases hfailure : db.failure with
  | some what =>
    simp only [hfailure, bind, Except.bind] at h
    cases h
  | none =>
    simp only [hfailure, bind, Except.bind] at h
    by_cases hoffset : request.offset < 0
    · rw [if_pos hoffset] at h
      cases h
    · rw [if_neg hoffset] at h
      cases h
      rfl

/-- The key of the `SETEX` of a request that takes effect. -/
def storedKey (p : Platform) (s : Records ρ) (call : RecordRequest × Circumstances ρ) :
    Option String :=
  match call.1 with
  | .getRecords parameters =>
    if call.2.connected && call.2.redis.set then
      match endpoint.listing p { s with redis := RedisCache.expire call.2.redis s.redis } call.2
          parameters with
      | .ok (.queried key _) => some key
      | .ok (.cached _) => none
      | .error _ => none
    else none
  | .getRecordById _ => none
  | .createRecord _ => none
  | .updateRecordById _ _ => none
  | .deleteRecordById _ => none

variable {endpoint} {p : Platform} {s : Records ρ}

/-- How a list request gets its body: from an entry of the cache, or from the table. -/
theorem listing_ok {env : Circumstances ρ} {parameters : String → Option String}
    {listed : Listing} (h : endpoint.listing p s env parameters = .ok listed) :
    ∃ request, PageRequest.fromParameters parameters = .ok request ∧
      ((∃ text body, s.redis.get (request.cacheKey endpoint.resource) = some text ∧
          p.parse text = some body ∧ listed = .cached body) ∨
        listed = .queried (request.cacheKey endpoint.resource)
          (endpoint.heldPage p env.database s.rows request)) := by
  unfold listing at h
  cases hrequest : PageRequest.fromParameters parameters with
  | error what =>
    simp only [hrequest, Except.mapError, bind, Except.bind] at h
    cases h
  | ok request =>
    refine ⟨request, rfl, ?_⟩
    simp only [hrequest, Except.mapError, bind, Except.bind] at h
    cases hcached : (RedisCache.get env.redis s.redis
        (request.cacheKey endpoint.resource)).bind p.parse with
    | some body =>
      simp only [hcached] at h
      cases h
      obtain ⟨text, htext, hparse⟩ := Option.bind_eq_some_iff.1 hcached
      exact Or.inl ⟨text, body, RedisCache.get_redis_get htext, hparse, rfl⟩
    | none =>
      simp only [hcached] at h
      cases hlist : endpoint.list env.database s.rows request with
      | error thrown =>
        simp only [hlist] at h
        cases h
      | ok page =>
        simp only [hlist, endpoint.toJson_of_list_ok hlist] at h
        cases h
        exact Or.inr rfl

/-! ## The cache after a request -/

variable (endpoint p s) in
/-- A request that is not a list leaves the table and the cache alone, or it invalidates the
pages of the resource. -/
theorem serve_of_not_list (call : RecordRequest × Circumstances ρ)
    (hlist : ∀ parameters, call.1 ≠ .getRecords parameters) :
    (endpoint.serve p s call).1 =
        { s with redis := RedisCache.expire call.2.redis s.redis } ∨
      (endpoint.serve p s call).1.redis =
        RedisCache.erasePrefix call.2.redis (RedisCache.expire call.2.redis s.redis)
          endpoint.stem := by
  obtain ⟨request, env⟩ := call
  cases request with
  | getRecords parameters => exact absurd rfl (hlist parameters)
  | getRecordById id =>
    refine Or.inl ?_
    simp only [serve, dispatch, getRecordById]
    split
    · split <;> rfl
    · rfl
  | createRecord jsonBody =>
    simp only [serve, dispatch, createRecord]
    split
    · split
      · exact Or.inr rfl
      · exact Or.inl rfl
      · exact Or.inl rfl
    · exact Or.inl rfl
  | updateRecordById id jsonBody =>
    simp only [serve, dispatch, updateRecordById]
    split
    · split
      · exact Or.inr rfl
      · exact Or.inl rfl
      · exact Or.inl rfl
    · exact Or.inl rfl
  | deleteRecordById id =>
    simp only [serve, dispatch, deleteRecordById]
    split
    · split
      · exact Or.inr rfl
      · exact Or.inr rfl
      · exact Or.inl rfl
    · exact Or.inl rfl

variable (endpoint p s) in
/-- A list request leaves the table alone, and stores at most the page that the table holds. -/
theorem serve_list (parameters : String → Option String) (env : Circumstances ρ) :
    (endpoint.storedKey p s (.getRecords parameters, env) = none ∧
      (endpoint.serve p s (.getRecords parameters, env)).1 =
        { s with redis := RedisCache.expire env.redis s.redis }) ∨
    ∃ request, PageRequest.fromParameters parameters = .ok request ∧ env.redis.set = true ∧
      endpoint.storedKey p s (.getRecords parameters, env) =
        some (request.cacheKey endpoint.resource) ∧
      (endpoint.serve p s (.getRecords parameters, env)).1 =
        { s with
          redis := (RedisCache.expire env.redis s.redis).setex
            (request.cacheKey endpoint.resource)
            (p.writeString (endpoint.heldPage p env.database s.rows request)) } := by
  simp only [storedKey, serve, dispatch, getRecords]
  cases hconnected : env.connected with
  | false => exact Or.inl ⟨rfl, rfl⟩
  | true =>
    simp only [Bool.true_and, if_true]
    cases hlisting : endpoint.listing p
        { s with redis := RedisCache.expire env.redis s.redis } env parameters with
    | error thrown =>
      refine Or.inl ⟨ite_self _, ?_⟩
      cases thrown <;> rfl
    | ok listed =>
      obtain ⟨request, hrequest, ⟨text, body, _, _, rfl⟩ | rfl⟩ := listing_ok hlisting
      · exact Or.inl ⟨ite_self _, rfl⟩
      · cases hset : env.redis.set with
        | false =>
          refine Or.inl ⟨rfl, ?_⟩
          simp only [RedisCache.set, hset, Bool.false_eq_true, if_false]
        | true =>
          refine Or.inr ⟨request, hrequest, rfl, rfl, ?_⟩
          simp only [RedisCache.set, hset, if_true]

/-- Only a list request stores a page. -/
theorem storedKey_of_not_list {call : RecordRequest × Circumstances ρ}
    (hlist : ∀ parameters, call.1 ≠ .getRecords parameters) :
    endpoint.storedKey p s call = none := by
  obtain ⟨request, env⟩ := call
  cases request with
  | getRecords parameters => exact absurd rfl (hlist parameters)
  | getRecordById _ | createRecord _ | updateRecordById _ _ | deleteRecordById _ => rfl

/-- The key that a request stores is that of a page of the resource. -/
theorem eq_cacheKey_of_storedKey {call : RecordRequest × Circumstances ρ} {key : String}
    (h : endpoint.storedKey p s call = some key) :
    ∃ request : PageRequest, key = request.cacheKey endpoint.resource := by
  obtain ⟨request, env⟩ := call
  cases request with
  | getRecords parameters =>
    rcases serve_list endpoint p s parameters env with
      ⟨hnone, _⟩ | ⟨page, _, _, hstored, _⟩
    · cases hnone.symm.trans h
    · exact ⟨page, Option.some.inj (h.symm.trans hstored)⟩
  | getRecordById _ | createRecord _ | updateRecordById _ _ | deleteRecordById _ => cases h

/-- An entry after a request is the page that the request stored, or was there and has not
expired. -/
theorem get_of_get_serve {call : RecordRequest × Circumstances ρ} {key text : String}
    (h : (endpoint.serve p s call).1.redis.get key = some text) :
    (∃ parameters request, call.1 = .getRecords parameters ∧
      PageRequest.fromParameters parameters = .ok request ∧ call.2.redis.set = true ∧
      key = request.cacheKey endpoint.resource ∧
      text = p.writeString (endpoint.heldPage p call.2.database s.rows request) ∧
      endpoint.storedKey p s call = some key) ∨
    (s.redis.get key = some text ∧ key ∉ call.2.redis.expired ∧
      endpoint.storedKey p s call ≠ some key) := by
  obtain ⟨request, env⟩ := call
  have hold : (RedisCache.expire env.redis s.redis).get key = some text →
      s.redis.get key = some text ∧ key ∉ env.redis.expired := fun hget =>
    ⟨RedisCache.get_of_get_expire hget, RedisCache.not_mem_expired hget⟩
  by_cases hlist : ∃ parameters, request = .getRecords parameters
  · obtain ⟨parameters, rfl⟩ := hlist
    rcases serve_list endpoint p s parameters env with
      ⟨hstored, hnext⟩ | ⟨page, hpage, hset, hstored, hnext⟩
    · rw [hnext] at h
      obtain ⟨hget, hexpired⟩ := hold h
      exact Or.inr ⟨hget, hexpired, by rw [hstored]; exact nofun⟩
    · rw [hnext] at h
      by_cases hkey : key = page.cacheKey endpoint.resource
      · rw [hkey, Redis.get_setex_self] at h
        exact Or.inl ⟨parameters, page, rfl, hpage, hset, hkey, (Option.some.inj h).symm,
          by rw [hstored, hkey]⟩
      · rw [Redis.get_setex_of_ne hkey] at h
        obtain ⟨hget, hexpired⟩ := hold h
        refine Or.inr ⟨hget, hexpired, ?_⟩
        rw [hstored]
        exact fun hsame => hkey (Option.some.inj hsame).symm
  · have hlist' : ∀ parameters, request ≠ .getRecords parameters := not_exists.1 hlist
    have hstored : endpoint.storedKey p s (request, env) = none := storedKey_of_not_list hlist'
    have hget : (RedisCache.expire env.redis s.redis).get key = some text := by
      rcases serve_of_not_list endpoint p s (request, env) hlist' with
        hnext | hnext
      · rw [hnext] at h
        exact h
      · rw [hnext] at h
        exact RedisCache.get_of_get_erasePrefix h
    obtain ⟨hget', hexpired⟩ := hold hget
    exact Or.inr ⟨hget', hexpired, by rw [hstored]; exact nofun⟩

/-- A request that changes the table leaves no page of the resource, when the commands of its
invalidation take effect. -/
theorem erased_of_rows_ne (hconv : endpoint.Conventional)
    {call : RecordRequest × Circumstances ρ}
    (hrows : (endpoint.serve p s call).1.rows ≠ s.rows) (hkeys : call.2.redis.keys = true)
    (hdel : ∀ key, call.2.redis.del key = true) (request : PageRequest) :
    (endpoint.serve p s call).1.redis.get (request.cacheKey endpoint.resource) = none := by
  have hlist : ∀ parameters, call.1 ≠ .getRecords parameters := by
    intro parameters hcall
    obtain ⟨_, env⟩ := call
    cases hcall
    rcases serve_list endpoint p s parameters env with
      ⟨_, hnext⟩ | ⟨_, _, _, _, hnext⟩
    · exact hrows (by rw [hnext])
    · exact hrows (by rw [hnext])
  rcases serve_of_not_list endpoint p s call hlist with hnext | hnext
  · exact absurd (by rw [hnext]) hrows
  · rw [hnext, hconv.stem]
    exact RedisCache.get_erasePrefix_eq_none hkeys _ (hdel _) (request.cacheKey_begins _)

/-! ## The answers -/

/-- A list that succeeds shows an entry that has not expired, or the page that the table
holds. -/
theorem body_of_listed (hconv : endpoint.Conventional) {parameters : String → Option String}
    {env : Circumstances ρ}
    (hstatus : (endpoint.serve p s (.getRecords parameters, env)).2.status = 200) :
    ∃ request, PageRequest.fromParameters parameters = .ok request ∧
      ((∃ text body, s.redis.get (request.cacheKey endpoint.resource) = some text ∧
          request.cacheKey endpoint.resource ∉ env.redis.expired ∧ p.parse text = some body ∧
          (endpoint.serve p s (.getRecords parameters, env)).2.body = some body) ∨
        (endpoint.serve p s (.getRecords parameters, env)).2.body =
          some (endpoint.heldPage p env.database s.rows request)) := by
  have hrefused := hconv.listRefused
  simp only [serve, dispatch, getRecords] at hstatus ⊢
  cases hconnected : env.connected with
  | false =>
    simp only [hconnected, Bool.false_eq_true, if_false] at hstatus
    cases hstatus
  | true =>
    simp only [hconnected, if_true] at hstatus ⊢
    cases hlisting : endpoint.listing p
        { s with redis := RedisCache.expire env.redis s.redis } env parameters with
    | error thrown =>
      simp only [hlisting] at hstatus
      cases thrown with
      | invalidArgument what =>
        have hcode : endpoint.listRefused = 200 := hstatus
        omega
      | other what => cases hstatus
    | ok listed =>
      obtain ⟨request, hrequest, ⟨text, body, hget, hparse, rfl⟩ | rfl⟩ := listing_ok hlisting
      · exact ⟨request, hrequest, Or.inl ⟨text, body, RedisCache.get_of_get_expire hget,
          RedisCache.not_mem_expired hget, hparse, rfl⟩⟩
      · exact ⟨request, hrequest, Or.inr rfl⟩

/-- The answer to a request that is not a list does not depend on the cache. -/
theorem answer_of_not_list {s' : Records ρ} (hrows : s.rows = s'.rows)
    {request : RecordRequest} (hlist : ∀ parameters, request ≠ .getRecords parameters)
    (env : Circumstances ρ) (o : RedisOutcome) :
    (endpoint.serve p s (request, env)).2 =
      (endpoint.serve p s' (request, { env with redis := o })).2 := by
  cases request with
  | getRecords parameters => exact absurd rfl (hlist parameters)
  | getRecordById id =>
    simp only [serve, dispatch, getRecordById, hrows]
    split
    · split <;> rfl
    · rfl
  | createRecord jsonBody =>
    simp only [serve, dispatch, createRecord, hrows]
    split
    · split <;> rfl
    · rfl
  | updateRecordById id jsonBody =>
    simp only [serve, dispatch, updateRecordById, hrows]
    split
    · split <;> rfl
    · rfl
  | deleteRecordById id =>
    simp only [serve, dispatch, deleteRecordById, hrows]
    split
    · split <;> rfl
    · rfl

/-- A list whose page is in the cache is answered with it. -/
theorem serve_of_hit {parameters : String → Option String} (env : Circumstances ρ)
    {request : PageRequest} {text : String} {body : Json} (hconnected : env.connected = true)
    (hrequest : PageRequest.fromParameters parameters = .ok request)
    (hget : RedisCache.get env.redis (RedisCache.expire env.redis s.redis)
      (request.cacheKey endpoint.resource) = some text) (hparse : p.parse text = some body) :
    endpoint.serve p s (.getRecords parameters, env) =
      ({ s with redis := RedisCache.expire env.redis s.redis }, handleResponse body 200) := by
  simp only [serve, dispatch, getRecords, if_pos hconnected, listing, hrequest, Except.mapError,
    bind, Except.bind, hget, Option.bind_some, hparse, pure, Except.pure]

/-- A list that succeeds without the cache succeeds with it. -/
theorem status_of_list (hconv : endpoint.Conventional) {s' : Records ρ}
    (hrows : s.rows = s'.rows) {parameters : String → Option String} {env : Circumstances ρ}
    {o : RedisOutcome} (hmiss : o.get = false)
    (hstatus : (endpoint.serve p s' (.getRecords parameters, { env with redis := o })).2.status <
      300) :
    (endpoint.serve p s' (.getRecords parameters, { env with redis := o })).2.status = 200 ∧
      (endpoint.serve p s (.getRecords parameters, env)).2.status = 200 := by
  have hrefused := hconv.listRefused
  have hget : ∀ r key, RedisCache.get o r key = none := by
    intro r key
    rw [RedisCache.get, if_neg (by simp [hmiss])]
  simp only [serve, dispatch, getRecords, listing, hget] at hstatus ⊢
  cases hconnected : env.connected with
  | false =>
    simp only [hconnected, Bool.false_eq_true, if_false] at hstatus
    exact absurd hstatus (by decide)
  | true =>
    simp only [hconnected, if_true] at hstatus ⊢
    cases hrequest : PageRequest.fromParameters parameters with
    | error what =>
      simp only [hrequest, Except.mapError, bind, Except.bind] at hstatus
      have hcode : endpoint.listRefused < 300 := hstatus
      omega
    | ok request =>
      simp only [hrequest, Except.mapError, bind, Except.bind, Option.bind_none, hrows]
        at hstatus ⊢
      cases hlist : endpoint.list env.database s'.rows request with
      | error thrown =>
        simp only [hlist] at hstatus
        cases thrown with
        | invalidArgument what =>
          have hcode : endpoint.listRefused < 300 := hstatus
          omega
        | other what =>
          have hcode : 500 < 300 := hstatus
          omega
      | ok page =>
        refine ⟨rfl, ?_⟩
        cases (RedisCache.get env.redis (RedisCache.expire env.redis s.redis)
          (request.cacheKey endpoint.resource)).bind p.parse <;> rfl

end RecordEndpoint

/-! ## The two resources -/

theorem UserController.conventional (generateHash : GenerateHash) :
    (UserController.endpoint generateHash).Conventional where
  stem := show "users:" = "users" ++ ":" by decide
  resource := show ':' ∉ "users".toList by decide
  listRefused := show 300 ≤ 400 by decide

theorem RoleController.conventional : RoleController.endpoint.Conventional where
  stem := by decide
  resource := by decide
  listRefused := by decide

end DrogonStarter
