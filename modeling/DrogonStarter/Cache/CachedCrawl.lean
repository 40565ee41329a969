import DrogonStarter.Cache.FailOpen
import DrogonStarter.Pagination.Crawl

/-!
# Reading a table through the cache

A client asks for one page after another while the server says that there is a next one, and
other clients ask for other things in between.

* `Visit` is one request of the client with the requests of the others before it.
* `pages_of_followed` says that a client that follows `has_next` asks for every page.
* `cached_crawl_covers` says that it gets every row once, from the database or from the cache.
-/

namespace DrogonStarter

open Serving

section visits

variable {ι : Type} {Row : ι → Type}

/-- What a client asks for, after the requests of others. -/
structure Visit (Row : ι → Type) where
  others : List (SharedCall Row)
  call : SharedCall Row

namespace Visit

/-- The requests of the client and of the others. -/
def calls (visits : List (Visit Row)) : List (SharedCall Row) :=
  visits.flatMap fun visit => visit.others ++ [visit.call]

/-- What the client gets. -/
def answers (m : Server (SharedStore Row) (SharedCall Row) HttpResponse) :
    SharedStore Row → List (Visit Row) → List HttpResponse
  | _, [] => []
  | s, visit :: visits =>
    m.answer (m.after s visit.others) visit.call ::
      answers m (m.after s (visit.others ++ [visit.call])) visits

/-- Each answer is the one of the state after all requests before it. -/
theorem getElem?_answers {m : Server (SharedStore Row) (SharedCall Row) HttpResponse}
    {s : SharedStore Row} {visits : List (Visit Row)} {k : Nat} {answer : HttpResponse}
    (h : (answers m s visits)[k]? = some answer) :
    ∃ visit, visits[k]? = some visit ∧
      calls (visits.take k) ++ visit.others ++ [visit.call] <+: calls visits ∧
      answer = m.answer (m.after s (calls (visits.take k) ++ visit.others)) visit.call := by
  induction visits generalizing s k with
  | nil => cases h
  | cons visit visits ih =>
    cases k with
    | zero =>
      cases h
      exact ⟨visit, rfl, List.prefix_append _ _, rfl⟩
    | succ k =>
      obtain ⟨other, hother, hstarts, hanswer⟩ := ih h
      refine ⟨other, hother, ?_, ?_⟩
      · have hfirst : calls (visit :: visits) = (visit.others ++ [visit.call]) ++ calls visits :=
          List.flatMap_cons
        have htake : calls ((visit :: visits).take (k + 1)) =
            (visit.others ++ [visit.call]) ++ calls (visits.take k) := List.flatMap_cons
        rw [hfirst, htake, List.append_assoc, List.append_assoc, List.prefix_append_right_inj,
          ← List.append_assoc]
        exact hstarts
      · have htake : calls ((visit :: visits).take (k + 1)) =
            (visit.others ++ [visit.call]) ++ calls (visits.take k) := List.flatMap_cons
        rw [hanswer, htake, List.append_assoc, ← Server.after_append]

end Visit

/-- A client that goes on exactly while there is a next page gets all pages. -/
theorem pages_of_followed {ρ : Type} {ordered : List ρ} {project : ρ → Json} {size : Nat}
    (htotal : ordered.length ≤ 2147483547) (hsize : 0 < size) (hsize' : size ≤ 100)
    {bodies : List Json} (hne : bodies ≠ [])
    (hpage : ∀ k body, bodies[k]? = some body → k < pageCount ordered.length size →
      body = (pageAt ordered size k).toJson project)
    (hfollow : ∀ k body, bodies[k]? = some body →
      (saysNext body = true ↔ k + 1 < bodies.length)) :
    bodies = (List.range (pageCount ordered.length size)).map fun k =>
      (pageAt ordered size k).toJson project := by
  have hnext : ∀ k, k < bodies.length → k < pageCount ordered.length size →
      (k + 1 < pageCount ordered.length size ↔ k + 1 < bodies.length) := by
    intro k hk hcount
    have hbody := List.getElem?_eq_getElem hk
    have hexact := exact_requestAt htotal hsize hsize' hcount
    rw [← hfollow k _ hbody, hpage k _ hbody hcount, saysNext_toJson, hasNext_pageAt hsize hexact]
  have hinside : ∀ k, k < bodies.length → k < pageCount ordered.length size := by
    intro k
    induction k with
    | zero => exact fun _ => pageCount_pos _ _
    | succ k ih =>
      intro hk
      have hbefore := Nat.lt_of_succ_lt hk
      exact (hnext k hbefore (ih hbefore)).2 hk
  have hlength : bodies.length = pageCount ordered.length size := by
    have hpositive := List.length_pos_of_ne_nil hne
    have hlast := hnext (bodies.length - 1) (by omega) (hinside _ (by omega))
    have hinside' := hinside (bodies.length - 1) (by omega)
    omega
  refine List.ext_getElem (by simp [hlength]) fun k hk _ => ?_
  rw [List.getElem_map, List.getElem_range]
  exact hpage k _ (List.getElem?_eq_getElem hk) (hinside k hk)

end visits

/-! ## One page -/

section pages

variable {ι : Type} {Row : ι → Type} [DecidableEq ι] {endpoints : (r : ι) → RecordEndpoint (Row r)}
  {p : Platform} {enabled : Bool} {order : (r : ι) → Database (Row r)} {s : SharedStore Row}

/-- The rows of a resource in the order of its lists. -/
def SharedStore.ordered (endpoints : (r : ι) → RecordEndpoint (Row r))
    (order : (r : ι) → Database (Row r)) (s : SharedStore Row) (r : ι) : List (Row r) :=
  (s.rows r).insertionSort (Mapper.Precedes (endpoints r).table (order r))

omit [DecidableEq ι] in
theorem page_eq_pageAt {r : ι} {size k : Nat} (hexact : (requestAt size k).Exact) :
    s.page endpoints p order r (requestAt size k) =
      (pageAt (s.ordered endpoints order r) size k).toJson ((endpoints r).toPublicJson p) := by
  have hlength : (s.ordered endpoints order r).length = (s.rows r).length :=
    List.length_insertionSort _ _
  unfold SharedStore.page RecordEndpoint.heldPage pageAt
  rw [offset_requestAt hexact, hlength]
  rfl

omit [DecidableEq ι] in
/-- What a list shows is not older than the client's first request, when everything that was
stored before had expired. -/
theorem prefix_of_late {before rest early late : List (SharedCall Row)} {j call : SharedCall Row}
    (hsplit : early ++ j :: late = before ++ rest)
    (hold : ∀ c ∈ before, c.time + ttlSeconds < call.time)
    (hlate : call.time ≤ j.time + ttlSeconds) :
    ∃ since, early = before ++ since ∧ since <+: rest := by
  rcases List.append_eq_append_iff.1 hsplit with
    ⟨between, hbefore, hrest⟩ | ⟨since, hearly, hrest⟩
  · cases between with
    | nil => exact ⟨[], by rw [hbefore, List.append_nil, List.append_nil], List.nil_prefix⟩
    | cons first between =>
      obtain ⟨rfl, _⟩ := List.cons.inj hrest
      have hj := hold j (hbefore ▸ by simp)
      omega
  · exact ⟨since, hearly, ⟨_, hrest.symm⟩⟩

/-- While the table of a resource stays as it is, its lists show it: when no Redis command has
failed, and when all that was stored in other times has expired. -/
theorem body_of_unchanged (hsep : SharedStore.Separate endpoints) {start : SharedStore Row}
    (hempty : start.redis = {}) {before rest seen : List (SharedCall Row)} {call : SharedCall Row}
    (hseen : seen ++ [call] <+: rest)
    (htimely : (SharedStore.server endpoints p enabled).Along (SharedStore.Timely order) start
      (before ++ rest)) {r : ι} (hr : call.resource = r)
    (hunchanged : ∀ since, since <+: rest →
      ((SharedStore.server endpoints p enabled).after start (before ++ since)).rows r =
        ((SharedStore.server endpoints p enabled).after start before).rows r)
    (hfresh : (∀ c ∈ before ++ rest, c.commands.NoneFailed) ∨
      ∀ c ∈ before, c.time + ttlSeconds < call.time)
    {parameters : String → Option String} {request : PageRequest}
    (hlist : call.request = .getRecords parameters)
    (hrequest : PageRequest.fromParameters parameters = .ok request)
    (hstatus : ((SharedStore.server endpoints p enabled).answer
      ((SharedStore.server endpoints p enabled).after start (before ++ seen)) call).status = 200) :
    ((SharedStore.server endpoints p enabled).answer
        ((SharedStore.server endpoints p enabled).after start (before ++ seen)) call).body =
      some (((SharedStore.server endpoints p enabled).after start before).page endpoints p order
        r request) := by
  subst hr
  have hpage : ∀ since, since <+: rest →
      ((SharedStore.server endpoints p enabled).after start (before ++ since)).page endpoints p
          order call.resource request =
        ((SharedStore.server endpoints p enabled).after start before).page endpoints p order
          call.resource request :=
    fun since hsince => congrArg
      (fun rows => (endpoints call.resource).heldPage p (order call.resource) rows request)
      (hunchanged since hsince)
  obtain ⟨later, hlater⟩ := hseen
  have hseen : seen <+: rest := ⟨call :: later, by rw [← hlater]; simp⟩
  have hcalls : before ++ rest = (before ++ seen ++ [call]) ++ later := by
    rw [← hlater]
    simp
  rw [hcalls] at htimely
  obtain ⟨request', hrequest', ⟨early, j, late, hsplit, _, hlate, hbody⟩, hcurrent⟩ :=
    SharedStore.body_of_listed hsep hempty (before ++ seen) call
      ((Server.along_append _ _ _ _).1 htimely).1 hlist hstatus
  obtain rfl := Except.ok.inj (hrequest.symm.trans hrequest')
  rcases hfresh with hnone | hold
  · have hbefore : before ++ seen <+: before ++ rest := (List.prefix_append_right_inj _).2 hseen
    rw [hcurrent fun c hc => hnone c (hbefore.subset hc), hpage seen hseen]
  · have hsplit' : early ++ j :: (late ++ later) = before ++ rest := by
      rw [hcalls, hsplit]
      simp
    obtain ⟨since, rfl, hsince⟩ := prefix_of_late hsplit' hold hlate
    rw [hbody, hpage since hsince]

end pages

/-! ## All pages -/

/-- A client that asks for one page of a resource after another, as long as there is a next
page, gets its table, with Redis or without, whatever others ask for in between: when the table
stays as it is, and either no Redis command fails or thirty seconds have gone by since the
requests before. -/
theorem cached_crawl_covers (p : Platform) (generateHash : GenerateHash) (enabled : Bool)
    (order : (r : ResourceName) → Database r.Row) {start : SharedStore ResourceName.Row}
    (hempty : start.redis = {}) {before : List (SharedCall ResourceName.Row)}
    {visits : List (Visit ResourceName.Row)} (hvisits : visits ≠ [])
    (htimely : (ResourceName.server p generateHash enabled).Along (SharedStore.Timely order) start
      (before ++ Visit.calls visits)) {r : ResourceName}
    (hunchanged : ∀ since, since <+: Visit.calls visits →
      ((ResourceName.server p generateHash enabled).after start (before ++ since)).rows r =
        ((ResourceName.server p generateHash enabled).after start before).rows r)
    (hfresh : (∀ call ∈ before ++ Visit.calls visits, call.commands.NoneFailed) ∨
      ∀ call ∈ before, ∀ visit ∈ visits, call.time + ttlSeconds < visit.call.time)
    {size : Nat} (hsize : 0 < size) (hsize' : size ≤ 100)
    (htotal : (((ResourceName.server p generateHash enabled).after start before).rows r).length ≤
      2147483547)
    (hasks : ∀ (k : Nat) (visit : Visit ResourceName.Row), visits[k]? = some visit →
      visit.call.resource = r ∧ visit.call.request = .getRecords (pageParameters (k + 1) size))
    {bodies : List Json}
    (hbodies : (Visit.answers (ResourceName.server p generateHash enabled)
        ((ResourceName.server p generateHash enabled).after start before) visits).map
        (fun answer => (answer.status, answer.body)) = bodies.map fun body => (200, some body))
    (hfollow : ∀ k body, bodies[k]? = some body →
      (saysNext body = true ↔ k + 1 < bodies.length)) :
    Covers bodies
      ((((ResourceName.server p generateHash enabled).after start before).ordered
        (ResourceName.endpoint generateHash) order r).map
        ((ResourceName.endpoint generateHash r).toPublicJson p)) size := by
  have hlength : (((ResourceName.server p generateHash enabled).after start before).ordered
      (ResourceName.endpoint generateHash) order r).length ≤ 2147483547 := by
    rw [SharedStore.ordered, List.length_insertionSort]
    exact htotal
  have hne : bodies ≠ [] := by
    rintro rfl
    cases visits with
    | nil => exact hvisits rfl
    | cons visit visits => cases hbodies
  have hpage : ∀ k body, bodies[k]? = some body → k < pageCount
      (((ResourceName.server p generateHash enabled).after start before).ordered
        (ResourceName.endpoint generateHash) order r).length size →
      body = (pageAt (((ResourceName.server p generateHash enabled).after start before).ordered
        (ResourceName.endpoint generateHash) order r) size k).toJson
        ((ResourceName.endpoint generateHash r).toPublicJson p) := by
    intro k body hbody hk
    have hexact := exact_requestAt hlength hsize hsize' hk
    have hsmall : k + 1 ≤ 2147483647 := by
      have hbegin := mul_le_of_lt_pageCount hsize hk
      have hcount : k ≤ k * size := Nat.le_mul_of_pos_right k hsize
      omega
    have hmapped := congrArg (fun results => results[k]?) hbodies
    simp only [List.getElem?_map, hbody, Option.map_some] at hmapped
    obtain ⟨answer, hanswer, hpair⟩ := Option.map_eq_some_iff.1 hmapped
    obtain ⟨hstatus, hanswered⟩ := Prod.mk.inj hpair
    obtain ⟨visit, hvisit, hseen, rfl⟩ := Visit.getElem?_answers hanswer
    obtain ⟨hr, hlist⟩ := hasks k visit hvisit
    rw [← Server.after_append] at hstatus hanswered
    have hshown := body_of_unchanged (ResourceName.separate generateHash) hempty hseen htimely hr
      hunchanged (hfresh.imp_right fun hold call hcall =>
        hold call hcall visit (List.mem_of_getElem? hvisit)) hlist
      (fromParameters_pageParameters hsize hsize' hsmall) hstatus
    rw [page_eq_pageAt hexact] at hshown
    exact Option.some.inj (hanswered.symm.trans hshown)
  rw [pages_of_followed hlength hsize hsize' hne hpage hfollow]
  exact covers_pages _ _ hlength hsize hsize'

/-! ## Two roles -/

/-- A page of one role, at a time before which entries expired. -/
def roleAt (k : Nat) (time : Int) (expired : List String) : SharedCall ResourceName.Row where
  resource := .roles
  request := .getRecords (pageParameters (k + 1) 1)
  env := letterCircumstances Roles
  time := time
  expired := expired

/-- The table with one role is listed, and gets a second one that stays unknown to Redis. -/
def beforeVisits : List (SharedCall ResourceName.Row) := [roleAt 0 0 [], adminCreation 5]

/-- The page of before has expired, and another client asks for the second page first. -/
def roleVisits : List (Visit ResourceName.Row) :=
  [⟨[], roleAt 0 40 ["roles:page=1:size=1"]⟩, ⟨[roleAt 1 45 []], roleAt 1 50 []⟩]

/-- The tables and Redis after requests from the table with one role. -/
abbrev afterOwner (calls : List (SharedCall ResourceName.Row)) : SharedStore ResourceName.Row :=
  (ResourceName.server compactPlatform default true).after ownerStore calls

/-- A body of the list of two roles. -/
def roleBody (k : Nat) : Json :=
  (pageAt ((afterOwner beforeVisits).ordered (ResourceName.endpoint default) letterOrder .roles)
    1 k).toJson (RoleService.toPublicJson compactPlatform)

theorem isPlain_roleBody : (roleBody 1).isPlain = true := by decide +kernel

/-- The first page was read again from the table, and the other client stored the second. -/
theorem entries_of_second :
    (afterOwner (beforeVisits ++
        [roleAt 0 40 ["roles:page=1:size=1"], roleAt 1 45 []])).redis.entries =
      [("roles:page=2:size=1", compactPlatform.writeString (roleBody 1)),
        ("roles:page=1:size=1", compactPlatform.writeString (roleBody 0))] := rfl

/-- The first page comes from the table. -/
theorem answer_of_expired :
    (ResourceName.server compactPlatform default true).answer (afterOwner beforeVisits)
      (roleAt 0 40 ["roles:page=1:size=1"]) = handleResponse (roleBody 0) 200 := rfl

/-- The second page comes from Redis. -/
theorem answer_of_second :
    (ResourceName.server compactPlatform default true).answer
        (afterOwner (beforeVisits ++ [roleAt 0 40 ["roles:page=1:size=1"], roleAt 1 45 []]))
        (roleAt 1 50 []) = handleResponse (roleBody 1) 200 := by
  have hrequest : PageRequest.fromParameters (pageParameters (1 + 1) 1) = .ok (requestAt 1 1) :=
    fromParameters_pageParameters (by decide) (by decide) (by decide)
  have hget : (afterOwner (beforeVisits ++
      [roleAt 0 40 ["roles:page=1:size=1"], roleAt 1 45 []])).redis.get "roles:page=2:size=1" =
        some (compactPlatform.writeString (roleBody 1)) := by
    rw [Redis.get, entries_of_second]
    rfl
  exact SharedStore.answer_of_hit rfl rfl rfl hrequest hget
    (writeString_compactPlatform_ne isPlain_roleBody)
    (parse_writeString_compactPlatform isPlain_roleBody)

/-- The client gets the first page from the table and the second from Redis: together they are
the table with the second role. -/
theorem cached_crawl_covers_roles :
    Covers [roleBody 0, roleBody 1]
      ((((ResourceName.server compactPlatform default true).after ownerStore
        beforeVisits).ordered (ResourceName.endpoint default) letterOrder .roles).map
        ((ResourceName.endpoint default .roles).toPublicJson compactPlatform)) 1 := by
  refine @cached_crawl_covers compactPlatform default true letterOrder ownerStore rfl beforeVisits
    roleVisits nofun ?_ .roles ?_ (.inr (by decide)) 1 (by decide) (by decide)
    (show 2 ≤ 2147483547 by decide) ?_ [roleBody 0, roleBody 1] ?_ ?_
  · refine ⟨?_, ?_, ?_, ?_, ?_, trivial⟩
    all_goals exact SharedStore.timely_of_keys (by decide) (by decide +kernel) rfl
  · intro since hsince
    rw [Server.after_append]
    refine congrFun (SharedStore.rows_after_of_lists fun call hcall => ?_) ResourceName.roles
    have hmem := hsince.subset hcall
    simp only [Visit.calls, roleVisits, List.flatMap_cons, List.flatMap_nil, List.nil_append,
      List.cons_append, List.append_nil, List.mem_cons, List.not_mem_nil, or_false] at hmem
    rcases hmem with rfl | rfl | rfl <;> exact ⟨_, rfl⟩
  · intro k visit hvisit
    match k, hvisit with
    | 0, hvisit => cases hvisit; exact ⟨rfl, rfl⟩
    | 1, hvisit => cases hvisit; exact ⟨rfl, rfl⟩
  · have hanswers : Visit.answers (ResourceName.server compactPlatform default true)
        (afterOwner beforeVisits) roleVisits =
          [handleResponse (roleBody 0) 200, handleResponse (roleBody 1) 200] := by
      simp only [roleVisits, Visit.answers, ← Server.after_append, List.nil_append,
        List.append_nil, List.append_assoc, List.cons_append]
      rw [answer_of_second]
      exact congrArg (· :: _) answer_of_expired
    rw [hanswers]
    rfl
  · intro k body hbody
    match k, hbody with
    | 0, hbody => cases hbody; exact ⟨fun _ => by decide, fun _ => by decide +kernel⟩
    | 1, hbody =>
      cases hbody
      exact ⟨fun h => absurd h (by decide +kernel), fun h => absurd h (by decide)⟩

end DrogonStarter
