import DrogonStarter.Cache.ListCache

/-!
# Freshness of the cached lists

A write answers after it has deleted every key that its `KEYS` found.  A list
request that read the database before the write can still store its page after
that, and the page is then served for as long as it stays in Redis.

* `ListCache.Fresh` is the property: no answered list is older than a write that
  had answered when the list request started.
* `ListCache.Coherent` carries it: no entry is older than a write whose
  invalidation is past the key.  Every step but a `SETEX` keeps it.
* `fresh_via` is about whole runs, and `ListCache.stale_store_served` is its
  other direction: whenever such a page is stored, a later list request can be
  answered with it.
-/

namespace DrogonStarter

open Transition

namespace ListCache

variable {δ ω π : Type} {r : Resource δ ω π}

/-- The write is newer than `version`, answers with success, and will not
delete `key` any more. -/
def Passed (w : WriteRequest ω) (version : Nat) (key : String) : Prop :=
  match w.phase with
  | .erasing keys number ok => ok = true ∧ version < number ∧ key ∉ keys
  | .responded number ok => ok = true ∧ version < number
  | .started | .written _ _ | .failed => False

instance (w : WriteRequest ω) (version : Nat) (key : String) :
    Decidable (Passed w version key) :=
  match h : w.phase with
  | .erasing keys number ok =>
    decidable_of_iff (ok = true ∧ version < number ∧ key ∉ keys) (by simp [Passed, h])
  | .responded number ok =>
    decidable_of_iff (ok = true ∧ version < number) (by simp [Passed, h])
  | .started | .written _ _ | .failed => isFalse (by simp [Passed, h])

/-- No answered list is older than a write that had answered with success when
the list request started. -/
def Fresh (s : ListCache δ ω π) : Prop :=
  ∀ l ∈ s.lists, ∀ page version, l.phase = .answered page version → l.floor ≤ version

/-- A list request is about to store a page that is older than a write whose
invalidation is past the key. -/
def Late (r : Resource δ ω π) (s : ListCache δ ω π) (l : ListRequest π) : Prop :=
  match l.phase with
  | .read _ version => ∃ w ∈ s.writes, Passed w version (l.request.cacheKey r.name)
  | .looking | .missed | .answered _ _ => False

instance (r : Resource δ ω π) (s : ListCache δ ω π) (l : ListRequest π) :
    Decidable (s.Late r l) :=
  match h : l.phase with
  | .read _ version =>
    decidable_of_iff (∃ w ∈ s.writes, Passed w version (l.request.cacheKey r.name))
      (by simp [Late, h])
  | .looking | .missed | .answered _ _ => isFalse (by simp [Late, h])

/-- The `SETEX` of a late list request. -/
def StoresStale (r : Resource δ ω π) (s : ListCache δ ω π) : CacheAction ω → Prop
  | .setex i => ∃ l ∈ s.lists[i]?, s.Late r l
  | _ => False

instance (r : Resource δ ω π) (s : ListCache δ ω π) (a : CacheAction ω) :
    Decidable (s.StoresStale r a) :=
  match a with
  | .setex i => inferInstanceAs (Decidable (∃ l ∈ s.lists[i]?, s.Late r l))
  | .list _ | .get _ | .read _ | .write _ | .store _ | .keys _ | .del _ | .respond _
  | .expire _ => inferInstanceAs (Decidable False)

/-! ## The runs that store nothing stale -/

/-- No entry is older than a write whose invalidation is past its key, and no
page on its way to a client is older than its request allows. -/
structure Coherent (s : ListCache δ ω π) : Prop where
  entries : ∀ entry ∈ s.redis.entries, ∀ w ∈ s.writes,
    ¬ Passed w entry.2.version entry.1
  lists : ∀ l ∈ s.lists, ∀ page version,
    (l.phase = .read page version ∨ l.phase = .answered page version) → l.floor ≤ version

theorem not_passed_of_phase {w : WriteRequest ω} {version : Nat} {key : String}
    {phase : WritePhase} (hw : w.phase = phase)
    (hphase : ¬ Passed { w with phase := phase } version key) : ¬ Passed w version key := by
  have hsame : w = { w with phase := phase } := by rw [← hw]
  rw [hsame]
  exact hphase

theorem Coherent.entries_stepped {s t : ListCache δ ω π} {a : CacheAction ω}
    (h : s.Coherent) (hsound : s.Sound r) (hstep : Stepped r s a t)
    (hok : ¬ s.StoresStale r a) :
    ∀ entry ∈ t.redis.entries, ∀ w ∈ t.writes, ¬ Passed w entry.2.version entry.1 := by
  intro entry hentry v hv
  cases hstep with
  | list | get | read => exact h.entries entry hentry v hv
  | expire key => exact h.entries entry (Redis.mem_del.1 hentry).1 v hv
  | setex i l page version hl hphase =>
    rcases Redis.mem_setex.1 hentry with rfl | ⟨hold, _⟩
    · intro hpassed
      refine hok ⟨l, hl, ?_⟩
      simp only [Late, hphase]
      exact ⟨v, hv, hpassed⟩
    · exact h.entries entry hold v hv
  | write body =>
    rcases List.mem_append.1 hv with hold | hnew
    · exact h.entries entry hentry v hold
    · rw [List.mem_singleton.1 hnew]
      exact id
  | failed j w hw hphase =>
    rcases mem_setWrite hv with hold | hnew
    · exact h.entries entry hentry v hold
    · exact not_passed_of_phase hnew id
  | stored j w db ok hw hphase =>
    rcases mem_setWrite hv with hold | hnew
    · exact h.entries entry hentry v hold
    · exact not_passed_of_phase hnew id
  | keys j w version ok hw hphase =>
    rcases mem_setWrite hv with hold | hnew
    · exact h.entries entry hentry v hold
    · -- `KEYS` has just found every entry.
      refine not_passed_of_phase hnew fun hpassed => ?_
      exact hpassed.2.2 (Redis.mem_keys hentry (hsound.found entry hentry))
  | del j w key rest version ok hw hphase =>
    obtain ⟨hold, hother⟩ := Redis.mem_del.1 hentry
    rcases mem_setWrite hv with hwrite | hnew
    · exact h.entries entry hold v hwrite
    · refine not_passed_of_phase hnew fun hpassed => ?_
      refine h.entries entry hold w (List.mem_of_getElem? hw) ?_
      simp only [Passed, hphase]
      refine ⟨hpassed.1, hpassed.2.1, ?_⟩
      simp only [List.mem_cons, not_or]
      exact ⟨hother, hpassed.2.2⟩
  | respond j w version ok hw hphase =>
    rcases mem_setWrite hv with hold | hnew
    · exact h.entries entry hentry v hold
    · refine not_passed_of_phase hnew fun hpassed => ?_
      refine h.entries entry hentry w (List.mem_of_getElem? hw) ?_
      simp only [Passed, hphase]
      exact ⟨hpassed.1, hpassed.2, List.not_mem_nil⟩

/-- An entry of a coherent cache is as new as the newest answered write. -/
theorem Coherent.settled_le {s : ListCache δ ω π} (h : s.Coherent) (hsound : s.Sound r)
    {key : String} {stored : Stored} (hget : s.redis.get key = some stored) :
    s.settled ≤ stored.version := by
  rcases hsound.settledBy with hzero | ⟨w, hw, hphase⟩
  · omega
  · by_contra hlate
    refine h.entries _ (Redis.mem_of_get hget) w hw ?_
    simp only [Passed, hphase]
    exact ⟨trivial, by omega⟩

theorem Coherent.lists_stepped {s t : ListCache δ ω π} {a : CacheAction ω}
    (h : s.Coherent) (hsound : s.Sound r) (hstep : Stepped r s a t) :
    ∀ l ∈ t.lists, ∀ page version,
      (l.phase = .read page version ∨ l.phase = .answered page version) →
        l.floor ≤ version := by
  intro m hm page version hphase'
  cases hstep with
  | write | failed | stored | keys | del | respond | expire =>
    exact h.lists m hm page version hphase'
  | list request =>
    rcases List.mem_append.1 hm with hold | hnew
    · exact h.lists m hold page version hphase'
    · rw [List.mem_singleton.1 hnew] at hphase'
      simp at hphase'
  | get i l hl hphase =>
    rcases mem_setList hl hm with hold | ⟨hold, rfl⟩
    · exact h.lists m hold page version hphase'
    · rcases hphase' with hread | hhit
      · exact absurd hread (lookup_ne_read r s l.request page version)
      · have hfloor := hsound.floors l hold
        rcases lookup_cases r s l.request with hmiss | ⟨stored, shown, hget, hanswer⟩
        · rw [hmiss] at hhit
          simp at hhit
        · rw [hanswer] at hhit
          cases hhit
          exact Nat.le_trans hfloor (h.settled_le hsound hget)
  | read i l hl hphase =>
    rcases mem_setList hl hm with hold | ⟨hold, rfl⟩
    · exact h.lists m hold page version hphase'
    · rcases hphase' with hread | hanswered
      · cases hread
        exact Nat.le_trans (hsound.floors l hold) hsound.settled_le
      · simp at hanswered
  | setex i l shown number hl hphase =>
    rcases mem_setList hl hm with hold | ⟨hold, rfl⟩
    · exact h.lists m hold page version hphase'
    · rcases hphase' with hread | hanswered
      · simp at hread
      · cases hanswered
        exact h.lists l hold page version (Or.inl hphase)

theorem Coherent.stepped {s t : ListCache δ ω π} {a : CacheAction ω} (h : s.Coherent)
    (hsound : s.Sound r) (hstep : Stepped r s a t) (hok : ¬ s.StoresStale r a) :
    t.Coherent :=
  ⟨h.entries_stepped hsound hstep hok, h.lists_stepped hsound hstep⟩

theorem Coherent.fresh {s : ListCache δ ω π} (h : s.Coherent) : s.Fresh :=
  fun l hl page version hphase => h.lists l hl page version (Or.inr hphase)

/-! ## A stale page is served -/

/-- A list request that starts now is answered from an entry that is older
than an answered write. -/
theorem stale_hit (r : Resource δ ω π) {s : ListCache δ ω π} {request : PageRequest}
    {page : π} {version : Nat}
    (hget : s.redis.get (request.cacheKey r.name) = some ⟨r.writeString page, version⟩)
    (hold : version < s.settled) (db : δ) :
    ∃ as t, (listCache r db).runFrom s as = some t ∧ ¬ t.Fresh := by
  let m : ListRequest π := { request := request, floor := s.settled }
  let u : ListCache δ ω π := { s with lists := s.lists ++ [m] }
  have hnew : u.lists[s.lists.length]? = some m := List.getElem?_concat_length
  have hhit : u.lookup r request = .answered page version := by
    have hsame : u.redis.get (request.cacheKey r.name) = _ := hget
    simp only [ListCache.lookup, hsame, if_neg (r.writeString_ne page), r.parse_writeString]
  have hstart : (listCache r db).next s (.list request) = some u := rfl
  have hanswer : (listCache r db).next u (.get s.lists.length) =
      some (u.setList s.lists.length m (.answered page version)) := by
    show (u.lists[s.lists.length]?.bind _) = _
    rw [hnew, ← hhit]
    rfl
  refine ⟨[.list request, .get s.lists.length],
    u.setList s.lists.length m (.answered page version), ?_, fun hfresh => ?_⟩
  · rw [Machine.runFrom_cons_of_next _ hstart, Machine.runFrom_cons_of_next _ hanswer]
    rfl
  · have hlength : s.lists.length < u.lists.length := (List.getElem?_eq_some_iff.1 hnew).1
    have hlate : s.settled ≤ version :=
      hfresh { m with phase := .answered page version } (List.mem_set hlength _) page version
        rfl
    omega

/-- A write that is past `key` can finish its invalidation and answer without
touching that key. -/
theorem erasing_drains (r : Resource δ ω π) (db : δ) {key : String} {stored : Stored}
    {j number : Nat} (keys : List String) {s : ListCache δ ω π} {w : WriteRequest ω}
    (hw : s.writes[j]? = some w) (hphase : w.phase = .erasing keys number true)
    (hkey : key ∉ keys) (hget : s.redis.get key = some stored) :
    ∃ as t, (listCache r db).runFrom s as = some t ∧ t.redis.get key = some stored ∧
      number ≤ t.settled := by
  induction keys generalizing s w with
  | nil =>
    have hnext : (listCache r db).next s (.respond j) =
        some { s.setWrite j w (.responded number true) with
          settled := if true then max s.settled number else s.settled } := by
      show (s.writes[j]?.bind _) = _
      simp only [hw, Option.bind_some, hphase]
    refine ⟨[.respond j], _, Machine.runFrom_cons_of_next [] hnext, hget, ?_⟩
    exact Nat.le_max_right _ _
  | cons other rest ih =>
    obtain ⟨hne, hrest⟩ := List.ne_and_not_mem_of_not_mem_cons hkey
    have hlength : j < s.writes.length := (List.getElem?_eq_some_iff.1 hw).1
    let u : ListCache δ ω π :=
      { s.setWrite j w (.erasing rest number true) with redis := s.redis.del other }
    have hnext : (listCache r db).next s (.del j) = some u := by
      show (s.writes[j]?.bind _) = _
      simp only [hw, Option.bind_some, hphase]
      rfl
    have hwrite : u.writes[j]? = some { w with phase := .erasing rest number true } :=
      List.getElem?_set_self hlength
    have hkept : u.redis.get key = some stored := (Redis.get_del_of_ne hne).trans hget
    obtain ⟨as, t, hrun, hget', hsettled⟩ := ih hwrite rfl hrest hkept
    exact ⟨.del j :: as, t, (Machine.runFrom_cons_of_next as hnext).trans hrun, hget',
      hsettled⟩

/-- Whenever a stale page is stored, a later list request can be answered with
it. -/
theorem stale_store_served {s t : ListCache δ ω π} {a : CacheAction ω} {db : δ}
    (hsound : s.Sound r) (hstep : Stepped r s a t) (hstale : s.StoresStale r a) :
    ∃ as u, (listCache r db).runFrom t as = some u ∧ ¬ u.Fresh := by
  cases hstep with
  | list | get | read | write | failed | stored | keys | del | respond | expire =>
    exact absurd hstale id
  | setex i l page version hl hphase =>
    obtain ⟨l', hl', hlate⟩ := hstale
    have hsame : some l = some l' := hl.symm.trans hl'
    cases hsame
    simp only [Late, hphase] at hlate
    obtain ⟨w, hw, hpassed⟩ := hlate
    obtain ⟨j, hj⟩ := List.getElem?_of_mem hw
    let u : ListCache δ ω π :=
      { s.setList i l (.answered page version) with
        redis :=
          s.redis.setex (l.request.cacheKey r.name) ⟨r.writeString page, version⟩ }
    have hget : u.redis.get (l.request.cacheKey r.name) =
        some ⟨r.writeString page, version⟩ := Redis.get_setex_self _ _ _
    unfold Passed at hpassed
    cases hwrite : w.phase with
    | started | written | failed => simp [hwrite] at hpassed
    | responded number ok =>
      simp only [hwrite] at hpassed
      obtain ⟨rfl, hnewer⟩ := hpassed
      have hsettled := hsound.responded w hw number hwrite
      exact stale_hit r (s := u) hget (Nat.lt_of_lt_of_le hnewer hsettled) db
    | erasing keys number ok =>
      simp only [hwrite] at hpassed
      obtain ⟨rfl, hnewer, hkey⟩ := hpassed
      obtain ⟨as, v, hrun, hkept, hsettled⟩ :=
        erasing_drains r db keys (s := u) (w := w) hj hwrite hkey hget
      obtain ⟨bs, x, hrest, hstale⟩ :=
        stale_hit r (s := v) hkept (Nat.lt_of_lt_of_le hnewer hsettled) db
      refine ⟨as ++ bs, x, ?_, hstale⟩
      rw [Machine.runFrom_append, hrun]
      exact hrest

end ListCache

open ListCache

variable {δ ω π : Type}

theorem coherent_of_reachableVia {r : Resource δ ω π} {db : δ} {s : ListCache δ ω π}
    (h : (listCache r db).ReachableVia (fun s a => ¬ s.StoresStale r a) s) :
    s.Coherent := by
  refine Machine.ReachableVia.invariant ?_ ?_ h
  · exact ⟨by simp [listCache], by simp [listCache]⟩
  · intro s a t hreach hs hnext hok
    exact hs.stepped (listCache_sound hreach.reachable) (next_stepped hnext) hok

/-- Every answered page shows the state whose number it carries.  That state
includes every write that had answered in the runs in which no `SETEX` stores a
page that is older than a write whose invalidation is past the key, and every
`SETEX` that does so can lead to a list that misses such a write. -/
theorem fresh_via (r : Resource δ ω π) (db : δ) :
    (∀ s, (listCache r db).Reachable s → s.Truthful r) ∧
    (∀ s, (listCache r db).ReachableVia (fun s a => ¬ s.StoresStale r a) s → s.Fresh) ∧
    ∀ s t a, (listCache r db).Reachable s → (listCache r db).next s a = some t →
      s.StoresStale r a →
        ∃ as u, (listCache r db).runFrom t as = some u ∧ ¬ u.Fresh := by
  refine ⟨fun s h => listCache_truthful h, fun s h => (coherent_of_reachableVia h).fresh, ?_⟩
  intro s t a hreach hnext hstale
  exact stale_store_served (listCache_sound hreach) (next_stepped hnext) hstale

/-- A list that is stored before the write's `KEYS` is deleted again, and the
next list shows the write. -/
theorem fresh_via_deleted :
    Fresh
      ({ db := ['a', 'b']
         lists :=
          [{ request := {}, floor := 0, phase := .answered ['a'] 0 },
           { request := {}, floor := 1, phase := .read ['a', 'b'] 1 }]
         writes := [{ body := 'b', phase := .responded 1 true }]
         version := 1
         history := [['a'], ['a', 'b']]
         settled := 1 } : ListCache (List Char) Char (List Char)) :=
  (fresh_via letterTable ['a']).2.1 _
    (Machine.reachableVia_of_run
      [.list {}, .get 0, .read 0, .write 'b', .store 0, .setex 0, .keys 0, .del 0,
       .respond 0, .list {}, .get 1, .read 1] (by decide +kernel) (by decide +kernel))

/-- A page that was read before the write is stored after the write's `KEYS`.
A list that starts after the answer of the write is answered with it. -/
theorem late_store_served :
    ¬ ∀ (r : Resource (List Char) Char (List Char)) (db : List Char)
      (s : ListCache (List Char) Char (List Char)),
      (listCache r db).Reachable s → s.Fresh := by
  intro hall
  have hreach : (listCache letterTable ['a']).Reachable
      { db := ['a', 'b']
        redis := { entries := [("users:page=1:size=25", ⟨"[a]", 0⟩)] }
        lists :=
          [{ request := {}, floor := 0, phase := .answered ['a'] 0 },
           { request := {}, floor := 1, phase := .answered ['a'] 0 }]
        writes := [{ body := 'b', phase := .responded 1 true }]
        version := 1
        history := [['a'], ['a', 'b']]
        settled := 1 } :=
    Machine.reachable_of_run
      [.list {}, .get 0, .read 0, .write 'b', .store 0, .keys 0, .respond 0, .setex 0,
       .list {}, .get 1] (by decide +kernel)
  have hlate := hall letterTable ['a'] _ hreach
    { request := {}, floor := 1, phase := .answered ['a'] 0 } (by simp) ['a'] 0 rfl
  simp at hlate

end DrogonStarter
