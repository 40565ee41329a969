import DrogonStarter.Cache.RedisCache
import DrogonStarter.Lib.Transition
import DrogonStarter.Pagination.PageRequest

/-!
# Lists, writes and the cache between them

The handlers of a resource, users or roles, share a table and the Redis keys
that begin with the resource's name.  A list request does `GET`, reads the
database on a miss, and does `SETEX`.  A write request writes the database,
then does `KEYS` and one `DEL` for each key that it found, and responds.  Any
number of requests run side by side, one command at a time.

* `ListCache` is the state and `listCache` the machine.
* `ListCache.Stepped` says what each action can do.
* `ListCache.Truthful` says that a page is the page of the database state whose
  number it carries.  `ListCache.Sound` collects what is true of the numbers in
  every run.

Database states are numbered by the writes that led to them.  The numbers, and
the history that they index, record the past, and nothing reads them.
-/

namespace DrogonStarter

open Transition

/-- What the handlers of a resource do besides Redis.  The text format is
`Json::writeString` and `Json::parseFromStream`, which give a value back. -/
structure Resource (δ ω π : Type) where
  /-- `users` or `roles`. -/
  name : String
  /-- Total and page, as the service reads them and the controller projects
  them. -/
  list : PageRequest → δ → π
  /-- A database write, and whether the request then answers with success.  A
  write that throws leaves the table as it was. -/
  write : ω → δ → Option (δ × Bool)
  writeString : π → String
  parse : String → Option π
  parse_writeString : ∀ page, parse (writeString page) = some page
  writeString_ne : ∀ page, writeString page ≠ ""

/-- A Redis value, and the number of the state it was computed from. -/
structure Stored where
  text : String
  version : Nat
deriving DecidableEq

/-- Where a list request stands. -/
inductive ListPhase (π : Type) where
  /-- Before `GET`. -/
  | looking
  /-- After a `GET` without a usable value. -/
  | missed
  /-- After the database, before `SETEX`. -/
  | read (page : π) (version : Nat)
  | answered (page : π) (version : Nat)
deriving DecidableEq

structure ListRequest (π : Type) where
  request : PageRequest
  /-- The newest write that had answered with success when this started. -/
  floor : Nat
  phase : ListPhase π := .looking
deriving DecidableEq

/-- Where a write request stands.  `ok` is whether it will answer with
success. -/
inductive WritePhase where
  | started
  /-- After the database, before `KEYS`. -/
  | written (version : Nat) (ok : Bool)
  /-- With the keys that are left for `DEL`. -/
  | erasing (keys : List String) (version : Nat) (ok : Bool)
  | responded (version : Nat) (ok : Bool)
  /-- The database threw, and the handler answers with an error. -/
  | failed
deriving DecidableEq

structure WriteRequest (ω : Type) where
  body : ω
  phase : WritePhase := .started
deriving DecidableEq

/-- The table, Redis and the requests so far. -/
structure ListCache (δ ω π : Type) where
  db : δ
  redis : Redis Stored := {}
  lists : List (ListRequest π) := []
  writes : List (WriteRequest ω) := []
  /-- How many database writes there have been. -/
  version : Nat := 0
  /-- Every database state so far, the first one at zero. -/
  history : List δ
  /-- The newest write that has answered with success. -/
  settled : Nat := 0
deriving DecidableEq

inductive CacheAction (ω : Type) where
  /-- A list request starts. -/
  | list (request : PageRequest)
  | get (i : Nat)
  | read (i : Nat)
  | setex (i : Nat)
  /-- A write request starts. -/
  | write (body : ω)
  /-- The database write of a write request. -/
  | store (j : Nat)
  | keys (j : Nat)
  | del (j : Nat)
  | respond (j : Nat)
  /-- Redis drops an entry. -/
  | expire (key : String)
deriving DecidableEq

namespace ListCache

variable {δ ω π : Type}

/-- The answer to a list request whose `GET` runs now. -/
def lookup (r : Resource δ ω π) (s : ListCache δ ω π) (request : PageRequest) : ListPhase π :=
  match s.redis.get (request.cacheKey r.name) with
  | none => .missed
  | some stored =>
    -- `RedisCache::get` takes an empty value for a miss.
    if stored.text = "" then .missed
    else
      match r.parse stored.text with
      | none => .missed
      | some page => .answered page stored.version

def setList (s : ListCache δ ω π) (i : Nat) (l : ListRequest π) (phase : ListPhase π) :
    ListCache δ ω π :=
  { s with lists := s.lists.set i { l with phase := phase } }

def setWrite (s : ListCache δ ω π) (j : Nat) (w : WriteRequest ω) (phase : WritePhase) :
    ListCache δ ω π :=
  { s with writes := s.writes.set j { w with phase := phase } }

def next (r : Resource δ ω π) (s : ListCache δ ω π) : CacheAction ω → Option (ListCache δ ω π)
  | .list request =>
    some { s with lists := s.lists ++ [{ request := request, floor := s.settled }] }
  | .get i =>
    s.lists[i]?.bind fun l =>
      match l.phase with
      | .looking => some (s.setList i l (s.lookup r l.request))
      | _ => none
  | .read i =>
    s.lists[i]?.bind fun l =>
      match l.phase with
      | .missed => some (s.setList i l (.read (r.list l.request s.db) s.version))
      | _ => none
  | .setex i =>
    s.lists[i]?.bind fun l =>
      match l.phase with
      | .read page version =>
        some { s.setList i l (.answered page version) with
          redis :=
            s.redis.setex (l.request.cacheKey r.name) ⟨r.writeString page, version⟩ }
      | _ => none
  | .write body => some { s with writes := s.writes ++ [{ body := body }] }
  | .store j =>
    s.writes[j]?.bind fun w =>
      match w.phase with
      | .started =>
        match r.write w.body s.db with
        | none => some (s.setWrite j w .failed)
        | some (db, ok) =>
          some { s.setWrite j w (.written (s.version + 1) ok) with
            db := db, version := s.version + 1, history := s.history ++ [db] }
      | _ => none
  | .keys j =>
    s.writes[j]?.bind fun w =>
      match w.phase with
      | .written version ok =>
        some (s.setWrite j w (.erasing (s.redis.keys (r.name ++ ":")) version ok))
      | _ => none
  | .del j =>
    s.writes[j]?.bind fun w =>
      match w.phase with
      | .erasing (key :: rest) version ok =>
        some { s.setWrite j w (.erasing rest version ok) with redis := s.redis.del key }
      | _ => none
  | .respond j =>
    s.writes[j]?.bind fun w =>
      match w.phase with
      | .erasing [] version ok =>
        some { s.setWrite j w (.responded version ok) with
          settled := if ok then max s.settled version else s.settled }
      | _ => none
  | .expire key => some { s with redis := s.redis.del key }

end ListCache

/-- A resource over a table, with an empty cache. -/
def listCache {δ ω π : Type} (r : Resource δ ω π) (db : δ) :
    Machine (ListCache δ ω π) (CacheAction ω) where
  init := { db := db, history := [db] }
  next := ListCache.next r

namespace ListCache

variable {δ ω π : Type} {r : Resource δ ω π}

/-- The states that an action can lead to. -/
inductive Stepped (r : Resource δ ω π) (s : ListCache δ ω π) :
    CacheAction ω → ListCache δ ω π → Prop
  | list (request : PageRequest) :
      Stepped r s (.list request)
        { s with lists := s.lists ++ [{ request := request, floor := s.settled }] }
  | get (i : Nat) (l : ListRequest π) (hl : s.lists[i]? = some l)
      (hphase : l.phase = .looking) :
      Stepped r s (.get i) (s.setList i l (s.lookup r l.request))
  | read (i : Nat) (l : ListRequest π) (hl : s.lists[i]? = some l)
      (hphase : l.phase = .missed) :
      Stepped r s (.read i) (s.setList i l (.read (r.list l.request s.db) s.version))
  | setex (i : Nat) (l : ListRequest π) (page : π) (version : Nat)
      (hl : s.lists[i]? = some l) (hphase : l.phase = .read page version) :
      Stepped r s (.setex i)
        { s.setList i l (.answered page version) with
          redis :=
            s.redis.setex (l.request.cacheKey r.name) ⟨r.writeString page, version⟩ }
  | write (body : ω) :
      Stepped r s (.write body) { s with writes := s.writes ++ [{ body := body }] }
  | failed (j : Nat) (w : WriteRequest ω) (hw : s.writes[j]? = some w)
      (hphase : w.phase = .started) :
      Stepped r s (.store j) (s.setWrite j w .failed)
  | stored (j : Nat) (w : WriteRequest ω) (db : δ) (ok : Bool)
      (hw : s.writes[j]? = some w) (hphase : w.phase = .started) :
      Stepped r s (.store j)
        { s.setWrite j w (.written (s.version + 1) ok) with
          db := db, version := s.version + 1, history := s.history ++ [db] }
  | keys (j : Nat) (w : WriteRequest ω) (version : Nat) (ok : Bool)
      (hw : s.writes[j]? = some w) (hphase : w.phase = .written version ok) :
      Stepped r s (.keys j)
        (s.setWrite j w (.erasing (s.redis.keys (r.name ++ ":")) version ok))
  | del (j : Nat) (w : WriteRequest ω) (key : String) (rest : List String) (version : Nat)
      (ok : Bool) (hw : s.writes[j]? = some w)
      (hphase : w.phase = .erasing (key :: rest) version ok) :
      Stepped r s (.del j)
        { s.setWrite j w (.erasing rest version ok) with redis := s.redis.del key }
  | respond (j : Nat) (w : WriteRequest ω) (version : Nat) (ok : Bool)
      (hw : s.writes[j]? = some w) (hphase : w.phase = .erasing [] version ok) :
      Stepped r s (.respond j)
        { s.setWrite j w (.responded version ok) with
          settled := if ok then max s.settled version else s.settled }
  | expire (key : String) : Stepped r s (.expire key) { s with redis := s.redis.del key }

theorem next_stepped {s t : ListCache δ ω π} {a : CacheAction ω}
    (h : s.next r a = some t) : Stepped r s a t := by
  cases a with
  | list request =>
    cases h
    exact .list request
  | write body =>
    cases h
    exact .write body
  | expire key =>
    cases h
    exact .expire key
  | get i =>
    obtain ⟨l, hl, hmatch⟩ := Option.bind_eq_some_iff.1 h
    cases hphase : l.phase with
    | looking =>
      simp only [hphase, Option.some.injEq] at hmatch
      exact hmatch ▸ .get i l hl hphase
    | missed | read | answered => simp [hphase] at hmatch
  | read i =>
    obtain ⟨l, hl, hmatch⟩ := Option.bind_eq_some_iff.1 h
    cases hphase : l.phase with
    | missed =>
      simp only [hphase, Option.some.injEq] at hmatch
      exact hmatch ▸ .read i l hl hphase
    | looking | read | answered => simp [hphase] at hmatch
  | setex i =>
    obtain ⟨l, hl, hmatch⟩ := Option.bind_eq_some_iff.1 h
    cases hphase : l.phase with
    | read page version =>
      simp only [hphase, Option.some.injEq] at hmatch
      exact hmatch ▸ .setex i l page version hl hphase
    | looking | missed | answered => simp [hphase] at hmatch
  | store j =>
    obtain ⟨w, hw, hmatch⟩ := Option.bind_eq_some_iff.1 h
    cases hphase : w.phase with
    | started =>
      simp only [hphase] at hmatch
      cases hwrite : r.write w.body s.db with
      | none =>
        simp only [hwrite, Option.some.injEq] at hmatch
        exact hmatch ▸ .failed j w hw hphase
      | some result =>
        simp only [hwrite, Option.some.injEq] at hmatch
        exact hmatch ▸ .stored j w result.1 result.2 hw hphase
    | written | erasing | responded | failed => simp [hphase] at hmatch
  | keys j =>
    obtain ⟨w, hw, hmatch⟩ := Option.bind_eq_some_iff.1 h
    cases hphase : w.phase with
    | written version ok =>
      simp only [hphase, Option.some.injEq] at hmatch
      exact hmatch ▸ .keys j w version ok hw hphase
    | started | erasing | responded | failed => simp [hphase] at hmatch
  | del j =>
    obtain ⟨w, hw, hmatch⟩ := Option.bind_eq_some_iff.1 h
    cases hphase : w.phase with
    | erasing keys version ok =>
      cases keys with
      | nil => simp [hphase] at hmatch
      | cons key rest =>
        simp only [hphase, Option.some.injEq] at hmatch
        exact hmatch ▸ .del j w key rest version ok hw hphase
    | started | written | responded | failed => simp [hphase] at hmatch
  | respond j =>
    obtain ⟨w, hw, hmatch⟩ := Option.bind_eq_some_iff.1 h
    cases hphase : w.phase with
    | erasing keys version ok =>
      cases keys with
      | nil =>
        simp only [hphase, Option.some.injEq] at hmatch
        exact hmatch ▸ .respond j w version ok hw hphase
      | cons key rest => simp [hphase] at hmatch
    | started | written | responded | failed => simp [hphase] at hmatch

/-! ## The requests that a step leaves alone -/

theorem mem_setWrite {s : ListCache δ ω π} {j : Nat} {w v : WriteRequest ω}
    {phase : WritePhase} (h : v ∈ (s.setWrite j w phase).writes) :
    v ∈ s.writes ∨ v.phase = phase := by
  rcases List.mem_or_eq_of_mem_set h with hold | rfl
  · exact Or.inl hold
  · exact Or.inr rfl

theorem mem_setWrite_of_phase {s : ListCache δ ω π} {j : Nat} {w v : WriteRequest ω}
    {phase : WritePhase} (hw : s.writes[j]? = some w) (hv : v ∈ s.writes)
    (hne : v.phase ≠ w.phase) : v ∈ (s.setWrite j w phase).writes := by
  obtain ⟨i, hi⟩ := List.getElem?_of_mem hv
  have hij : j ≠ i := by
    intro heq
    rw [heq, hi] at hw
    cases hw
    exact hne rfl
  apply List.mem_of_getElem?
  show (s.writes.set j { w with phase := phase })[i]? = some v
  rw [List.getElem?_set_ne hij]
  exact hi

theorem mem_setList {s : ListCache δ ω π} {i : Nat} {l m : ListRequest π}
    {phase : ListPhase π} (hl : s.lists[i]? = some l) (h : m ∈ (s.setList i l phase).lists) :
    m ∈ s.lists ∨ (l ∈ s.lists ∧ m = { l with phase := phase }) := by
  rcases List.mem_or_eq_of_mem_set h with hold | rfl
  · exact Or.inl hold
  · exact Or.inr ⟨List.mem_of_getElem? hl, rfl⟩

/-! ## The numbers of the writes -/

/-- The number of the write that a request has done, and zero before it. -/
def stamp : WritePhase → Nat
  | .started | .failed => 0
  | .written version _ | .erasing _ version _ | .responded version _ => version

/-- What is true of the numbers in every run. -/
structure Sound (r : Resource δ ω π) (s : ListCache δ ω π) : Prop where
  /-- `KEYS` with the resource's prefix finds every entry. -/
  found : ∀ entry ∈ s.redis.entries, (r.name ++ ":").toList <+: entry.1.toList
  stamps : ∀ w ∈ s.writes, stamp w.phase ≤ s.version
  settled_le : s.settled ≤ s.version
  responded : ∀ w ∈ s.writes, ∀ version, w.phase = .responded version true →
    version ≤ s.settled
  settledBy : s.settled = 0 ∨ ∃ w ∈ s.writes, w.phase = .responded s.settled true
  floors : ∀ l ∈ s.lists, l.floor ≤ s.settled

theorem Sound.found_stepped {s t : ListCache δ ω π} {a : CacheAction ω} (h : s.Sound r)
    (hstep : Stepped r s a t) :
    ∀ entry ∈ t.redis.entries, (r.name ++ ":").toList <+: entry.1.toList := by
  intro entry hentry
  cases hstep with
  | list | get | read | write | failed | stored | keys | respond => exact h.found entry hentry
  | setex i l page version hl hphase =>
    rcases Redis.mem_setex.1 hentry with rfl | ⟨hold, _⟩
    · exact l.request.cacheKey_begins r.name
    · exact h.found entry hold
  | del j w key rest version ok hw hphase => exact h.found entry (Redis.mem_del.1 hentry).1
  | expire key => exact h.found entry (Redis.mem_del.1 hentry).1

theorem Sound.stamps_stepped {s t : ListCache δ ω π} {a : CacheAction ω} (h : s.Sound r)
    (hstep : Stepped r s a t) : ∀ w ∈ t.writes, stamp w.phase ≤ t.version := by
  intro v hv
  cases hstep with
  | list | get | read | setex | expire => exact h.stamps v hv
  | write body =>
    rcases List.mem_append.1 hv with hold | hnew
    · exact h.stamps v hold
    · rw [List.mem_singleton.1 hnew]
      exact Nat.zero_le _
  | failed j w hw hphase =>
    rcases mem_setWrite hv with hold | hnew
    · exact h.stamps v hold
    · rw [hnew]
      exact Nat.zero_le _
  | stored j w db ok hw hphase =>
    rcases mem_setWrite hv with hold | hnew
    · exact Nat.le_succ_of_le (h.stamps v hold)
    · rw [hnew]
      exact Nat.le_refl _
  | keys j w version ok hw hphase
  | del j w key rest version ok hw hphase
  | respond j w version ok hw hphase =>
    rcases mem_setWrite hv with hold | hnew
    · exact h.stamps v hold
    · have hstamp := h.stamps w (List.mem_of_getElem? hw)
      rw [hphase] at hstamp
      rw [hnew]
      exact hstamp

/-- A step of a write request that is not its answer leaves the answered
writes as they are. -/
theorem Sound.settled_setWrite {s : ListCache δ ω π} (h : s.Sound r) {j : Nat}
    {w : WriteRequest ω} {phase : WritePhase} (hw : s.writes[j]? = some w)
    (hbefore : ∀ version, w.phase ≠ .responded version true)
    (hafter : ∀ version, phase ≠ .responded version true) :
    (∀ v ∈ (s.setWrite j w phase).writes, ∀ version, v.phase = .responded version true →
        version ≤ s.settled) ∧
      (s.settled = 0 ∨
        ∃ v ∈ (s.setWrite j w phase).writes, v.phase = .responded s.settled true) := by
  refine ⟨fun v hv version hphase => ?_, ?_⟩
  · rcases mem_setWrite hv with hold | hnew
    · exact h.responded v hold version hphase
    · exact absurd (hnew.symm.trans hphase) (hafter version)
  · rcases h.settledBy with hzero | ⟨v, hv, hphase⟩
    · exact Or.inl hzero
    · have hne : v.phase ≠ w.phase := by
        rw [hphase]
        exact fun heq => hbefore s.settled heq.symm
      exact Or.inr ⟨v, mem_setWrite_of_phase hw hv hne, hphase⟩

/-- The answer of a write is the newest one when its number is. -/
theorem Sound.settled_respond {s : ListCache δ ω π} (h : s.Sound r) {j version : Nat}
    {w : WriteRequest ω} (ok : Bool) (hw : s.writes[j]? = some w)
    (hphase : w.phase = .erasing [] version ok) :
    (∀ v ∈ (s.setWrite j w (.responded version ok)).writes, ∀ number,
        v.phase = .responded number true →
          number ≤ if ok then max s.settled version else s.settled) ∧
      ((if ok then max s.settled version else s.settled) = 0 ∨
        ∃ v ∈ (s.setWrite j w (.responded version ok)).writes,
          v.phase = .responded (if ok then max s.settled version else s.settled) true) := by
  cases ok with
  | false =>
    exact h.settled_setWrite hw (by simp [hphase]) (by simp)
  | true =>
    have hlength : j < s.writes.length := (List.getElem?_eq_some_iff.1 hw).1
    have hnew : ({ w with phase := .responded version true } : WriteRequest ω) ∈
        (s.setWrite j w (.responded version true)).writes := List.mem_set hlength _
    simp only [if_true]
    refine ⟨fun v hv number hnumber => ?_, ?_⟩
    · rcases mem_setWrite hv with hold | heq
      · have hle := h.responded v hold number hnumber
        omega
      · rw [heq] at hnumber
        cases hnumber
        exact Nat.le_max_right _ _
    · rcases Nat.le_total s.settled version with hle | hle
      · rw [Nat.max_eq_right hle]
        exact Or.inr ⟨_, hnew, rfl⟩
      · rw [Nat.max_eq_left hle]
        rcases h.settledBy with hzero | ⟨v, hv, hdone⟩
        · exact Or.inl hzero
        · have hne : v.phase ≠ w.phase := by simp [hdone, hphase]
          exact Or.inr ⟨v, mem_setWrite_of_phase hw hv hne, hdone⟩

/-- The newest answered write is a write, and it is the newest. -/
theorem Sound.settled_stepped {s t : ListCache δ ω π} {a : CacheAction ω} (h : s.Sound r)
    (hstep : Stepped r s a t) :
    t.settled ≤ t.version ∧
      (∀ w ∈ t.writes, ∀ version, w.phase = .responded version true →
        version ≤ t.settled) ∧
      (t.settled = 0 ∨ ∃ w ∈ t.writes, w.phase = .responded t.settled true) := by
  cases hstep with
  | list | get | read | setex | expire => exact ⟨h.settled_le, h.responded, h.settledBy⟩
  | write body =>
    refine ⟨h.settled_le, fun v hv version hphase => ?_, ?_⟩
    · rcases List.mem_append.1 hv with hold | hnew
      · exact h.responded v hold version hphase
      · rw [List.mem_singleton.1 hnew] at hphase
        simp at hphase
    · rcases h.settledBy with hzero | ⟨v, hv, hphase⟩
      · exact Or.inl hzero
      · exact Or.inr ⟨v, List.mem_append_left _ hv, hphase⟩
  | failed j w hw hphase =>
    exact ⟨h.settled_le, h.settled_setWrite hw (by simp [hphase]) (by simp)⟩
  | stored j w db ok hw hphase =>
    exact ⟨Nat.le_succ_of_le h.settled_le,
      h.settled_setWrite hw (by simp [hphase]) (by simp)⟩
  | keys j w version ok hw hphase =>
    exact ⟨h.settled_le, h.settled_setWrite hw (by simp [hphase]) (by simp)⟩
  | del j w key rest version ok hw hphase =>
    exact ⟨h.settled_le, h.settled_setWrite hw (by simp [hphase]) (by simp)⟩
  | respond j w version ok hw hphase =>
    refine ⟨?_, h.settled_respond ok hw hphase⟩
    have hstamp := h.stamps w (List.mem_of_getElem? hw)
    rw [hphase] at hstamp
    have hle := h.settled_le
    show (if ok then max s.settled version else s.settled) ≤ s.version
    have hversion : version ≤ s.version := hstamp
    split <;> omega

theorem Sound.floors_stepped {s t : ListCache δ ω π} {a : CacheAction ω} (h : s.Sound r)
    (hstep : Stepped r s a t) : ∀ l ∈ t.lists, l.floor ≤ t.settled := by
  intro m hm
  cases hstep with
  | write | failed | stored | keys | del | expire => exact h.floors m hm
  | list request =>
    rcases List.mem_append.1 hm with hold | hnew
    · exact h.floors m hold
    · rw [List.mem_singleton.1 hnew]
  | get i l hl hphase
  | read i l hl hphase
  | setex i l page version hl hphase =>
    rcases mem_setList hl hm with hold | ⟨hold, rfl⟩
    · exact h.floors m hold
    · exact h.floors l hold
  | respond j w version ok hw hphase =>
    have hfloor := h.floors m hm
    show m.floor ≤ if ok then max s.settled version else s.settled
    split <;> omega

theorem Sound.stepped {s t : ListCache δ ω π} {a : CacheAction ω} (h : s.Sound r)
    (hstep : Stepped r s a t) : t.Sound r := by
  obtain ⟨hle, hresponded, hsettledBy⟩ := h.settled_stepped hstep
  exact {
    found := h.found_stepped hstep
    stamps := h.stamps_stepped hstep
    settled_le := hle
    responded := hresponded
    settledBy := hsettledBy
    floors := h.floors_stepped hstep }

/-! ## What a page shows -/

/-- `page` is the page that a list request under `key` reads from the database
state with this number. -/
def Shows (r : Resource δ ω π) (s : ListCache δ ω π) (key : String) (page : π)
    (version : Nat) : Prop :=
  ∃ request : PageRequest, request.cacheKey r.name = key ∧
    ∃ db, s.history[version]? = some db ∧ page = r.list request db

/-- A stored page and a page on its way to a client show the state whose number
they carry. -/
structure Truthful (r : Resource δ ω π) (s : ListCache δ ω π) : Prop where
  current : s.history.length = s.version + 1 ∧ s.history[s.version]? = some s.db
  stored : ∀ entry ∈ s.redis.entries, ∃ page,
    entry.2.text = r.writeString page ∧ s.Shows r entry.1 page entry.2.version
  served : ∀ l ∈ s.lists, ∀ page version,
    (l.phase = .read page version ∨ l.phase = .answered page version) →
      s.Shows r (l.request.cacheKey r.name) page version

/-- Later states keep what a page shows. -/
theorem Shows.append {s t : ListCache δ ω π} {key : String} {page : π} {version : Nat}
    (h : s.Shows r key page version) (dbs : List δ) (ht : t.history = s.history ++ dbs) :
    t.Shows r key page version := by
  obtain ⟨request, hkey, db, hdb, hpage⟩ := h
  refine ⟨request, hkey, db, ?_, hpage⟩
  rw [ht, List.getElem?_append_left (List.getElem?_eq_some_iff.1 hdb).1]
  exact hdb

/-- A `GET` ends in a miss or in an answer. -/
theorem lookup_cases (r : Resource δ ω π) (s : ListCache δ ω π) (request : PageRequest) :
    s.lookup r request = .missed ∨
      ∃ stored page, s.redis.get (request.cacheKey r.name) = some stored ∧
        s.lookup r request = .answered page stored.version := by
  unfold ListCache.lookup
  cases s.redis.get (request.cacheKey r.name) with
  | none => exact Or.inl rfl
  | some stored =>
    show (if stored.text = "" then _ else _) = _ ∨ _
    by_cases hempty : stored.text = ""
    · exact Or.inl (if_pos hempty)
    · simp only [if_neg hempty]
      cases r.parse stored.text with
      | none => exact Or.inl rfl
      | some page => exact Or.inr ⟨stored, page, rfl, rfl⟩

theorem lookup_ne_read (r : Resource δ ω π) (s : ListCache δ ω π) (request : PageRequest)
    (page : π) (version : Nat) : s.lookup r request ≠ .read page version := by
  rcases lookup_cases r s request with heq | ⟨_, _, _, heq⟩
  · simp [heq]
  · simp [heq]

/-- A hit gives back the page that was stored. -/
theorem Truthful.lookup {s : ListCache δ ω π} (h : s.Truthful r) {request : PageRequest}
    {page : π} {version : Nat} (hhit : s.lookup r request = .answered page version) :
    s.Shows r (request.cacheKey r.name) page version := by
  unfold ListCache.lookup at hhit
  cases hget : s.redis.get (request.cacheKey r.name) with
  | none => simp [hget] at hhit
  | some stored =>
    obtain ⟨shown, htext, hshows⟩ := h.stored _ (Redis.mem_of_get hget)
    simp only at htext
    simp only [hget, htext, if_neg (r.writeString_ne shown), r.parse_writeString] at hhit
    cases hhit
    exact hshows

theorem Truthful.current_stepped {s t : ListCache δ ω π} {a : CacheAction ω}
    (h : s.Truthful r) (hstep : Stepped r s a t) :
    t.history.length = t.version + 1 ∧ t.history[t.version]? = some t.db := by
  cases hstep with
  | list | get | read | setex | write | failed | keys | del | respond | expire =>
    exact h.current
  | stored j w db ok hw hphase =>
    have hlength := h.current.1
    refine ⟨?_, ?_⟩
    · show (s.history ++ [db]).length = s.version + 1 + 1
      rw [List.length_append, List.length_singleton, hlength]
    · show (s.history ++ [db])[s.version + 1]? = some db
      rw [← hlength]
      exact List.getElem?_concat_length

theorem Truthful.stored_stepped {s t : ListCache δ ω π} {a : CacheAction ω}
    (h : s.Truthful r) (hstep : Stepped r s a t) :
    ∀ entry ∈ t.redis.entries, ∃ page,
      entry.2.text = r.writeString page ∧ t.Shows r entry.1 page entry.2.version := by
  intro entry hentry
  cases hstep with
  | list | get | read | write | failed | keys | respond => exact h.stored entry hentry
  | stored j w db ok hw hphase =>
    obtain ⟨page, htext, hshows⟩ := h.stored entry hentry
    exact ⟨page, htext, hshows.append [db] rfl⟩
  | setex i l page version hl hphase =>
    rcases Redis.mem_setex.1 hentry with rfl | ⟨hold, _⟩
    · exact ⟨page, rfl, h.served l (List.mem_of_getElem? hl) page version (Or.inl hphase)⟩
    · exact h.stored entry hold
  | del j w key rest version ok hw hphase => exact h.stored entry (Redis.mem_del.1 hentry).1
  | expire key => exact h.stored entry (Redis.mem_del.1 hentry).1

theorem Truthful.served_stepped {s t : ListCache δ ω π} {a : CacheAction ω}
    (h : s.Truthful r) (hstep : Stepped r s a t) :
    ∀ l ∈ t.lists, ∀ page version,
      (l.phase = .read page version ∨ l.phase = .answered page version) →
        t.Shows r (l.request.cacheKey r.name) page version := by
  intro m hm page version hphase'
  cases hstep with
  | write | failed | keys | del | respond | expire => exact h.served m hm page version hphase'
  | stored j w db ok hw hphase =>
    exact (h.served m hm page version hphase').append [db] rfl
  | list request =>
    rcases List.mem_append.1 hm with hold | hnew
    · exact h.served m hold page version hphase'
    · rw [List.mem_singleton.1 hnew] at hphase'
      simp at hphase'
  | get i l hl hphase =>
    rcases mem_setList hl hm with hold | ⟨_, rfl⟩
    · exact h.served m hold page version hphase'
    · rcases hphase' with hread | hhit
      · exact absurd hread (lookup_ne_read r s l.request page version)
      · exact h.lookup hhit
  | read i l hl hphase =>
    rcases mem_setList hl hm with hold | ⟨_, rfl⟩
    · exact h.served m hold page version hphase'
    · rcases hphase' with hread | hanswered
      · cases hread
        exact ⟨l.request, rfl, s.db, h.current.2, rfl⟩
      · simp at hanswered
  | setex i l shown number hl hphase =>
    rcases mem_setList hl hm with hold | ⟨hold, rfl⟩
    · exact h.served m hold page version hphase'
    · rcases hphase' with hread | hanswered
      · simp at hread
      · cases hanswered
        exact h.served l hold page version (Or.inl hphase)

theorem Truthful.stepped {s t : ListCache δ ω π} {a : CacheAction ω} (h : s.Truthful r)
    (hstep : Stepped r s a t) : t.Truthful r :=
  ⟨h.current_stepped hstep, h.stored_stepped hstep, h.served_stepped hstep⟩

end ListCache

open ListCache

variable {δ ω π : Type} {r : Resource δ ω π} {db : δ}

theorem listCache_sound {s : ListCache δ ω π} (h : (listCache r db).Reachable s) :
    s.Sound r := by
  refine Machine.ReachableVia.invariant (P := fun s => s.Sound r) ?_ ?_ h
  · exact {
      found := by simp [listCache]
      stamps := by simp [listCache]
      settled_le := Nat.le_refl 0
      responded := by simp [listCache]
      settledBy := Or.inl rfl
      floors := by simp [listCache] }
  · intro s a t _ hs hnext _
    exact hs.stepped (next_stepped hnext)

/-- Every page that is served was read from the state whose number it
carries. -/
theorem listCache_truthful {s : ListCache δ ω π} (h : (listCache r db).Reachable s) :
    s.Truthful r := by
  refine Machine.ReachableVia.invariant (P := fun s => s.Truthful r) ?_ ?_ h
  · exact ⟨⟨rfl, rfl⟩, by simp [listCache], by simp [listCache]⟩
  · intro s a t _ hs hnext _
    exact hs.stepped (next_stepped hnext)

/-- A table with one character for each row.  A write appends a row, and a page
is written in brackets. -/
def letterTable : Resource (List Char) Char (List Char) where
  name := "users"
  list request rows := (rows.drop request.offset.toNat).take request.pageSize.toNat
  write row rows := some (rows ++ [row], true)
  writeString page := String.ofList ('[' :: page ++ [']'])
  parse text :=
    match text.toList with
    | '[' :: rest => some rest.dropLast
    | _ => none
  parse_writeString page := by simp
  writeString_ne page := by
    intro hempty
    have hlist := congrArg String.toList hempty
    simp at hlist

end DrogonStarter
