import DrogonStarter.Lib.Text

/-!
# The Redis map

`RedisCache` uses four commands: `GET`, `SETEX`, `DEL` and `KEYS` with a
prefix pattern.  `Redis` is the keyspace that they work on, and each command is
atomic.  The time of a `SETEX` is not kept: an entry may expire at any moment,
which is a `DEL` that nobody has asked for.

The functions in the namespace `RedisCache` are the calls.  They never throw:
`RedisOutcome` says which commands of a request take effect, and a command that
fails is a miss or changes nothing.
-/

namespace DrogonStarter

/-- The keyspace, with one entry for each key. -/
structure Redis (α : Type) where
  entries : List (String × α) := []
deriving DecidableEq

namespace Redis

variable {α : Type}

/-- `GET`. -/
def get (r : Redis α) (key : String) : Option α := r.entries.lookup key

/-- `DEL`. -/
def del (r : Redis α) (key : String) : Redis α :=
  { entries := r.entries.filter (·.1 ≠ key) }

/-- `SETEX`. -/
def setex (r : Redis α) (key : String) (value : α) : Redis α :=
  { entries := (key, value) :: (r.del key).entries }

/-- `KEYS` with the pattern of `erasePrefix`. -/
def keys (r : Redis α) (stem : String) : List String :=
  (r.entries.map (·.1)).filter fun key => stem.toList.isPrefixOf key.toList

theorem get_setex_self (r : Redis α) (key : String) (value : α) :
    (r.setex key value).get key = some value := by
  simp [get, setex]

theorem mem_setex {r : Redis α} {key : String} {value : α} {entry : String × α} :
    entry ∈ (r.setex key value).entries ↔
      entry = (key, value) ∨ (entry ∈ r.entries ∧ entry.1 ≠ key) := by
  simp [setex, del]

theorem mem_del {r : Redis α} {key : String} {entry : String × α} :
    entry ∈ (r.del key).entries ↔ entry ∈ r.entries ∧ entry.1 ≠ key := by
  simp [del]

/-- `DEL` leaves every other key as it is. -/
theorem get_del_of_ne {r : Redis α} {key other : String} (hne : other ≠ key) :
    (r.del key).get other = r.get other := by
  unfold get del
  induction r.entries with
  | nil => rfl
  | cons entry entries ih =>
    rw [List.filter_cons]
    by_cases hname : entry.1 = key
    · have hskip : (other == entry.1) = false := by rw [hname]; simpa using hne
      rw [if_neg (by simpa using hname), ih, List.lookup_cons, hskip]
    · rw [if_pos (by simpa using hname), List.lookup_cons, List.lookup_cons, ih]

theorem get_setex_of_ne {r : Redis α} {key other : String} {value : α} (hne : other ≠ key) :
    (r.setex key value).get other = r.get other := by
  have hskip : (other == key) = false := by simpa using hne
  have hrest := get_del_of_ne (r := r) hne
  simpa only [get, setex, List.lookup_cons, hskip] using hrest

theorem get_del_self (r : Redis α) (key : String) : (r.del key).get key = none := by
  unfold get del
  rw [List.lookup_eq_none_iff]
  intro entry hentry
  have hne : entry.1 ≠ key := by simpa using (List.mem_filter.1 hentry).2
  simpa using hne.symm

/-- `DEL` adds nothing. -/
theorem get_of_get_del {r : Redis α} {key other : String} {value : α}
    (h : (r.del key).get other = some value) : r.get other = some value := by
  by_cases hkey : other = key
  · rw [hkey, get_del_self] at h
    cases h
  · rw [← get_del_of_ne hkey]
    exact h

theorem mem_of_get {r : Redis α} {key : String} {value : α} (h : r.get key = some value) :
    (key, value) ∈ r.entries := by
  obtain ⟨before, after, hentries, _⟩ := List.lookup_eq_some_iff.1 h
  rw [hentries]
  simp

/-- `KEYS` finds every entry whose key has the prefix. -/
theorem mem_keys {r : Redis α} {stem key : String} {value : α}
    (h : (key, value) ∈ r.entries) (hstem : stem.toList <+: key.toList) :
    key ∈ r.keys stem := by
  unfold keys
  rw [List.mem_filter]
  exact ⟨List.mem_map_of_mem h, by simpa using hstem⟩

end Redis

/-- Which commands of a request take effect, and which entries expired before
it. -/
structure RedisOutcome where
  expired : List String := []
  get : Bool := true
  set : Bool := true
  keys : Bool := true
  del : String → Bool := fun _ => true

namespace RedisCache

/-- `RedisCache::get`, which takes an empty value for a miss. -/
def get (o : RedisOutcome) (r : Redis String) (key : String) : Option String :=
  if o.get then (r.get key).filter (· ≠ "") else none

/-- `RedisCache::set`. -/
def set (o : RedisOutcome) (r : Redis String) (key value : String) : Redis String :=
  if o.set then r.setex key value else r

/-- `RedisCache::erase`. -/
def erase (o : RedisOutcome) (r : Redis String) (key : String) : Redis String :=
  if o.del key then r.del key else r

/-- `RedisCache::erasePrefix`. -/
def erasePrefix (o : RedisOutcome) (r : Redis String) (stem : String) : Redis String :=
  if o.keys then (r.keys stem).foldl (erase o) r else r

/-- The entries that are left when a request starts. -/
def expire (o : RedisOutcome) (r : Redis String) : Redis String := o.expired.foldl Redis.del r

/-- A hit is a value of the keyspace. -/
theorem get_redis_get {o : RedisOutcome} {r : Redis String} {key text : String}
    (h : get o r key = some text) : r.get key = some text := by
  unfold get at h
  split_ifs at h
  exact (Option.filter_eq_some_iff.1 h).1

/-- And a value that a working `GET` finds is a hit, unless it is empty. -/
theorem get_of_redis_get {o : RedisOutcome} {r : Redis String} {key text : String}
    (hget : o.get = true) (hne : text ≠ "") (h : r.get key = some text) :
    get o r key = some text := by
  unfold get
  rw [if_pos hget, h]
  exact Option.filter_some_pos (decide_eq_true hne)

theorem get_of_get_foldl {step : Redis String → String → Redis String}
    (hstep : ∀ r name key text, (step r name).get key = some text → r.get key = some text)
    (names : List String) {r : Redis String} {key text : String}
    (h : (names.foldl step r).get key = some text) : r.get key = some text := by
  induction names generalizing r with
  | nil => exact h
  | cons name names ih => exact hstep r name key text (ih h)

theorem get_of_get_expire {o : RedisOutcome} {r : Redis String} {key text : String}
    (h : (expire o r).get key = some text) : r.get key = some text :=
  get_of_get_foldl (fun _ _ _ _ hdel => Redis.get_of_get_del hdel) _ h

theorem get_of_get_erase {o : RedisOutcome} {r : Redis String} {name key text : String}
    (h : (erase o r name).get key = some text) : r.get key = some text := by
  unfold erase at h
  split_ifs at h
  · exact Redis.get_of_get_del h
  · exact h

/-- Invalidation leaves no value that was not there. -/
theorem get_of_get_erasePrefix {o : RedisOutcome} {r : Redis String} {stem key text : String}
    (h : (erasePrefix o r stem).get key = some text) : r.get key = some text := by
  unfold erasePrefix at h
  split_ifs at h
  · exact get_of_get_foldl (fun _ _ _ _ herase => get_of_get_erase herase) _ h
  · exact h

/-- A value after `set` is the one that was set, or was there. -/
theorem get_set {o : RedisOutcome} {r : Redis String} {key value other text : String}
    (h : (set o r key value).get other = some text) :
    (other = key ∧ text = value) ∨ r.get other = some text := by
  unfold set at h
  split_ifs at h
  · by_cases hkey : other = key
    · rw [hkey, Redis.get_setex_self] at h
      exact Or.inl ⟨hkey, (Option.some.inj h).symm⟩
    · rw [Redis.get_setex_of_ne hkey] at h
      exact Or.inr h
  · exact Or.inr h

/-- A step that deletes a key leaves it deleted, when every step only deletes. -/
theorem get_foldl_of_deletes (step : Redis String → String → Redis String) {key : String}
    (hstep : ∀ r name other text,
      (step r name).get other = some text → r.get other = some text)
    (hdelete : ∀ r, (step r key).get key = none) {names : List String} (r : Redis String)
    (hkey : key ∈ names) : (names.foldl step r).get key = none := by
  induction names generalizing r with
  | nil => cases hkey
  | cons name names ih =>
    rcases List.mem_cons.1 hkey with rfl | hrest
    · rw [List.foldl_cons, Option.eq_none_iff_forall_ne_some]
      intro text htext
      have hkept := get_of_get_foldl hstep names htext
      rw [hdelete] at hkept
      cases hkept
    · exact ih (step r name) hrest

/-- A key that is among the deleted ones is gone. -/
theorem get_foldl_del {names : List String} (r : Redis String) {key : String}
    (hkey : key ∈ names) : (names.foldl Redis.del r).get key = none :=
  get_foldl_of_deletes Redis.del (fun _ _ _ _ hdel => Redis.get_of_get_del hdel)
    (fun r => r.get_del_self key) r hkey

/-- What is left when a request starts has not expired. -/
theorem not_mem_expired {o : RedisOutcome} {r : Redis String} {key text : String}
    (h : (expire o r).get key = some text) : key ∉ o.expired := by
  intro hmem
  rw [expire, get_foldl_del r hmem] at h
  cases h

/-- An invalidation deletes every key with the prefix whose `DEL` takes effect. -/
theorem get_erasePrefix_eq_none {o : RedisOutcome} (hkeys : o.keys = true) (r : Redis String)
    {stem key : String} (hdel : o.del key = true) (hstem : stem.toList <+: key.toList) :
    (erasePrefix o r stem).get key = none := by
  have hdelete : ∀ r : Redis String, (erase o r key).get key = none := by
    intro r
    rw [erase, if_pos hdel]
    exact r.get_del_self key
  rw [erasePrefix, if_pos hkeys]
  by_cases hmem : key ∈ r.keys stem
  · exact get_foldl_of_deletes (erase o) (fun _ _ _ _ herase => get_of_get_erase herase)
      hdelete r hmem
  · rw [Option.eq_none_iff_forall_ne_some]
    intro text htext
    have hentry := get_of_get_foldl (fun _ _ _ _ herase => get_of_get_erase herase) _ htext
    exact hmem (Redis.mem_keys (Redis.mem_of_get hentry) hstem)

theorem get_erase_of_ne {o : RedisOutcome} {r : Redis String} {name key : String}
    (hne : key ≠ name) : (erase o r name).get key = r.get key := by
  unfold erase
  split_ifs
  · exact Redis.get_del_of_ne hne
  · rfl

/-- An invalidation leaves every key without the prefix as it is. -/
theorem get_erasePrefix_of_not_prefix (o : RedisOutcome) (r : Redis String) {stem key : String}
    (hstem : ¬ stem.toList <+: key.toList) : (erasePrefix o r stem).get key = r.get key := by
  have hfold : ∀ (names : List String) (r : Redis String), key ∉ names →
      (names.foldl (erase o) r).get key = r.get key := by
    intro names
    induction names with
    | nil => exact fun r _ => rfl
    | cons name names ih =>
      intro r hmem
      rw [List.mem_cons, not_or] at hmem
      exact (ih (erase o r name) hmem.2).trans (get_erase_of_ne hmem.1)
  unfold erasePrefix
  split_ifs
  · refine hfold _ r fun hmem => hstem ?_
    exact List.isPrefixOf_iff_prefix.1 (List.mem_filter.1 hmem).2
  · rfl

end RedisCache

end DrogonStarter
