import DrogonStarter.Lib.SlidingWindow
import DrogonStarter.Lib.Transition
import Mathlib.Algebra.Order.Group.Nat
import Mathlib.Logic.Function.Basic

/-!
# The rate limiter and the threads that call it

`RateLimiter::allow` reads the monotone clock and then takes the mutex, so a
call is two steps: other calls may run between them.  `RateLimiter.allow` is
the second step, on the reading of the first one.

* `RateLimiter.allow_cases` says what a call can do to the queue of its key.
* `limiterRun` is the machine of any number of calls, and `LimiterRun.Logged`
  says that a queue is the end of the readings that were accepted for its key.
* `LimiterRun.JudgedLate` is the step that goes wrong, and
  `windowBounded_of_reachableVia` is the bound without it.

Times are ticks of the clock.
-/

namespace DrogonStarter.Observability

open SlidingWindow Transition

/-- `class RateLimiter`.  A key that nobody has used has an empty deque. -/
structure RateLimiter where
  limit : Nat
  window : Nat
  requests : String → List Nat := fun _ => []

namespace RateLimiter

/-- The deque of a key after the loop of `allow`. -/
def remaining (r : RateLimiter) (now : Nat) (key : String) : List Nat :=
  expire r.window now (r.requests key)

/-- `requests_[key] = timestamps`. -/
def put (r : RateLimiter) (key : String) (timestamps : List Nat) : RateLimiter :=
  { r with requests := Function.update r.requests key timestamps }

/-- `allow`, on the reading of the clock. -/
def allow (r : RateLimiter) (now : Nat) (key : String) : Bool × RateLimiter :=
  if r.limit = 0 then (true, r)
  else if r.limit ≤ (r.remaining now key).length then
    (false, r.put key (r.remaining now key))
  else (true, r.put key (r.remaining now key ++ [now]))

/-- What a call of a limiter that is not disabled can do. -/
theorem allow_cases {r : RateLimiter} (hlimit : 0 < r.limit) (now : Nat) (key : String) :
    r.limit ≤ (r.remaining now key).length ∧
        r.allow now key = (false, r.put key (r.remaining now key)) ∨
      (r.remaining now key).length < r.limit ∧
        r.allow now key = (true, r.put key (r.remaining now key ++ [now])) := by
  unfold allow
  rw [if_neg (Nat.pos_iff_ne_zero.1 hlimit)]
  by_cases hfull : r.limit ≤ (r.remaining now key).length
  · exact Or.inl ⟨hfull, if_pos hfull⟩
  · exact Or.inr ⟨Nat.lt_of_not_le hfull, if_neg hfull⟩

theorem allow_limit (r : RateLimiter) (now : Nat) (key : String) :
    (r.allow now key).2.limit = r.limit := by
  unfold allow
  split_ifs <;> rfl

theorem allow_window (r : RateLimiter) (now : Nat) (key : String) :
    (r.allow now key).2.window = r.window := by
  unfold allow
  split_ifs <;> rfl

theorem put_requests_self (r : RateLimiter) (key : String) (timestamps : List Nat) :
    (r.put key timestamps).requests key = timestamps :=
  Function.update_self ..

theorem put_requests_of_ne (r : RateLimiter) {key other : String} (hne : other ≠ key)
    (timestamps : List Nat) : (r.put key timestamps).requests other = r.requests other :=
  Function.update_of_ne hne ..

/-- A call leaves the queues of the other keys as they are. -/
theorem allow_requests_of_ne (r : RateLimiter) (now : Nat) {key other : String}
    (hne : other ≠ key) : (r.allow now key).2.requests other = r.requests other := by
  unfold allow
  split_ifs
  · rfl
  · exact r.put_requests_of_ne hne _
  · exact r.put_requests_of_ne hne _

/-- The queue of the key after a call. -/
theorem allow_requests_self {r : RateLimiter} (hlimit : 0 < r.limit) (now : Nat)
    (key : String) :
    (r.allow now key).2.requests key =
      if (r.allow now key).1 then r.remaining now key ++ [now] else r.remaining now key := by
  rcases r.allow_cases hlimit now key with ⟨_, heq⟩ | ⟨_, heq⟩
  · rw [heq]
    exact r.put_requests_self key _
  · rw [heq]
    exact r.put_requests_self key _

end RateLimiter

/-! ## Threads -/

/-- A call between its two steps, or after them. -/
structure LimiterCall where
  key : String
  reading : Nat
  result : Option Bool := none
deriving DecidableEq

/-- A limiter, the clock and the calls so far. -/
structure LimiterRun where
  limiter : RateLimiter
  clock : Nat := 0
  calls : List LimiterCall := []
  /-- The readings of the accepted calls of a key, in the order of their
  critical sections.  Nothing reads them. -/
  accepted : String → List Nat := fun _ => []

inductive LimiterAction where
  /-- A thread reads the clock for a call. -/
  | read (key : String) (now : Nat)
  /-- The call runs its critical section. -/
  | enter (i : Nat)
deriving DecidableEq

namespace LimiterRun

/-- The critical section of a call. -/
def entered (s : LimiterRun) (i : Nat) (call : LimiterCall) : LimiterRun where
  limiter := (s.limiter.allow call.reading call.key).2
  clock := s.clock
  calls := s.calls.set i { call with result := some (s.limiter.allow call.reading call.key).1 }
  accepted :=
    if (s.limiter.allow call.reading call.key).1 then
      Function.update s.accepted call.key (s.accepted call.key ++ [call.reading])
    else s.accepted

def next (s : LimiterRun) : LimiterAction → Option LimiterRun
  | .read key now =>
    if s.clock ≤ now then
      some { s with clock := now, calls := s.calls ++ [{ key := key, reading := now }] }
    else none
  | .enter i =>
    s.calls[i]?.bind fun call =>
      match call.result with
      | none => some (s.entered i call)
      | some _ => none

end LimiterRun

/-- Any number of threads that call one limiter. -/
def limiterRun (limit window : Nat) : Machine LimiterRun LimiterAction where
  init := { limiter := { limit := limit, window := window } }
  next := LimiterRun.next

namespace LimiterRun

/-- The sliding-window bound, for every key and every window. -/
def WindowBounded (s : LimiterRun) : Prop :=
  ∀ key, Bounded s.limiter.limit s.limiter.window (s.accepted key)

/-- The accepted readings of a key that are no longer in its queue. -/
def dropped (s : LimiterRun) (key : String) : List Nat :=
  (s.accepted key).take ((s.accepted key).length - (s.limiter.requests key).length)

/-- A critical section that has room for its reading, while an accepted reading
that shares a window with it is no longer in the queue. -/
def JudgedLate (s : LimiterRun) : LimiterAction → Prop
  | .read .. => False
  | .enter i =>
    ∃ call ∈ s.calls[i]?,
      (s.limiter.remaining call.reading call.key).length < s.limiter.limit ∧
        ∃ r ∈ s.dropped call.key, Near s.limiter.window call.reading r

instance (s : LimiterRun) (a : LimiterAction) : Decidable (s.JudgedLate a) := by
  cases a <;> unfold JudgedLate <;> infer_instance

/-- A step reads the clock or runs a critical section. -/
theorem next_cases {s t : LimiterRun} {a : LimiterAction} (h : s.next a = some t) :
    (∃ key now, a = .read key now ∧ s.clock ≤ now ∧
        t = { s with clock := now, calls := s.calls ++ [{ key := key, reading := now }] }) ∨
      ∃ i call, a = .enter i ∧ s.calls[i]? = some call ∧ call.result = none ∧
        t = s.entered i call := by
  cases a with
  | read key now =>
    simp only [next, Option.ite_none_right_eq_some, Option.some.injEq] at h
    exact Or.inl ⟨key, now, rfl, h.1, h.2.symm⟩
  | enter i =>
    obtain ⟨call, hcall, hmatch⟩ := Option.bind_eq_some_iff.1 h
    cases hresult : call.result with
    | none =>
      simp only [hresult, Option.some.injEq] at hmatch
      exact Or.inr ⟨i, call, rfl, hcall, hresult, hmatch.symm⟩
    | some _ => simp [hresult] at hmatch

/-- What a critical section does to the queue and the accepted readings of its key. -/
theorem entered_cases {s : LimiterRun} (hlimit : 0 < s.limiter.limit) (i : Nat)
    (call : LimiterCall) :
    s.limiter.limit ≤ (s.limiter.remaining call.reading call.key).length ∧
        (s.entered i call).accepted = s.accepted ∧
        (s.entered i call).limiter.requests call.key =
          s.limiter.remaining call.reading call.key ∨
      (s.limiter.remaining call.reading call.key).length < s.limiter.limit ∧
        (s.entered i call).accepted =
          Function.update s.accepted call.key (s.accepted call.key ++ [call.reading]) ∧
        (s.entered i call).limiter.requests call.key =
          s.limiter.remaining call.reading call.key ++ [call.reading] := by
  have hself := RateLimiter.allow_requests_self hlimit call.reading call.key
  rcases RateLimiter.allow_cases hlimit call.reading call.key with ⟨hfull, heq⟩ | ⟨hroom, heq⟩
  · refine Or.inl ⟨hfull, ?_, ?_⟩
    · simp only [entered, heq, Bool.false_eq_true, if_false]
    · simpa only [entered, heq, Bool.false_eq_true, if_false] using hself
  · refine Or.inr ⟨hroom, ?_, ?_⟩
    · simp only [entered, heq, if_true]
    · simpa only [entered, heq, if_true] using hself

/-! ## What is true of every run -/

/-- The limiter keeps its settings. -/
structure Configured (limit window : Nat) (s : LimiterRun) : Prop where
  limit : s.limiter.limit = limit
  window : s.limiter.window = window

theorem configured_of_reachable {limit window : Nat} {s : LimiterRun}
    (h : (limiterRun limit window).Reachable s) : Configured limit window s := by
  refine Machine.ReachableVia.invariant (P := Configured limit window) ⟨rfl, rfl⟩ ?_ h
  intro s a t _ hs hnext _
  rcases next_cases hnext with ⟨_, _, _, _, rfl⟩ | ⟨i, call, _, _, _, rfl⟩
  · exact ⟨hs.limit, hs.window⟩
  · exact ⟨(s.limiter.allow_limit _ _).trans hs.limit,
      (s.limiter.allow_window _ _).trans hs.window⟩

/-- The queue of every key is the end of its accepted readings. -/
def Logged (s : LimiterRun) : Prop := ∀ key, s.limiter.requests key <:+ s.accepted key

/-- A critical section leaves the other keys alone. -/
theorem entered_of_ne (s : LimiterRun) (i : Nat) {call : LimiterCall} {key : String}
    (hne : key ≠ call.key) :
    (s.entered i call).accepted key = s.accepted key ∧
      (s.entered i call).limiter.requests key = s.limiter.requests key := by
  refine ⟨?_, s.limiter.allow_requests_of_ne _ hne⟩
  simp only [entered]
  split_ifs
  · exact Function.update_of_ne hne ..
  · rfl

/-- The accepted readings are the dropped ones and those that a critical section
keeps, besides a front that its window has left behind. -/
theorem Logged.split {s : LimiterRun} (h : s.Logged) (now : Nat) (key : String) :
    ∃ front, s.accepted key = (s.dropped key ++ front) ++ s.limiter.remaining now key ∧
      ∀ r ∈ front, r + s.limiter.window ≤ now := by
  obtain ⟨front, hqueue, hfront⟩ := expire_split s.limiter.window now (s.limiter.requests key)
  refine ⟨front, ?_, hfront⟩
  have hdropped : s.accepted key = s.dropped key ++ s.limiter.requests key := by
    unfold dropped
    conv_lhs => rw [← List.take_append_drop
      ((s.accepted key).length - (s.limiter.requests key).length) (s.accepted key)]
    rw [← List.suffix_iff_eq_drop.1 (h key)]
  rw [hdropped, List.append_assoc]
  exact congrArg (s.dropped key ++ ·) hqueue

theorem logged_of_reachable {limit window : Nat} (hlimit : 0 < limit) {s : LimiterRun}
    (h : (limiterRun limit window).Reachable s) : s.Logged := by
  refine Machine.ReachableVia.invariant (P := Logged) (fun _ => List.suffix_rfl) ?_ h
  intro s a t hreach hs hnext _
  rcases next_cases hnext with ⟨_, _, _, _, rfl⟩ | ⟨i, call, _, _, _, rfl⟩
  · exact hs
  · intro key
    by_cases hkey : key = call.key
    · subst hkey
      have hpos : 0 < s.limiter.limit := by
        rw [(configured_of_reachable hreach).limit]
        exact hlimit
      have hend : s.limiter.remaining call.reading call.key <:+ s.accepted call.key :=
        (List.dropWhile_suffix _).trans (hs call.key)
      rcases entered_cases hpos i call with ⟨_, haccepted, hqueue⟩ | ⟨_, haccepted, hqueue⟩
      · rw [haccepted, hqueue]
        exact hend
      · rw [haccepted, hqueue, Function.update_self]
        exact List.suffix_append_self_iff.2 hend
    · obtain ⟨haccepted, hqueue⟩ := s.entered_of_ne i hkey
      rw [haccepted, hqueue]
      exact hs key

/-- A critical section that is not late keeps the bound. -/
theorem WindowBounded.entered {s : LimiterRun} {i : Nat} {call : LimiterCall}
    (h : s.WindowBounded) (hlimit : 0 < s.limiter.limit) (hlogged : s.Logged)
    (hcall : s.calls[i]? = some call) (hlate : ¬ s.JudgedLate (.enter i)) :
    (s.entered i call).WindowBounded := by
  intro key
  have hsettings : (s.entered i call).limiter.limit = s.limiter.limit ∧
      (s.entered i call).limiter.window = s.limiter.window :=
    ⟨s.limiter.allow_limit _ _, s.limiter.allow_window _ _⟩
  rw [hsettings.1, hsettings.2]
  by_cases hkey : key = call.key
  · subst hkey
    rcases entered_cases hlimit i call with ⟨_, haccepted, _⟩ | ⟨hroom, haccepted, _⟩
    · rw [haccepted]
      exact h call.key
    · rw [haccepted, Function.update_self]
      refine (h call.key).concat (lt_of_le_of_lt ?_ hroom)
      obtain ⟨front, hsplit, hfront⟩ := hlogged.split call.reading call.key
      rw [hsplit]
      refine countP_near_le fun r hr => ?_
      rcases List.mem_append.1 hr with hdropped | hexpired
      · exact fun hnear => hlate ⟨call, hcall, hroom, r, hdropped, hnear⟩
      · exact not_near_of_add_le (hfront r hexpired)
  · rw [(s.entered_of_ne i hkey).1]
    exact h key

theorem windowBounded_of_reachableVia {limit window : Nat} (hlimit : 0 < limit)
    {s : LimiterRun}
    (h : (limiterRun limit window).ReachableVia (fun s a => ¬ s.JudgedLate a) s) :
    s.WindowBounded := by
  refine Machine.ReachableVia.invariant (P := WindowBounded) ?_ ?_ h
  · exact fun _ => bounded_nil limit window
  · intro s a t hreach hs hnext hok
    rcases next_cases hnext with ⟨_, _, _, _, rfl⟩ | ⟨i, call, rfl, hcall, _, rfl⟩
    · exact hs
    · have hpos : 0 < s.limiter.limit := by
        rw [(configured_of_reachable hreach.reachable).limit]
        exact hlimit
      exact hs.entered hpos (logged_of_reachable hlimit hreach.reachable) hcall hok

end LimiterRun

end DrogonStarter.Observability
