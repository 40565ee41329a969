import DrogonStarter.Lib.Trace
import DrogonStarter.Observability.RateLimiter

/-!
# The rate limiter and its past

`RateLimiter::allow` keeps a deque for each key and drops its front when a call comes.
`limiterCalls` is the limiter as a server of calls whose readings of the clock are in the
order of their critical sections.

* `LimiterTrace.kept` are the accepted calls of a key so far.
* `RateLimiter.Recalls` says that the deque of every key is the end of its accepted
  readings, and that the window has left the others behind.  `Recalls.next` is the step.
* `allow_iff_window` counts the accepted readings in the window instead, and
  `answer_kept` says that nothing but the accepted calls of the key has a part in it.
-/

namespace DrogonStarter.Observability

open Serving SlidingWindow

/-- A limiter and its calls, each with its key and the reading of its critical section. -/
def limiterCalls : Server RateLimiter (String × Nat) Bool where
  next r call := (r.allow call.2 call.1).2
  answer r call := (r.allow call.2 call.1).1

/-- A limiter that nobody has called. -/
def RateLimiter.new (limit window : Nat) : RateLimiter := { limit, window }

/-- The calls so far, with their answers. -/
abbrev LimiterTrace := List ((String × Nat) × Bool)

namespace LimiterTrace

/-- The accepted calls of a key. -/
def kept (trace : LimiterTrace) (key : String) : List (String × Nat) :=
  (trace.filter fun entry => entry.1.1 = key && entry.2).map Prod.fst

/-- The readings of the accepted calls of a key. -/
def accepted (trace : LimiterTrace) (key : String) : List Nat := (trace.kept key).map Prod.snd

variable (trace : LimiterTrace) (key : String) (now : Nat)

theorem kept_concat (call : String × Nat) (answer : Bool) :
    kept (trace ++ [(call, answer)]) key =
      if call.1 = key ∧ answer = true then trace.kept key ++ [call] else trace.kept key := by
  by_cases hkept : call.1 = key ∧ answer = true <;> simp [kept, hkept]

theorem accepted_concat (other : String) (answer : Bool) :
    accepted (trace ++ [((other, now), answer)]) key =
      if other = key ∧ answer = true then trace.accepted key ++ [now]
      else trace.accepted key := by
  rw [accepted, kept_concat]
  by_cases hkept : other = key ∧ answer = true
  · rw [if_pos hkept, if_pos hkept, List.map_append]
    rfl
  · rw [if_neg hkept, if_neg hkept]
    rfl

/-- The accepted calls of a key are calls, in their order. -/
theorem kept_sublist : (trace.kept key).Sublist (trace.map Prod.fst) :=
  List.filter_sublist.map _

end LimiterTrace

namespace RateLimiter

/-- The deques of the limiter stand for its past. -/
structure Recalls (limit window : Nat) (trace : LimiterTrace) (r : RateLimiter) : Prop where
  sameLimit : r.limit = limit
  sameWindow : r.window = window
  sorted : trace.Pairwise fun entry entry' => entry.1.2 ≤ entry'.1.2
  queue : ∀ key, ∃ gone, trace.accepted key = gone ++ r.requests key ∧
    ∀ x ∈ gone, ∃ entry ∈ trace, x + window ≤ entry.1.2

variable {limit window : Nat} {trace : LimiterTrace} {r : RateLimiter}

theorem recalls_new (limit window : Nat) : Recalls limit window [] (new limit window) where
  sameLimit := rfl
  sameWindow := rfl
  sorted := List.Pairwise.nil
  queue _ := ⟨[], rfl, by simp⟩

theorem Recalls.accepted_mem {key : String} {x : Nat} (h : x ∈ trace.accepted key) :
    ∃ entry ∈ trace, entry.1.2 = x := by
  obtain ⟨call, hcall, rfl⟩ := List.mem_map.1 h
  obtain ⟨entry, hentry, rfl⟩ := List.mem_map.1 ((trace.kept_sublist key).subset hcall)
  exact ⟨entry, hentry, rfl⟩

/-- The deque of a key is in the order of its readings. -/
theorem Recalls.sorted_queue (h : Recalls limit window trace r) (key : String) :
    (r.requests key).Pairwise (· ≤ ·) := by
  have haccepted : (trace.accepted key).Pairwise (· ≤ ·) := by
    have hcalls : (trace.map Prod.fst).Pairwise fun c d => c.2 ≤ d.2 :=
      List.pairwise_map.2 h.sorted
    exact List.pairwise_map.2 (hcalls.sublist (trace.kept_sublist key))
  obtain ⟨gone, hqueue, _⟩ := h.queue key
  rw [hqueue] at haccepted
  exact (List.pairwise_append.1 haccepted).2.1

/-- What a call finds in the deque is what the window holds of the accepted readings. -/
theorem Recalls.length_remaining (h : Recalls limit window trace r) (key : String) {now : Nat}
    (hnow : ∀ entry ∈ trace, entry.1.2 ≤ now) :
    (r.remaining now key).length = load window now (trace.accepted key) := by
  obtain ⟨gone, hqueue, hgone⟩ := h.queue key
  have hleft : ∀ x ∈ gone, x + window ≤ now := by
    intro x hx
    obtain ⟨entry, hentry, hle⟩ := hgone x hx
    exact hle.trans (hnow entry hentry)
  have hpast : ∀ x ∈ r.requests key, x ≤ now := by
    intro x hx
    have haccepted : x ∈ trace.accepted key := hqueue ▸ List.mem_append_right gone hx
    obtain ⟨entry, hentry, rfl⟩ := Recalls.accepted_mem haccepted
    exact hnow entry hentry
  rw [remaining, h.sameWindow, hqueue, load_eq_length_expire hleft (h.sorted_queue key) hpast]

/-- What a call answers is what the window says. -/
theorem Recalls.allow_iff (h : Recalls limit window trace r) (hlimit : 0 < limit)
    (key : String) {now : Nat} (hnow : ∀ entry ∈ trace, entry.1.2 ≤ now) :
    (r.allow now key).1 = true ↔ load window now (trace.accepted key) < limit := by
  rw [← h.length_remaining key hnow, ← h.sameLimit]
  rcases allow_cases (h.sameLimit ▸ hlimit : 0 < r.limit) now key with
    ⟨hfull, heq⟩ | ⟨hroom, heq⟩
  · rw [heq]
    exact iff_of_false Bool.false_ne_true (Nat.not_lt.2 hfull)
  · rw [heq]
    exact iff_of_true rfl hroom

/-- A call keeps the deques and the past together. -/
theorem Recalls.next (h : Recalls limit window trace r) (hlimit : 0 < limit)
    {call : String × Nat} (hnow : ∀ entry ∈ trace, entry.1.2 ≤ call.2) :
    Recalls limit window (trace ++ [(call, limiterCalls.answer r call)])
      (limiterCalls.next r call) := by
  obtain ⟨other, now⟩ := call
  have hpos : 0 < r.limit := h.sameLimit ▸ hlimit
  refine ⟨(r.allow_limit now other).trans h.sameLimit,
    (r.allow_window now other).trans h.sameWindow, ?_, fun key => ?_⟩
  · rw [List.pairwise_append]
    refine ⟨h.sorted, List.pairwise_singleton _ _, fun entry hentry entry' hnew => ?_⟩
    rw [List.mem_singleton.1 hnew]
    exact hnow entry hentry
  · obtain ⟨gone, hqueue, hgone⟩ := h.queue key
    have hkeep : ∀ x ∈ gone, ∃ entry ∈ trace ++ [((other, now), limiterCalls.answer r
        (other, now))], x + window ≤ entry.1.2 := by
      intro x hx
      obtain ⟨entry, hentry, hle⟩ := hgone x hx
      exact ⟨entry, List.mem_append_left _ hentry, hle⟩
    rw [LimiterTrace.accepted_concat]
    by_cases hkey : other = key
    · subst hkey
      -- What the call drops from the front of the deque has left the window.
      obtain ⟨front, hsplit, hfront⟩ := expire_split r.window now (r.requests other)
      have haccepted : trace.accepted other = (gone ++ front) ++ r.remaining now other := by
        rw [hqueue, List.append_assoc]
        exact congrArg (gone ++ ·) hsplit
      have hleft : ∀ x ∈ gone ++ front, ∃ entry ∈ trace ++ [((other, now), limiterCalls.answer r
          (other, now))], x + window ≤ entry.1.2 := by
        intro x hx
        rcases List.mem_append.1 hx with hold | hnew
        · exact hkeep x hold
        · exact ⟨_, List.mem_append_right _ (List.mem_singleton.2 rfl),
            h.sameWindow ▸ hfront x hnew⟩
      have hself := allow_requests_self hpos now other
      refine ⟨gone ++ front, ?_, hleft⟩
      change (if other = other ∧ (r.allow now other).1 = true then _ else _) =
        gone ++ front ++ (r.allow now other).2.requests other
      rw [hself, haccepted]
      cases (r.allow now other).1 <;> simp
    · rw [if_neg (fun hboth => hkey hboth.1)]
      refine ⟨gone, ?_, hkeep⟩
      rw [hqueue]
      exact congrArg (gone ++ ·) (r.allow_requests_of_ne now (Ne.symm hkey)).symm

/-- The deques of a limiter always stand for its past. -/
theorem recalls_after (hlimit : 0 < limit) {calls : List (String × Nat)}
    (hclock : calls.Pairwise fun c d => c.2 ≤ d.2) :
    Recalls limit window (limiterCalls.trace (new limit window) calls)
      (limiterCalls.after (new limit window) calls) := by
  refine Server.trace_invariant (Recalls limit window)
    (fun before call => ∀ c ∈ before, c.2 ≤ call.2) (recalls_new limit window) ?_ ?_
  · intro before r call h hnow
    refine h.next hlimit fun entry hentry => hnow entry.1 ?_
    rw [← limiterCalls.map_fst_trace (new limit window) before]
    exact List.mem_map_of_mem hentry
  · rintro before call rest rfl c hc
    exact (List.pairwise_append.1 hclock).2.2 c hc call List.mem_cons_self

end RateLimiter

open RateLimiter

variable {limit window : Nat}

/-- A limiter without a limit accepts every call. -/
theorem answer_of_limit_zero (before : List (String × Nat)) (call : String × Nat) :
    limiterCalls.answer (limiterCalls.after (new 0 window) before) call = true := by
  have hlimit : (limiterCalls.after (new 0 window) before).limit = 0 := by
    induction before using List.reverseRecOn with
    | nil => rfl
    | append_singleton before other ih =>
      rw [Server.after_concat]
      exact (RateLimiter.allow_limit _ _ _).trans ih
  change (RateLimiter.allow _ _ _).1 = true
  rw [RateLimiter.allow, if_pos hlimit]

/-- The calls so far with their answers, from a new limiter. -/
def pastOf (limit window : Nat) (before : List (String × Nat)) : LimiterTrace :=
  limiterCalls.trace (new limit window) before

/-- What a new limiter answers after some calls. -/
def answerAfter (limit window : Nat) (before : List (String × Nat)) (key : String)
    (now : Nat) : Bool :=
  limiterCalls.answer (limiterCalls.after (new limit window) before) (key, now)

theorem map_fst_pastOf (before : List (String × Nat)) :
    (pastOf limit window before).map Prod.fst = before :=
  limiterCalls.map_fst_trace _ _

theorem kept_pastOf_sublist (before : List (String × Nat)) (key : String) :
    ((pastOf limit window before).kept key).Sublist before := by
  have hkept := (pastOf limit window before).kept_sublist key
  rwa [map_fst_pastOf] at hkept

/-- The answer to a call counts the accepted readings of its key in its window. -/
theorem answerAfter_iff (hlimit : 0 < limit) {before : List (String × Nat)} {key : String}
    {now : Nat} (hclock : before.Pairwise fun c d => c.2 ≤ d.2)
    (hnow : ∀ c ∈ before, c.2 ≤ now) :
    answerAfter limit window before key now = true ↔
      load window now ((pastOf limit window before).accepted key) < limit := by
  refine (recalls_after hlimit hclock).allow_iff hlimit key fun entry hentry => hnow entry.1 ?_
  rw [← @map_fst_pastOf limit window before]
  exact List.mem_map_of_mem hentry

/-- The accepted calls of a key, made alone, are accepted again. -/
theorem accepted_kept (hlimit : 0 < limit) {before : List (String × Nat)} (key : String)
    (hclock : before.Pairwise fun c d => c.2 ≤ d.2) :
    (pastOf limit window ((pastOf limit window before).kept key)).accepted key =
      (pastOf limit window before).accepted key := by
  induction before using List.reverseRecOn with
  | nil => rfl
  | append_singleton before call ih =>
    obtain ⟨hbefore, _, hlast⟩ := List.pairwise_append.1 hclock
    have hnow : ∀ c ∈ before, c.2 ≤ call.2 := fun c hc => hlast c hc call List.mem_cons_self
    have hsub := @kept_pastOf_sublist limit window before key
    have hpast : pastOf limit window (before ++ [call]) =
        pastOf limit window before ++ [(call, answerAfter limit window before call.1 call.2)] :=
      limiterCalls.trace_concat _ _ _
    rw [hpast, LimiterTrace.kept_concat, LimiterTrace.accepted_concat]
    by_cases hkept : call.1 = key ∧ answerAfter limit window before call.1 call.2 = true
    · -- By the count, the call gets the same answer without the others.
      have hagain : answerAfter limit window ((pastOf limit window before).kept key) call.1
          call.2 = true := by
        have hload := (answerAfter_iff hlimit hbefore hnow).1 hkept.2
        rw [answerAfter_iff hlimit (hbefore.sublist hsub) fun c hc => hnow c (hsub.subset hc),
          hkept.1, ih hbefore, ← hkept.1]
        exact hload
      have hpast' : pastOf limit window ((pastOf limit window before).kept key ++ [call]) =
          pastOf limit window ((pastOf limit window before).kept key) ++
            [(call, answerAfter limit window ((pastOf limit window before).kept key) call.1
              call.2)] :=
        limiterCalls.trace_concat _ _ _
      rw [if_pos hkept, if_pos hkept, hpast', LimiterTrace.accepted_concat,
        if_pos ⟨hkept.1, hagain⟩, ih hbefore]
    · rw [if_neg hkept, if_neg hkept, ih hbefore]

/-- In every run whose readings are in the order of the critical sections, a call is accepted
exactly when there is no limit or fewer than the limit of the accepted calls of its key have
readings in its window.  The calls of other keys and the refused calls might as well not have
been made. -/
theorem allow_iff_window (limit window : Nat) {calls : List (String × Nat)}
    (hclock : calls.Pairwise fun c d => c.2 ≤ d.2) :
    ∀ before key now rest, calls = before ++ (key, now) :: rest →
      (answerAfter limit window before key now = true ↔
          limit = 0 ∨ load window now ((pastOf limit window before).accepted key) < limit) ∧
        answerAfter limit window ((pastOf limit window before).kept key) key now =
          answerAfter limit window before key now := by
  rintro before key now rest rfl
  rcases Nat.eq_zero_or_pos limit with rfl | hlimit
  · have hall : ∀ calls, answerAfter 0 window calls key now = true := fun calls =>
      answer_of_limit_zero calls (key, now)
    exact ⟨iff_of_true (hall before) (Or.inl rfl), by rw [hall, hall]⟩
  · obtain ⟨hbefore, _, hlast⟩ := List.pairwise_append.1 hclock
    have hnow : ∀ c ∈ before, c.2 ≤ now := fun c hc => hlast c hc (key, now) List.mem_cons_self
    have hsub := @kept_pastOf_sublist limit window before key
    refine ⟨?_, ?_⟩
    · rw [answerAfter_iff hlimit hbefore hnow]
      exact (or_iff_right (Nat.pos_iff_ne_zero.1 hlimit)).symm
    · rw [Bool.eq_iff_iff, answerAfter_iff hlimit hbefore hnow,
        answerAfter_iff hlimit (hbefore.sublist hsub) fun c hc => hnow c (hsub.subset hc),
        accepted_kept hlimit key hbefore]

/-- Two calls of one client and one of another, with a limit of one. -/
theorem allow_iff_window_clients :
    (answerAfter 1 60 [("client", 0), ("other", 1)] "client" 2 = true ↔
        1 = 0 ∨ load 60 2 ((pastOf 1 60 [("client", 0), ("other", 1)]).accepted "client") < 1) ∧
      answerAfter 1 60 ((pastOf 1 60 [("client", 0), ("other", 1)]).kept "client") "client" 2 =
        answerAfter 1 60 [("client", 0), ("other", 1)] "client" 2 := by
  have hclock : [("client", 0), ("other", 1), ("client", 2)].Pairwise fun c d => c.2 ≤ d.2 := by
    decide
  exact allow_iff_window 1 60 hclock [("client", 0), ("other", 1)] "client" 2 [] rfl

end DrogonStarter.Observability
