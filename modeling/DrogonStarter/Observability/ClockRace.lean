import DrogonStarter.Observability.RateLimiter

/-!
# A clock that is read before the mutex

A thread that has read the clock may wait for the mutex while others go ahead.
When one of them has a later reading, it drops readings that the waiting thread
would still count, and the waiting thread finds room that it does not have.

* `LimiterRun.Single` is why a limit of one is safe: the queue is the last
  accepted reading, and a later one is a whole window away.
* `exists_overrun` is the run that breaks every other limit.
* `windowBounded_via` puts the two together with the bound for the runs in which
  no critical section is late.
-/

namespace DrogonStarter.Observability

open SlidingWindow Transition

namespace LimiterRun

/-! ## Limiters that no order of steps can mislead -/

/-- With a limit of one the queue is the last accepted reading, and accepted
readings are a window apart. -/
def Single (s : LimiterRun) : Prop :=
  ∀ key, (s.accepted key).Pairwise (· + s.limiter.window ≤ ·) ∧
    s.limiter.requests key = (s.accepted key).getLast?.toList

/-- When the window has left the last reading behind, it has left all of them behind. -/
theorem add_le_of_expired {W now : Nat} {accepted : List Nat}
    (hspaced : accepted.Pairwise (· + W ≤ ·))
    (hempty : expire W now accepted.getLast?.toList = []) {r : Nat} (hr : r ∈ accepted) :
    r + W ≤ now := by
  obtain ⟨before, last, rfl⟩ : ∃ before last, accepted = before ++ [last] :=
    ⟨_, _, (List.dropLast_append_getLast (List.ne_nil_of_mem hr)).symm⟩
  rw [List.getLast?_concat, Option.toList_some] at hempty
  have hlast : last + W ≤ now := by
    simpa [expire] using hempty
  rw [List.pairwise_append] at hspaced
  rcases List.mem_append.1 hr with hbefore | hself
  · have hgap := hspaced.2.2 r hbefore last List.mem_cons_self
    omega
  · rw [List.mem_singleton.1 hself]
    exact hlast

theorem Single.entered {s : LimiterRun} {i : Nat} {call : LimiterCall} (h : s.Single)
    (hlimit : s.limiter.limit = 1) : (s.entered i call).Single := by
  intro key
  have hwindow : (s.entered i call).limiter.window = s.limiter.window :=
    s.limiter.allow_window _ _
  rw [hwindow]
  by_cases hkey : key = call.key
  · subst hkey
    obtain ⟨hspaced, hlast⟩ := h call.key
    have hpos : 0 < s.limiter.limit := by omega
    rcases entered_cases hpos i call with ⟨hfull, haccepted, hqueue⟩ | ⟨hroom, haccepted, hqueue⟩
    · -- The queue has one reading, which is still in the window, so nothing changes.
      have hkeeps : s.limiter.remaining call.reading call.key =
          s.limiter.requests call.key := by
        refine (List.dropWhile_suffix _).eq_of_length_le ?_
        have hone : (s.limiter.requests call.key).length ≤ 1 := by
          rw [hlast]
          exact Option.length_toList_le
        exact hone.trans (hlimit ▸ hfull)
      rw [haccepted, hqueue, hkeeps]
      exact ⟨hspaced, hlast⟩
    · have hempty : s.limiter.remaining call.reading call.key = [] :=
        List.length_eq_zero_iff.1 (by omega)
      rw [haccepted, hqueue, Function.update_self, hempty]
      refine ⟨List.pairwise_append.2 ⟨hspaced, List.pairwise_singleton _ _, ?_⟩, by simp⟩
      intro r hr now hnow
      rw [List.mem_singleton.1 hnow]
      refine add_le_of_expired hspaced ?_ hr
      rw [← hlast]
      exact hempty
  · obtain ⟨haccepted, hqueue⟩ := s.entered_of_ne i hkey
    rw [haccepted, hqueue]
    exact h key

theorem single_of_reachable {window : Nat} {s : LimiterRun}
    (h : (limiterRun 1 window).Reachable s) : s.Single := by
  refine Machine.ReachableVia.invariant (P := Single) ?_ ?_ h
  · exact fun _ => ⟨List.Pairwise.nil, rfl⟩
  · intro s a t hreach hs hnext _
    rcases next_cases hnext with ⟨_, _, _, _, rfl⟩ | ⟨i, call, _, _, _, rfl⟩
    · exact hs
    · exact hs.entered (configured_of_reachable hreach).limit

theorem windowBounded_of_limit_one {window : Nat} {s : LimiterRun}
    (h : (limiterRun 1 window).Reachable s) : s.WindowBounded := by
  intro key
  rw [(configured_of_reachable h).limit]
  exact bounded_one_of_spaced (single_of_reachable h key).1

theorem windowBounded_of_window_zero {limit : Nat} {s : LimiterRun}
    (h : (limiterRun limit 0).Reachable s) : s.WindowBounded := by
  intro key
  rw [(configured_of_reachable h).window]
  exact bounded_zero _ _

/-! ## The run that breaks the others -/

/-- The state after a thread has read the clock. -/
def reading (s : LimiterRun) (key : String) (now : Nat) : LimiterRun :=
  { s with clock := now, calls := s.calls ++ [{ key := key, reading := now }] }

section Overrun

variable {limit window : Nat} {s : LimiterRun}

theorem reachable_reading (h : (limiterRun limit window).Reachable s) (key : String) (now : Nat)
    (hclock : s.clock ≤ now) : (limiterRun limit window).Reachable (s.reading key now) :=
  h.next (a := .read key now) (if_pos hclock)

theorem reachable_entered (h : (limiterRun limit window).Reachable s) {i : Nat}
    {call : LimiterCall} (hcall : s.calls[i]? = some call) (hpending : call.result = none) :
    (limiterRun limit window).Reachable (s.entered i call) := by
  refine h.next (a := .enter i) ?_
  show s.calls[i]?.bind _ = _
  rw [hcall, Option.bind_some, hpending]

/-- A critical section that finds room. -/
theorem entered_of_room (hlimit : 0 < s.limiter.limit) (i : Nat) (call : LimiterCall)
    (hroom : (s.limiter.remaining call.reading call.key).length < s.limiter.limit) :
    (s.entered i call).accepted call.key = s.accepted call.key ++ [call.reading] ∧
      (s.entered i call).limiter.requests call.key =
        s.limiter.remaining call.reading call.key ++ [call.reading] := by
  rcases entered_cases hlimit i call with ⟨hfull, _, _⟩ | ⟨_, haccepted, hqueue⟩
  · omega
  · refine ⟨?_, hqueue⟩
    rw [haccepted, Function.update_self]

/-- A window that has just begun can take as many calls as the limit says. -/
theorem exists_replicate (hlimit : 0 < limit) (hwindow : 0 < window) (key : String) {k : Nat}
    (hk : k ≤ limit) :
    ∃ s, (limiterRun limit window).Reachable s ∧ s.clock = 0 ∧
      s.accepted key = List.replicate k 0 ∧ s.limiter.requests key = List.replicate k 0 := by
  induction k with
  | zero => exact ⟨_, .init, rfl, rfl, rfl⟩
  | succ k ih =>
    obtain ⟨s, hreach, hclock, haccepted, hqueue⟩ := ih (by omega)
    have hread := reachable_reading hreach key 0 hclock.le
    have hcfg := configured_of_reachable hread
    have hkept : (s.reading key 0).limiter.remaining 0 key = List.replicate k 0 := by
      have hsame : (s.reading key 0).limiter.requests key = List.replicate k 0 := hqueue
      rw [RateLimiter.remaining, hsame, hcfg.window]
      cases k with
      | zero => rfl
      | succ k =>
        rw [List.replicate_succ, expire, List.dropWhile_cons, if_neg (by simpa using hwindow.ne')]
    have hpos : 0 < (s.reading key 0).limiter.limit := by
      rw [hcfg.limit]
      exact hlimit
    obtain ⟨haccepted', hqueue'⟩ := entered_of_room (s := s.reading key 0) hpos s.calls.length
      { key := key, reading := 0 } (by
        rw [hkept, hcfg.limit, List.length_replicate]
        omega)
    have hcall : (s.reading key 0).calls[s.calls.length]? = some { key := key, reading := 0 } :=
      List.getElem?_concat_length ..
    refine ⟨_, reachable_entered hread hcall rfl, rfl, ?_, ?_⟩
    · rw [haccepted']
      show s.accepted key ++ [0] = _
      rw [haccepted, List.replicate_succ']
    · rw [hqueue', hkept, List.replicate_succ']

/-- A full window that began at zero, with one thread that has read the clock at
its beginning and another one that has read it at its end: the second one goes
ahead and empties the queue for the first one. -/
theorem overrun_of_waiting (hlimit : 1 < limit) (hwindow : 0 < window)
    (h : (limiterRun limit window).Reachable s) {key : String} {i j : Nat} (hne : j ≠ i)
    (hwaiting : s.calls[i]? = some { key := key, reading := 0 })
    (hahead : s.calls[j]? = some { key := key, reading := window })
    (haccepted : s.accepted key = List.replicate limit 0)
    (hqueue : s.limiter.requests key = List.replicate limit 0) :
    ∃ t, (limiterRun limit window).Reachable t ∧ ¬ t.WindowBounded := by
  have hcfg := configured_of_reachable h
  have hempty : s.limiter.remaining window key = [] := by
    rw [RateLimiter.remaining, hqueue, hcfg.window, expire, List.dropWhile_eq_nil_iff]
    intro r hr
    rw [List.eq_of_mem_replicate hr]
    simp
  obtain ⟨hlog, hrest⟩ := entered_of_room (by rw [hcfg.limit]; omega) j
    { key := key, reading := window }
    (show (s.limiter.remaining window key).length < s.limiter.limit by
      rw [hempty, hcfg.limit]
      exact Nat.zero_lt_of_lt hlimit)
  have hmid := reachable_entered h hahead rfl
  have hpending : (s.entered j { key := key, reading := window }).calls[i]? =
      some { key := key, reading := 0 } := by
    rw [← hwaiting]
    exact List.getElem?_set_ne hne
  generalize s.entered j { key := key, reading := window } = u at hlog hrest hmid hpending
  have hcfg' := configured_of_reachable hmid
  have hone : u.limiter.remaining 0 key = [window] := by
    rw [RateLimiter.remaining, hrest, hempty, List.nil_append, hcfg'.window, expire,
      List.dropWhile_cons, if_neg (by simpa using hwindow.ne')]
  obtain ⟨hlast, _⟩ := entered_of_room (by rw [hcfg'.limit]; omega) i
    { key := key, reading := 0 }
    (show (u.limiter.remaining 0 key).length < u.limiter.limit by
      rw [hone, hcfg'.limit]
      exact hlimit)
  have hend := reachable_entered hmid hpending rfl
  refine ⟨_, hend, fun hbounded => ?_⟩
  -- The window that ends at zero holds the first readings and the last one.
  have hload := hbounded key 0
  rw [(configured_of_reachable hend).limit, (configured_of_reachable hend).window] at hload
  simp only [hlast, hlog, haccepted, load_append, load_singleton] at hload
  have hfull : load window 0 (List.replicate limit 0) = limit := by
    rw [load, List.countP_replicate, if_pos (by simpa [Within] using hwindow)]
  rw [hfull, if_pos (show Within window 0 0 from ⟨le_rfl, by omega⟩)] at hload
  omega

theorem exists_overrun (hlimit : 1 < limit) (hwindow : 0 < window) :
    ∃ t, (limiterRun limit window).Reachable t ∧ ¬ t.WindowBounded := by
  have hpos : 0 < limit := by omega
  obtain ⟨s, hreach, hclock, haccepted, hqueue⟩ :=
    exists_replicate hpos hwindow "client" le_rfl
  have hread := reachable_reading (reachable_reading hreach "client" 0 hclock.le) "client"
    window (Nat.zero_le window)
  exact overrun_of_waiting hlimit hwindow hread (i := s.calls.length) (j := s.calls.length + 1)
    (by omega) (by simp [reading]) (by simp [reading]) haccepted hqueue

end Overrun

/-- Every window is kept in the runs in which no critical section is late.  It
is kept in all runs exactly when the limit is one or the window is empty. -/
theorem windowBounded_via (limit window : Nat) (hlimit : 0 < limit) :
    (∀ s, (limiterRun limit window).ReachableVia (fun s a => ¬ s.JudgedLate a) s →
      s.WindowBounded) ∧
    ((∀ s, (limiterRun limit window).Reachable s → s.WindowBounded) ↔
      limit = 1 ∨ window = 0) := by
  refine ⟨fun s h => windowBounded_of_reachableVia hlimit h, fun hall => ?_, ?_⟩
  · by_contra hneither
    rw [not_or] at hneither
    have hlarge : 1 < limit := by omega
    have hwide : 0 < window := by omega
    obtain ⟨t, hreach, hover⟩ := exists_overrun hlarge hwide
    exact hover (hall t hreach)
  · rintro (rfl | rfl) s h
    · exact windowBounded_of_limit_one h
    · exact windowBounded_of_window_zero h

/-- Two calls are accepted out of the order of their readings. -/
theorem windowBounded_via_overtaken :
    WindowBounded
      (((limiterRun 2 10).run
        [.read "client" 3, .read "client" 5, .enter 1, .enter 0]).get (by decide)) :=
  (windowBounded_via 2 10 (by decide)).1 _
    (Machine.reachableVia_of_run
      [.read "client" 3, .read "client" 5, .enter 1, .enter 0] (Option.some_get _).symm
      (by decide))

/-- Two calls fill the window that begins at zero.  A third one reads the clock
at nine, and a fourth one, at eleven, goes ahead of it. -/
theorem overtaken_call_overruns :
    ¬ ∀ limit window, 0 < limit → ∀ s, (limiterRun limit window).Reachable s →
      s.WindowBounded := by
  intro hall
  have hload := hall 2 10 (by decide) _
    (Machine.reachable_of_run
      [.read "client" 0, .enter 0, .read "client" 1, .enter 1, .read "client" 9,
        .read "client" 11, .enter 3, .enter 2]
      (Option.some_get (by decide)).symm) "client" 9
  revert hload
  decide

end LimiterRun

end DrogonStarter.Observability
