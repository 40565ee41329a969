import DrogonStarter.Lib.Decimal
import DrogonStarter.Lib.Json
import DrogonStarter.Lib.Tally
import DrogonStarter.Observability.RateLimiter

/-!
# The rate limit of a client

`runServer` registers a sync advice that asks the limiter before a request is
routed.  The key of a request is `toIpPort()` of its peer, so it changes with
the source port, and every connection of a client has a queue of its own.

* `syncAdvice` is the advice, and `gateway` the machine that handles one request
  after another.
* `Gateway.Tracked` says that the queue of a peer holds what was let through for
  it within the last window.
* `Gateway.OtherConnection` is the request that the key hides from the limiter,
  and `perClient_via` says what holds without it and what follows from it.
-/

namespace DrogonStarter.Observability

open CppNumber SlidingWindow Transition

/-- `trantor::InetAddress` of a peer. -/
structure Peer where
  ip : String
  port : Nat
deriving DecidableEq

/-- `toIpPort()`. -/
def Peer.toIpPort (p : Peer) : String := p.ip ++ ":" ++ toString p.port

/-- What the advice reads of a request. -/
structure AdvisedRequest where
  path : String
  peerAddr : Peer
deriving DecidableEq

/-- The response of the advice to a request that it refuses. -/
structure TooManyRequests where
  status : Nat := 429
  body : Json := Json.ofMembers [("error", .string "rate limit exceeded")]
  retryAfter : String

/-- The paths that the limiter does not see. -/
def exempt (path : String) : Bool := path == "/health" || path == "/ready" || path == "/metrics"

/-- The sync advice: a response, or nothing when the request goes on. -/
def syncAdvice (rateLimiter : RateLimiter) (rateLimitWindowSeconds now : Nat)
    (request : AdvisedRequest) : Option TooManyRequests × RateLimiter :=
  if exempt request.path then (none, rateLimiter)
  else
    match rateLimiter.allow now request.peerAddr.toIpPort with
    | (true, after) => (none, after)
    | (false, after) => (some { retryAfter := toString rateLimitWindowSeconds }, after)

/-- Two peers with one key are one peer. -/
theorem Peer.toIpPort_injective {p q : Peer} (h : p.toIpPort = q.toIpPort) : p = q := by
  have hchars := congrArg String.toList h
  simp only [toIpPort, String.toList_append, toList_toString, List.append_assoc] at hchars
  obtain ⟨hip, hport⟩ := append_cons_toDigits_inj (c := ':') (by decide) hchars
  have haddress : p.ip = q.ip := String.toList_inj.1 hip
  cases p
  cases q
  subst haddress
  subst hport
  rfl

/-! ## One request after another -/

/-- The limiter, the clock and what was let through on the paths that count. -/
structure Gateway where
  limiter : RateLimiter
  clock : Nat := 0
  /-- The peers and the times, in order.  Nothing reads them. -/
  passed : List (Peer × Nat) := []

/-- The state after a request. -/
def Gateway.handled (windowSeconds : Nat) (s : Gateway) (request : AdvisedRequest) (now : Nat) :
    Gateway where
  limiter := (syncAdvice s.limiter windowSeconds now request).2
  clock := now
  passed :=
    if (syncAdvice s.limiter windowSeconds now request).1.isNone && !exempt request.path then
      s.passed ++ [(request.peerAddr, now)]
    else s.passed

/-- The requests to a server with a limit, a window in seconds and a clock with so
many ticks in a second.  A request comes with the time at which it is handled. -/
def gateway (limit windowSeconds second : Nat) : Machine Gateway (AdvisedRequest × Nat) where
  init := { limiter := { limit := limit, window := windowSeconds * second } }
  next s a := if s.clock ≤ a.2 then some (s.handled windowSeconds a.1 a.2) else none

namespace Gateway

/-- The times at which requests of an address were let through. -/
def passedBy (s : Gateway) (ip : String) : List Nat :=
  (s.passed.filter (·.1.ip = ip)).map Prod.snd

/-- No window holds more requests of an address than the limit. -/
def PerClient (s : Gateway) : Prop :=
  ∀ ip, Bounded s.limiter.limit s.limiter.window (s.passedBy ip)

/-- A request that counts, while one of the same address on another port is still
in the window. -/
def OtherConnection (s : Gateway) (a : AdvisedRequest × Nat) : Prop :=
  exempt a.1.path = false ∧
    ∃ e ∈ s.passed, e.1.ip = a.1.peerAddr.ip ∧ e.1.port ≠ a.1.peerAddr.port ∧
      a.2 < e.2 + s.limiter.window

instance (s : Gateway) (a : AdvisedRequest × Nat) : Decidable (s.OtherConnection a) :=
  inferInstanceAs (Decidable (_ ∧ _))

/-- The times at which requests of a peer were let through. -/
def passedFrom (s : Gateway) (p : Peer) : List Nat :=
  (s.passed.filter (·.1 = p)).map Prod.snd

/-- What a request does: it is exempt, it is refused, or it is let through. -/
theorem handled_cases {s : Gateway} (hlimit : 0 < s.limiter.limit) (windowSeconds : Nat)
    (request : AdvisedRequest) (now : Nat) :
    (exempt request.path = true ∧
        s.handled windowSeconds request now = { s with clock := now }) ∨
      (exempt request.path = false ∧
        s.limiter.limit ≤ (s.limiter.remaining now request.peerAddr.toIpPort).length ∧
        s.handled windowSeconds request now =
          { s with
            limiter := s.limiter.put request.peerAddr.toIpPort
              (s.limiter.remaining now request.peerAddr.toIpPort)
            clock := now }) ∨
      (exempt request.path = false ∧
        (s.limiter.remaining now request.peerAddr.toIpPort).length < s.limiter.limit ∧
        s.handled windowSeconds request now =
          { limiter := s.limiter.put request.peerAddr.toIpPort
              (s.limiter.remaining now request.peerAddr.toIpPort ++ [now])
            clock := now
            passed := s.passed ++ [(request.peerAddr, now)] }) := by
  unfold handled syncAdvice
  cases hexempt : exempt request.path with
  | true => exact Or.inl ⟨rfl, by simp⟩
  | false =>
    refine Or.inr ?_
    rcases RateLimiter.allow_cases hlimit now request.peerAddr.toIpPort with
      ⟨hfull, heq⟩ | ⟨hroom, heq⟩
    · exact Or.inl ⟨rfl, hfull, by simp [heq]⟩
    · exact Or.inr ⟨rfl, hroom, by simp [heq]⟩

theorem passedFrom_concat_self (s : Gateway) (p : Peer) (now : Nat) (limiter : RateLimiter) :
    passedFrom { limiter := limiter, clock := now, passed := s.passed ++ [(p, now)] } p =
      s.passedFrom p ++ [now] := by
  simp [passedFrom]

theorem passedFrom_concat_of_ne (s : Gateway) {p q : Peer} (hne : q ≠ p) (now : Nat)
    (limiter : RateLimiter) :
    passedFrom { limiter := limiter, clock := now, passed := s.passed ++ [(p, now)] } q =
      s.passedFrom q := by
  simp [passedFrom, hne.symm]

/-! ## The queues of the peers -/

/-- The queue of every peer is what was let through for it, besides times that
the window has left behind. -/
structure Tracked (limit window : Nat) (s : Gateway) : Prop where
  limit : s.limiter.limit = limit
  window : s.limiter.window = window
  past : ∀ e ∈ s.passed, e.2 ≤ s.clock
  sorted : s.passed.Pairwise fun e e' => e.2 ≤ e'.2
  queue : ∀ p : Peer, ∃ gone, s.passedFrom p = gone ++ s.limiter.requests p.toIpPort ∧
    ∀ r ∈ gone, r + s.limiter.window ≤ s.clock

variable {limit windowSeconds second : Nat}

/-- At the time of a request the rest of the queue is preceded only by times that the
window has left behind. -/
theorem Tracked.remaining {window : Nat} {s : Gateway} (h : Tracked limit window s) {now : Nat}
    (hclock : s.clock ≤ now) (p : Peer) :
    ∃ gone, s.passedFrom p = gone ++ s.limiter.remaining now p.toIpPort ∧
      ∀ r ∈ gone, r + s.limiter.window ≤ now := by
  obtain ⟨gone, hqueue, hgone⟩ := h.queue p
  obtain ⟨front, hsplit, hfront⟩ :=
    expire_split s.limiter.window now (s.limiter.requests p.toIpPort)
  refine ⟨gone ++ front, ?_, ?_⟩
  · rw [hqueue, List.append_assoc]
    exact congrArg (gone ++ ·) hsplit
  · intro r hr
    rcases List.mem_append.1 hr with hold | hnew
    · exact (hgone r hold).trans hclock
    · exact hfront r hnew

theorem Tracked.handled {window : Nat} (hlimit : 0 < limit) {s : Gateway}
    (h : Tracked limit window s) (request : AdvisedRequest) {now : Nat}
    (hclock : s.clock ≤ now) : Tracked limit window (s.handled windowSeconds request now) := by
  have hpos : 0 < s.limiter.limit := by rw [h.limit]; exact hlimit
  have hpast : ∀ e ∈ s.passed, e.2 ≤ now := fun e he => (h.past e he).trans hclock
  -- A peer with another key keeps its queue and what was let through for it.
  have hother : ∀ p : Peer, ∃ gone,
      s.passedFrom p = gone ++ s.limiter.requests p.toIpPort ∧
        ∀ r ∈ gone, r + s.limiter.window ≤ now := by
    intro p
    obtain ⟨gone, hqueue, hgone⟩ := h.queue p
    exact ⟨gone, hqueue, fun r hr => (hgone r hr).trans hclock⟩
  rcases handled_cases hpos windowSeconds request now with
    ⟨_, heq⟩ | ⟨_, _, heq⟩ | ⟨_, _, heq⟩
  · rw [heq]
    exact ⟨h.limit, h.window, hpast, h.sorted, hother⟩
  · rw [heq]
    refine ⟨h.limit, h.window, hpast, h.sorted, fun p => ?_⟩
    by_cases hpeer : p = request.peerAddr
    · subst hpeer
      obtain ⟨gone, hqueue, hgone⟩ := h.remaining hclock request.peerAddr
      exact ⟨gone, by rw [RateLimiter.put_requests_self]; exact hqueue, hgone⟩
    · obtain ⟨gone, hqueue, hgone⟩ := hother p
      refine ⟨gone, ?_, hgone⟩
      rw [RateLimiter.put_requests_of_ne _ fun hkey => hpeer (Peer.toIpPort_injective hkey)]
      exact hqueue
  · rw [heq]
    refine ⟨h.limit, h.window, ?_, ?_, fun p => ?_⟩
    · intro e he
      rcases List.mem_append.1 he with hold | hnew
      · exact hpast e hold
      · rw [List.mem_singleton.1 hnew]
    · refine List.pairwise_append.2 ⟨h.sorted, List.pairwise_singleton _ _, ?_⟩
      intro e he e' he'
      rw [List.mem_singleton.1 he']
      exact hpast e he
    · by_cases hpeer : p = request.peerAddr
      · subst hpeer
        obtain ⟨gone, hqueue, hgone⟩ := h.remaining hclock request.peerAddr
        refine ⟨gone, ?_, hgone⟩
        rw [RateLimiter.put_requests_self, passedFrom_concat_self, hqueue, List.append_assoc]
      · obtain ⟨gone, hqueue, hgone⟩ := hother p
        refine ⟨gone, ?_, hgone⟩
        rw [RateLimiter.put_requests_of_ne _ fun hkey => hpeer (Peer.toIpPort_injective hkey),
          passedFrom_concat_of_ne _ hpeer]
        exact hqueue

/-- A step handles a request. -/
theorem next_handled {s t : Gateway} {a : AdvisedRequest × Nat}
    (h : (gateway limit windowSeconds second).next s a = some t) :
    s.clock ≤ a.2 ∧ t = s.handled windowSeconds a.1 a.2 := by
  simp only [gateway, Option.ite_none_right_eq_some, Option.some.injEq] at h
  exact ⟨h.1, h.2.symm⟩

theorem tracked_of_reachable (hlimit : 0 < limit) {s : Gateway}
    (h : (gateway limit windowSeconds second).Reachable s) :
    Tracked limit (windowSeconds * second) s := by
  refine Machine.ReachableVia.invariant (P := Tracked limit (windowSeconds * second)) ?_ ?_ h
  · exact ⟨rfl, rfl, by simp [gateway], List.Pairwise.nil, fun _ => ⟨[], rfl, by simp⟩⟩
  · intro s a t _ hs hnext _
    obtain ⟨hclock, rfl⟩ := next_handled hnext
    exact hs.handled hlimit a.1 hclock

/-! ## One connection at a time -/

theorem countP_passedBy (s : Gateway) (ip : String) (near : Nat → Bool) :
    (s.passedBy ip).countP near = s.passed.countP fun e => near e.2 && decide (e.1.ip = ip) := by
  rw [passedBy, List.countP_map, List.countP_filter]
  rfl

theorem countP_passedFrom (s : Gateway) (p : Peer) (near : Nat → Bool) :
    (s.passedFrom p).countP near = s.passed.countP fun e => near e.2 && decide (e.1 = p) := by
  rw [passedFrom, List.countP_map, List.countP_filter]
  rfl

/-- Without another connection in the window, everything of the address that is near
the time of a request came from its own port. -/
theorem countP_near_passedBy_le {s : Gateway} {request : AdvisedRequest} {now : Nat}
    (hcounts : exempt request.path = false) (halone : ¬ s.OtherConnection (request, now)) :
    (s.passedBy request.peerAddr.ip).countP (Near s.limiter.window now ·) ≤
      (s.passedFrom request.peerAddr).countP (Near s.limiter.window now ·) := by
  rw [countP_passedBy, countP_passedFrom]
  refine List.countP_mono_left fun e he hnear => ?_
  simp only [Bool.and_eq_true, decide_eq_true_eq] at hnear ⊢
  refine ⟨hnear.1, ?_⟩
  by_contra hpeer
  have hport : e.1.port ≠ request.peerAddr.port := by
    intro hport
    apply hpeer
    cases hcase : e.1
    cases hcase' : request.peerAddr
    simp_all
  exact halone ⟨hcounts, e, he, hnear.2, hport, hnear.1.1⟩

theorem passedBy_concat_self (s : Gateway) (p : Peer) (now : Nat) (limiter : RateLimiter) :
    passedBy { limiter := limiter, clock := now, passed := s.passed ++ [(p, now)] } p.ip =
      s.passedBy p.ip ++ [now] := by
  simp [passedBy]

theorem passedBy_concat_of_ne (s : Gateway) {p : Peer} {ip : String} (hne : ip ≠ p.ip)
    (now : Nat) (limiter : RateLimiter) :
    passedBy { limiter := limiter, clock := now, passed := s.passed ++ [(p, now)] } ip =
      s.passedBy ip := by
  simp [passedBy, hne.symm]

/-- A request without another connection in the window keeps the bound. -/
theorem PerClient.handled (hlimit : 0 < limit) {s : Gateway} (h : s.PerClient)
    (htracked : Tracked limit (windowSeconds * second) s) (request : AdvisedRequest) {now : Nat}
    (hclock : s.clock ≤ now) (halone : ¬ s.OtherConnection (request, now)) :
    (s.handled windowSeconds request now).PerClient := by
  have hpos : 0 < s.limiter.limit := by rw [htracked.limit]; exact hlimit
  rcases handled_cases hpos windowSeconds request now with
    ⟨_, heq⟩ | ⟨_, _, heq⟩ | ⟨hcounts, hroom, heq⟩
  · rw [heq]
    exact h
  · rw [heq]
    exact h
  · rw [heq]
    intro ip
    by_cases hip : ip = request.peerAddr.ip
    · subst hip
      rw [passedBy_concat_self]
      refine (h request.peerAddr.ip).concat ?_
      obtain ⟨gone, hqueue, hgone⟩ := htracked.remaining hclock request.peerAddr
      calc (s.passedBy request.peerAddr.ip).countP (Near s.limiter.window now ·)
          ≤ (s.passedFrom request.peerAddr).countP (Near s.limiter.window now ·) :=
            countP_near_passedBy_le hcounts halone
        _ ≤ (s.limiter.remaining now request.peerAddr.toIpPort).length := by
            rw [hqueue]
            exact countP_near_le fun r hr => not_near_of_add_le (hgone r hr)
        _ < s.limiter.limit := hroom
    · rw [passedBy_concat_of_ne _ hip]
      exact h ip

theorem perClient_of_reachableVia (hlimit : 0 < limit) {s : Gateway}
    (h : (gateway limit windowSeconds second).ReachableVia (fun s a => ¬ s.OtherConnection a) s) :
    s.PerClient := by
  refine Machine.ReachableVia.invariant (P := PerClient) ?_ ?_ h
  · exact fun _ => bounded_nil _ _
  · intro s a t hreach hs hnext hok
    obtain ⟨hclock, rfl⟩ := next_handled hnext
    exact hs.handled hlimit (tracked_of_reachable hlimit hreach.reachable) a.1 hclock hok

/-! ## Two connections at a time -/

/-- One more request at the same time fills the window of its own peer. -/
theorem load_passedFrom_handled (hlimit : 0 < limit) {s : Gateway}
    (h : Tracked limit (windowSeconds * second) s) {request : AdvisedRequest} {now : Nat}
    (hclock : s.clock ≤ now) (hcounts : exempt request.path = false)
    (hwindow : 0 < s.limiter.window) :
    min limit (load s.limiter.window now (s.passedFrom request.peerAddr) + 1) ≤
      load s.limiter.window now
        ((s.handled windowSeconds request now).passedFrom request.peerAddr) := by
  have hpos : 0 < s.limiter.limit := by rw [h.limit]; exact hlimit
  rcases handled_cases hpos windowSeconds request now with
    ⟨hexempt, _⟩ | ⟨_, hfull, heq⟩ | ⟨_, _, heq⟩
  · rw [hexempt] at hcounts
    cases hcounts
  · -- The queue is full, and all of it is in the window.
    rw [heq]
    refine le_trans (min_le_left _ _) ?_
    rw [← h.limit]
    refine hfull.trans ?_
    obtain ⟨gone, hqueue, _⟩ := h.remaining hclock request.peerAddr
    have hfrom : (s.passedFrom request.peerAddr).Pairwise (· ≤ ·) :=
      List.pairwise_map.2 (h.sorted.filter _)
    have hsub : (s.limiter.requests request.peerAddr.toIpPort).Sublist
        (s.passedFrom request.peerAddr) := by
      obtain ⟨before, hbefore, _⟩ := h.queue request.peerAddr
      rw [hbefore]
      exact List.sublist_append_right _ _
    have hpast : ∀ r ∈ s.limiter.requests request.peerAddr.toIpPort, r ≤ now := by
      intro r hr
      obtain ⟨e, he, rfl⟩ := List.mem_map.1 (hsub.subset hr)
      exact (h.past e (List.mem_of_mem_filter he)).trans hclock
    calc (s.limiter.remaining now request.peerAddr.toIpPort).length
        = load s.limiter.window now (s.limiter.remaining now request.peerAddr.toIpPort) :=
          (load_expire (hfrom.sublist hsub) hpast).symm
      _ ≤ load s.limiter.window now (s.passedFrom request.peerAddr) := by
          rw [hqueue, load_append]
          exact Nat.le_add_left _ _
  · rw [heq, passedFrom_concat_self, load_append, load_singleton,
      if_pos (show Within s.limiter.window now now from ⟨le_rfl, by omega⟩)]
    exact min_le_right _ _

/-- A request leaves what was let through before it. -/
theorem passed_prefix_handled (s : Gateway) (request : AdvisedRequest) (now : Nat) :
    s.passed <+: (s.handled windowSeconds request now).passed := by
  simp only [handled]
  split_ifs
  · exact List.prefix_append _ _
  · exact List.prefix_rfl

/-- As many requests at one time as the limit says fill the window of their peer. -/
theorem exists_crowded (hlimit : 0 < limit) {request : AdvisedRequest} {now : Nat}
    (hcounts : exempt request.path = false) (hwindow : 0 < windowSeconds * second) (k : Nat)
    {s : Gateway} (h : (gateway limit windowSeconds second).Reachable s)
    (hclock : s.clock ≤ now) :
    ∃ t, (gateway limit windowSeconds second).runFrom s (List.replicate k (request, now)) =
        some t ∧ s.passed <+: t.passed ∧
      min limit (load (windowSeconds * second) now (s.passedFrom request.peerAddr) + k) ≤
        load (windowSeconds * second) now (t.passedFrom request.peerAddr) := by
  induction k generalizing s with
  | zero => exact ⟨s, rfl, List.prefix_rfl, by omega⟩
  | succ k ih =>
    have htracked := tracked_of_reachable hlimit h
    have hnext : (gateway limit windowSeconds second).next s (request, now) =
        some (s.handled windowSeconds request now) := if_pos hclock
    have hone := load_passedFrom_handled hlimit htracked hclock hcounts
      (by rw [htracked.window]; exact hwindow)
    rw [htracked.window] at hone
    obtain ⟨t, hrun, hpassed, hload⟩ := ih (h.next hnext) le_rfl
    refine ⟨t, ?_, (s.passed_prefix_handled request now).trans hpassed, by omega⟩
    rw [List.replicate_succ, Machine.runFrom_cons_of_next _ hnext]
    exact hrun

/-- Another connection of the address in the window leaves the peer all of its own limit. -/
theorem exceeded_of_otherConnection (hlimit : 0 < limit) {s : Gateway}
    {a : AdvisedRequest × Nat} (h : (gateway limit windowSeconds second).Reachable s)
    (hclock : s.clock ≤ a.2) (hother : s.OtherConnection a) :
    ∃ t, (gateway limit windowSeconds second).runFrom s (List.replicate limit a) = some t ∧
      ¬ t.PerClient := by
  obtain ⟨request, now⟩ := a
  obtain ⟨hcounts, e, he, hip, hport, hlive⟩ := hother
  simp only at hcounts hip hport hlive hclock
  have htracked := tracked_of_reachable hlimit h
  have hpast : e.2 ≤ now := (htracked.past e he).trans hclock
  rw [htracked.window] at hlive
  have hwindow : 0 < windowSeconds * second := by omega
  obtain ⟨t, hrun, hpassed, hload⟩ := exists_crowded hlimit hcounts hwindow limit h hclock
  refine ⟨t, hrun, fun hall => ?_⟩
  have htrackedt := tracked_of_reachable hlimit (h.runFrom hrun)
  have hbound := hall request.peerAddr.ip now
  rw [htrackedt.limit, htrackedt.window] at hbound
  -- The other request is in the window too, and it is not one of the peer's.
  have hmore : load (windowSeconds * second) now (t.passedFrom request.peerAddr) <
      load (windowSeconds * second) now (t.passedBy request.peerAddr.ip) := by
    rw [load, load, countP_passedFrom, countP_passedBy]
    refine countP_lt_countP (fun e' _ hfrom => ?_) (hpassed.subset he) ?_ ?_
    · simp only [Bool.and_eq_true, decide_eq_true_eq] at hfrom ⊢
      exact ⟨hfrom.1, by rw [hfrom.2]⟩
    · simp only [Bool.and_eq_true, decide_eq_true_eq]
      exact ⟨⟨hpast, hlive⟩, hip⟩
    · have hpeer : e.1 ≠ request.peerAddr := fun heq => hport (by rw [heq])
      simp [hpeer]
  omega

/-- The limit holds for every address in the runs in which no request finds another
connection of its address in the window, and every request that does can be followed
by requests that exceed the limit. -/
theorem perClient_via (limit windowSeconds second : Nat) (hlimit : 0 < limit) :
    (∀ s, (gateway limit windowSeconds second).ReachableVia (fun s a => ¬ s.OtherConnection a) s →
      s.PerClient) ∧
    ∀ s t a, (gateway limit windowSeconds second).Reachable s →
      (gateway limit windowSeconds second).next s a = some t → s.OtherConnection a →
        ∃ as u, (gateway limit windowSeconds second).runFrom t as = some u ∧ ¬ u.PerClient := by
  refine ⟨fun s h => perClient_of_reachableVia hlimit h, fun s t a h hnext hother => ?_⟩
  obtain ⟨hclock, rfl⟩ := next_handled hnext
  obtain ⟨u, hrun, hexceeded⟩ := exceeded_of_otherConnection hlimit h hclock hother
  obtain ⟨k, rfl⟩ : ∃ k, limit = k + 1 := ⟨limit - 1, by omega⟩
  rw [List.replicate_succ, Machine.runFrom_cons_of_next _ hnext] at hrun
  exact ⟨_, u, hrun, hexceeded⟩

/-- Two requests on one connection and, when they have left the window, one on
another connection. -/
theorem perClient_via_reconnect :
    PerClient
      (((gateway 2 60 1).run
        [(⟨"/api/v1/user", ⟨"10.0.0.7", 50001⟩⟩, 0), (⟨"/api/v1/user", ⟨"10.0.0.7", 50001⟩⟩, 5),
          (⟨"/api/v1/user", ⟨"10.0.0.7", 50002⟩⟩, 65)]).get (by decide)) :=
  (perClient_via 2 60 1 (by decide)).1 _
    (Machine.reachableVia_of_run
      [(⟨"/api/v1/user", ⟨"10.0.0.7", 50001⟩⟩, 0), (⟨"/api/v1/user", ⟨"10.0.0.7", 50001⟩⟩, 5),
        (⟨"/api/v1/user", ⟨"10.0.0.7", 50002⟩⟩, 65)] (Option.some_get _).symm (by decide))

/-- A client with a limit of one sends a request on each of two connections. -/
theorem second_connection_exceeds :
    ¬ ∀ limit windowSeconds second, 0 < limit → ∀ s,
      (gateway limit windowSeconds second).Reachable s → s.PerClient := by
  intro hall
  have hload := hall 1 60 1 (by decide) _
    (Machine.reachable_of_run
      [(⟨"/api/v1/user", ⟨"10.0.0.7", 50001⟩⟩, 0), (⟨"/api/v1/user", ⟨"10.0.0.7", 50002⟩⟩, 1)]
      (Option.some_get (by decide)).symm) "10.0.0.7" 1
  revert hload
  decide

end Gateway

end DrogonStarter.Observability
