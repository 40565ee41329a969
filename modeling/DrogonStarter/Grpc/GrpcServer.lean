import DrogonStarter.Lib.Transition
import Mathlib.Logic.Function.Basic

/-!
# The gRPC server and the thread that waits for it

`GrpcServer::start` builds a server and starts a thread that calls `Wait()` on whatever
`server_` points to when it gets there.  `GrpcServer::stop` shuts the server down, joins the
thread and resets the pointer, and the destructor does the same before it destroys the members.
The owner and the threads run side by side: `grpcServer` is the machine of both.

* A `Fault` is what would be undefined behaviour or the end of the process: a thread that finds
  no server, a server that is destroyed while a thread uses it, and a thread object that is
  assigned or destroyed while it is joinable.
* `Owned` is the invariant, and `owned_next` is the step lemma.
* `sound_of_reachable` is what it says about the states between two calls and after the
  destructor.
* `stop_ends` is the end of every `stop`.
-/

namespace DrogonStarter.Grpc

open Transition

/-- A `grpc::Server`. -/
inductive ServerPhase where
  | serving | shutDown | destroyed
deriving DecidableEq

/-- A thread that `start` made. -/
inductive WaiterPhase where
  /-- It has not read `server_` yet. -/
  | begun
  /-- It is in `Wait()` of a server. -/
  | waiting (server : Nat)
  | finished
deriving DecidableEq

/-- How many steps a thread has left. -/
def WaiterPhase.left : WaiterPhase → Nat
  | .begun => 2
  | .waiting _ => 1
  | .finished => 0

inductive Fault where
  /-- The lambda reads a null `server_`. -/
  | nullServer
  /-- `server_` is reset while a thread is about to read it or in its `Wait()`. -/
  | inUse
  /-- `std::terminate`. -/
  | terminate
deriving DecidableEq

/-- Where the owner is. -/
inductive Point where
  | idle
  /-- In `start`, after `BuildAndStart`, with the port that it selected. -/
  | built (selectedPort : Nat)
  /-- In `stop`, after `Shutdown()`; the destructor may have called it. -/
  | stopping (destructor : Bool)
  /-- In `stop`, after the `join()`. -/
  | joined (destructor : Bool)
  | destroyed
deriving DecidableEq

/-- `class GrpcServer`, the servers and the threads that it has made. -/
structure GrpcServer where
  server : Option Nat := none
  waitThread : Option Nat := none
  serverCount : Nat := 0
  servers : Nat → ServerPhase := fun _ => .destroyed
  threadCount : Nat := 0
  threads : Nat → WaiterPhase := fun _ => .finished
  point : Point := .idle
  /-- What the last `start` returned, unless it threw. -/
  returned : Option Bool := none
  fault : Option Fault := none

inductive Action where
  /-- `start`, up to `BuildAndStart`, which returns null or a server with a selected port. -/
  | start (build : Option Nat)
  /-- The rest of `start`.  The constructor of `std::thread` may throw. -/
  | launch (created : Bool)
  /-- `stop`, or the destructor, up to `Shutdown()`. -/
  | stop (destructor : Bool)
  /-- `join()`, if the thread is joinable. -/
  | join
  /-- The rest of `stop`, and of the destructor. -/
  | reset
  /-- A thread reads `server_` and calls `Wait()`. -/
  | read (thread : Nat)
  /-- `Wait()` returns, which it does after `Shutdown()`. -/
  | wake (thread : Nat)
deriving DecidableEq

namespace GrpcServer

/-- Some thread has not finished. -/
def threadRuns (s : GrpcServer) : Bool :=
  (List.range s.threadCount).any fun thread => decide (s.threads thread ≠ .finished)

/-- `server_.reset()`. -/
def resetServer (s : GrpcServer) : GrpcServer :=
  match s.server with
  | none => s
  | some server =>
    { s with
      server := none
      servers := Function.update s.servers server .destroyed
      fault := if s.threadRuns then some .inUse else s.fault }

/-- `start`, up to `BuildAndStart`. -/
def start (s : GrpcServer) (build : Option Nat) : GrpcServer :=
  if s.server.isSome then { s with returned := some false }
  else
    match build with
    | none => { s with returned := some false }
    | some selectedPort =>
      { s with
        server := some s.serverCount
        serverCount := s.serverCount + 1
        servers := Function.update s.servers s.serverCount .serving
        point := .built selectedPort }

/-- The rest of `start`. -/
def launch (s : GrpcServer) (selectedPort : Nat) (created : Bool) : GrpcServer :=
  if selectedPort = 0 then { s.resetServer with point := .idle, returned := some false }
  else if created then
    { s with
      waitThread := some s.threadCount
      threadCount := s.threadCount + 1
      threads := Function.update s.threads s.threadCount .begun
      point := .idle
      returned := some true
      fault := if s.waitThread.isSome then some .terminate else s.fault }
  else { s with point := .idle, returned := none }

/-- `stop`, up to `Shutdown()`. -/
def stop (s : GrpcServer) (destructor : Bool) : GrpcServer :=
  match s.server with
  | none => { s with point := .stopping destructor }
  | some server =>
    { s with
      servers := Function.update s.servers server .shutDown
      point := .stopping destructor }

/-- The members are destroyed after `stop`. -/
def destroyMembers (s : GrpcServer) : GrpcServer :=
  { s with
    point := .destroyed
    fault := if s.waitThread.isSome then some .terminate else s.fault }

/-- One step of the owner or of a thread.  A step that has to wait is not enabled. -/
def next (s : GrpcServer) : Action → Option GrpcServer
  | .start build => if s.point = .idle then some (s.start build) else none
  | .launch created =>
    match s.point with
    | .built selectedPort => some (s.launch selectedPort created)
    | _ => none
  | .stop destructor => if s.point = .idle then some (s.stop destructor) else none
  | .join =>
    match s.point, s.waitThread with
    | .stopping destructor, none => some { s with point := .joined destructor }
    | .stopping destructor, some thread =>
      if s.threads thread = .finished then
        some { s with waitThread := none, point := .joined destructor }
      else none
    | _, _ => none
  | .reset =>
    match s.point with
    | .joined true => some s.resetServer.destroyMembers
    | .joined false => some { s.resetServer with point := .idle }
    | _ => none
  | .read thread =>
    if s.threads thread = .begun then
      match s.server with
      | none => some { s with fault := some .nullServer }
      | some server => some { s with threads := Function.update s.threads thread (.waiting server) }
    else none
  | .wake thread =>
    match s.threads thread with
    | .waiting server =>
      if s.servers server ≠ .serving then
        some { s with threads := Function.update s.threads thread .finished }
      else none
    | _ => none

end GrpcServer

/-- The owner and the threads. -/
def grpcServer : Machine GrpcServer Action where
  init := {}
  next := GrpcServer.next

namespace GrpcServer

/-! ## What a step does -/

section inversion

variable {s t : GrpcServer}

theorem next_start {build : Option Nat} (h : s.next (.start build) = some t) :
    s.point = .idle ∧ t = s.start build := by
  simp only [next] at h
  split at h <;> cases h
  exact ⟨‹_›, rfl⟩

theorem next_launch {created : Bool} (h : s.next (.launch created) = some t) :
    ∃ selectedPort, s.point = .built selectedPort ∧ t = s.launch selectedPort created := by
  simp only [next] at h
  split at h <;> cases h
  exact ⟨_, ‹_›, rfl⟩

theorem next_stop {destructor : Bool} (h : s.next (.stop destructor) = some t) :
    s.point = .idle ∧ t = s.stop destructor := by
  simp only [next] at h
  split at h <;> cases h
  exact ⟨‹_›, rfl⟩

/-- The owner joins a thread that has finished, or there is none. -/
theorem next_join (h : s.next .join = some t) :
    ∃ destructor, s.point = .stopping destructor ∧
      (∀ thread, s.waitThread = some thread → s.threads thread = .finished) ∧
      t = { s with waitThread := none, point := .joined destructor } := by
  simp only [next] at h
  split at h
  case h_1 destructor hpoint hthread =>
    cases h
    refine ⟨destructor, hpoint, ?_, ?_⟩
    · intro thread hsome
      cases hthread.symm.trans hsome
    · rw [← hthread]
  case h_2 destructor thread hpoint hthread =>
    split at h <;> cases h
    case isTrue hfinished =>
      refine ⟨destructor, hpoint, fun other hother => ?_, rfl⟩
      cases hthread.symm.trans hother
      exact hfinished
  case h_3 => cases h

theorem next_reset (h : s.next .reset = some t) :
    ∃ destructor, s.point = .joined destructor ∧
      t = if destructor then s.resetServer.destroyMembers
        else { s.resetServer with point := .idle } := by
  simp only [next] at h
  split at h <;> cases h
  · exact ⟨true, ‹_›, rfl⟩
  · exact ⟨false, ‹_›, rfl⟩

theorem next_read {thread : Nat} (h : s.next (.read thread) = some t) :
    s.threads thread = .begun ∧
      (s.server = none ∧ t = { s with fault := some .nullServer } ∨
        ∃ server, s.server = some server ∧
          t = { s with threads := Function.update s.threads thread (.waiting server) }) := by
  simp only [next] at h
  split at h
  case isFalse => cases h
  case isTrue hbegun =>
    refine ⟨hbegun, ?_⟩
    cases hserver : s.server with
    | none =>
      rw [hserver] at h
      cases h
      exact Or.inl ⟨rfl, rfl⟩
    | some server =>
      rw [hserver] at h
      cases h
      exact Or.inr ⟨server, rfl, rfl⟩

theorem next_wake {thread : Nat} (h : s.next (.wake thread) = some t) :
    ∃ server, s.threads thread = .waiting server ∧ s.servers server ≠ .serving ∧
      t = { s with threads := Function.update s.threads thread .finished } := by
  simp only [next] at h
  split at h
  case h_2 => cases h
  case h_1 server hwaiting =>
    split at h <;> cases h
    exact ⟨server, hwaiting, ‹_›, rfl⟩

end inversion

/-! ## The invariant -/

/-- What holds at each point of the owner. -/
def AtPoint (s : GrpcServer) : Prop :=
  match s.point with
  | .idle => ∀ i, s.server = some i → s.servers i = .serving
  | .built _ =>
    s.waitThread = none ∧ s.server.isSome ∧ ∀ i, s.server = some i → s.servers i = .serving
  | .stopping _ => ∀ i, s.server = some i → s.servers i = .shutDown
  | .joined _ => s.waitThread = none
  | .destroyed => s.server = none ∧ s.waitThread = none

/-- The only server that exists is the one in `server_`, the only thread that runs is the one in
`waitThread_`, and there is no such thread without a server. -/
structure Owned (s : GrpcServer) : Prop where
  fault : s.fault = none
  alive : ∀ i, s.servers i ≠ .destroyed ↔ s.server = some i
  running : ∀ thread, s.threads thread ≠ .finished → s.waitThread = some thread
  waiting : ∀ thread i, s.threads thread = .waiting i → s.server = some i
  joinable : s.waitThread.isSome → s.server.isSome
  point : s.AtPoint

theorem owned_init : Owned {} :=
  ⟨rfl, by simp, by simp, by simp, by simp, by simp [AtPoint]⟩

section reset

variable {s : GrpcServer}

/-- Without a thread object no thread runs. -/
theorem Owned.finished (h : s.Owned) (hthread : s.waitThread = none) (thread : Nat) :
    s.threads thread = .finished := by
  by_contra hruns
  have hsome := h.running thread hruns
  rw [hthread] at hsome
  cases hsome

theorem Owned.threadRuns (h : s.Owned) (hthread : s.waitThread = none) : s.threadRuns = false := by
  unfold GrpcServer.threadRuns
  rw [List.any_eq_false]
  intro thread _
  simp [h.finished hthread thread]

/-- What `server_.reset()` leaves, once the thread is joined. -/
theorem Owned.resetServer (h : s.Owned) (hthread : s.waitThread = none) :
    s.resetServer.server = none ∧ s.resetServer.waitThread = none ∧
      s.resetServer.fault = none ∧ (∀ i, s.resetServer.servers i = .destroyed) ∧
      ∀ thread, s.resetServer.threads thread = .finished := by
  have hdestroyed : ∀ i, s.server ≠ some i → s.servers i = .destroyed := by
    intro i hi
    by_contra halive
    exact hi ((h.alive i).1 halive)
  unfold GrpcServer.resetServer
  cases hserver : s.server with
  | none =>
    exact ⟨hserver, hthread, h.fault, fun i => hdestroyed i (by simp [hserver]),
      h.finished hthread⟩
  | some server =>
    refine ⟨rfl, hthread, ?_, fun i => ?_, h.finished hthread⟩
    · simp only [h.threadRuns hthread, Bool.false_eq_true, if_false]
      exact h.fault
    · by_cases hi : i = server
      · rw [hi]
        exact Function.update_self ..
      · refine (Function.update_of_ne hi ..).trans (hdestroyed i ?_)
        rw [hserver]
        exact fun heq => hi (Option.some.inj heq).symm

/-- A state with no server and no thread. -/
theorem owned_of_none (hserver : s.server = none) (hthread : s.waitThread = none)
    (hfault : s.fault = none) (hservers : ∀ i, s.servers i = .destroyed)
    (hthreads : ∀ thread, s.threads thread = .finished) (hpoint : s.AtPoint) : s.Owned where
  fault := hfault
  alive i := by simp [hserver, hservers]
  running thread hruns := absurd (hthreads thread) hruns
  waiting thread i hwaiting := by
    rw [hthreads] at hwaiting
    cases hwaiting
  joinable hsome := by simp [hthread] at hsome
  point := hpoint

end reset

/-! ## The steps -/

section steps

variable {s t : GrpcServer}

theorem Owned.start (h : s.Owned) (hpoint : s.point = .idle) (build : Option Nat) :
    (s.start build).Owned := by
  have hidle := h.point
  unfold AtPoint at hidle
  rw [hpoint] at hidle
  unfold GrpcServer.start
  split
  case isTrue =>
    refine ⟨h.fault, h.alive, h.running, h.waiting, h.joinable, ?_⟩
    unfold AtPoint
    rw [hpoint]
    exact hidle
  case isFalse hnone =>
    have hserver : s.server = none := by simpa using hnone
    have hthread : s.waitThread = none := by
      by_contra hsome
      exact hnone (h.joinable (Option.isSome_iff_ne_none.2 hsome))
    have hdestroyed : ∀ i, s.servers i = .destroyed := by
      intro i
      by_contra halive
      have hsome := (h.alive i).1 halive
      rw [hserver] at hsome
      cases hsome
    cases build with
    | none =>
      exact owned_of_none hserver hthread h.fault hdestroyed (h.finished hthread)
        (by unfold AtPoint; rw [hpoint]; exact hidle)
    | some selectedPort =>
      refine ⟨h.fault, fun i => ?_, h.running, ?_, fun _ => rfl, hthread, rfl,
        fun i hi => ?_⟩
      · by_cases hi : i = s.serverCount
        · simp [hi]
        · have hne : ¬ s.serverCount = i := fun heq => hi heq.symm
          simp [Function.update_of_ne hi, hdestroyed, hne]
      · intro thread i hwaiting
        have hfinished := h.finished hthread thread
        exact absurd (hfinished.symm.trans hwaiting) (by simp)
      · cases hi
        exact Function.update_self ..

theorem Owned.launch (h : s.Owned) {selectedPort : Nat} (hpoint : s.point = .built selectedPort)
    (created : Bool) : (s.launch selectedPort created).Owned := by
  have hbuilt := h.point
  unfold AtPoint at hbuilt
  rw [hpoint] at hbuilt
  obtain ⟨hthread, hserver, hserving⟩ := hbuilt
  unfold GrpcServer.launch
  split
  case isTrue =>
    obtain ⟨hnone, hnone', hfault, hservers, hthreads⟩ := h.resetServer hthread
    refine owned_of_none hnone hnone' hfault hservers hthreads ?_
    intro i hi
    change s.resetServer.server = some i at hi
    rw [hnone] at hi
    cases hi
  case isFalse =>
    cases created with
    | false =>
      exact ⟨h.fault, h.alive, h.running, h.waiting, h.joinable, hserving⟩
    | true =>
      refine ⟨?_, h.alive, fun thread hruns => ?_, fun thread i hwaiting => ?_,
        fun _ => hserver, hserving⟩
      · simp only [if_true, hthread, Option.isSome_none, Bool.false_eq_true, if_false]
        exact h.fault
      · by_cases hself : thread = s.threadCount
        · rw [hself]
          rfl
        · refine absurd ?_ hruns
          exact (Function.update_of_ne hself ..).trans (h.finished hthread thread)
      · by_cases hself : thread = s.threadCount
        · rw [hself] at hwaiting
          have hbegun : Function.update s.threads s.threadCount .begun s.threadCount =
            .waiting i := hwaiting
          rw [Function.update_self] at hbegun
          cases hbegun
        · have hold : Function.update s.threads s.threadCount .begun thread =
            .waiting i := hwaiting
          rw [Function.update_of_ne hself, h.finished hthread] at hold
          cases hold

theorem stop_of_none (hserver : s.server = none) (destructor : Bool) :
    s.stop destructor = { s with point := .stopping destructor } := by
  unfold GrpcServer.stop
  rw [hserver]

theorem stop_of_some {server : Nat} (hserver : s.server = some server) (destructor : Bool) :
    s.stop destructor =
      { s with
        servers := Function.update s.servers server .shutDown
        point := .stopping destructor } := by
  unfold GrpcServer.stop
  rw [hserver]

theorem Owned.stop (h : s.Owned) (destructor : Bool) : (s.stop destructor).Owned := by
  cases hserver : s.server with
  | none =>
    rw [stop_of_none hserver]
    refine ⟨h.fault, h.alive, h.running, h.waiting, h.joinable, fun i hi => ?_⟩
    change s.server = some i at hi
    rw [hserver] at hi
    cases hi
  | some server =>
    rw [stop_of_some hserver]
    refine ⟨h.fault, fun i => ?_, h.running, h.waiting, h.joinable, fun i hi => ?_⟩
    · by_cases hi : i = server
      · simp [hi, hserver]
      · have halive := h.alive i
        simpa [Function.update_of_ne hi] using halive
    · change s.server = some i at hi
      rw [hserver] at hi
      cases hi
      exact Function.update_self ..

theorem Owned.join (h : s.Owned) (destructor : Bool)
    (hfinished : ∀ thread, s.waitThread = some thread → s.threads thread = .finished) :
    Owned { s with waitThread := none, point := .joined destructor } where
  fault := h.fault
  alive := h.alive
  running thread hruns := by
    exact absurd (hfinished thread (h.running thread hruns)) hruns
  waiting := h.waiting
  joinable hsome := by simp at hsome
  point := rfl

theorem Owned.reset (h : s.Owned) {destructor : Bool} (hpoint : s.point = .joined destructor) :
    s.resetServer.destroyMembers.Owned ∧ Owned { s.resetServer with point := .idle } := by
  have hthread := h.point
  unfold AtPoint at hthread
  rw [hpoint] at hthread
  obtain ⟨hnone, hnone', hfault, hservers, hthreads⟩ := h.resetServer hthread
  constructor
  · refine owned_of_none hnone hnone' ?_ hservers hthreads ⟨hnone, hnone'⟩
    unfold destroyMembers
    simp only [hnone', Option.isSome_none, Bool.false_eq_true, if_false]
    exact hfault
  · refine owned_of_none hnone hnone' hfault hservers hthreads fun i hi => ?_
    change s.resetServer.server = some i at hi
    rw [hnone] at hi
    cases hi

/-- A thread that is about to read `server_` finds the server that it was made for. -/
theorem Owned.read (h : s.Owned) {thread : Nat} (hbegun : s.threads thread = .begun) :
    ∃ server, s.server = some server ∧
      Owned { s with threads := Function.update s.threads thread (.waiting server) } := by
  have hruns : s.waitThread = some thread := h.running thread (by rw [hbegun]; simp)
  obtain ⟨server, hserver⟩ := Option.isSome_iff_exists.1 (h.joinable (hruns ▸ rfl))
  refine ⟨server, hserver, h.fault, h.alive, fun other hother => ?_, fun other i hother => ?_,
    h.joinable, h.point⟩
  · by_cases hself : other = thread
    · rw [hself]
      exact hruns
    · exact h.running other (by simpa [Function.update_of_ne hself] using hother)
  · by_cases hself : other = thread
    · rw [hself] at hother
      have hwaiting : (WaiterPhase.waiting server) = .waiting i := by simpa using hother
      cases hwaiting
      exact hserver
    · exact h.waiting other i (by simpa [Function.update_of_ne hself] using hother)

theorem Owned.wake (h : s.Owned) (thread : Nat) :
    Owned { s with threads := Function.update s.threads thread .finished } where
  fault := h.fault
  alive := h.alive
  running other hother := by
    by_cases hself : other = thread
    · simp [hself] at hother
    · exact h.running other (by simpa [Function.update_of_ne hself] using hother)
  waiting other i hother := by
    by_cases hself : other = thread
    · simp [hself] at hother
    · exact h.waiting other i (by simpa [Function.update_of_ne hself] using hother)
  joinable := h.joinable
  point := h.point

theorem owned_next {a : Action} (h : s.Owned) (hnext : s.next a = some t) : t.Owned := by
  cases a with
  | start build =>
    obtain ⟨hpoint, rfl⟩ := next_start hnext
    exact h.start hpoint build
  | launch created =>
    obtain ⟨selectedPort, hpoint, rfl⟩ := next_launch hnext
    exact h.launch hpoint created
  | stop destructor =>
    obtain ⟨-, rfl⟩ := next_stop hnext
    exact h.stop destructor
  | join =>
    obtain ⟨destructor, -, hfinished, rfl⟩ := next_join hnext
    exact h.join destructor hfinished
  | reset =>
    obtain ⟨destructor, hpoint, rfl⟩ := next_reset hnext
    cases destructor with
    | true => exact (h.reset hpoint).1
    | false => exact (h.reset hpoint).2
  | read thread =>
    obtain ⟨hbegun, hread⟩ := next_read hnext
    obtain ⟨server, hserver, howned⟩ := h.read hbegun
    rcases hread with ⟨hnone, -⟩ | ⟨other, hother, rfl⟩
    · cases hserver.symm.trans hnone
    · cases hserver.symm.trans hother
      exact howned
  | wake thread =>
    obtain ⟨server, -, -, rfl⟩ := next_wake hnext
    exact h.wake thread


end steps

/-! ## Every run -/

section runs

variable {s t : GrpcServer}

theorem owned_of_reachable (h : grpcServer.Reachable s) : s.Owned := by
  refine h.invariant (P := Owned) owned_init ?_
  intro r a u _ howned hnext _
  exact owned_next howned hnext

/-- Nothing is left of the servers and the threads. -/
def Released (s : GrpcServer) : Prop :=
  s.server = none ∧ s.waitThread = none ∧ (∀ i, s.servers i = .destroyed) ∧
    ∀ thread, s.threads thread = .finished

/-- One server serves, and no thread runs but the one that waits for it. -/
def Serves (s : GrpcServer) : Prop :=
  ∃ server, s.server = some server ∧ s.servers server = .serving ∧
    (∀ other, other ≠ server → s.servers other = .destroyed) ∧
    ∀ thread, s.threads thread ≠ .finished → s.waitThread = some thread

theorem Owned.released (h : s.Owned) (hserver : s.server = none) : s.Released := by
  have hthread : s.waitThread = none := by
    by_contra hsome
    have hboth := h.joinable (Option.isSome_iff_ne_none.2 hsome)
    rw [hserver] at hboth
    cases hboth
  refine ⟨hserver, hthread, fun i => ?_, h.finished hthread⟩
  by_contra halive
  have hsome := (h.alive i).1 halive
  rw [hserver] at hsome
  cases hsome

/-- However the owner's calls and the threads are interleaved, whatever `BuildAndStart` returns
and whether or not threads can be made: nothing goes wrong, between two calls there is one
server that serves or nothing at all, and the destructor leaves nothing. -/
theorem sound_of_reachable (h : grpcServer.Reachable s) :
    s.fault = none ∧ (s.point = .idle → s.Released ∨ s.Serves) ∧
      (s.point = .destroyed → s.Released) := by
  have howned := owned_of_reachable h
  have hpoint := howned.point
  refine ⟨howned.fault, fun hidle => ?_, fun hdestroyed => ?_⟩
  · unfold AtPoint at hpoint
    rw [hidle] at hpoint
    cases hserver : s.server with
    | none => exact Or.inl (howned.released hserver)
    | some server =>
      refine Or.inr ⟨server, hserver, hpoint server hserver, fun other hother => ?_,
        howned.running⟩
      by_contra halive
      have hsome := (howned.alive other).1 halive
      rw [hserver] at hsome
      exact hother (Option.some.inj hsome).symm
  · unfold AtPoint at hpoint
    rw [hdestroyed] at hpoint
    exact howned.released hpoint.1

/-- A server on a port that is taken, one that is stopped before its thread runs, and one that
the destructor stops. -/
def lifetime : List Action :=
  [.start (some 0), .launch true, .start (some 50051), .launch true, .stop false, .read 0,
    .wake 0, .join, .reset, .start (some 50051), .launch true, .read 1, .start (some 50052),
    .stop true, .wake 1, .join, .reset]

theorem sound_of_lifetime :
    ∃ s, grpcServer.run lifetime = some s ∧ s.point = .destroyed ∧ s.fault = none ∧
      s.Released := by
  refine ⟨_, rfl, rfl, ?_⟩
  have hsound := sound_of_reachable (Machine.reachable_of_run lifetime rfl)
  exact ⟨hsound.1, hsound.2.2 rfl⟩

/-! ## The end of a stop -/

/-- The owner is in `stop`. -/
def Stopping (s : GrpcServer) : Prop :=
  (∃ destructor, s.point = .stopping destructor) ∨ ∃ destructor, s.point = .joined destructor

/-- How many steps `stop` and its thread have left. -/
def stepsLeft (s : GrpcServer) : Nat :=
  match s.point with
  | .stopping _ =>
    match s.waitThread with
    | none => 2
    | some thread => 2 + WaiterPhase.left (s.threads thread)
  | .joined _ => 1
  | _ => 0

theorem stepsLeft_le (s : GrpcServer) : s.stepsLeft ≤ 4 := by
  unfold stepsLeft
  split
  · split
    · omega
    · rename_i thread _
      cases s.threads thread <;> simp [WaiterPhase.left]
  · omega
  · omega

/-- The thread that runs is the one in `waitThread_`, so a step of a thread brings the join
nearer. -/
theorem stepsLeft_thread (hrunning : ∀ thread, s.threads thread ≠ .finished →
      s.waitThread = some thread) (hstopping : s.Stopping) (hjoined : ∀ destructor,
      s.point = .joined destructor → s.waitThread = none) {thread : Nat} {phase : WaiterPhase}
    (hlower : phase.left < (s.threads thread).left) :
    stepsLeft { s with threads := Function.update s.threads thread phase } < s.stepsLeft := by
  have hthread : s.waitThread = some thread := by
    refine hrunning thread fun hfinished => ?_
    rw [hfinished] at hlower
    exact absurd hlower (Nat.not_lt_zero _)
  rcases hstopping with ⟨destructor, hpoint⟩ | ⟨destructor, hpoint⟩
  · simp only [stepsLeft, hpoint, hthread, Function.update_self]
    omega
  · rw [hjoined destructor hpoint] at hthread
    cases hthread

theorem Stopping.not_idle (h : s.Stopping) :
    s.point ≠ .idle ∧ ∀ selectedPort, s.point ≠ .built selectedPort := by
  rcases h with ⟨destructor, hpoint⟩ | ⟨destructor, hpoint⟩ <;> simp [hpoint]

/-- Only the reset ends a stop. -/
theorem Stopping.next {a : Action} (h : s.Stopping) (hnext : s.next a = some t) :
    a = .reset ∨ t.Stopping := by
  cases a with
  | start build => exact absurd (next_start hnext).1 h.not_idle.1
  | stop destructor => exact absurd (next_stop hnext).1 h.not_idle.1
  | launch created =>
    obtain ⟨selectedPort, hpoint, -⟩ := next_launch hnext
    exact absurd hpoint (h.not_idle.2 selectedPort)
  | join =>
    obtain ⟨destructor, -, -, rfl⟩ := next_join hnext
    exact Or.inr (Or.inr ⟨destructor, rfl⟩)
  | reset => exact Or.inl rfl
  | read thread =>
    obtain ⟨-, ⟨-, rfl⟩ | ⟨-, -, rfl⟩⟩ := next_read hnext
    · exact Or.inr h
    · exact Or.inr h
  | wake thread =>
    obtain ⟨-, -, -, rfl⟩ := next_wake hnext
    exact Or.inr h

theorem stop_settles : grpcServer.Settles Stopping stepsLeft where
  enabled s hreach hstopping := by
    have howned := owned_of_reachable hreach
    have hatPoint := howned.point
    rcases hstopping with ⟨destructor, hpoint⟩ | ⟨destructor, hpoint⟩
    · unfold AtPoint at hatPoint
      rw [hpoint] at hatPoint
      cases hthread : s.waitThread with
      | none => exact ⟨.join, _, by simp only [grpcServer, next, hpoint, hthread]; rfl⟩
      | some thread =>
        cases hphase : s.threads thread with
        | begun =>
          obtain ⟨server, hserver, -⟩ := howned.read hphase
          exact ⟨.read thread, _, by simp only [grpcServer, next, hphase, hserver]; rfl⟩
        | waiting server =>
          have hshut := hatPoint server (howned.waiting thread server hphase)
          exact ⟨.wake thread, _, by simp only [grpcServer, next, hphase, hshut]; rfl⟩
        | finished =>
          exact ⟨.join, _, by simp only [grpcServer, next, hpoint, hthread, hphase]; rfl⟩
    · cases destructor with
      | true => exact ⟨.reset, _, by simp only [grpcServer, next, hpoint]; rfl⟩
      | false => exact ⟨.reset, _, by simp only [grpcServer, next, hpoint]; rfl⟩
  lowers s a t hreach hstopping hnext := by
    have howned := owned_of_reachable hreach
    have hjoined : ∀ destructor, s.point = .joined destructor → s.waitThread = none := by
      intro destructor hpoint
      have hatPoint := howned.point
      unfold AtPoint at hatPoint
      rw [hpoint] at hatPoint
      exact hatPoint
    cases a with
    | start build => exact absurd (next_start hnext).1 hstopping.not_idle.1
    | stop destructor => exact absurd (next_stop hnext).1 hstopping.not_idle.1
    | launch created =>
      obtain ⟨selectedPort, hpoint, -⟩ := next_launch hnext
      exact absurd hpoint (hstopping.not_idle.2 selectedPort)
    | join =>
      obtain ⟨destructor, hpoint, -, rfl⟩ := next_join hnext
      simp only [stepsLeft, hpoint]
      split <;> omega
    | reset =>
      obtain ⟨destructor, hpoint, rfl⟩ := next_reset hnext
      cases destructor <;> simp [stepsLeft, hpoint, destroyMembers]
    | read thread =>
      obtain ⟨hbegun, hread⟩ := next_read hnext
      obtain ⟨server, hserver, -⟩ := howned.read hbegun
      rcases hread with ⟨hnone, -⟩ | ⟨other, hother, rfl⟩
      · cases hserver.symm.trans hnone
      · exact stepsLeft_thread howned.running hstopping hjoined (by
          rw [hbegun]
          exact Nat.lt_succ_self 1)
    | wake thread =>
      obtain ⟨server, hwaiting, -, rfl⟩ := next_wake hnext
      exact stepsLeft_thread howned.running hstopping hjoined (by
        rw [hwaiting]
        exact Nat.lt_succ_self 0)

/-- A `stop` never blocks for good: some step is always enabled, and however the steps are
scheduled, one of the first four is the last of the stop and leaves nothing. -/
theorem stop_ends (hreach : grpcServer.Reachable s) (hstopping : s.Stopping) :
    (∃ a u, grpcServer.next s a = some u) ∧
      ∀ as t, grpcServer.runFrom s as = some t → 4 ≤ as.length →
        ∃ before rest u, as = before ++ .reset :: rest ∧
          grpcServer.runFrom s (before ++ [.reset]) = some u ∧ u.Released ∧
            (u.point = .idle ∨ u.point = .destroyed) := by
  refine ⟨stop_settles.enabled s hreach hstopping, fun as t hrun hlong => ?_⟩
  obtain ⟨before, a, rest, r, u, hsplit, hbefore, hr, hlast, hu⟩ :=
    stop_settles.exists_leaving hreach hstopping hrun (Nat.le_trans (stepsLeft_le s) hlong)
  have hrunLast : grpcServer.runFrom s (before ++ [a]) = some u := by
    rw [Machine.runFrom_append, hbefore]
    exact Machine.runFrom_cons_of_next [] hlast
  have howned := owned_of_reachable (hreach.runFrom hbefore)
  have hlast' : r.next a = some u := hlast
  have hleft : a = .reset := (hr.next hlast').resolve_right hu
  subst hleft
  refine ⟨before, rest, u, hsplit, hrunLast, ?_, ?_⟩
  · have hreachU := (hreach.runFrom hbefore).next hlast
    obtain ⟨destructor, hpoint, hnextU⟩ := next_reset hlast'
    have hthread := howned.point
    unfold AtPoint at hthread
    rw [hpoint] at hthread
    refine (owned_of_reachable hreachU).released ?_
    have hnone := (howned.resetServer hthread).1
    rw [hnextU]
    cases destructor <;> exact hnone
  · obtain ⟨destructor, -, hnextU⟩ := next_reset hlast'
    rw [hnextU]
    cases destructor
    · exact Or.inl rfl
    · exact Or.inr rfl

/-- The destructor comes before the thread has run at all. -/
theorem stop_ends_early :
    ∃ s, grpcServer.run [.start (some 50051), .launch true, .stop true] = some s ∧
      (∃ a u, grpcServer.next s a = some u) ∧
        ∀ as t, grpcServer.runFrom s as = some t → 4 ≤ as.length →
          ∃ before rest u, as = before ++ .reset :: rest ∧
            grpcServer.runFrom s (before ++ [.reset]) = some u ∧ u.Released ∧
              (u.point = .idle ∨ u.point = .destroyed) :=
  ⟨_, rfl, stop_ends (Machine.reachable_of_run [.start (some 50051), .launch true, .stop true] rfl)
    (Or.inl ⟨true, rfl⟩)⟩

end runs

end GrpcServer

end DrogonStarter.Grpc
