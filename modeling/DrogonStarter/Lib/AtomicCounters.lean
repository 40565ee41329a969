import DrogonStarter.Lib.Tally
import DrogonStarter.Lib.Transition
import Mathlib.Data.List.Nodup
import Mathlib.Logic.Function.Basic
import Mathlib.Order.Nat

/-!
# Counters that many threads share

A counter is an atomic machine word.  A call is a list of instructions, each of which adds to a
counter or loads one, and the instructions of all calls are interleaved in any way.

* `counters` is the machine, for any set of calls and any instructions of each.
* `executed` is how much the instructions that were executed have added to a counter.
  `Reachable.memory_eq` says that the counter is this number, without its overflow.
* `returned` and `begun` count whole calls.  `returned_le_executed` and `executed_le_begun` put
  the counter between the two.
* `loaded_between` is about a call that only begins after a state: what it loads was the value
  of the counter at some time in between.  `exists_counts` says so of all that it loads.
* `runAll` and `loadAll` are for a call that no other thread interrupts, and `runFrom_alone`
  is such a call in the machine.
-/

namespace AtomicCounters

open Transition

universe u v

/-- An instruction on one of the counters. -/
inductive Instruction (κ : Type u) where
  | add (c : κ) (n : Nat)
  | load (c : κ)
deriving DecidableEq

/-- A call with the instructions behind it and before it, and what it has loaded so far. -/
structure Thread (κ : Type u) (γ : Type v) where
  call : γ
  done : List (Instruction κ) := []
  todo : List (Instruction κ)
  loaded : List (κ × UInt64) := []

structure State (κ : Type u) (γ : Type v) where
  memory : κ → UInt64
  threads : List (Thread κ γ)

/-- A call begins, or a thread executes its next instruction. -/
inductive Action (γ : Type v) where
  | begin (call : γ)
  | execute (i : Nat)

section machine

variable {κ : Type u} {γ : Type v} [DecidableEq κ]

def Instruction.run (memory : κ → UInt64) : Instruction κ → κ → UInt64
  | .add c n => Function.update memory c (memory c + UInt64.ofNat n)
  | .load _ => memory

def Instruction.loads (memory : κ → UInt64) : Instruction κ → List (κ × UInt64)
  | .add _ _ => []
  | .load c => [(c, memory c)]

/-- A thread after its next instruction. -/
def Thread.advance (memory : κ → UInt64) (instruction : Instruction κ)
    (todo : List (Instruction κ)) (thread : Thread κ γ) : Thread κ γ where
  call := thread.call
  done := thread.done ++ [instruction]
  todo := todo
  loaded := thread.loaded ++ instruction.loads memory

def next (program : γ → List (Instruction κ)) (s : State κ γ) : Action γ → Option (State κ γ)
  | .begin call => some { s with threads := s.threads ++ [{ call, todo := program call }] }
  | .execute i =>
    match s.threads[i]? with
    | none => none
    | some thread =>
      match thread.todo with
      | [] => none
      | instruction :: todo =>
        some {
          memory := instruction.run s.memory
          threads := s.threads.set i (thread.advance s.memory instruction todo) }

/-- The machine of the calls.  The counters start at zero. -/
def counters (program : γ → List (Instruction κ)) : Machine (State κ γ) (Action γ) where
  init := ⟨fun _ => 0, []⟩
  next := next program

/-! ## Totals -/

/-- How much an instruction adds to a counter. -/
def Instruction.amount (c : κ) : Instruction κ → Nat
  | .add d n => if d = c then n else 0
  | .load _ => 0

/-- How much some instructions add to a counter. -/
def total (c : κ) (instructions : List (Instruction κ)) : Nat :=
  tally (Instruction.amount c) instructions

/-- What was added to a counter so far. -/
def executed (s : State κ γ) (c : κ) : Nat :=
  tally (fun thread => total c thread.done) s.threads

/-- What the calls that have begun add to a counter. -/
def begun (program : γ → List (Instruction κ)) (s : State κ γ) (c : κ) : Nat :=
  tally (fun thread => total c (program thread.call)) s.threads

/-- What the calls that have returned add to a counter. -/
def returned (program : γ → List (Instruction κ)) (s : State κ γ) (c : κ) : Nat :=
  tally (fun thread => if thread.todo = [] then total c (program thread.call) else 0) s.threads

end machine

/-! ## What every state has -/

section states

variable {κ : Type u} {γ : Type v} [DecidableEq κ] {program : γ → List (Instruction κ)}
  {s t : State κ γ}

/-- What a step can do. -/
inductive Stepped (program : γ → List (Instruction κ)) (s : State κ γ) : State κ γ → Prop
  | begun (call : γ) :
    Stepped program s { s with threads := s.threads ++ [{ call, todo := program call }] }
  | executed {i : Nat} {thread : Thread κ γ} {instruction : Instruction κ}
    {todo : List (Instruction κ)} (hthread : s.threads[i]? = some thread)
    (htodo : thread.todo = instruction :: todo) :
    Stepped program s {
      memory := instruction.run s.memory
      threads := s.threads.set i (thread.advance s.memory instruction todo) }

theorem stepped_of_next {a : Action γ} (h : (counters program).next s a = some t) :
    Stepped program s t := by
  cases a with
  | begin call =>
    cases h
    exact .begun call
  | execute i =>
    simp only [counters, next] at h
    split at h
    · cases h
    · rename_i thread hthread
      split at h
      · cases h
      · rename_i instruction todo htodo
        cases h
        exact .executed hthread htodo

theorem total_append (c : κ) (before after : List (Instruction κ)) :
    total c (before ++ after) = total c before + total c after :=
  tally_append _ _ _

theorem total_singleton (c : κ) (instruction : Instruction κ) :
    total c [instruction] = instruction.amount c := by
  simp [total]

/-- The sum over the threads grows by the instruction that is executed. -/
theorem executed_set {i : Nat} {thread : Thread κ γ} {instruction : Instruction κ}
    {todo : List (Instruction κ)} (hthread : s.threads[i]? = some thread)
    (memory : κ → UInt64) (c : κ) :
    executed ⟨memory, s.threads.set i (thread.advance s.memory instruction todo)⟩ c =
      executed s c + instruction.amount c := by
  have hset := tally_set (f := fun thread => total c thread.done)
    (thread.advance s.memory instruction todo) hthread
  have hadvance : total c (thread.advance s.memory instruction todo).done =
      total c thread.done + instruction.amount c := by
    rw [← total_singleton]
    exact total_append c thread.done [instruction]
  unfold executed
  dsimp only at hset ⊢
  omega

theorem executed_begun (call : γ) (c : κ) :
    executed { s with threads := s.threads ++ [{ call, todo := program call }] } c =
      executed s c := by
  simp [executed, total]

/-- Nothing is ever taken off. -/
theorem Stepped.executed_le (h : Stepped program s t) (c : κ) :
    AtomicCounters.executed s c ≤ AtomicCounters.executed t c := by
  cases h with
  | begun call => exact (executed_begun call c).ge
  | executed hthread htodo =>
    rw [executed_set hthread]
    exact Nat.le_add_right _ _

theorem run_memory (memory : κ → UInt64) (instruction : Instruction κ) (c : κ) :
    instruction.run memory c = memory c + UInt64.ofNat (instruction.amount c) := by
  cases instruction with
  | load d => simp [Instruction.run, Instruction.amount]
  | add d n =>
    by_cases hc : c = d
    · subst hc
      simp [Instruction.run, Instruction.amount]
    · simp [Instruction.run, Instruction.amount, Function.update_of_ne hc, Ne.symm hc]

/-- The counter that an instruction loads. -/
def Instruction.source : Instruction κ → Option κ
  | .add _ _ => none
  | .load c => some c

omit [DecidableEq κ] in
theorem map_fst_loads (memory : κ → UInt64) (instruction : Instruction κ) :
    (instruction.loads memory).map Prod.fst = [instruction].filterMap Instruction.source := by
  cases instruction <;> rfl

/-- A thread is somewhere in the program of its call, and has what it loaded on the way. -/
structure Thread.Sound (program : γ → List (Instruction κ)) (thread : Thread κ γ) : Prop where
  program_eq : thread.done ++ thread.todo = program thread.call
  loaded_eq : thread.loaded.map Prod.fst = thread.done.filterMap Instruction.source

omit [DecidableEq κ] in
theorem Thread.Sound.advance {thread : Thread κ γ} (h : thread.Sound program)
    (memory : κ → UInt64) {instruction : Instruction κ} {todo : List (Instruction κ)}
    (htodo : thread.todo = instruction :: todo) :
    (thread.advance memory instruction todo).Sound program := by
  constructor
  · have hprogram := h.program_eq
    rw [htodo] at hprogram
    simpa [Thread.advance] using hprogram
  · simp only [Thread.advance, List.map_append, List.filterMap_append, h.loaded_eq,
      map_fst_loads]

/-- What every reachable state has: each counter is what was added to it, up to overflow. -/
structure Sound (program : γ → List (Instruction κ)) (s : State κ γ) : Prop where
  threads : ∀ thread ∈ s.threads, thread.Sound program
  memory_eq : ∀ c, s.memory c = UInt64.ofNat (executed s c)

theorem Sound.step (h : Sound program s) (hstep : Stepped program s t) : Sound program t := by
  cases hstep with
  | begun call =>
    refine ⟨fun thread hthread => ?_, fun c => ?_⟩
    · rcases List.mem_append.1 hthread with hold | hnew
      · exact h.threads thread hold
      · rw [List.mem_singleton.1 hnew]
        exact ⟨rfl, rfl⟩
    · rw [executed_begun]
      exact h.memory_eq c
  | executed hthread htodo =>
    refine ⟨fun thread hmem => ?_, fun c => ?_⟩
    · rcases List.mem_or_eq_of_mem_set hmem with hold | rfl
      · exact h.threads thread hold
      · exact (h.threads _ (List.mem_of_getElem? hthread)).advance s.memory htodo
    · rw [executed_set hthread, UInt64.ofNat_add, ← h.memory_eq c]
      exact run_memory s.memory _ c

theorem counters_sound (h : (counters program).Reachable s) : Sound program s := by
  refine h.invariant ⟨?_, fun _ => rfl⟩ fun s a t _ hs hnext _ => hs.step (stepped_of_next hnext)
  intro thread hthread
  cases hthread

theorem Sound.executed_le_begun (h : Sound program s) (c : κ) :
    executed s c ≤ begun program s c := by
  refine tally_le_of_forall fun thread hthread => ?_
  rw [← (h.threads thread hthread).program_eq, total_append]
  exact Nat.le_add_right _ _

theorem Sound.returned_le_executed (h : Sound program s) (c : κ) :
    returned program s c ≤ executed s c := by
  refine tally_le_of_forall fun thread hthread => ?_
  split
  · rename_i htodo
    rw [← (h.threads thread hthread).program_eq, htodo, List.append_nil]
  · exact Nat.zero_le _

end states

/-! ## What a call loads -/

section runs

variable {κ : Type u} {γ : Type v} [DecidableEq κ] {program : γ → List (Instruction κ)}
  {s t : State κ γ}

theorem executed_mono {actions : List (Action γ)}
    (hrun : (counters program).runFrom s actions = some t) (c : κ) :
    executed s c ≤ executed t c := by
  induction actions generalizing s with
  | nil =>
    cases hrun
    exact le_rfl
  | cons a actions ih =>
    obtain ⟨r, hnext, hrest⟩ := Machine.exists_next_of_runFrom_cons hrun
    exact ((stepped_of_next hnext).executed_le c).trans (ih hrest)

/-- What the threads from a position on have loaded is what the counters were at some time since
there was this much in them. -/
def LoadedSince (start : κ → Nat) (n : Nat) (s : State κ γ) : Prop :=
  ∀ i thread, n ≤ i → s.threads[i]? = some thread → ∀ c value, (c, value) ∈ thread.loaded →
    ∃ count, start c ≤ count ∧ count ≤ executed s c ∧ value = UInt64.ofNat count

theorem LoadedSince.step {start : κ → Nat} {n : Nat} (h : LoadedSince start n s)
    (hs : Sound program s) (hstart : ∀ c, start c ≤ executed s c)
    (hstep : Stepped program s t) : LoadedSince start n t := by
  have hle := hstep.executed_le
  have hkeep : ∀ i thread, n ≤ i → s.threads[i]? = some thread → ∀ c value,
      (c, value) ∈ thread.loaded →
        ∃ count, start c ≤ count ∧ count ≤ executed t c ∧ value = UInt64.ofNat count := by
    intro i thread hi hthread c value hmem
    obtain ⟨count, hlow, hhigh, hvalue⟩ := h i thread hi hthread c value hmem
    exact ⟨count, hlow, hhigh.trans (hle c), hvalue⟩
  cases hstep with
  | begun call =>
    intro i thread hi hthread c value hmem
    rw [List.getElem?_append] at hthread
    split at hthread
    · exact hkeep i thread hi hthread c value hmem
    · rw [List.mem_singleton.1 (List.mem_of_getElem? hthread)] at hmem
      cases hmem
  | executed hthread htodo =>
    rename_i j old instruction todo
    intro i thread hi hi' c value hmem
    by_cases hij : j = i
    · subst hij
      rw [List.getElem?_set_self' , hthread] at hi'
      cases hi'
      rcases List.mem_append.1 hmem with hbefore | hnew
      · exact hkeep j old hi hthread c value hbefore
      · cases instruction with
        | add d n => cases hnew
        | load d =>
          obtain ⟨rfl, rfl⟩ := Prod.mk.inj (List.mem_singleton.1 hnew)
          exact ⟨executed s c, hstart c, hle c, hs.memory_eq c⟩
    · rw [List.getElem?_set_ne hij] at hi'
      exact hkeep i thread hi hi' c value hmem

/-- A call that begins after a state loads what a counter is at some time from then on. -/
theorem loaded_between {actions : List (Action γ)} (h : (counters program).Reachable s)
    (hrun : (counters program).runFrom s actions = some t) {i : Nat} {thread : Thread κ γ}
    (hnew : s.threads.length ≤ i) (hthread : t.threads[i]? = some thread) {c : κ}
    {value : UInt64} (hvalue : (c, value) ∈ thread.loaded) :
    ∃ count, executed s c ≤ count ∧ count ≤ executed t c ∧ value = UInt64.ofNat count := by
  have hsince : ∀ r : State κ γ, (counters program).Reachable r →
      LoadedSince (executed s) s.threads.length r → (∀ c, executed s c ≤ executed r c) →
        (counters program).runFrom r actions = some t →
          LoadedSince (executed s) s.threads.length t := by
    clear hrun
    induction actions with
    | nil =>
      intro r _ hloaded _ hrun
      cases hrun
      exact hloaded
    | cons a actions ih =>
      intro r hr hloaded hle hrun
      obtain ⟨q, hnext, hrest⟩ := Machine.exists_next_of_runFrom_cons hrun
      have hstep := stepped_of_next hnext
      exact ih q (hr.next hnext) (hloaded.step (counters_sound hr) hle hstep)
        (fun c => (hle c).trans (hstep.executed_le c)) hrest
  have hnone : LoadedSince (executed s) s.threads.length s := by
    intro i thread hi hthread
    rw [List.getElem?_eq_none hi] at hthread
    cases hthread
  exact hsince s h hnone (fun _ => le_rfl) hrun i thread hnew hthread c value hvalue

/-- The values that a call has loaded are those of some counts, when it has loaded no counter
twice. -/
theorem exists_counts {actions : List (Action γ)} (h : (counters program).Reachable s)
    (hrun : (counters program).runFrom s actions = some t) {i : Nat} {thread : Thread κ γ}
    (hnew : s.threads.length ≤ i) (hthread : t.threads[i]? = some thread)
    (honce : (thread.loaded.map Prod.fst).Nodup) :
    ∃ counts : κ → Nat, (∀ c, executed s c ≤ counts c ∧ counts c ≤ executed t c) ∧
      ∀ entry ∈ thread.loaded, entry.2 = UInt64.ofNat (counts entry.1) := by
  have hcount : ∀ c, ∃ count, (executed s c ≤ count ∧ count ≤ executed t c) ∧
      ∀ value, (c, value) ∈ thread.loaded → value = UInt64.ofNat count := by
    intro c
    by_cases hloaded : ∃ value, (c, value) ∈ thread.loaded
    · obtain ⟨value, hvalue⟩ := hloaded
      obtain ⟨count, hlow, hhigh, heq⟩ := loaded_between h hrun hnew hthread hvalue
      refine ⟨count, ⟨hlow, hhigh⟩, fun other hother => ?_⟩
      have hsame := List.inj_on_of_nodup_map honce hother hvalue rfl
      rw [(Prod.mk.inj hsame).2, heq]
    · refine ⟨executed s c, ⟨le_rfl, executed_mono hrun c⟩, fun value hvalue => ?_⟩
      exact absurd ⟨value, hvalue⟩ hloaded
  choose counts hbetween hvalues using hcount
  exact ⟨counts, hbetween, fun entry hentry => hvalues entry.1 entry.2 hentry⟩

/-- A call that has returned has loaded the counters of its program, in their order. -/
theorem map_fst_loaded (h : Sound program s) {thread : Thread κ γ} (hthread : thread ∈ s.threads)
    (hdone : thread.todo = []) :
    thread.loaded.map Prod.fst = (program thread.call).filterMap Instruction.source := by
  obtain ⟨hprogram, hloaded⟩ := h.threads thread hthread
  rw [hdone, List.append_nil] at hprogram
  rw [hloaded, hprogram]

end runs

/-! ## A call on its own -/

section alone

variable {κ : Type u} {γ : Type v} [DecidableEq κ] {program : γ → List (Instruction κ)}

/-- The counters after instructions that no other thread interrupts. -/
def runAll (memory : κ → UInt64) (instructions : List (Instruction κ)) : κ → UInt64 :=
  instructions.foldl Instruction.run memory

/-- What they load. -/
def loadAll : (κ → UInt64) → List (Instruction κ) → List (κ × UInt64)
  | _, [] => []
  | memory, instruction :: rest =>
    instruction.loads memory ++ loadAll (instruction.run memory) rest

theorem loadAll_map_load (memory : κ → UInt64) (cs : List κ) :
    loadAll memory (cs.map .load) = cs.map fun c => (c, memory c) := by
  induction cs with
  | nil => rfl
  | cons c cs ih => exact congrArg ((c, memory c) :: ·) ih

/-- The last thread executes what it has to do. -/
theorem runFrom_execute (memory : κ → UInt64) (threads : List (Thread κ γ)) (call : γ)
    (done todo : List (Instruction κ)) (loaded : List (κ × UInt64)) :
    (counters program).runFrom ⟨memory, threads ++ [⟨call, done, todo, loaded⟩]⟩
        (List.replicate todo.length (.execute threads.length)) =
      some ⟨runAll memory todo,
        threads ++ [⟨call, done ++ todo, [], loaded ++ loadAll memory todo⟩]⟩ := by
  induction todo generalizing memory done loaded with
  | nil => simp [Machine.runFrom, runAll, loadAll]
  | cons instruction todo ih =>
    have hnext : (counters program).next
        ⟨memory, threads ++ [⟨call, done, instruction :: todo, loaded⟩]⟩
          (.execute threads.length) =
        some ⟨instruction.run memory, threads ++
          [⟨call, done ++ [instruction], todo, loaded ++ instruction.loads memory⟩]⟩ := by
      simp [counters, next, Thread.advance]
    rw [List.length_cons, List.replicate_succ, Machine.runFrom, hnext]
    simp only [ih, loadAll, List.append_assoc, List.cons_append, List.nil_append]
    rfl

/-- A call that begins and is executed before anything else happens. -/
theorem runFrom_alone (s : State κ γ) (call : γ) :
    (counters program).runFrom s
        (.begin call :: List.replicate (program call).length (.execute s.threads.length)) =
      some ⟨runAll s.memory (program call),
        s.threads ++ [⟨call, program call, [], loadAll s.memory (program call)⟩]⟩ :=
  runFrom_execute s.memory s.threads call [] (program call) []

end alone

end AtomicCounters
