import DrogonStarter.Lib.AtomicCounters
import DrogonStarter.Lib.Exposition

/-!
# The metrics and the threads that scrape them

`Metrics` has ten atomic counters.  Any number of threads add to them, and `prometheus` loads
them one after another while it writes the text that `/metrics` answers with.

* `Call.program` is what each member function does to the counters.
* `event` says what a counter is there for: which calls it counts, and how much.
* `record` and `prometheus` are the calls of a server that takes one request after another, and
  `parse_prometheus` reads its text.
* `scrapes_of_run` is about two scrapes of any run, one after the other: a monitoring system
  reads ten counters out of each text, each between the events of the calls that had returned
  before the scrape and of those that had begun when it ended, and none goes down.
-/

namespace DrogonStarter.Observability.Scraping

open AtomicCounters Transition

/-- The members of `Metrics`. -/
inductive Counter where
  | requests
  | responses
  | errors
  | observabilityQueued
  | observabilityDropped
  | observabilityBatches
  | observabilityBatchEvents
  | observabilityRetries
  | observabilityFailures
  | observabilityCircuitOpen
deriving DecidableEq

namespace Counter

/-- The counters in the order in which `prometheus` loads them. -/
def all : List Counter :=
  [requests, responses, errors, observabilityQueued, observabilityDropped, observabilityBatches,
    observabilityBatchEvents, observabilityRetries, observabilityFailures,
    observabilityCircuitOpen]

def name : Counter → List Char
  | requests => "http_requests_total".toList
  | responses => "http_responses_total".toList
  | errors => "http_errors_total".toList
  | observabilityQueued => "observability_events_queued_total".toList
  | observabilityDropped => "observability_events_dropped_total".toList
  | observabilityBatches => "observability_batches_sent_total".toList
  | observabilityBatchEvents => "observability_batch_events_total".toList
  | observabilityRetries => "observability_retries_total".toList
  | observabilityFailures => "observability_failures_total".toList
  | observabilityCircuitOpen => "observability_circuit_open_total".toList

def help : Counter → List Char
  | requests => "Total HTTP requests received.".toList
  | responses => "Total HTTP responses sent.".toList
  | errors => "Total HTTP 5xx responses.".toList
  | observabilityQueued => "Events accepted by the observability queue.".toList
  | observabilityDropped => "Events dropped due to queue pressure.".toList
  | observabilityBatches => "Batches submitted to an observability provider.".toList
  | observabilityBatchEvents => "Events submitted in observability batches.".toList
  | observabilityRetries => "Exporter retry attempts.".toList
  | observabilityFailures => "Exporter batches that exhausted retries.".toList
  | observabilityCircuitOpen => "Batches rejected while the exporter circuit was open.".toList

/-- What `prometheus` writes for a counter. -/
def write (c : Counter) (value : UInt64) : List Char :=
  "# HELP ".toList ++ c.name ++ " ".toList ++ c.help ++ "\n".toList ++
    "# TYPE ".toList ++ c.name ++ " counter\n".toList ++
    c.name ++ " ".toList ++ Nat.toDigits 10 value.toNat ++ "\n".toList

/-- The lines that a reader of the text finds. -/
def lines (c : Counter) (value : Nat) : List Exposition.Line :=
  [.help c.name c.help, .type c.name "counter".toList, .sample c.name value]

end Counter

/-- The calls of the member functions.  A response is known by its status. -/
inductive Call where
  | recordRequest
  | recordResponse (status : Option Nat)
  | recordObservabilityQueued
  | recordObservabilityDropped
  | recordObservabilityBatch (eventCount : Nat)
  | recordObservabilityRetry
  | recordObservabilityFailure
  | recordObservabilityCircuitOpen
  | prometheus

/-- What a call does to the counters. -/
def Call.program : Call → List (Instruction Counter)
  | .recordRequest => [.add .requests 1]
  | .recordResponse status =>
    .add .responses 1 :: if status.any (500 ≤ ·) then [.add .errors 1] else []
  | .recordObservabilityQueued => [.add .observabilityQueued 1]
  | .recordObservabilityDropped => [.add .observabilityDropped 1]
  | .recordObservabilityBatch eventCount =>
    [.add .observabilityBatches 1, .add .observabilityBatchEvents eventCount]
  | .recordObservabilityRetry => [.add .observabilityRetries 1]
  | .recordObservabilityFailure => [.add .observabilityFailures 1]
  | .recordObservabilityCircuitOpen => [.add .observabilityCircuitOpen 1]
  | .prometheus => Counter.all.map .load

/-- The text of a scrape that has loaded these values. -/
def body (loaded : List (Counter × UInt64)) : List Char :=
  loaded.flatMap fun entry => entry.1.write entry.2

/-- The counters while any calls are interleaved. -/
abbrev metrics : Machine (State Counter Call) (Action Call) := counters Call.program

/-- A scrape that has written its text. -/
def Scraped (thread : Thread Counter Call) : Prop :=
  thread.call = .prometheus ∧ thread.todo = []

/-! ## What the counters count -/

/-- How many of the events that a counter is about a call stands for. -/
def event : Counter → Call → Nat
  | .requests, .recordRequest => 1
  | .responses, .recordResponse _ => 1
  | .errors, .recordResponse status => if status.any (500 ≤ ·) then 1 else 0
  | .observabilityQueued, .recordObservabilityQueued => 1
  | .observabilityDropped, .recordObservabilityDropped => 1
  | .observabilityBatches, .recordObservabilityBatch _ => 1
  | .observabilityBatchEvents, .recordObservabilityBatch eventCount => eventCount
  | .observabilityRetries, .recordObservabilityRetry => 1
  | .observabilityFailures, .recordObservabilityFailure => 1
  | .observabilityCircuitOpen, .recordObservabilityCircuitOpen => 1
  | _, _ => 0

/-- The events of the calls that have begun. -/
def begunEvents (s : State Counter Call) (c : Counter) : Nat :=
  tally (fun thread => event c thread.call) s.threads

/-- The events of the calls that have returned. -/
def returnedEvents (s : State Counter Call) (c : Counter) : Nat :=
  tally (fun thread => if thread.todo = [] then event c thread.call else 0) s.threads

theorem total_program (c : Counter) (call : Call) : total c call.program = event c call := by
  cases call with
  | recordResponse status =>
    by_cases hfailed : status.any (500 ≤ ·) = true
    · cases c <;> simp [Call.program, event, total, Instruction.amount, hfailed]
    · cases c <;> simp [Call.program, event, total, Instruction.amount, hfailed]
  | prometheus => cases c <;> rfl
  | _ => cases c <;> simp [Call.program, event, total, Instruction.amount]

theorem begun_eq (s : State Counter Call) (c : Counter) :
    begun Call.program s c = begunEvents s c :=
  tally_eq_of_forall fun thread _ => total_program c thread.call

theorem returned_eq (s : State Counter Call) (c : Counter) :
    returned Call.program s c = returnedEvents s c :=
  tally_eq_of_forall fun thread _ => by rw [total_program]

/-! ## Errors are responses -/

/-- `recordResponse` counts a response before it counts an error. -/
theorem total_errors_le {call : Call} {done : List (Instruction Counter)}
    (h : done <+: call.program) : total .errors done ≤ total .responses done := by
  have hevent : total .errors done ≤ event .errors call := by
    obtain ⟨rest, hrest⟩ := h
    rw [← total_program, ← hrest, total_append]
    exact Nat.le_add_right _ _
  cases call with
  | recordResponse status =>
    have hone : event .errors (.recordResponse status) ≤ 1 := by
      simp only [event]
      split <;> decide
    cases done with
    | nil => exact le_rfl
    | cons instruction rest =>
      obtain ⟨rfl, _⟩ := List.cons_prefix_cons.1 h
      have hfirst : total .responses (.add .responses 1 :: rest) =
          1 + total .responses rest := tally_cons _ _ _
      rw [hfirst]
      exact (hevent.trans hone).trans (Nat.le_add_right 1 _)
  | _ => exact hevent.trans (Nat.zero_le _)

theorem executed_errors_le {s : State Counter Call} (h : AtomicCounters.Sound Call.program s) :
    executed s .errors ≤ executed s .responses :=
  tally_le_of_forall fun thread hthread =>
    total_errors_le ⟨thread.todo, (h.threads thread hthread).program_eq⟩

/-! ## The text -/

theorem wellFormed_lines (c : Counter) (value : Nat) :
    ∀ line ∈ c.lines value, line.WellFormed := by
  have hname : Exposition.isName c.name = true := by cases c <;> decide
  have hhelp : '\n' ∉ c.help := by cases c <;> decide
  have hkind : "counter".toList ∈ Exposition.kinds := by decide
  intro line hline
  simp only [Counter.lines, List.mem_cons, List.not_mem_nil, or_false] at hline
  rcases hline with rfl | rfl | rfl
  · exact ⟨hname, hhelp⟩
  · exact ⟨hname, hkind⟩
  · exact hname

theorem write_eq (c : Counter) (value : UInt64) :
    c.write value = Exposition.render (c.lines value.toNat) := by
  have hhelp : "# HELP ".toList = '#' :: ' ' :: (Exposition.helpWord ++ [' ']) := by decide
  have htype : "# TYPE ".toList = '#' :: ' ' :: (Exposition.typeWord ++ [' ']) := by decide
  have hkind : " counter\n".toList = ' ' :: ("counter".toList ++ ['\n']) := by decide
  have hspace : " ".toList = [' '] := by decide
  have hnewline : "\n".toList = ['\n'] := by decide
  unfold Counter.write
  rw [hhelp, htype, hkind, hspace, hnewline]
  simp only [Exposition.render, Counter.lines, Exposition.Line.render, List.flatMap_cons,
    List.flatMap_nil, List.append_assoc, List.cons_append, List.nil_append]

/-- A reader finds the values that were loaded. -/
theorem parse_body (loaded : List (Counter × UInt64)) :
    Exposition.parse (body loaded) =
      some (loaded.flatMap fun entry => entry.1.lines entry.2.toNat) := by
  have hbody : body loaded =
      Exposition.render (loaded.flatMap fun entry => entry.1.lines entry.2.toNat) := by
    simp only [body, write_eq, Exposition.render, List.flatMap_assoc]
  rw [hbody]
  refine Exposition.parse_render fun line hline => ?_
  obtain ⟨entry, _, hmem⟩ := List.mem_flatMap.1 hline
  exact wellFormed_lines entry.1 entry.2.toNat line hmem

/-! ## Calls on their own -/

/-- The counters after a call that no other thread interrupts. -/
def record (memory : Counter → UInt64) (call : Call) : Counter → UInt64 :=
  runAll memory call.program

/-- The text of a scrape that no other thread interrupts. -/
def prometheus (memory : Counter → UInt64) : List Char :=
  body (loadAll memory Call.prometheus.program)

/-- The counters of some run of calls. -/
def Counted (memory : Counter → UInt64) : Prop :=
  ∃ s, metrics.Reachable s ∧ s.memory = memory

theorem counted_zero : Counted fun _ => 0 := ⟨metrics.init, .init, rfl⟩

theorem Counted.record {memory : Counter → UInt64} (h : Counted memory) (call : Call) :
    Counted (Scraping.record memory call) := by
  obtain ⟨s, hs, rfl⟩ := h
  exact ⟨_, hs.runFrom (runFrom_alone s call), rfl⟩

/-- A reader of the text finds the counters. -/
theorem parse_prometheus (memory : Counter → UInt64) :
    Exposition.parse (prometheus memory) =
      some (Counter.all.flatMap fun c => c.lines (memory c).toNat) := by
  unfold prometheus
  rw [parse_body, Call.program, loadAll_map_load, List.flatMap_map]

/-! ## Scrapes -/

section scrapes

variable {s t u : State Counter Call}

theorem map_fst_loaded_of_scraped (h : AtomicCounters.Sound Call.program s)
    {thread : Thread Counter Call}
    (hthread : thread ∈ s.threads) (hscraped : Scraped thread) :
    thread.loaded.map Prod.fst = Counter.all := by
  rw [map_fst_loaded h hthread hscraped.2, hscraped.1]
  rfl

/-- A scrape that begins after a state: every counter in its text has a value that it had since
then, up to overflow. -/
theorem exists_scrape {actions : List (Action Call)} (hs : metrics.Reachable s)
    (hrun : metrics.runFrom s actions = some t) {i : Nat} {thread : Thread Counter Call}
    (hi : s.threads.length ≤ i) (hthread : t.threads[i]? = some thread)
    (hscraped : Scraped thread) :
    ∃ counts : Counter → Nat, (∀ c, executed s c ≤ counts c ∧ counts c ≤ executed t c) ∧
      Exposition.parse (body thread.loaded) =
        some (Counter.all.flatMap fun c => c.lines (counts c % 2 ^ 64)) := by
  have ht := counters_sound (hs.runFrom hrun)
  have hloaded := map_fst_loaded_of_scraped ht (List.mem_of_getElem? hthread) hscraped
  have honce : (thread.loaded.map Prod.fst).Nodup := by
    rw [hloaded]
    decide
  obtain ⟨counts, hcounts, hvalues⟩ := exists_counts hs hrun hi hthread honce
  refine ⟨counts, hcounts, ?_⟩
  have hlines : thread.loaded.flatMap (fun entry => entry.1.lines entry.2.toNat) =
      (thread.loaded.map Prod.fst).flatMap fun c => c.lines (counts c % 2 ^ 64) := by
    rw [List.flatMap_map]
    refine List.flatMap_congr fun entry hentry => ?_
    rw [hvalues entry hentry, UInt64.toNat_ofNat']
  rw [parse_body, hlines, hloaded]

/-- Two scrapes, the second of which begins when the first one has ended.  A monitoring system
reads ten counters in each.  Every count is at least that of the calls that had returned when
the scrape began, and at most that of the calls that had begun when it ended; none is lower in
the second scrape, and the second one has no fewer responses than the first one has errors. -/
theorem scrapes_of_run {actions later : List (Action Call)} (hs : metrics.Reachable s)
    (hrun : metrics.runFrom s actions = some t) (hlater : metrics.runFrom t later = some u)
    {i j : Nat} {first second : Thread Counter Call} (hi : s.threads.length ≤ i)
    (hfirst : t.threads[i]? = some first) (hj : t.threads.length ≤ j)
    (hsecond : u.threads[j]? = some second) (hscraped : Scraped first)
    (hscraped' : Scraped second) :
    ∃ counts counts' : Counter → Nat,
      (∀ c, returnedEvents s c ≤ counts c ∧ counts c ≤ begunEvents t c ∧
        returnedEvents t c ≤ counts' c ∧ counts' c ≤ begunEvents u c ∧ counts c ≤ counts' c) ∧
      counts .errors ≤ counts' .responses ∧
      Exposition.parse (body first.loaded) =
        some (Counter.all.flatMap fun c => c.lines (counts c % 2 ^ 64)) ∧
      Exposition.parse (body second.loaded) =
        some (Counter.all.flatMap fun c => c.lines (counts' c % 2 ^ 64)) := by
  have ht := hs.runFrom hrun
  have hsoundS := counters_sound hs
  have hsoundT := counters_sound ht
  have hsoundU := counters_sound (ht.runFrom hlater)
  obtain ⟨counts, hcounts, htext⟩ := exists_scrape hs hrun hi hfirst hscraped
  obtain ⟨counts', hcounts', htext'⟩ := exists_scrape ht hlater hj hsecond hscraped'
  refine ⟨counts, counts', fun c => ?_, ?_, htext, htext'⟩
  · obtain ⟨hlow, hhigh⟩ := hcounts c
    obtain ⟨hlow', hhigh'⟩ := hcounts' c
    rw [← returned_eq, ← returned_eq, ← begun_eq, ← begun_eq]
    exact ⟨(hsoundS.returned_le_executed c).trans hlow,
      hhigh.trans (hsoundT.executed_le_begun c), (hsoundT.returned_le_executed c).trans hlow',
      hhigh'.trans (hsoundU.executed_le_begun c), hhigh.trans hlow'⟩
  · exact ((hcounts .errors).2.trans (executed_errors_le hsoundT)).trans (hcounts' .responses).1

/-- A request is answered with status 503 between two scrapes. -/
theorem scrapes_around_request :
    ∃ counts counts' : Counter → Nat, (∀ c, counts c ≤ counts' c) ∧
      counts' .requests = 1 ∧ counts' .errors = 1 := by
  have hs : metrics.Reachable metrics.init := .init
  obtain ⟨counts, counts', hcounts, _⟩ := scrapes_of_run hs
    (rfl : metrics.runFrom metrics.init
      (.begin .prometheus :: List.replicate 10 (.execute 0) ++
        [.begin .recordRequest, .execute 1, .begin (.recordResponse (some 503)), .execute 2,
          .execute 2]) = some _)
    (rfl : metrics.runFrom _ (.begin .prometheus :: List.replicate 10 (.execute 3)) = some _)
    (Nat.zero_le 0) rfl (by decide : 3 ≤ 3) rfl ⟨rfl, rfl⟩ ⟨rfl, rfl⟩
  obtain ⟨_, _, hrequests, hrequests', _⟩ := hcounts .requests
  obtain ⟨_, _, herrors, herrors', _⟩ := hcounts .errors
  exact ⟨counts, counts', fun c => (hcounts c).2.2.2.2, le_antisymm hrequests' hrequests,
    le_antisymm herrors' herrors⟩

end scrapes

end DrogonStarter.Observability.Scraping
