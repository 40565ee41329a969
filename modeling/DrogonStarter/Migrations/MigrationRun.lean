import DrogonStarter.Lib.Transition
import Mathlib.Data.List.Nodup
import Mathlib.Data.List.TakeDrop

/-!
# Migration runners

`migrate.sh` and `docker-migrate.sh` create `schema_migrations` and then run one `psql`
script for each file of `db/migrations`, in order.  A script is a transaction: it takes an
advisory lock, looks its version up, and applies the file and inserts the version, or skips.
Any number of runners run side by side, one statement at a time.

* `MigrationRun` is the state and `migrations` the machine.  A `Transaction` is what a runner has
  written since it took the lock, and is lost with it.
* `advance_cases` says what a statement can do, and `Writes` what is in an open transaction.
* `Serialized` is the invariant of the lock: a transaction that found its version missing is
  the only one that can commit, so what it commits is one file with its row.
-/

namespace DrogonStarter

open Transition

/-- The versions of the files in `db/migrations`, in the order of the shell.  Two files have
different names. -/
structure MigrationDirectory where
  versions : List String
  nodup : versions.Nodup

/-- The two scripts. -/
inductive MigrationScript where
  | migrate
  | dockerMigrate
deriving DecidableEq

/-- What the loop runs over.  Without a file the pattern of `docker-migrate.sh` stands for
itself, and that of `migrate.sh` is removed by `nullglob`. -/
def MigrationScript.words (dir : MigrationDirectory) : MigrationScript → List String
  | migrate => dir.versions
  | dockerMigrate => if dir.versions = [] then ["*"] else dir.versions

/-- The statement that a runner executes next. -/
inductive RunnerPhase where
  /-- `CREATE TABLE IF NOT EXISTS`. -/
  | creating
  /-- The head of the loop. -/
  | looping
  /-- `pg_advisory_xact_lock`, in a new transaction. -/
  | locking (version : String)
  /-- `SELECT EXISTS`, with the lock. -/
  | checking (version : String)
  /-- The file. -/
  | applying (version : String)
  /-- `INSERT INTO schema_migrations`. -/
  | inserting (version : String)
  /-- `COMMIT`. -/
  | committing (version : String)
  | finished
  /-- After an error, a crash or a disconnect. -/
  | stopped
deriving DecidableEq

namespace RunnerPhase

/-- The runner has the advisory lock. -/
def locked : RunnerPhase → Bool
  | checking _ | applying _ | inserting _ | committing _ => true
  | creating | looping | locking _ | finished | stopped => false

/-- The runner has looked its version up. -/
def decided : RunnerPhase → Bool
  | applying _ | inserting _ | committing _ => true
  | creating | looping | locking _ | checking _ | finished | stopped => false

theorem locked_of_decided {phase : RunnerPhase} (h : phase.decided = true) :
    phase.locked = true := by
  cases phase <;> first | rfl | cases h

/-- The version of the open transaction. -/
def version : RunnerPhase → Option String
  | locking version | checking version | applying version | inserting version |
    committing version => some version
  | creating | looping | finished | stopped => none

end RunnerPhase

/-- What a transaction has written and not committed. -/
structure Transaction where
  /-- The files that it has applied. -/
  files : List String := []
  /-- Its rows for `schema_migrations`. -/
  rows : List String := []
deriving DecidableEq

/-- A run of a script, with how many words of the loop are done and its open transaction. -/
structure MigrationRunner where
  script : MigrationScript
  next : Nat := 0
  phase : RunnerPhase := .creating
  transaction : Transaction := {}
deriving DecidableEq

/-- The committed state of the database, the advisory lock and the runners. -/
structure MigrationRun where
  /-- `schema_migrations` exists. -/
  created : Bool := false
  /-- The rows of `schema_migrations`. -/
  recorded : List String := []
  /-- The files whose effects were committed, once for each time. -/
  effects : List String := []
  lock : Option Nat := none
  runners : List MigrationRunner := []
deriving DecidableEq

inductive MigrationAction where
  | start (script : MigrationScript)
  /-- A runner executes its next statement. -/
  | advance (i : Nat)
  /-- A runner ends, and its open transaction is rolled back. -/
  | stop (i : Nat)
deriving DecidableEq

namespace MigrationRun

/-- Replace a runner. -/
def setRunner (s : MigrationRun) (i : Nat) (r : MigrationRunner) : MigrationRun :=
  { s with runners := s.runners.set i r }

/-- The next statement of a runner.  It is `none` while the lock is taken, and when the
statement can only fail. -/
def advance (dir : MigrationDirectory) (s : MigrationRun) (i : Nat) (r : MigrationRunner) :
    Option MigrationRun :=
  match r.phase with
  | .creating => some ({ s with created := true }.setRunner i { r with phase := .looping })
  | .looping =>
    match (r.script.words dir)[r.next]? with
    | none => some (s.setRunner i { r with phase := .finished })
    | some word =>
      if r.script = .dockerMigrate ∧ word ∉ dir.versions then
        some (s.setRunner i { r with next := r.next + 1 })
      else some (s.setRunner i { r with phase := .locking word })
  | .locking version =>
    if s.lock = none then
      some ({ s with lock := some i }.setRunner i { r with phase := .checking version })
    else none
  | .checking version =>
    if s.created = false then none
    else if version ∈ s.recorded then
      some (s.setRunner i { r with phase := .committing version })
    else some (s.setRunner i { r with phase := .applying version })
  | .applying version =>
    some (s.setRunner i
      { r with
        phase := .inserting version
        transaction := { r.transaction with files := r.transaction.files ++ [version] } })
  | .inserting version =>
    if version ∈ s.recorded ++ r.transaction.rows then none
    else
      some (s.setRunner i
        { r with
          phase := .committing version
          transaction := { r.transaction with rows := r.transaction.rows ++ [version] } })
  | .committing _ =>
    some ({ s with
            recorded := s.recorded ++ r.transaction.rows
            effects := s.effects ++ r.transaction.files
            lock := none }.setRunner i
      { r with next := r.next + 1, phase := .looping, transaction := {} })
  | .finished => none
  | .stopped => none

/-- The end of a runner that is not at its end. -/
def stop (s : MigrationRun) (i : Nat) (r : MigrationRunner) : Option MigrationRun :=
  if r.phase = .finished ∨ r.phase = .stopped then none
  else
    some ({ s with lock := if r.phase.locked then none else s.lock }.setRunner i
      { r with phase := .stopped, transaction := {} })

def next (dir : MigrationDirectory) (s : MigrationRun) : MigrationAction → Option MigrationRun
  | .start script => some { s with runners := s.runners ++ [{ script }] }
  | .advance i => (s.runners[i]?).bind (s.advance dir i)
  | .stop i => (s.runners[i]?).bind (s.stop i)

end MigrationRun

/-- Runs of the scripts on a database in which some migrations are applied and recorded. -/
def migrations (dir : MigrationDirectory) (applied : List String) :
    Machine MigrationRun MigrationAction where
  init := { created := !applied.isEmpty, recorded := applied, effects := applied }
  next := MigrationRun.next dir

namespace MigrationRun

variable {dir : MigrationDirectory} {s t : MigrationRun} {i : Nat} {r : MigrationRunner}

/-! ## What a statement does -/

/-- What the transaction of a runner has written when the runner is at a statement: a file and
then its row, unless the version was found recorded. -/
inductive Writes (recorded : List String) : RunnerPhase → Transaction → Prop
  | nothing {phase : RunnerPhase} (hdecided : phase.decided = false) : Writes recorded phase {}
  | missing {version : String} (hmissing : version ∉ recorded) :
    Writes recorded (.applying version) {}
  | applied {version : String} (hmissing : version ∉ recorded) :
    Writes recorded (.inserting version) { files := [version] }
  | inserted {version : String} (hmissing : version ∉ recorded) :
    Writes recorded (.committing version) { files := [version], rows := [version] }
  | skipped {version : String} (hrecorded : version ∈ recorded) :
    Writes recorded (.committing version) {}

/-- Until a version is looked up nothing is written. -/
theorem Writes.eq_empty {recorded : List String} {phase : RunnerPhase} {written : Transaction}
    (h : Writes recorded phase written) (hdecided : phase.decided = false) : written = {} := by
  cases h with
  | nothing => rfl
  | missing | applied | inserted | skipped => cases hdecided

theorem Writes.moved {recorded : List String} {phase phase' : RunnerPhase}
    {written : Transaction} (h : Writes recorded phase written) (hdecided : phase.decided = false)
    (hafter : phase'.decided = false) : Writes recorded phase' written := by
  obtain rfl := h.eq_empty hdecided
  exact .nothing hafter

/-- Where a runner stands in its loop: what it knows of its version, what it has written, and
that the versions before it are recorded. -/
structure Placed (dir : MigrationDirectory) (recorded : List String) (r : MigrationRunner) :
    Prop where
  word : ∀ version, r.phase.version = some version →
    (r.script.words dir)[r.next]? = some version ∧ version ∈ dir.versions
  writes : Writes recorded r.phase r.transaction
  passed : ∀ version ∈ (r.script.words dir).take r.next, version ∈ dir.versions →
    version ∈ recorded

/-- A word that is done is recorded, or is no file. -/
theorem passed_succ {recorded : List String}
    (h : ∀ version ∈ (r.script.words dir).take r.next, version ∈ dir.versions →
      version ∈ recorded)
    (hword : ∀ version, (r.script.words dir)[r.next]? = some version → version ∈ dir.versions →
      version ∈ recorded) :
    ∀ version ∈ (r.script.words dir).take (r.next + 1), version ∈ dir.versions →
      version ∈ recorded := by
  intro version hmem hfile
  rw [List.take_add_one] at hmem
  rcases List.mem_append.1 hmem with hbefore | hlast
  · exact h version hbefore hfile
  · exact hword version (Option.mem_toList.1 hlast) hfile

/-- A word of `migrate.sh` is a file, and one of `docker-migrate.sh` unless it is passed over. -/
theorem mem_of_words {word : String} (hword : (r.script.words dir)[r.next]? = some word)
    (hfile : ¬ (r.script = .dockerMigrate ∧ word ∉ dir.versions)) : word ∈ dir.versions := by
  cases hscript : r.script with
  | migrate =>
    rw [hscript] at hword
    exact List.mem_of_getElem? hword
  | dockerMigrate =>
    by_contra hmem
    exact hfile ⟨hscript, hmem⟩

/-- The committed state after a statement: it changes by a transaction that ends, or not. -/
inductive Committed (s t : MigrationRun) (r : MigrationRunner) : Prop
  | nothing (hrecorded : t.recorded = s.recorded) (heffects : t.effects = s.effects)
  | transaction (version : String) (hphase : r.phase = .committing version)
      (hrecorded : t.recorded = s.recorded ++ r.transaction.rows)
      (heffects : t.effects = s.effects ++ r.transaction.files)

/-- The advisory lock after a statement of runner `i`, which is `r` before and `r'` after. -/
inductive Locked (s t : MigrationRun) (i : Nat) (r r' : MigrationRunner) : Prop
  | same (hlock : t.lock = s.lock) (hlocked : r'.phase.locked = r.phase.locked)
  | taken (hfree : s.lock = none) (hlock : t.lock = some i)
  | given (hlocked : r.phase.locked = true) (hafter : r'.phase.locked = false)

/-- What a step of runner `i` does: it commits its transaction or nothing, it takes, gives back or
keeps the lock, and the runner stays placed. -/
structure Advanced (dir : MigrationDirectory) (s t : MigrationRun) (i : Nat)
    (r r' : MigrationRunner) : Prop where
  runners : t.runners = s.runners.set i r'
  committed : Committed s t r
  lock : Locked s t i r r'
  placed : Placed dir s.recorded r → Placed dir t.recorded r'

section statements

variable {script : MigrationScript} {next : Nat} {version : String} {written : Transaction}

/-- The head of the loop goes to the next word, passes over it or ends the script. -/
theorem looping_cases (h : s.advance dir i ⟨script, next, .looping, written⟩ = some t) :
    ∃ r', Advanced dir s t i ⟨script, next, .looping, written⟩ r' := by
  simp only [advance] at h
  cases hword : (script.words dir)[next]? with
  | none =>
    simp only [hword] at h
    cases h
    exact ⟨_, rfl, .nothing rfl rfl, .same rfl rfl, fun hplaced =>
      ⟨nofun, hplaced.writes.moved rfl rfl, hplaced.passed⟩⟩
  | some word =>
    simp only [hword] at h
    by_cases hfile : script = .dockerMigrate ∧ word ∉ dir.versions
    · rw [if_pos hfile] at h
      cases h
      refine ⟨_, rfl, .nothing rfl rfl, .same rfl rfl, fun hplaced =>
        ⟨nofun, hplaced.writes, passed_succ hplaced.passed ?_⟩⟩
      intro version hversion hmem
      cases hword.symm.trans hversion
      exact absurd hmem hfile.2
    · rw [if_neg hfile] at h
      cases h
      refine ⟨_, rfl, .nothing rfl rfl, .same rfl rfl, fun hplaced =>
        ⟨?_, hplaced.writes.moved rfl rfl, hplaced.passed⟩⟩
      intro version hversion
      cases hversion
      exact ⟨hword, mem_of_words (r := { script, next }) hword hfile⟩

/-- The check of a version finds it recorded or missing. -/
theorem checking_cases
    (h : s.advance dir i ⟨script, next, .checking version, written⟩ = some t) :
    ∃ r', Advanced dir s t i ⟨script, next, .checking version, written⟩ r' := by
  simp only [advance] at h
  split at h
  case isTrue => cases h
  case isFalse =>
    split at h
    case isTrue hrecorded =>
      cases h
      refine ⟨_, rfl, .nothing rfl rfl, .same rfl rfl, fun hplaced =>
        ⟨hplaced.word, ?_, hplaced.passed⟩⟩
      obtain rfl := hplaced.writes.eq_empty rfl
      exact .skipped hrecorded
    case isFalse hrecorded =>
      cases h
      refine ⟨_, rfl, .nothing rfl rfl, .same rfl rfl, fun hplaced =>
        ⟨hplaced.word, ?_, hplaced.passed⟩⟩
      obtain rfl := hplaced.writes.eq_empty rfl
      exact .missing hrecorded

/-- The row of a version is inserted when there is none. -/
theorem inserting_cases
    (h : s.advance dir i ⟨script, next, .inserting version, written⟩ = some t) :
    ∃ r', Advanced dir s t i ⟨script, next, .inserting version, written⟩ r' := by
  simp only [advance] at h
  split at h
  case isTrue => cases h
  case isFalse =>
    cases h
    refine ⟨_, rfl, .nothing rfl rfl, .same rfl rfl, fun hplaced =>
      ⟨hplaced.word, ?_, hplaced.passed⟩⟩
    cases hplaced.writes with
    | nothing hdecided => cases hdecided
    | applied hmissing => exact .inserted hmissing

/-- After the commit the version is recorded, whether it was applied or skipped. -/
theorem committing_cases
    (h : s.advance dir i ⟨script, next, .committing version, written⟩ = some t) :
    ∃ r', Advanced dir s t i ⟨script, next, .committing version, written⟩ r' := by
  cases h
  refine ⟨_, rfl, .transaction version rfl rfl rfl, .given rfl rfl, fun hplaced =>
    ⟨nofun, .nothing rfl, passed_succ ?_ ?_⟩⟩
  · intro other hother hfile
    exact List.mem_append_left _ (hplaced.passed other hother hfile)
  · intro other hother _
    cases (hplaced.word version rfl).1.symm.trans hother
    cases hplaced.writes with
    | nothing hdecided => cases hdecided
    | inserted => exact List.mem_append_right _ (List.mem_singleton.2 rfl)
    | skipped hrecorded => exact List.mem_append_left _ hrecorded

end statements

/-- What a statement can do. -/
theorem advance_cases (h : s.advance dir i r = some t) : ∃ r', Advanced dir s t i r r' := by
  obtain ⟨script, next, phase, written⟩ := r
  cases phase with
  | creating =>
    cases h
    exact ⟨_, rfl, .nothing rfl rfl, .same rfl rfl, fun hplaced =>
      ⟨nofun, hplaced.writes.moved rfl rfl, hplaced.passed⟩⟩
  | looping => exact looping_cases h
  | locking version =>
    simp only [advance] at h
    split at h
    case isFalse => cases h
    case isTrue hfree =>
      cases h
      exact ⟨_, rfl, .nothing rfl rfl, .taken hfree rfl, fun hplaced =>
        ⟨hplaced.word, hplaced.writes.moved rfl rfl, hplaced.passed⟩⟩
  | checking version => exact checking_cases h
  | applying version =>
    cases h
    refine ⟨_, rfl, .nothing rfl rfl, .same rfl rfl, fun hplaced =>
      ⟨hplaced.word, ?_, hplaced.passed⟩⟩
    cases hplaced.writes with
    | nothing hdecided => cases hdecided
    | missing hmissing => exact .applied hmissing
  | inserting version => exact inserting_cases h
  | committing version => exact committing_cases h
  | finished => cases h
  | stopped => cases h

/-- The end of a runner commits nothing. -/
theorem stop_cases (h : s.stop i r = some t) : ∃ r', Advanced dir s t i r r' := by
  unfold stop at h
  split at h
  case isTrue => cases h
  case isFalse =>
    cases h
    refine ⟨_, rfl, .nothing rfl rfl, ?_, fun hplaced => ⟨nofun, .nothing rfl, hplaced.passed⟩⟩
    cases hlocked : r.phase.locked with
    | false => exact .same rfl hlocked.symm
    | true => exact .given hlocked rfl

/-! ## The lock and the versions -/

/-- A recorded version is one whose effects are committed, only the owner of the lock is past
taking it, and every runner is placed. -/
structure Serialized (dir : MigrationDirectory) (s : MigrationRun) : Prop where
  effects : s.effects = s.recorded
  owner : ∀ (i : Nat) (r : MigrationRunner), s.runners[i]? = some r → r.phase.locked = true →
    s.lock = some i
  placed : ∀ (i : Nat) (r : MigrationRunner), s.runners[i]? = some r → Placed dir s.recorded r

/-- A runner without the lock stays where it is when versions are entered. -/
theorem Placed.mono {recorded recorded' : List String} (h : Placed dir recorded r)
    (hunlocked : r.phase.locked = false) (hsub : ∀ version ∈ recorded, version ∈ recorded') :
    Placed dir recorded' r where
  word := h.word
  writes := by
    have hdecided : r.phase.decided = false := by
      by_contra hdecided
      rw [RunnerPhase.locked_of_decided (by simpa using hdecided)] at hunlocked
      cases hunlocked
    rw [h.writes.eq_empty hdecided]
    exact .nothing hdecided
  passed version hmem hfile := hsub version (h.passed version hmem hfile)

/-- A transaction is committed by the owner of the lock. -/
theorem Committed.locked (h : Committed s t r) (hchanged : t.recorded ≠ s.recorded) :
    r.phase.locked = true := by
  cases h with
  | nothing hrecorded _ => exact absurd hrecorded hchanged
  | transaction version hphase _ _ =>
    rw [hphase]
    rfl

/-- What a runner commits is the file of a missing version with its row, or nothing. -/
theorem Committed.cases (h : Committed s t r) (hplaced : Placed dir s.recorded r) :
    t.recorded = s.recorded ∧ t.effects = s.effects ∨
      ∃ version, r.phase = .committing version ∧ version ∉ s.recorded ∧
        t.recorded = s.recorded ++ [version] ∧ t.effects = s.effects ++ [version] := by
  cases h with
  | nothing hrecorded heffects => exact Or.inl ⟨hrecorded, heffects⟩
  | transaction version hphase hrecorded heffects =>
    have hwrites := hplaced.writes
    rw [hphase] at hwrites
    generalize r.transaction = written at hwrites hrecorded heffects
    cases hwrites with
    | nothing hdecided => cases hdecided
    | inserted hmissing => exact Or.inr ⟨version, hphase, hmissing, hrecorded, heffects⟩
    | skipped =>
      rw [List.append_nil] at hrecorded heffects
      exact Or.inl ⟨hrecorded, heffects⟩

theorem Committed.effects_eq (h : Committed s t r) (hplaced : Placed dir s.recorded r)
    (heffects : s.effects = s.recorded) : t.effects = t.recorded := by
  rcases h.cases hplaced with ⟨hrecorded', heffects'⟩ | ⟨_, _, _, hrecorded', heffects'⟩
  · rw [heffects', hrecorded', heffects]
  · rw [heffects', hrecorded', heffects]

theorem Committed.mem (h : Committed s t r) : ∀ version ∈ s.recorded, version ∈ t.recorded := by
  intro version hmem
  cases h with
  | nothing hrecorded _ => exact hrecorded ▸ hmem
  | transaction other _ hrecorded _ => exact hrecorded ▸ List.mem_append_left _ hmem

/-- A step of one runner keeps the invariant. -/
theorem Serialized.stepped {r' : MigrationRunner} (h : Serialized dir s)
    (hr : s.runners[i]? = some r) (hstep : Advanced dir s t i r r') : Serialized dir t := by
  obtain ⟨hrunners, hcommitted, hlock, hplaced⟩ := hstep
  have hself : t.runners[i]? = some r' := by
    rw [hrunners, List.getElem?_set_self (List.getElem?_eq_some_iff.1 hr).1]
  have hother : ∀ j, j ≠ i → t.runners[j]? = s.runners[j]? := by
    intro j hj
    rw [hrunners, List.getElem?_set_ne hj.symm]
  constructor
  · exact hcommitted.effects_eq (h.placed i r hr) h.effects
  · intro j rj hj hlocked
    by_cases hji : j = i
    · subst hji
      cases hself.symm.trans hj
      cases hlock with
      | same hsame hphase =>
        rw [hsame]
        exact h.owner j r hr (hphase ▸ hlocked)
      | taken _ htaken => exact htaken
      | given _ hafter =>
        rw [hafter] at hlocked
        cases hlocked
    · rw [hother j hji] at hj
      have howner := h.owner j rj hj hlocked
      cases hlock with
      | same hsame _ =>
        rw [hsame]
        exact howner
      | taken hfree _ =>
        rw [hfree] at howner
        cases howner
      | given hgiven _ =>
        have hi := h.owner i r hr hgiven
        rw [hi] at howner
        exact absurd (Option.some.inj howner).symm hji
  · intro j rj hj
    by_cases hji : j = i
    · subst hji
      cases hself.symm.trans hj
      exact hplaced (h.placed j r hr)
    · rw [hother j hji] at hj
      by_cases hchanged : t.recorded = s.recorded
      · rw [hchanged]
        exact h.placed j rj hj
      · refine (h.placed j rj hj).mono ?_ hcommitted.mem
        by_contra hlocked
        have howner := h.owner j rj hj (by simpa using hlocked)
        rw [h.owner i r hr (hcommitted.locked hchanged)] at howner
        exact hji (Option.some.inj howner).symm

/-- An action starts a runner or is a step of one. -/
theorem next_cases {a : MigrationAction} (hnext : s.next dir a = some t) :
    (∃ script, t = { s with runners := s.runners ++ [{ script }] }) ∨
      ∃ i r r', s.runners[i]? = some r ∧ Advanced dir s t i r r' := by
  cases a with
  | start script => exact Or.inl ⟨script, (Option.some.inj hnext).symm⟩
  | advance i =>
    obtain ⟨r, hr, hadvance⟩ := Option.bind_eq_some_iff.1 hnext
    obtain ⟨r', hstep⟩ := advance_cases hadvance
    exact Or.inr ⟨i, r, r', hr, hstep⟩
  | stop i =>
    obtain ⟨r, hr, hstop⟩ := Option.bind_eq_some_iff.1 hnext
    obtain ⟨r', hstep⟩ := stop_cases hstop
    exact Or.inr ⟨i, r, r', hr, hstep⟩

/-- A new runner is at its beginning. -/
theorem Serialized.started (h : Serialized dir s) (script : MigrationScript) :
    Serialized dir { s with runners := s.runners ++ [{ script }] } := by
  have hcases : ∀ (j : Nat) (r : MigrationRunner),
      (s.runners ++ [({ script } : MigrationRunner)])[j]? = some r →
        s.runners[j]? = some r ∨ r = ({ script } : MigrationRunner) := by
    intro j r hj
    rcases Nat.lt_or_ge j s.runners.length with hlt | hge
    · rw [List.getElem?_append_left hlt] at hj
      exact Or.inl hj
    · rw [List.getElem?_append_right hge] at hj
      exact Or.inr (List.mem_singleton.1 (List.mem_of_getElem? hj))
  constructor
  · exact h.effects
  · intro j r hj hlocked
    rcases hcases j r hj with hold | rfl
    · exact h.owner j r hold hlocked
    · cases hlocked
  · intro j r hj
    rcases hcases j r hj with hold | rfl
    · exact h.placed j r hold
    · exact ⟨nofun, .nothing rfl, by simp⟩

end MigrationRun

open MigrationRun

theorem serialized_of_reachable {dir : MigrationDirectory} {applied : List String}
    {s : MigrationRun} (h : (migrations dir applied).Reachable s) : Serialized dir s := by
  refine Machine.ReachableVia.invariant ?_ ?_ h
  · exact ⟨rfl, by simp [migrations], by simp [migrations]⟩
  · intro s a t _ hs hnext _
    rcases next_cases hnext with ⟨script, rfl⟩ | ⟨i, r, r', hr, hstep⟩
    · exact hs.started script
    · exact hs.stepped hr hstep

end DrogonStarter
