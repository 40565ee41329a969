import DrogonStarter.Migrations.MigrationRun

/-!
# What the migration runners are for

`ledger` is a list in which every version is entered once.  The runners enter no version
otherwise, which is `simulation`, and from an empty database they enter the versions in the
order of the files.
-/

namespace DrogonStarter

open Transition MigrationRun

/-! ## Once -/

/-- A list in which a version is entered unless it is there. -/
def ledger (applied : List String) : Machine (List String) String where
  init := applied
  next entered version := if version ∈ entered then none else some (entered ++ [version])

theorem ledger_nodup {applied entered : List String} (happlied : applied.Nodup)
    (h : (ledger applied).Reachable entered) : entered.Nodup := by
  refine Machine.ReachableVia.invariant (P := List.Nodup) happlied ?_ h
  intro before version after _ hbefore hnext _
  simp only [ledger] at hnext
  split at hnext
  case isTrue => cases hnext
  case isFalse hnew =>
    cases hnext
    rw [← List.concat_eq_append]
    exact List.Nodup.concat hnew hbefore

/-- The runners enter a version in `schema_migrations` as the ledger does. -/
def simulation (dir : MigrationDirectory) (applied : List String) :
    Simulation (migrations dir applied) (ledger applied) where
  abs s := s.recorded
  init := rfl
  step := by
    intro s a t hreach hnext
    have hs := serialized_of_reachable hreach
    rcases next_cases hnext with ⟨script, rfl⟩ | ⟨i, r, r', hr, hstep⟩
    · exact Or.inl rfl
    · rcases hstep.committed.cases (hs.placed i r hr) with
        ⟨hrecorded, _⟩ | ⟨version, _, hmissing, hrecorded, _⟩
      · exact Or.inl hrecorded
      · refine Or.inr ⟨version, ?_⟩
        rw [hrecorded]
        exact if_neg hmissing

/-! ## In order -/

/-- In a list without repetitions an element is not among the ones before it. -/
theorem lt_of_getElem_mem_take {l : List String} (hl : l.Nodup) {i k : Nat} (hi : i < l.length)
    (hmem : l[i] ∈ l.take k) : i < k := by
  obtain ⟨j, hj, heq⟩ := List.mem_take_iff_getElem.1 hmem
  have hij : j = i := (hl.getElem_inj_iff).1 heq
  omega

/-- The version that a runner enters is the next one. -/
theorem entered_in_order {dir : MigrationDirectory} {recorded : List String}
    {r : MigrationRunner} {version : String} (hplaced : Placed dir recorded r)
    (hphase : r.phase = .committing version) (hnew : version ∉ recorded) {k : Nat}
    (hrecorded : recorded = dir.versions.take k) :
    ∃ k', recorded ++ [version] = dir.versions.take k' := by
  obtain ⟨hword, hfile⟩ := hplaced.word version (by rw [hphase]; rfl)
  have hwords : r.script.words dir = dir.versions := by
    cases r.script with
    | migrate => rfl
    | dockerMigrate => exact if_neg (List.ne_nil_of_mem hfile)
  have hpassed := hplaced.passed
  rw [hwords] at hword hpassed
  obtain ⟨hlength, hversion⟩ := List.getElem?_eq_some_iff.1 hword
  have hle : k ≤ r.next := by
    by_contra hlt
    refine hnew ?_
    rw [hrecorded, ← hversion]
    exact List.mem_take_iff_getElem.2 ⟨r.next, by omega, rfl⟩
  have hge : r.next ≤ k := by
    by_contra hlt
    have hk : k < dir.versions.length := by omega
    have hbefore : dir.versions[k] ∈ dir.versions.take r.next :=
      List.mem_take_iff_getElem.2 ⟨k, by omega, rfl⟩
    have htaken := hpassed _ hbefore (List.getElem_mem hk)
    rw [hrecorded] at htaken
    have habsurd := lt_of_getElem_mem_take dir.nodup hk htaken
    omega
  have hnext : k = r.next := by omega
  refine ⟨r.next + 1, ?_⟩
  rw [hrecorded, hnext, List.take_add_one, hword]
  rfl

theorem recorded_of_reachable {dir : MigrationDirectory} {s : MigrationRun}
    (h : (migrations dir []).Reachable s) : ∃ k, s.recorded = dir.versions.take k := by
  refine Machine.ReachableVia.invariant (P := fun s => ∃ k, s.recorded = dir.versions.take k)
    ⟨0, rfl⟩ ?_ h
  intro s a t hreach ⟨k, hk⟩ hnext _
  have hs := serialized_of_reachable hreach
  rcases next_cases hnext with ⟨script, rfl⟩ | ⟨i, r, r', hr, hstep⟩
  · exact ⟨k, hk⟩
  · rcases hstep.committed.cases (hs.placed i r hr) with
      ⟨hrecorded, _⟩ | ⟨version, hphase, hmissing, hrecorded, _⟩
    · exact ⟨k, hrecorded.trans hk⟩
    · rw [hrecorded]
      exact entered_in_order (hs.placed i r hr) hphase hmissing hk

/-- However the runners interleave and wherever they end: the effects of a file are committed
at most once, a version is recorded exactly when its effects are committed, and from an empty
database the recorded versions are the first ones. -/
theorem migrations_once (dir : MigrationDirectory) {applied : List String}
    (happlied : applied.Nodup) {s : MigrationRun} (h : (migrations dir applied).Reachable s) :
    (∀ version, s.effects.count version ≤ 1) ∧
    (∀ version, version ∈ s.recorded ↔ version ∈ s.effects) ∧
    (applied = [] → s.recorded <+: dir.versions) := by
  have heffects := (serialized_of_reachable h).effects
  have hnodup : s.recorded.Nodup := ledger_nodup happlied ((simulation dir applied).reachable h)
  refine ⟨?_, ?_, ?_⟩
  · intro version
    rw [heffects]
    exact List.nodup_iff_count_le_one.1 hnodup version
  · intro version
    rw [heffects]
  · rintro rfl
    obtain ⟨k, hk⟩ := recorded_of_reachable h
    rw [hk]
    exact List.take_prefix k dir.versions

def twoVersions : MigrationDirectory where
  versions := ["001_initial_schema", "002_add_teams"]
  nodup := by decide

/-- A runner dies after the first file, and another one skips it and applies the second. -/
theorem migrations_once_two :
    let s := ((migrations twoVersions []).run
      [.start .migrate, .start .dockerMigrate, .advance 0, .advance 1, .advance 0, .advance 0,
        .advance 1, .advance 0, .advance 0, .advance 0, .advance 0, .stop 0, .advance 1, .advance 1,
        .advance 1, .advance 1, .advance 1, .advance 1, .advance 1, .advance 1,
        .advance 1]).get (by decide +kernel)
    s.recorded = ["001_initial_schema", "002_add_teams"] ∧
      (∀ version, s.effects.count version ≤ 1) ∧
      (∀ version, version ∈ s.recorded ↔ version ∈ s.effects) ∧
      ([] = ([] : List String) → s.recorded <+: twoVersions.versions) :=
  ⟨by decide +kernel,
    migrations_once twoVersions List.nodup_nil
      (Machine.reachable_of_run
        [.start .migrate, .start .dockerMigrate, .advance 0, .advance 1, .advance 0, .advance 0,
          .advance 1, .advance 0, .advance 0, .advance 0, .advance 0, .stop 0, .advance 1,
          .advance 1, .advance 1, .advance 1, .advance 1, .advance 1, .advance 1, .advance 1,
          .advance 1] (Option.some_get _).symm)⟩

end DrogonStarter
