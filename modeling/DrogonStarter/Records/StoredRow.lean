import DrogonStarter.Records.Refinement

/-!
# What happens to one row

A row stays in its table until a request names its key, and the values of a unique column
stay apart.

* `Writes` is the request that names a key, and `mem_rowsAfter` is the row without it.
* `UniqueColumn` says that a column is what makes two rows clash, and that an update sets it.
  `distinct_rowsAfter` keeps its values apart.
-/

namespace DrogonStarter

open KeyedRows

/-- The request is to change or delete the row with a key. -/
def RecordRequest.Writes {ρ : Type} (call : RecordRequest × Circumstances ρ) (key : String) :
    Prop :=
  ∃ id, ((∃ jsonBody, call.1 = .updateRecordById id jsonBody) ∨ call.1 = .deleteRecordById id) ∧
    call.2.database.uuid id = some key

/-- A column whose values the table keeps apart, and which an update sets. -/
structure RecordService.UniqueColumn {ρ : Type} (service : RecordService ρ)
    (column : ρ → Option String) : Prop where
  clash : ∀ row other, service.table.clash row other = decide (column row = column other)
  assign : ∀ now salt id input row,
    column (service.table.assign (service.updated now salt id input) row) =
      column (service.updated now salt id input)

/-- No two rows share the value of a column. -/
def DistinctBy {ρ : Type} (column : ρ → Option String) (rows : List ρ) : Prop :=
  rows.Pairwise fun row other => column row ≠ column other

/-- The rows with the value of a row are that row. -/
theorem DistinctBy.filter_eq {ρ : Type} {column : ρ → Option String} {rows : List ρ}
    (h : DistinctBy column rows) {row : ρ} (hrow : row ∈ rows) {value : String}
    (hvalue : column row = some value) :
    rows.filter (fun other => decide (column other = some value)) = [row] := by
  induction rows with
  | nil => cases hrow
  | cons first rest ih =>
    obtain ⟨hfirst, hrest⟩ := List.pairwise_cons.1 h
    rcases List.mem_cons.1 hrow with rfl | hlater
    · have hnone : rest.filter (fun other => decide (column other = some value)) = [] := by
        refine List.filter_eq_nil_iff.2 fun other hother hsame => ?_
        exact hfirst other hother (hvalue.trans (of_decide_eq_true hsame).symm)
      rw [List.filter_cons, if_pos (decide_eq_true hvalue), hnone]
    · have hne : ¬ decide (column first = some value) = true := fun hsame =>
        hfirst row hlater ((of_decide_eq_true hsame).trans hvalue.symm)
      rw [List.filter_cons, if_neg hne]
      exact ih hrest hlater

theorem UserService.uniqueEmail (generateHash : GenerateHash) :
    (records generateHash).UniqueColumn Users.email where
  clash _ _ := rfl
  assign _ _ _ _ _ := rfl

namespace RecordService

variable {ρ : Type} {service : RecordService ρ} {change : Int → Nat → Json → ρ → ρ}

/-- What an update does when it goes through. -/
theorem update_inv (h : service.Lawful change) {db : Database ρ} {now : Int} {salt : Nat}
    {rows : List ρ} {id : String} {input : Json} {done : ρ × List ρ}
    (hupdate : service.update db now salt rows id input = .ok done) :
    ∃ key, db.uuid id = some key ∧
      Mapper.updatable service.table db rows key (service.updated now salt id input) = true ∧
      done.2 = rows.map fun row =>
        if service.table.id row = some key then
          service.table.assign (service.updated now salt id input) row
        else row := by
  unfold RecordService.update Mapper.update at hupdate
  cases hvalid : service.validateInput input with
  | error thrown =>
    rw [hvalid] at hupdate
    cases hupdate
  | ok _ =>
    simp only [hvalid, h.updated, bind, Except.bind, Option.getD_some] at hupdate
    cases huuid : db.uuid id with
    | none =>
      rw [huuid] at hupdate
      cases hupdate
    | some key =>
      cases hupdatable : Mapper.updatable service.table db rows key
          (service.updated now salt id input) with
      | false =>
        simp only [huuid, hupdatable, Bool.false_eq_true, if_false] at hupdate
        cases hupdate
      | true =>
        simp only [huuid, hupdatable, if_true] at hupdate
        cases hupdate
        exact ⟨key, rfl, hupdatable, rfl⟩

theorem delete_inv {db : Database ρ} {rows : List ρ} {id : String} {done : Bool × List ρ}
    (hdelete : service.delete db rows id = .ok done) :
    ∃ key, db.uuid id = some key ∧ done.2 = rows.filter (service.table.id · ≠ some key) := by
  unfold RecordService.delete Mapper.deleteByPrimaryKey Mapper.execute at hdelete
  cases huuid : db.uuid id with
  | none =>
    rw [huuid] at hdelete
    cases hdelete
  | some key =>
    simp only [huuid, bind, Except.bind] at hdelete
    cases hfailure : db.failure with
    | some what =>
      rw [hfailure] at hdelete
      cases hdelete
    | none =>
      simp only [hfailure] at hdelete
      cases hdelete
      exact ⟨key, rfl, rfl⟩

/-- An updated row takes a value that no other row has. -/
theorem distinct_of_update (h : service.Lawful change) {column : ρ → Option String}
    (hcolumn : service.UniqueColumn column) {db : Database ρ} {now : Int} {salt : Nat}
    {rows : List ρ} {id : String} {input : Json} {done : ρ × List ρ}
    (hkeyed : Keyed service.table.id rows) (hrows : DistinctBy column rows)
    (hupdate : service.update db now salt rows id input = .ok done) :
    DistinctBy column done.2 := by
  obtain ⟨key, -, hupdatable, hdone⟩ := update_inv h hupdate
  rw [hdone]
  simp only [Mapper.updatable, Bool.and_eq_true, Bool.not_eq_true', Bool.and_eq_false_iff,
    List.any_eq_false, decide_eq_true_eq, not_and] at hupdatable
  -- A row with the key, beside one without it.
  have hapart : ∀ row ∈ rows, ∀ other ∈ rows, service.table.id row = some key →
      service.table.id other ≠ some key →
        column (service.updated now salt id input) ≠ column other := by
    intro row hrow other hother hkey hne hsame
    rcases hupdatable.2 with hnobody | hclash
    · exact hnobody row hrow hkey
    · refine hclash other hother hne ?_
      rw [hcolumn.clash]
      exact decide_eq_true hsame.symm
  have hkeys : rows.Pairwise fun row other => service.table.id row ≠ service.table.id other :=
    List.pairwise_map.1 hkeyed.distinct
  refine List.pairwise_map.2 ?_
  refine (hrows.and hkeys).imp_of_mem ?_
  intro row other hrow hother hboth
  obtain ⟨hcolumns, hids⟩ := hboth
  by_cases hkey : service.table.id row = some key
  · have hne : service.table.id other ≠ some key := fun heq => hids (hkey.trans heq.symm)
    rw [if_pos hkey, if_neg hne, hcolumn.assign]
    exact hapart row hrow other hother hkey hne
  · rw [if_neg hkey]
    by_cases hkey' : service.table.id other = some key
    · rw [if_pos hkey', hcolumn.assign]
      exact (hapart other hother row hrow hkey' hkey).symm
    · rw [if_neg hkey']
      exact hcolumns

end RecordService

namespace RecordEndpoint

variable {ρ : Type} {endpoint : RecordEndpoint ρ} {change : Int → Nat → Json → ρ → ρ}

/-- An inserted row takes a value that no row has. -/
theorem distinct_of_inserts {column : ρ → Option String}
    (hcolumn : endpoint.UniqueColumn column) {rows : List ρ} (hrows : DistinctBy column rows)
    {env : Circumstances ρ} {jsonBody : Option Json}
    (hinserts : endpoint.Inserts rows (.createRecord jsonBody, env)) :
    DistinctBy column (rows ++ [endpoint.requested env jsonBody]) := by
  obtain ⟨_, ⟨⟩, -, -, hinsertable⟩ := hinserts
  simp only [Mapper.insertable, Bool.and_eq_true, Bool.not_eq_true', List.any_eq_false,
    Bool.or_eq_true, decide_eq_true_eq, not_or, hcolumn.clash] at hinsertable
  refine List.pairwise_append.2 ⟨hrows, List.pairwise_singleton _ _, ?_⟩
  intro row hrow other hother
  rw [List.mem_singleton.1 hother]
  exact (hinsertable.2 row hrow).2

theorem distinct_rowsAfter (h : endpoint.Lawful change) {column : ρ → Option String}
    (hcolumn : endpoint.UniqueColumn column) {rows : List ρ}
    (hkeyed : Keyed endpoint.table.id rows) (hrows : DistinctBy column rows)
    (call : RecordRequest × Circumstances ρ) :
    DistinctBy column (endpoint.rowsAfter rows call) := by
  obtain ⟨request, env⟩ := call
  cases request with
  | createRecord jsonBody =>
    rcases endpoint.rowsAfter_create rows jsonBody env with ⟨hinserts, heq⟩ | ⟨-, heq⟩
    · rw [heq]
      exact distinct_of_inserts hcolumn hrows hinserts
    · rw [heq]
      exact hrows
  | getRecords parameters | getRecordById id =>
    unfold rowsAfter
    simpa using hrows
  | updateRecordById id jsonBody =>
    unfold rowsAfter
    split
    case isFalse => exact hrows
    case isTrue =>
      simp only
      split
      case h_1 done hdone => exact RecordService.distinct_of_update h hcolumn hkeyed hrows hdone
      case h_2 => exact hrows
  | deleteRecordById id =>
    unfold rowsAfter
    split
    case isFalse => exact hrows
    case isTrue =>
      simp only
      split
      case h_1 done hdone =>
        obtain ⟨key, -, heq⟩ := RecordService.delete_inv hdone
        rw [heq]
        exact hrows.filter _
      case h_2 => exact hrows

/-- A row stays until a request names its key. -/
theorem mem_rowsAfter (h : endpoint.Lawful change) {rows : List ρ} {row : ρ} {key : String}
    (hrow : row ∈ rows) (hkey : endpoint.table.id row = some key)
    {call : RecordRequest × Circumstances ρ} (hcall : ¬ RecordRequest.Writes call key) :
    row ∈ endpoint.rowsAfter rows call := by
  obtain ⟨request, env⟩ := call
  cases request with
  | createRecord jsonBody =>
    rcases endpoint.rowsAfter_create rows jsonBody env with ⟨-, heq⟩ | ⟨-, heq⟩
    · rw [heq]
      exact List.mem_append_left _ hrow
    · rw [heq]
      exact hrow
  | getRecords parameters | getRecordById id =>
    unfold rowsAfter
    simpa using hrow
  | updateRecordById id jsonBody =>
    unfold rowsAfter
    split
    case isFalse => exact hrow
    case isTrue =>
      simp only
      split
      case h_2 => exact hrow
      case h_1 done hdone =>
        obtain ⟨other, hother, -, heq⟩ := RecordService.update_inv h hdone
        have hne : endpoint.table.id row ≠ some other := by
          intro hsame
          have hother' : other = key := Option.some.inj (hsame.symm.trans hkey)
          exact hcall ⟨id, Or.inl ⟨jsonBody, rfl⟩, hother' ▸ hother⟩
        rw [heq]
        exact List.mem_map.2 ⟨row, hrow, if_neg hne⟩
  | deleteRecordById id =>
    unfold rowsAfter
    split
    case isFalse => exact hrow
    case isTrue =>
      simp only
      split
      case h_2 => exact hrow
      case h_1 done hdone =>
        obtain ⟨other, hother, heq⟩ := RecordService.delete_inv hdone
        have hne : endpoint.table.id row ≠ some other := by
          intro hsame
          have hother' : other = key := Option.some.inj (hsame.symm.trans hkey)
          exact hcall ⟨id, Or.inr rfl, hother' ▸ hother⟩
        rw [heq]
        exact List.mem_filter.2 ⟨hrow, decide_eq_true hne⟩

end RecordEndpoint

end DrogonStarter
