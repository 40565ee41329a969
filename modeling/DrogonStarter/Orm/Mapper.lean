import Mathlib.Data.List.Sort
import DrogonStarter.Pagination.PageRequest

/-!
# The object mapper over a table

A service reads and writes its table through `Mapper`, which turns each call
into one statement.  `Table` is what the schema says about the rows, and the
functions in the namespace `Mapper` are the calls, on the rows of the table.

* `Database` is everything else that decides a statement: failures, the values
  that the server makes up, and the order of rows with one creation time.
* `insertable` and `updatable` are the checks of a write.
* `Table.Ignores` says that no call looks at what a function changes in a row,
  and the lemmas after it carry the function through each call.
-/

namespace DrogonStarter

/-- The exceptions that the handlers tell apart, with the text of `what()`. -/
inductive Thrown where
  | invalidArgument (what : String)
  | other (what : String)
deriving DecidableEq

/-- A table of the schema. -/
structure Table (ρ : Type) where
  /-- The primary key. -/
  id : ρ → Option String
  createdAt : ρ → Option Int
  /-- An inserted row with the defaults of the columns that are not set: the
  key and the time. -/
  withDefaults : (newId : String) → (now : Int) → ρ → ρ
  /-- A row after an `UPDATE` with the set columns of an object. -/
  assign : (object row : ρ) → ρ
  /-- Every value fits its column. -/
  fits : ρ → Bool
  /-- Two rows share the value of a unique column besides the key. -/
  clash : ρ → ρ → Bool

/-- The database behind one call, besides the rows. -/
structure Database (ρ : Type) where
  /-- What the statement throws for a reason that is not in the table. -/
  failure : Option String := none
  /-- `uuid_generate_v4()`. -/
  newId : String
  /-- `CURRENT_TIMESTAMP`. -/
  now : Int
  /-- The reading of a text as a key. -/
  uuid : String → Option String
  /-- Where a key stands among the rows with its creation time. -/
  rank : String → Nat
  /-- The text of a violated constraint, which may quote the row. -/
  violation : ρ → String
  /-- The text for a key that is not a UUID. -/
  invalidKey : String → String
  /-- The text for a negative `OFFSET`. -/
  negativeOffset : String

namespace Mapper

variable {ρ α : Type}

/-- Run a statement that has the result `value`. -/
def execute (db : Database ρ) (value : α) : Except Thrown α :=
  match db.failure with
  | some what => .error (.other what)
  | none => .ok value

/-- The order of `orderBy(created_at)`. -/
def Precedes (t : Table ρ) (db : Database ρ) (row other : ρ) : Prop :=
  (t.createdAt row).getD 0 < (t.createdAt other).getD 0 ∨
    ((t.createdAt row).getD 0 = (t.createdAt other).getD 0 ∧
      db.rank ((t.id row).getD "") ≤ db.rank ((t.id other).getD ""))

instance (t : Table ρ) (db : Database ρ) : DecidableRel (Precedes t db) :=
  fun _ _ => inferInstanceAs (Decidable (_ ∨ _))

def count (db : Database ρ) (rows : List ρ) : Except Thrown Nat := execute db rows.length

/-- `orderBy(created_at).limit(limit).offset(offset).findAll()`. -/
def findAll (t : Table ρ) (db : Database ρ) (rows : List ρ) (limit offset : Int) :
    Except Thrown (List ρ) :=
  if offset < 0 then .error (.other db.negativeOffset)
  else
    execute db
      (((rows.insertionSort (Precedes t db)).drop offset.toNat).take limit.toNat)

/-- `findByPrimaryKey`, which throws unless it finds one row. -/
def findByPrimaryKey (t : Table ρ) (db : Database ρ) (rows : List ρ) (key : String) :
    Except Thrown ρ :=
  match db.uuid key with
  | none => .error (.other (db.invalidKey key))
  | some id =>
    match rows.filter (t.id · = some id) with
    | [] => .error (.other "0 rows found")
    | [row] => execute db row
    | _ => .error (.other "Found more than one row")

/-- `findFutureBy(criteria).get()`, which may find no row. -/
def findBy (db : Database ρ) (rows : List ρ) (criteria : ρ → Bool) : Except Thrown (List ρ) :=
  execute db (rows.filter criteria)

/-- An `INSERT` of the row goes through. -/
def insertable (t : Table ρ) (db : Database ρ) (rows : List ρ) (row : ρ) : Bool :=
  db.failure.isNone && t.fits row &&
    !rows.any fun old => decide (t.id old = t.id row) || t.clash old row

/-- `insert`: the row as the server stored it, and the table. -/
def insert (t : Table ρ) (db : Database ρ) (rows : List ρ) (object : ρ) :
    Except Thrown (ρ × List ρ) :=
  let row := t.withDefaults db.newId db.now object
  if insertable t db rows row then .ok (row, rows ++ [row])
  else .error (.other (db.failure.getD (db.violation row)))

/-- An `UPDATE` of the rows with the key goes through. -/
def updatable (t : Table ρ) (db : Database ρ) (rows : List ρ) (id : String) (object : ρ) :
    Bool :=
  db.failure.isNone && t.fits object &&
    !((rows.any fun old => decide (t.id old = some id)) &&
      rows.any fun old => decide (t.id old ≠ some id) && t.clash old object)

/-- `update`: how many rows it changed, and the table. -/
def update (t : Table ρ) (db : Database ρ) (rows : List ρ) (object : ρ) :
    Except Thrown (Nat × List ρ) :=
  let key := (t.id object).getD ""
  match db.uuid key with
  | none => .error (.other (db.invalidKey key))
  | some id =>
    if updatable t db rows id object then
      .ok (rows.countP (t.id · = some id),
        rows.map fun row => if t.id row = some id then t.assign object row else row)
    else .error (.other (db.failure.getD (db.violation object)))

/-- `deleteByPrimaryKey`: how many rows it deleted, and the table. -/
def deleteByPrimaryKey (t : Table ρ) (db : Database ρ) (rows : List ρ) (key : String) :
    Except Thrown (Nat × List ρ) :=
  match db.uuid key with
  | none => .error (.other (db.invalidKey key))
  | some id =>
    execute db (rows.countP (t.id · = some id), rows.filter (t.id · ≠ some id))

end Mapper

/-! ## What no call looks at -/

/-- The table handles a row and its image under `mask` alike. -/
structure Table.Ignores {ρ : Type} (t : Table ρ) (mask : ρ → ρ) : Prop where
  id : ∀ row, t.id (mask row) = t.id row
  createdAt : ∀ row, t.createdAt (mask row) = t.createdAt row
  withDefaults : ∀ newId now row,
    mask (t.withDefaults newId now row) = t.withDefaults newId now (mask row)
  assign : ∀ object row, mask (t.assign object row) = t.assign (mask object) (mask row)
  clash : ∀ row other, t.clash (mask row) (mask other) = t.clash row other

namespace Mapper

variable {ρ : Type} {t : Table ρ} {mask : ρ → ρ}

theorem execute_map {α β : Type} (db : Database ρ) (f : α → β) (value : α) :
    execute db (f value) = (execute db value).map f := by
  unfold execute
  cases db.failure <;> rfl

theorem count_mask (db : Database ρ) (rows : List ρ) :
    count db (rows.map mask) = count db rows := by
  rw [count, count, List.length_map]

theorem precedes_mask (h : t.Ignores mask) (db : Database ρ) (row other : ρ) :
    Precedes t db row other ↔ Precedes t db (mask row) (mask other) := by
  unfold Precedes
  rw [h.id, h.id, h.createdAt, h.createdAt]

theorem findAll_mask (h : t.Ignores mask) (db : Database ρ) (rows : List ρ)
    (limit offset : Int) :
    findAll t db (rows.map mask) limit offset =
      (findAll t db rows limit offset).map (List.map mask) := by
  have hsort : (rows.map mask).insertionSort (Precedes t db) =
      (rows.insertionSort (Precedes t db)).map mask :=
    (List.map_insertionSort _ _ mask rows fun row _ other _ =>
      precedes_mask h db row other).symm
  unfold findAll
  by_cases hoffset : offset < 0
  · rw [if_pos hoffset, if_pos hoffset]
    rfl
  · rw [if_neg hoffset, if_neg hoffset, hsort, ← List.map_drop, ← List.map_take, execute_map]

theorem filter_id_mask (h : t.Ignores mask) (rows : List ρ) (id : String) :
    (rows.map mask).filter (t.id · = some id) =
      (rows.filter (t.id · = some id)).map mask := by
  rw [List.filter_map]
  congr 1
  exact List.filter_congr fun row _ => by simp [h.id]

theorem findByPrimaryKey_mask (h : t.Ignores mask) (db : Database ρ) (rows : List ρ)
    (key : String) :
    findByPrimaryKey t db (rows.map mask) key = (findByPrimaryKey t db rows key).map mask := by
  unfold findByPrimaryKey
  cases db.uuid key with
  | none => rfl
  | some id =>
    simp only [filter_id_mask h]
    match rows.filter (t.id · = some id) with
    | [] => rfl
    | [row] => exact execute_map db mask row
    | _ :: _ :: _ => rfl

/-- Two objects that differ in what is ignored are inserted alike, as long as
the difference fits its column. -/
theorem insertable_mask (h : t.Ignores mask) (db : Database ρ) (rows : List ρ) (row : ρ)
    (hfits : t.fits (mask row) = t.fits row) :
    insertable t db (rows.map mask) (mask row) = insertable t db rows row := by
  have hany : ((rows.map mask).any fun old =>
        decide (t.id old = t.id (mask row)) || t.clash old (mask row)) =
      rows.any fun old => decide (t.id old = t.id row) || t.clash old row := by
    rw [List.any_map]
    congr 1
    funext old
    simp only [Function.comp, h.id, h.clash]
  rw [insertable, insertable, hfits, hany]

theorem updatable_mask (h : t.Ignores mask) (db : Database ρ) (rows : List ρ) (id : String)
    (object : ρ) (hfits : t.fits (mask object) = t.fits object) :
    updatable t db (rows.map mask) id (mask object) = updatable t db rows id object := by
  have hfound : ((rows.map mask).any fun old => decide (t.id old = some id)) =
      rows.any fun old => decide (t.id old = some id) := by
    rw [List.any_map]
    congr 1
    funext old
    simp only [Function.comp, h.id]
  have hclash : ((rows.map mask).any fun old =>
        decide (t.id old ≠ some id) && t.clash old (mask object)) =
      rows.any fun old => decide (t.id old ≠ some id) && t.clash old object := by
    rw [List.any_map]
    congr 1
    funext old
    simp only [Function.comp, h.id, h.clash]
  rw [updatable, updatable, hfits, hfound, hclash]

/-- An ignored difference does not decide whether a row can be inserted. -/
theorem insertable_congr (h : t.Ignores mask) (db : Database ρ) (rows : List ρ)
    {row other : ρ} (hmask : mask row = mask other) (hrow : t.fits (mask row) = t.fits row)
    (hother : t.fits (mask other) = t.fits other) :
    insertable t db rows row = insertable t db rows other := by
  rw [← insertable_mask h db rows row hrow, hmask, insertable_mask h db rows other hother]

theorem updatable_congr (h : t.Ignores mask) (db : Database ρ) (rows : List ρ) (id : String)
    {object other : ρ} (hmask : mask object = mask other)
    (hobject : t.fits (mask object) = t.fits object)
    (hother : t.fits (mask other) = t.fits other) :
    updatable t db rows id object = updatable t db rows id other := by
  rw [← updatable_mask h db rows id object hobject, hmask,
    updatable_mask h db rows id other hother]

theorem countP_id_mask (h : t.Ignores mask) (rows : List ρ) (id : String) :
    (rows.map mask).countP (t.id · = some id) = rows.countP (t.id · = some id) := by
  rw [List.countP_map]
  congr 1
  funext row
  simp only [Function.comp, h.id]

theorem deleteByPrimaryKey_mask (h : t.Ignores mask) (db : Database ρ) (rows : List ρ)
    (key : String) :
    deleteByPrimaryKey t db (rows.map mask) key =
      (deleteByPrimaryKey t db rows key).map fun done => (done.1, done.2.map mask) := by
  have hfilter : ∀ id : String, (rows.map mask).filter (t.id · ≠ some id) =
      (rows.filter (t.id · ≠ some id)).map mask := by
    intro id
    rw [List.filter_map]
    congr 1
    exact List.filter_congr fun row _ => by simp [h.id]
  unfold deleteByPrimaryKey
  cases db.uuid key with
  | none => rfl
  | some id =>
    simp only [countP_id_mask h, hfilter]
    exact execute_map db (fun done : Nat × List ρ => (done.1, done.2.map mask))
      (rows.countP (t.id · = some id), rows.filter (t.id · ≠ some id))

/-- The updated rows, under the mask. -/
theorem map_assign_mask (h : t.Ignores mask) (rows : List ρ) (id : String) (object : ρ) :
    (rows.map fun row => if t.id row = some id then t.assign object row else row).map mask =
      (rows.map mask).map fun row =>
        if t.id row = some id then t.assign (mask object) row else row := by
  rw [List.map_map, List.map_map]
  refine List.map_congr_left fun row _ => ?_
  simp only [Function.comp, h.id]
  by_cases hid : t.id row = some id
  · rw [if_pos hid, if_pos hid, h.assign]
  · rw [if_neg hid, if_neg hid]

end Mapper

end DrogonStarter
