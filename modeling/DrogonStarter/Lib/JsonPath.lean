import DrogonStarter.Lib.Json
import Mathlib.Data.List.Sort

/-!
# Places in a JSON document

`j["a"][0]["b"] = v` writes to a place that need not be there yet: a missing member and a
missing item start as null, and null becomes an object or an array when something is put
into it.  A path is the list of steps to a place.

* `modify` changes what is at a path, and `at?` looks it up.  `text?`, `int?`, `items` and
  `members` look up a value of one kind.
* `at?_modify` is what a change does at its own path, and `at?_modify_of_apart` that it does
  nothing at a path that leaves it at another member.
* `at?_foldl_modify` is what several changes at one path leave there, and
  `foldl_set_object` and `foldl_append_array` say what members and items make up.
-/

namespace Json

/-- One pair of brackets. -/
inductive Step where
  | member (name : String)
  | item (index : Nat)
deriving DecidableEq

/-- Set an item, with nulls before it where there are no items. -/
def setItem (j : Json) (index : Nat) (value : Json) : Json :=
  let items := match j with
    | .array items => items
    | _ => []
  .array ((items ++ List.replicate (index + 1 - items.length) .null).set index value)

/-- `j.append(value)`. -/
def append (j value : Json) : Json :=
  match j with
  | .array items => .array (items ++ [value])
  | _ => .array [value]

namespace Step

/-- What is there after one step. -/
def get? (j : Json) : Step → Option Json
  | .member name => j.get? name
  | .item index =>
    match j with
    | .array items => items[index]?
    | _ => none

def set (j : Json) (value : Json) : Step → Json
  | .member name => j.set name value
  | .item index => j.setItem index value

theorem get?_set (j : Json) (step : Step) (value : Json) :
    step.get? (step.set j value) = some value := by
  cases step with
  | member name =>
    change (j.set name value).get? name = some value
    rw [Json.get?_set, if_pos rfl]
  | item index =>
    unfold set setItem get?
    simp only
    rw [List.getElem?_set_self]
    rw [List.length_append, List.length_replicate]
    omega

theorem get?_set_member {name other : String} (hne : other ≠ name) (j value : Json) :
    (member other).get? ((member name).set j value) = (member other).get? j := by
  change (j.set name value).get? other = j.get? other
  rw [Json.get?_set, if_neg hne]

end Step

/-- Change what is at a path, which is null if there is nothing. -/
def modify (f : Json → Json) : List Step → Json → Json
  | [], j => f j
  | step :: path, j => step.set j (modify f path ((step.get? j).getD .null))

/-- Assign to a place. -/
def assign (path : List Step) (value : Json) (j : Json) : Json := modify (fun _ => value) path j

/-- What is at a path. -/
def at? : List Step → Json → Option Json
  | [], j => some j
  | step :: path, j => (step.get? j).bind (at? path)

theorem at?_null_cons (step : Step) (path : List Step) : at? (step :: path) null = none := by
  cases step <;> rfl

/-- The text of a string at a path. -/
def text? (path : List Step) (j : Json) : Option String :=
  match at? path j with
  | some (.string text) => some text
  | _ => none

/-- The integer at a path. -/
def int? (path : List Step) (j : Json) : Option Int :=
  match at? path j with
  | some (.int value) => some value
  | _ => none

/-- The items of an array at a path, and no items if there is none. -/
def items (path : List Step) (j : Json) : List Json :=
  match at? path j with
  | some (.array items) => items
  | _ => []

/-- The members of an object at a path, and no members if there is none. -/
def members (path : List Step) (j : Json) : List (String × Json) :=
  match at? path j with
  | some (.object members) => members
  | _ => []

/-- A missing value is looked at as null. -/
theorem getD_bind_at? (path : List Step) (value : Option Json) :
    (value.bind (at? path)).getD null = (at? path (value.getD null)).getD null := by
  cases value with
  | some j => rfl
  | none =>
    cases path with
    | nil => rfl
    | cons step path =>
      rw [Option.getD_none, at?_null_cons]
      rfl

/-- What a change leaves at its own path. -/
theorem at?_modify (f : Json → Json) (path : List Step) (j : Json) :
    at? path (modify f path j) = some (f ((at? path j).getD null)) := by
  induction path generalizing j with
  | nil => rfl
  | cons step path ih =>
    rw [modify, at?, Step.get?_set, Option.bind_some, ih, at?, getD_bind_at?]

theorem at?_assign (path : List Step) (value j : Json) :
    at? path (assign path value j) = some value := at?_modify _ path j

theorem text?_assign (path : List Step) (text : String) (j : Json) :
    text? path (assign path (.string text) j) = some text := by
  rw [text?, at?_assign]

/-- Two paths part at different members of one object. -/
def Apart : List Step → List Step → Prop
  | .member name :: path, .member other :: path' =>
    name ≠ other ∨ Apart path path'
  | .item index :: path, .item index' :: path' => index = index' ∧ Apart path path'
  | _, _ => False

theorem apart_member {name other : String} (hne : name ≠ other) (path path' : List Step) :
    Apart (.member name :: path) (.member other :: path') := Or.inl hne

theorem not_apart_nil (path : List Step) : ¬ Apart path [] := by
  cases path with
  | nil => exact not_false
  | cons step path => cases step <;> exact not_false

/-- A change does nothing at a path that is apart from its own. -/
theorem at?_modify_of_apart (f : Json → Json) {path path' : List Step} (h : Apart path path')
    (j : Json) : at? path' (modify f path j) = at? path' j := by
  induction path generalizing path' j with
  | nil => exact h.elim
  | cons step path ih =>
    cases path' with
    | nil => exact absurd h (not_apart_nil _)
    | cons step' path' =>
      have hsame (hrest : Apart path path') :
          at? (step :: path') (modify f (step :: path) j) = at? (step :: path') j := by
        rw [modify, at?, Step.get?_set, Option.bind_some, ih hrest, at?]
        cases step.get? j with
        | some value => rfl
        | none =>
          cases path' with
          | nil => exact absurd hrest (not_apart_nil path)
          | cons next path' => exact at?_null_cons next path'
      cases step with
      | member name =>
        cases step' with
        | member other =>
          by_cases hname : name = other
          · subst hname
            exact hsame (h.resolve_left fun hne => hne rfl)
          · rw [modify, at?, Step.get?_set_member (Ne.symm hname)]
            rfl
        | item index => exact h.elim
      | item index =>
        cases step' with
        | member other => exact h.elim
        | item index' =>
          obtain ⟨rfl, hrest⟩ := h
          exact hsame hrest

/-! ## Several changes -/

section changes

variable {α : Type} (f : α → Json → Json) (xs : List α)

/-- What several changes at one path leave there. -/
theorem at?_foldl_modify (path : List Step) (x : α) (j : Json) :
    at? path ((x :: xs).foldl (fun j x => modify (f x) path j) j) =
      some ((x :: xs).foldl (fun value x => f x value) ((at? path j).getD null)) := by
  induction xs generalizing x j with
  | nil => exact at?_modify (f x) path j
  | cons y xs ih =>
    rw [List.foldl_cons, ih, at?_modify]
    rfl

theorem at?_foldl_modify_of_apart {path path' : List Step} (h : Apart path path') (j : Json) :
    at? path' (xs.foldl (fun j x => modify (f x) path j) j) = at? path' j := by
  induction xs generalizing j with
  | nil => rfl
  | cons x xs ih => rw [List.foldl_cons, ih, at?_modify_of_apart (f x) h]

end changes

/-- Items that are appended one after another. -/
theorem foldl_append_array {α : Type} (f : α → Json) (xs : List α) (items : List Json) :
    xs.foldl (fun j x => j.append (f x)) (array items) = array (items ++ xs.map f) := by
  induction xs generalizing items with
  | nil => exact congrArg array (List.append_nil items).symm
  | cons x xs ih =>
    rw [List.foldl_cons, append, ih, List.append_assoc]
    rfl

theorem insertMember_of_forall_lt {name : String} (value : Json) {members : List (String × Json)}
    (h : ∀ member ∈ members, member.1 < name) :
    insertMember name value members = members ++ [(name, value)] := by
  induction members with
  | nil => rfl
  | cons member members ih =>
    have hlt := h member List.mem_cons_self
    have hne : name ≠ member.1 := by
      intro hname
      rw [hname] at hlt
      exact String.lt_irrefl _ hlt
    rw [insertMember, if_neg hne, if_neg (String.lt_asymm hlt),
      ih fun m hm => h m (List.mem_cons_of_mem _ hm)]
    rfl

/-- Members that are assigned in the order of their names. -/
theorem foldl_set_object {before members : List (String × Json)}
    (hascending : (before ++ members).Pairwise fun member other => member.1 < other.1) :
    members.foldl (fun j member => j.set member.1 member.2) (object before) =
      object (before ++ members) := by
  induction members generalizing before with
  | nil => exact congrArg object (List.append_nil before).symm
  | cons member members ih =>
    have hbefore : ∀ other ∈ before, other.1 < member.1 := fun other hother =>
      (List.pairwise_append.1 hascending).2.2 other hother member List.mem_cons_self
    have hsplit : before ++ member :: members = (before ++ [member]) ++ members := by
      rw [List.append_assoc]
      rfl
    have hset : (object before).set member.1 member.2 = object (before ++ [member]) :=
      congrArg object (insertMember_of_forall_lt member.2 hbefore)
    rw [hsplit] at hascending
    rw [List.foldl_cons, hset, ih hascending, hsplit]

/-- The same on a fresh value. -/
theorem foldl_set_null {α : Type} (f : α → String × Json) {xs : List α} (hne : xs ≠ [])
    (hascending : (xs.map f).Pairwise fun member other => member.1 < other.1) :
    xs.foldl (fun j x => j.set (f x).1 (f x).2) null = object (xs.map f) := by
  have hmembers : (xs.map f).foldl (fun j member => j.set member.1 member.2) null =
      object (xs.map f) := by
    cases xs with
    | nil => exact absurd rfl hne
    | cons x xs => exact foldl_set_object hascending
  rw [List.foldl_map] at hmembers
  exact hmembers

end Json
