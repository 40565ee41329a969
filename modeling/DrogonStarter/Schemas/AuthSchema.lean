import DrogonStarter.Lib.Json
import Mathlib.Data.List.Induction
import Mathlib.Data.List.Sort

/-!
# The schema of the credentials

`AuthSchema` is a map from the names of fields to whether they are required, and
`AuthSchema.validate` makes a list of the errors of a body.

* `isMember` is the access that throws on a value that is neither null nor an object.
* `foldlM_check_of_readable` is the loop over a body that the accesses do not throw on, and
  `foldlM_check_of_not_readable` the loop over any other.
* `ReportsExactly` says that the errors are those of the bad fields, and `reportsExactly_iff`
  when they are.
-/

namespace DrogonStarter

/-- What the accessors of a JSON value throw. -/
inductive JsonException where
  | logicError
deriving DecidableEq

/-- The map of the fields, in the order of their names. -/
structure AuthSchema where
  schema : Std.ExtTreeMap String Bool := ∅

namespace AuthSchema

def addField (s : AuthSchema) (fieldName : String) (required : Bool) : AuthSchema :=
  { schema := s.schema.insert fieldName required }

/-- The constructor. -/
def new : AuthSchema :=
  (({} : AuthSchema).addField "email" true).addField "password" true

/-- `isMember`. -/
def isMember (jsonBody : Json) (fieldName : String) : Except JsonException Bool :=
  match jsonBody with
  | .null => .ok false
  | .object members => .ok (members.lookup fieldName).isSome
  | _ => .error .logicError

/-- The condition of an error.  A body with the member is an object, so that the accesses
after `isMember` do not throw. -/
def refused (jsonBody : Json) (fieldName : String) : Except JsonException Bool := do
  if !(← isMember jsonBody fieldName) then return true
  let value := (jsonBody.get? fieldName).getD .null
  return !value.isString || value.asString.isEmpty

def errorText (fieldName : String) : String :=
  "Field '" ++ fieldName ++ "' must be a non-empty string."

/-- The body of the loop. -/
def check (jsonBody : Json) (errors : List String) (field : String × Bool) :
    Except JsonException (List String) := do
  if field.2 then
    if ← refused jsonBody field.1 then return errors ++ [errorText field.1]
  return errors

def validate (s : AuthSchema) (jsonBody : Json) : Except JsonException (List String) :=
  s.schema.toList.foldlM (check jsonBody) []

/-! ## The fields -/

/-- The schema after the calls of `addField`. -/
def extended (added : List (String × Bool)) : AuthSchema :=
  added.foldl (fun s field => s.addField field.1 field.2) new

/-- The last `addField` of the name, by the constructor or after it, made it required. -/
def Required (added : List (String × Bool)) (fieldName : String) : Prop :=
  ([("email", true), ("password", true)] ++ added).reverse.lookup fieldName = some true

theorem getElem?_addField (s : AuthSchema) (fieldName name : String) (required : Bool) :
    (s.addField fieldName required).schema[name]? =
      if name = fieldName then some required else s.schema[name]? := by
  unfold addField
  rw [Std.ExtTreeMap.getElem?_insert]
  by_cases hname : name = fieldName
  · rw [if_pos hname, if_pos (Std.compare_eq_iff_eq.2 hname.symm)]
  · rw [if_neg hname, if_neg fun heq => hname (Std.compare_eq_iff_eq.1 heq).symm]

/-- Each name is mapped as its last `addField` says. -/
theorem getElem?_extended (added : List (String × Bool)) (name : String) :
    (extended added).schema[name]? =
      ([("email", true), ("password", true)] ++ added).reverse.lookup name := by
  have hfold : ∀ fields : List (String × Bool),
      (fields.foldl (fun s field => s.addField field.1 field.2)
        ({} : AuthSchema)).schema[name]? = fields.reverse.lookup name := by
    intro fields
    induction fields using List.reverseRecOn with
    | nil => exact Std.ExtTreeMap.getElem?_empty
    | append_singleton fields field ih =>
      rw [List.foldl_concat, getElem?_addField, ih, List.reverse_concat]
      exact (Json.lookup_cons_eq field.1 name field.2 _).symm
  exact hfold ([("email", true), ("password", true)] ++ added)

theorem mem_schema_iff {added : List (String × Bool)} {name : String} :
    (name, true) ∈ (extended added).schema.toList ↔ Required added name := by
  rw [Std.ExtTreeMap.mem_toList_iff_getElem?_eq_some, getElem?_extended]
  rfl

/-- The fields are in the order of their names. -/
theorem pairwise_lt (s : AuthSchema) :
    s.schema.toList.Pairwise fun field other => field.1 < other.1 := by
  have hordered : s.schema.toList.Pairwise fun field other =>
      compare field.1 other.1 = .lt := Std.ExtTreeMap.ordered_keys_toList
  exact hordered.imp fun hlt => compareOfLessAndEq_eq_lt.1 hlt

/-! ## The loop -/

/-- The body has the field, with a text that is not empty. -/
def HoldsText (jsonBody : Json) (fieldName : String) : Prop :=
  ∃ text, jsonBody.get? fieldName = some (.string text) ∧ text ≠ ""

/-- The accesses of the loop do not throw. -/
def Readable (jsonBody : Json) : Prop := jsonBody = .null ∨ jsonBody.isObject = true

instance (jsonBody : Json) (fieldName : String) : Decidable (HoldsText jsonBody fieldName) :=
  match h : jsonBody.get? fieldName with
  | some (.string text) =>
    decidable_of_iff (text ≠ "") (by simp [HoldsText, h])
  | some .null | some (.bool _) | some (.int _) | some (.real _) | some (.array _)
  | some (.object _) | none => isFalse (by simp [HoldsText, h])

theorem refused_of_readable {jsonBody : Json} (h : Readable jsonBody) (fieldName : String) :
    refused jsonBody fieldName = .ok (decide (¬ HoldsText jsonBody fieldName)) := by
  have hmissing (hnone : jsonBody.get? fieldName = none) : ¬ HoldsText jsonBody fieldName := by
    rintro ⟨text, htext, _⟩
    cases hnone.symm.trans htext
  cases jsonBody with
  | null =>
    rw [decide_eq_true (hmissing rfl)]
    rfl
  | object members =>
    cases hvalue : members.lookup fieldName with
    | none =>
      rw [decide_eq_true (hmissing hvalue)]
      simp [refused, isMember, hvalue, bind, Except.bind, pure, Except.pure]
    | some value =>
      have hget : (Json.object members).get? fieldName = some value := hvalue
      have hholds : HoldsText (.object members) fieldName ↔
          value.isString = true ∧ value.asString ≠ "" := by
        unfold HoldsText
        rw [hget]
        cases value <;> simp [Json.isString, Json.asString]
      have hrun : refused (.object members) fieldName =
          .ok (!value.isString || value.asString.isEmpty) := by
        simp only [refused, isMember, hvalue, hget, bind, Except.bind]
        rfl
      rw [hrun, Except.ok.injEq, Bool.eq_iff_iff, decide_eq_true_iff, hholds, not_and, not_not]
      cases value.isString <;> simp
  | bool _ | int _ | real _ | string _ | array _ => simp [Readable, Json.isObject] at h

theorem refused_of_not_readable {jsonBody : Json} (h : ¬ Readable jsonBody)
    (fieldName : String) : refused jsonBody fieldName = .error .logicError := by
  cases jsonBody with
  | null => exact absurd (Or.inl rfl) h
  | object members => exact absurd (Or.inr rfl) h
  | bool _ | int _ | real _ | string _ | array _ => rfl

/-- A field that is required and that the body does not hold. -/
def Bad (jsonBody : Json) (field : String × Bool) : Prop :=
  field.2 = true ∧ ¬ HoldsText jsonBody field.1

instance (jsonBody : Json) : DecidablePred (Bad jsonBody) := fun field =>
  inferInstanceAs (Decidable (field.2 = true ∧ ¬ HoldsText jsonBody field.1))

theorem check_of_readable {jsonBody : Json} (h : Readable jsonBody) (errors : List String)
    (field : String × Bool) :
    check jsonBody errors field =
      .ok (if Bad jsonBody field then errors ++ [errorText field.1] else errors) := by
  unfold check Bad
  rw [refused_of_readable h]
  obtain ⟨fieldName, required⟩ := field
  cases required with
  | false => rfl
  | true =>
    by_cases hholds : HoldsText jsonBody fieldName
    · simp [hholds, bind, Except.bind, pure, Except.pure]
    · simp [hholds, bind, Except.bind, pure, Except.pure]

/-- The loop adds one error for each bad field. -/
theorem foldlM_check_of_readable {jsonBody : Json} (h : Readable jsonBody)
    (fields : List (String × Bool)) (errors : List String) :
    fields.foldlM (check jsonBody) errors =
      .ok (errors ++ (fields.filter fun field => Bad jsonBody field).map
        fun field => errorText field.1) := by
  induction fields generalizing errors with
  | nil =>
    rw [List.filter_nil, List.map_nil, List.append_nil]
    rfl
  | cons field fields ih =>
    rw [List.foldlM_cons, check_of_readable h]
    change fields.foldlM (check jsonBody) _ = _
    rw [ih, List.filter_cons]
    by_cases hbad : Bad jsonBody field
    · rw [if_pos hbad, if_pos (decide_eq_true hbad), List.map_cons, List.append_assoc,
        List.singleton_append]
    · rw [if_neg hbad, if_neg (by simpa using hbad)]

/-- The loop throws at the first field that is required. -/
theorem foldlM_check_of_not_readable {jsonBody : Json} (h : ¬ Readable jsonBody)
    (fields : List (String × Bool)) (errors : List String) :
    fields.foldlM (check jsonBody) errors =
      if ∃ field ∈ fields, field.2 = true then .error .logicError else .ok errors := by
  induction fields generalizing errors with
  | nil => rfl
  | cons field fields ih =>
    obtain ⟨fieldName, required⟩ := field
    rw [List.foldlM_cons]
    cases required with
    | false =>
      change fields.foldlM (check jsonBody) errors = _
      rw [ih]
      simp only [List.exists_mem_cons_iff, Bool.false_eq_true, false_or]
    | true =>
      have hthrows : check jsonBody errors (fieldName, true) = .error .logicError := by
        unfold check
        rw [refused_of_not_readable h]
        rfl
      rw [hthrows, if_pos ⟨(fieldName, true), List.mem_cons_self, rfl⟩]
      rfl

/-! ## The errors -/

/-- The result has one error for each bad field, in the order of the names, and no other. -/
def ReportsExactly (added : List (String × Bool)) (jsonBody : Json)
    (result : Except JsonException (List String)) : Prop :=
  ∃ names : List String, result = .ok (names.map errorText) ∧ names.Pairwise (· < ·) ∧
    ∀ name, name ∈ names ↔ Required added name ∧ ¬ HoldsText jsonBody name

theorem reportsExactly_of_readable (added : List (String × Bool)) {jsonBody : Json}
    (h : Readable jsonBody) :
    ReportsExactly added jsonBody ((extended added).validate jsonBody) := by
  refine ⟨((extended added).schema.toList.filter fun field => Bad jsonBody field).map (·.1),
    ?_, ?_, ?_⟩
  · rw [validate, foldlM_check_of_readable h, List.nil_append, List.map_map]
    rfl
  · rw [List.pairwise_map]
    exact (pairwise_lt _).filter _
  · intro name
    rw [← mem_schema_iff, List.mem_map]
    constructor
    · rintro ⟨⟨other, required⟩, hmem, rfl⟩
      obtain ⟨hfield, hbad⟩ := List.mem_filter.1 hmem
      obtain ⟨hrequired, hholds⟩ := of_decide_eq_true hbad
      cases hrequired
      exact ⟨hfield, hholds⟩
    · rintro ⟨hfield, hholds⟩
      exact ⟨(name, true), List.mem_filter.2 ⟨hfield, decide_eq_true ⟨rfl, hholds⟩⟩, rfl⟩

/-- Any other body makes the validation throw, as soon as one field is required. -/
theorem validate_of_not_readable {added : List (String × Bool)} {jsonBody : Json}
    (h : ¬ Readable jsonBody) (hrequired : ∃ name, Required added name) :
    (extended added).validate jsonBody = .error .logicError := by
  obtain ⟨name, hname⟩ := hrequired
  rw [validate, foldlM_check_of_not_readable h,
    if_pos ⟨(name, true), mem_schema_iff.2 hname, rfl⟩]

example :
    new.validate (.object [("email", .string ""), ("password", .int 123)]) =
      .ok ["Field 'email' must be a non-empty string.",
        "Field 'password' must be a non-empty string."] := by
  rfl

/-- The validation reports exactly the bad fields if and only if the body is null or an
object, or no field is required. -/
theorem reportsExactly_iff (added : List (String × Bool)) (jsonBody : Json) :
    ReportsExactly added jsonBody ((extended added).validate jsonBody) ↔
      (jsonBody = .null ∨ jsonBody.isObject = true) ∨ ∀ name, ¬ Required added name := by
  by_cases hreadable : Readable jsonBody
  · exact iff_of_true (reportsExactly_of_readable added hreadable) (Or.inl hreadable)
  · by_cases hrequired : ∃ name, Required added name
    · rw [validate_of_not_readable hreadable hrequired]
      refine iff_of_false ?_ ?_
      · rintro ⟨names, hthrown, _⟩
        cases hthrown
      · rintro (h | h)
        · exact hreadable h
        · exact h _ hrequired.choose_spec
    · have hnever : ∀ name, ¬ Required added name := not_exists.1 hrequired
      have hfields : ¬ ∃ field ∈ (extended added).schema.toList, field.2 = true := by
        rintro ⟨⟨name, required⟩, hmem, hfield⟩
        cases hfield
        exact hnever name (mem_schema_iff.1 hmem)
      rw [validate, foldlM_check_of_not_readable hreadable, if_neg hfields]
      refine iff_of_true ⟨[], rfl, List.Pairwise.nil, fun name => ?_⟩ (Or.inr hnever)
      exact iff_of_false List.not_mem_nil fun h => hnever name h.1

/-- An array as the body. -/
theorem array_escapes :
    ¬ ReportsExactly [] (.array []) ((extended []).validate (.array [])) := by
  have harray : ¬ Readable (.array []) := by simp [Readable, Json.isObject]
  have hemail : Required [] "email" := rfl
  rw [validate_of_not_readable harray ⟨"email", hemail⟩]
  rintro ⟨names, hthrown, _⟩
  cases hthrown

end AuthSchema

end DrogonStarter
