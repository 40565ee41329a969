import Mathlib.Data.List.Nodup

/-!
# JSON values

`Json` is a parsed JSON document.  An object is a list of members, which
`Json.set` keeps in the order of their names.

* `Json.set` and `Json.get?` write and read one member, and `get?_set` is the
  law between them.  `Json.ofMembers` is a sequence of assignments.
* `Json.HasMember` says that a name is the name of a member at any depth.
-/

/-- A JSON document.  A number with a fraction or an exponent keeps its
digits. -/
inductive Json where
  | null
  | bool (value : Bool)
  | int (value : Int)
  | real (digits : String)
  | string (text : String)
  | array (items : List Json)
  | object (members : List (String × Json))

namespace Json

/-- Put a member into a list of members, in the place of one of its name. -/
def insertMember (name : String) (value : Json) :
    List (String × Json) → List (String × Json)
  | [] => [(name, value)]
  | member :: rest =>
    if name = member.1 then (name, value) :: rest
    else if name < member.1 then (name, value) :: member :: rest
    else member :: insertMember name value rest

/-- Assign to a member.  A value that is not an object becomes one. -/
def set (j : Json) (name : String) (value : Json) : Json :=
  match j with
  | .object members => .object (insertMember name value members)
  | _ => .object [(name, value)]

/-- The value after assignments to a fresh one, in order. -/
def ofMembers (members : List (String × Json)) : Json :=
  members.foldl (fun j member => j.set member.1 member.2) .null

/-- The value of a member of an object. -/
def get? (j : Json) (name : String) : Option Json :=
  match j with
  | .object members => members.lookup name
  | _ => none

def isObject : Json → Bool
  | .object _ => true
  | _ => false

def isString : Json → Bool
  | .string _ => true
  | _ => false

def isNull : Json → Bool
  | .null => true
  | _ => false

/-- The text of a string. -/
def asString : Json → String
  | .string text => text
  | _ => ""

theorem lookup_cons_eq {α : Type} (name other : String) (value : α)
    (members : List (String × α)) :
    ((name, value) :: members).lookup other =
      if other = name then some value else members.lookup other := by
  rw [List.lookup_cons]
  by_cases hname : other = name
  · rw [if_pos hname, hname, beq_self_eq_true]
  · rw [if_neg hname, beq_eq_false_iff_ne.2 hname]

theorem lookup_insertMember (name other : String) (value : Json)
    (members : List (String × Json)) :
    (insertMember name value members).lookup other =
      if other = name then some value else members.lookup other := by
  induction members with
  | nil => exact lookup_cons_eq name other value []
  | cons member rest ih =>
    unfold insertMember
    by_cases hself : name = member.1
    · rw [if_pos hself, lookup_cons_eq, hself, lookup_cons_eq member.1 other member.2]
      by_cases hname : other = member.1
      · rw [if_pos hname, if_pos hname]
      · rw [if_neg hname, if_neg hname, if_neg hname]
    · rw [if_neg hself]
      by_cases hbefore : name < member.1
      · rw [if_pos hbefore, lookup_cons_eq]
      · rw [if_neg hbefore, lookup_cons_eq member.1 other member.2,
          lookup_cons_eq member.1 other member.2, ih]
        by_cases hname : other = name
        · have hother : other ≠ member.1 := hname ▸ hself
          rw [if_neg hother, if_pos hname, if_pos hname]
        · rw [if_neg hname, if_neg hname]

/-- A member that was assigned to is read back, and the others are as they
were. -/
theorem get?_set (j : Json) (name other : String) (value : Json) :
    (j.set name value).get? other = if other = name then some value else j.get? other := by
  cases j with
  | object members => exact lookup_insertMember name other value members
  | null | bool _ | int _ | real _ | string _ | array _ =>
    exact lookup_cons_eq name other value []

/-- The last assignment to a name is the one that counts. -/
theorem get?_ofMembers (before : List (String × Json)) {rest : List (String × Json)}
    {name : String} {value : Json}
    (hlast : ∀ member ∈ rest, member.1 ≠ name) :
    (ofMembers (before ++ (name, value) :: rest)).get? name = some value := by
  unfold ofMembers
  rw [List.foldl_append, List.foldl_cons]
  have hset : ((before.foldl (fun j member => j.set member.1 member.2) null).set name
      value).get? name = some value := by
    rw [get?_set, if_pos rfl]
  generalize (before.foldl (fun j member => j.set member.1 member.2) null).set name value = j
    at hset
  induction rest generalizing j with
  | nil => exact hset
  | cons member rest ih =>
    refine ih (fun m hm => hlast m (List.mem_cons_of_mem _ hm)) (j.set member.1 member.2) ?_
    rw [get?_set, if_neg (hlast member List.mem_cons_self).symm]
    exact hset

/-- Assignments under different names are all read back. -/
theorem get?_ofMembers_of_mem {members : List (String × Json)} {member : String × Json}
    (hnames : (members.map Prod.fst).Nodup) (h : member ∈ members) :
    (ofMembers members).get? member.1 = some member.2 := by
  obtain ⟨before, rest, rfl⟩ := List.append_of_mem h
  refine get?_ofMembers before fun other hother hname => ?_
  rw [List.map_append, List.map_cons, List.nodup_append] at hnames
  have hfresh := (List.nodup_cons.1 hnames.2.1).1
  exact hfresh (hname ▸ List.mem_map_of_mem hother)

/-- A name that is not assigned to is no member. -/
theorem get?_ofMembers_of_not_mem {members : List (String × Json)} {name : String}
    (h : name ∉ members.map Prod.fst) : (ofMembers members).get? name = none := by
  unfold ofMembers
  have hnull : Json.null.get? name = none := rfl
  generalize Json.null = j at hnull
  induction members generalizing j with
  | nil => exact hnull
  | cons member rest ih =>
    rw [List.map_cons, List.mem_cons, not_or] at h
    refine ih h.2 (j.set member.1 member.2) ?_
    rw [get?_set, if_neg h.1, hnull]

/-- The value has members, or none yet. -/
def Readable (j : Json) : Prop := j = .null ∨ j.isObject = true

instance (j : Json) : Decidable j.Readable :=
  match j with
  | .null => .isTrue (Or.inl rfl)
  | .object _ => .isTrue (Or.inr rfl)
  | .bool _ | .int _ | .real _ | .string _ | .array _ => .isFalse (by simp [Readable, isObject])

theorem readable_ofMembers (members : List (String × Json)) : (ofMembers members).Readable := by
  unfold ofMembers
  have hnull : Json.null.Readable := Or.inl rfl
  generalize Json.null = j at hnull
  induction members generalizing j with
  | nil => exact hnull
  | cons member rest ih =>
    refine ih (j.set member.1 member.2) (Or.inr ?_)
    unfold set
    split <;> rfl

/-- The members that are present, under their names. -/
def ofPresent (members : List (String × Option Json)) : Json :=
  ofMembers (members.filterMap fun member => member.2.map fun value => (member.1, value))

theorem get?_ofPresent {members : List (String × Option Json)}
    (hnames : (members.map Prod.fst).Nodup) {member : String × Option Json}
    (h : member ∈ members) : (ofPresent members).get? member.1 = member.2 := by
  have hsub : ((members.filterMap fun member => member.2.map fun value =>
      (member.1, value)).map Prod.fst).Sublist (members.map Prod.fst) := by
    clear hnames h
    induction members with
    | nil => exact List.Sublist.slnil
    | cons other rest ih =>
      obtain ⟨name, value⟩ := other
      cases value with
      | none => exact ih.cons name
      | some value => exact ih.cons_cons name
  obtain ⟨name, value⟩ := member
  cases value with
  | some value =>
    exact get?_ofMembers_of_mem (hnames.sublist hsub)
      (List.mem_filterMap.2 ⟨_, h, rfl⟩)
  | none =>
    refine get?_ofMembers_of_not_mem fun hmem => ?_
    obtain ⟨⟨_, value⟩, hpresent, rfl⟩ := List.mem_map.1 hmem
    obtain ⟨⟨other, found⟩, hother, hsome⟩ := List.mem_filterMap.1 hpresent
    obtain ⟨value', rfl, hpair⟩ := Option.map_eq_some_iff.1 hsome
    obtain ⟨rfl, rfl⟩ := Prod.mk.inj hpair
    exact nomatch Prod.mk.inj (List.inj_on_of_nodup_map hnames hother h rfl)

theorem mem_insertMember {name : String} {value : Json} {members : List (String × Json)}
    {member : String × Json} (h : member ∈ insertMember name value members) :
    member = (name, value) ∨ member ∈ members := by
  induction members with
  | nil => exact Or.inl (List.mem_singleton.1 h)
  | cons first rest ih =>
    unfold insertMember at h
    split_ifs at h with hself hbefore
    · rcases List.mem_cons.1 h with hnew | hrest
      · exact Or.inl hnew
      · exact Or.inr (List.mem_cons_of_mem _ hrest)
    · rcases List.mem_cons.1 h with hnew | hold
      · exact Or.inl hnew
      · exact Or.inr hold
    · rcases List.mem_cons.1 h with rfl | hrest
      · exact Or.inr List.mem_cons_self
      · rcases ih hrest with hnew | hold
        · exact Or.inl hnew
        · exact Or.inr (List.mem_cons_of_mem _ hold)

/-! ## Members at any depth -/

/-- A member of the document, at any depth, has the name. -/
inductive HasMember (name : String) : Json → Prop
  | here {members : List (String × Json)} {value : Json} (h : (name, value) ∈ members) :
      HasMember name (.object members)
  | under {members : List (String × Json)} {member : String × Json} (h : member ∈ members)
      (hvalue : HasMember name member.2) : HasMember name (.object members)
  | item {items : List Json} {j : Json} (h : j ∈ items) (hitem : HasMember name j) :
      HasMember name (.array items)

theorem HasMember.of_get? {j value : Json} {name : String} (h : j.get? name = some value) :
    j.HasMember name := by
  cases j with
  | object members =>
    obtain ⟨before, after, hmembers, _⟩ := List.lookup_eq_some_iff.1 h
    have hmember : (name, value) ∈ members := by
      rw [hmembers]
      exact List.mem_append_right _ List.mem_cons_self
    exact .here hmember
  | null | bool _ | int _ | real _ | string _ | array _ => simp [get?] at h

/-- The names of a document after an assignment. -/
theorem HasMember.of_set {j value : Json} {name other : String}
    (h : (j.set other value).HasMember name) :
    other = name ∨ value.HasMember name ∨ j.HasMember name := by
  cases j with
  | object members =>
    cases h with
    | here hmem =>
      rcases mem_insertMember hmem with hnew | hold
      · exact Or.inl (congrArg Prod.fst hnew).symm
      · exact Or.inr (Or.inr (.here hold))
    | under hmem hvalue =>
      rcases mem_insertMember hmem with rfl | hold
      · exact Or.inr (Or.inl hvalue)
      · exact Or.inr (Or.inr (.under hold hvalue))
  | null | bool _ | int _ | real _ | string _ | array _ =>
    cases h with
    | here hmem => exact Or.inl (congrArg Prod.fst (List.mem_singleton.1 hmem)).symm
    | under hmem hvalue =>
      rw [List.mem_singleton.1 hmem] at hvalue
      exact Or.inr (Or.inl hvalue)

@[simp] theorem not_hasMember_null (name : String) : ¬ Json.null.HasMember name := nofun

@[simp] theorem not_hasMember_bool (name : String) (value : Bool) :
    ¬ (Json.bool value).HasMember name := nofun

@[simp] theorem not_hasMember_int (name : String) (value : Int) :
    ¬ (Json.int value).HasMember name := nofun

@[simp] theorem not_hasMember_string (name text : String) :
    ¬ (Json.string text).HasMember name := nofun

/-- Assignments under other names, of values without the name. -/
theorem not_hasMember_ofMembers {name : String} {members : List (String × Json)}
    (h : ∀ member ∈ members, member.1 ≠ name ∧ ¬ member.2.HasMember name) :
    ¬ (ofMembers members).HasMember name := by
  unfold ofMembers
  have hnull : ¬ Json.null.HasMember name := not_hasMember_null name
  generalize Json.null = j at hnull
  induction members generalizing j with
  | nil => exact hnull
  | cons member members ih =>
    refine ih (fun m hm => h m (List.mem_cons_of_mem _ hm)) (j.set member.1 member.2) ?_
    intro hset
    obtain ⟨hne, hvalue⟩ := h member List.mem_cons_self
    rcases hset.of_set with hname | hin | hin
    · exact hne hname
    · exact hvalue hin
    · exact hnull hin

theorem not_hasMember_array {name : String} {items : List Json}
    (h : ∀ j ∈ items, ¬ j.HasMember name) : ¬ (Json.array items).HasMember name := by
  intro hmember
  cases hmember with
  | item hmem hitem => exact h _ hmem hitem

end Json
