import Mathlib.Data.List.Infix
import Mathlib.Data.List.TakeWhile

/-!
# Texts as lists of characters

What `std::getline` and `std::string::find` do to a text.
-/

namespace Text

/-- The lines that a `std::getline` loop reads.  A newline ends a line, and
the characters after the last newline are a line when there are any. -/
def getlines : List Char → List (List Char)
  | [] => []
  | c :: rest =>
    if c = '\n' then [] :: getlines rest
    else
      match getlines rest with
      | [] => [[c]]
      | line :: lines => (c :: line) :: lines

/-- The text before the first `c` and the text after it. -/
def splitFirst (c : Char) (text : List Char) : Option (List Char × List Char) :=
  match text.dropWhile (· ≠ c) with
  | [] => none
  | _ :: after => some (text.takeWhile (· ≠ c), after)

/-- The position of the first occurrence of `word`. -/
def find (word : List Char) : List Char → Option Nat
  | [] => if word = [] then some 0 else none
  | c :: rest =>
    if word.isPrefixOf (c :: rest) then some 0
    else (find word rest).map (· + 1)

/-- The first part of a split starts with the character that the whole text
starts with. -/
theorem head?_of_splitFirst {c : Char} {text before after : List Char}
    (h : splitFirst c text = some (before, after)) (hne : before ≠ []) :
    before.head? = text.head? := by
  unfold splitFirst at h
  split at h
  · simp at h
  · simp only [Option.some.injEq, Prod.mk.injEq] at h
    obtain ⟨rfl, _⟩ := h
    cases text with
    | nil => simp at hne
    | cons d rest =>
      by_cases hd : d = c
      · simp [hd] at hne
      · simp [hd]

/-- A text with a `c` is split at its first one. -/
theorem splitFirst_eq (c : Char) (text : List Char) :
    splitFirst c text =
      if c ∈ text then some (text.takeWhile (· ≠ c), (text.dropWhile (· ≠ c)).drop 1)
      else none := by
  unfold splitFirst
  split
  · rename_i hnone
    rw [List.dropWhile_eq_nil_iff] at hnone
    rw [if_neg fun hmem => by simpa using hnone c hmem]
  · rename_i hsome
    rw [if_pos, hsome, List.drop_one, List.tail_cons]
    by_contra hmem
    have hnil : text.dropWhile (· ≠ c) = [] := by
      rw [List.dropWhile_eq_nil_iff]
      intro d hd
      simpa using fun heq : d = c => hmem (heq ▸ hd)
    rw [hnil] at hsome
    cases hsome

theorem splitFirst_eq_some_iff {c : Char} {text before after : List Char} :
    splitFirst c text = some (before, after) ↔ text = before ++ c :: after ∧ c ∉ before := by
  induction text generalizing before with
  | nil => simp [splitFirst]
  | cons d rest ih =>
    by_cases hd : d = c
    · subst hd
      have hnow : splitFirst d (d :: rest) = some ([], rest) := by simp [splitFirst]
      rw [hnow]
      cases before with
      | nil => simp
      | cons e before =>
        simp only [Option.some.injEq, Prod.mk.injEq, List.cons_append, List.cons.injEq,
          reduceCtorEq, false_and, false_iff, not_and, List.mem_cons, not_or]
        rintro ⟨hsame, _⟩ hne
        exact absurd hsame hne
    · have hlater : splitFirst c (d :: rest) =
          (splitFirst c rest).map fun parts => (d :: parts.1, parts.2) := by
        unfold splitFirst
        rw [List.dropWhile_cons, List.takeWhile_cons, if_pos (by simpa using hd),
          if_pos (by simpa using hd)]
        split <;> rfl
      rw [hlater]
      cases before with
      | nil =>
        simp only [Option.map_eq_some_iff, Prod.mk.injEq, List.nil_append, List.cons.injEq]
        constructor
        · rintro ⟨_, _, hnil, _⟩
          cases hnil
        · rintro ⟨⟨hsame, _⟩, _⟩
          exact absurd hsame hd
      | cons e before =>
        simp only [Option.map_eq_some_iff, Prod.exists, Prod.mk.injEq, List.cons.injEq,
          List.cons_append, List.mem_cons, not_or]
        constructor
        · rintro ⟨_, _, hsplit, ⟨rfl, rfl⟩, rfl⟩
          obtain ⟨hrest, hbefore⟩ := ih.1 hsplit
          exact ⟨⟨rfl, hrest⟩, fun heq => hd heq.symm, hbefore⟩
        · rintro ⟨⟨rfl, hrest⟩, _, hbefore⟩
          exact ⟨before, after, ih.2 ⟨hrest, hbefore⟩, ⟨rfl, rfl⟩, rfl⟩

/-- The lines of `std::getline` are the pieces between newlines, except for an
empty piece at the end. -/
theorem splitOn_eq_getlines (text : List Char) :
    ∃ rest, text.splitOn '\n' = getlines text ++ rest ∧ ∀ line ∈ rest, line = [] := by
  induction text with
  | nil => exact ⟨[[]], rfl, by simp⟩
  | cons c text ih =>
    obtain ⟨rest, hsplit, hrest⟩ := ih
    have hcons : (c :: text).splitOn '\n' =
        if c = '\n' then [] :: text.splitOn '\n' else (text.splitOn '\n').modifyHead (c :: ·) := by
      simpa [List.splitOn] using List.splitOnP_cons_eq_if_modifyHead (p := (· == '\n')) c text
    rw [hcons, getlines, hsplit]
    by_cases hnewline : c = '\n'
    · rw [if_pos hnewline, if_pos hnewline]
      exact ⟨rest, rfl, hrest⟩
    · rw [if_neg hnewline, if_neg hnewline]
      cases hlines : getlines text with
      | cons line lines => exact ⟨rest, rfl, hrest⟩
      | nil =>
        cases rest with
        | nil =>
          rw [hlines] at hsplit
          exact absurd hsplit (List.splitOnP_ne_nil _ _)
        | cons line rest =>
          have hempty : line = [] := hrest line List.mem_cons_self
          rw [hempty]
          exact ⟨rest, rfl, fun line hline => hrest line (List.mem_cons_of_mem _ hline)⟩

/-- A line that ends with a newline is read first. -/
theorem getlines_append {line : List Char} (h : '\n' ∉ line) (rest : List Char) :
    getlines (line ++ '\n' :: rest) = line :: getlines rest := by
  induction line with
  | nil => exact if_pos rfl
  | cons c line ih =>
    have hnewline : c ≠ '\n' := fun heq => h (heq ▸ List.mem_cons_self)
    rw [List.cons_append, getlines, if_neg hnewline,
      ih fun hmem => h (List.mem_cons_of_mem c hmem)]

/-- Lines that are written one after another are read again. -/
theorem getlines_flatMap {lines : List (List Char)} (h : ∀ line ∈ lines, '\n' ∉ line) :
    getlines (lines.flatMap fun line => line ++ ['\n']) = lines := by
  induction lines with
  | nil => rfl
  | cons line lines ih =>
    rw [List.flatMap_cons, List.append_assoc, List.singleton_append,
      getlines_append (h line List.mem_cons_self),
      ih fun other hother => h other (List.mem_cons_of_mem line hother)]

theorem newline_not_mem_of_mem_getlines {text line : List Char} (h : line ∈ getlines text) :
    '\n' ∉ line := by
  induction text generalizing line with
  | nil => cases h
  | cons c text ih =>
    rw [getlines] at h
    by_cases hc : c = '\n'
    · rw [if_pos hc] at h
      rcases List.mem_cons.1 h with rfl | hrest
      · exact List.not_mem_nil
      · exact ih hrest
    · rw [if_neg hc] at h
      have hfirst : ∀ line, '\n' ∉ line → '\n' ∉ c :: line := by
        intro line hline hmem
        rcases List.mem_cons.1 hmem with heq | hmem
        · exact hc heq.symm
        · exact hline hmem
      cases hlines : getlines text with
      | nil =>
        rw [hlines] at h
        rw [List.mem_singleton.1 h]
        exact hfirst [] List.not_mem_nil
      | cons first rest =>
        rw [hlines] at h ih
        rcases List.mem_cons.1 h with rfl | hrest
        · exact hfirst first (ih List.mem_cons_self)
        · exact ih (List.mem_cons_of_mem first hrest)

/-! ## The first occurrence -/

theorem find_of_isPrefixOf {word text : List Char} (h : word <+: text) :
    find word text = some 0 := by
  cases text with
  | nil =>
    rw [List.prefix_nil.1 h]
    rfl
  | cons c rest =>
    rw [find, if_pos (List.isPrefixOf_iff_prefix.2 h)]

/-- A word whose first character does not come again in it cannot begin before `before` ends,
unless it is in `before`. -/
theorem not_prefix_of_not_infix {c : Char} {tail before : List Char} (rest : List Char)
    (hc : c ∉ tail) (hsome : before ≠ []) (hbefore : ¬ (c :: tail) <:+: before) :
    ¬ (c :: tail) <+: before ++ (c :: tail ++ rest) := by
  rintro ⟨after, hafter⟩
  rcases List.append_eq_append_iff.1 hafter with ⟨between, hlong, _⟩ | ⟨between, hlong, hrest⟩
  · exact hbefore ⟨[], between, by rw [hlong]; rfl⟩
  · cases between with
    | nil =>
      rw [List.append_nil] at hlong
      exact hbefore ⟨[], [], by rw [← hlong]; simp⟩
    | cons d between =>
      -- The word would go on into its second occurrence, and have its first character there.
      have hd : d = c := (List.cons.inj hrest).1.symm
      cases before with
      | nil => exact hsome rfl
      | cons e before =>
        have htail : tail = before ++ d :: between := (List.cons.inj hlong).2
        exact hc (by rw [htail, hd]; simp)

/-- The first occurrence of such a word is where it is known to be, when it is not before. -/
theorem find_append {c : Char} {tail before : List Char} (rest : List Char) (hc : c ∉ tail)
    (hbefore : ¬ (c :: tail) <:+: before) :
    find (c :: tail) (before ++ (c :: tail ++ rest)) = some before.length := by
  induction before with
  | nil => exact find_of_isPrefixOf (List.prefix_append _ _)
  | cons d before ih =>
    have hprefix := not_prefix_of_not_infix rest hc (List.cons_ne_nil d before) hbefore
    have hrest : ¬ (c :: tail) <:+: before := fun hinside =>
      hbefore (hinside.trans (List.suffix_cons d before).isInfix)
    rw [List.cons_append] at hprefix ⊢
    rw [find, if_neg fun hp => hprefix (List.isPrefixOf_iff_prefix.1 hp), ih hrest]
    rfl

/-- The first occurrence of a character. -/
theorem find_singleton_append {c : Char} {before : List Char} (rest : List Char)
    (hc : c ∉ before) : find [c] (before ++ c :: rest) = some before.length := by
  have hnil : c ∉ ([] : List Char) := List.not_mem_nil
  refine find_append rest hnil fun hinside => hc ?_
  exact hinside.subset List.mem_cons_self

/-- The position that `find` returns is that of an occurrence, and none is before it. -/
theorem find_eq_some {word text : List Char} {n : Nat} (hword : word ≠ [])
    (h : find word text = some n) :
    ∃ before after, text = before ++ (word ++ after) ∧ before.length = n ∧
      ¬ word <:+: before := by
  induction text generalizing n with
  | nil =>
    rw [find, if_neg hword] at h
    cases h
  | cons c rest ih =>
    rw [find] at h
    by_cases hprefix : word.isPrefixOf (c :: rest) = true
    · rw [if_pos hprefix] at h
      cases h
      obtain ⟨after, hafter⟩ := List.isPrefixOf_iff_prefix.1 hprefix
      refine ⟨[], after, hafter.symm, rfl, fun hinside => hword ?_⟩
      exact List.infix_nil.1 hinside
    · rw [if_neg hprefix] at h
      obtain ⟨m, hm, rfl⟩ := Option.map_eq_some_iff.1 h
      obtain ⟨before, after, hrest, hlength, hbefore⟩ := ih hm
      refine ⟨c :: before, after, congrArg (c :: ·) hrest, congrArg (· + 1) hlength,
        fun hinside => ?_⟩
      rcases List.infix_cons_iff.1 hinside with hstart | hlater
      · refine hprefix (List.isPrefixOf_iff_prefix.2 (hstart.trans ?_))
        rw [hrest]
        exact List.prefix_append (c :: before) _
      · exact hbefore hlater

/-- The first occurrence of a character, with the text around it. -/
theorem find_singleton_eq_some {c : Char} {text : List Char} {n : Nat}
    (h : find [c] text = some n) :
    ∃ before after, text = before ++ c :: after ∧ before.length = n ∧ c ∉ before := by
  obtain ⟨before, after, htext, hlength, hbefore⟩ := find_eq_some (List.cons_ne_nil c []) h
  refine ⟨before, after, htext, hlength, fun hmem => hbefore ?_⟩
  exact (List.singleton_infix_iff _ _).2 hmem

/-! ## Positions -/

theorem eq_append_of_getElem? {text : List Char} {n : Nat} {c : Char} (h : text[n]? = some c) :
    text = text.take n ++ c :: text.drop (n + 1) := by
  obtain ⟨hn, hc⟩ := List.getElem?_eq_some_iff.1 h
  rw [← hc, ← List.drop_eq_getElem_cons hn, List.take_append_drop]

theorem drop_append_cons {before after : List Char} {c : Char} {n : Nat}
    (h : before.length = n) : (before ++ c :: after).drop (n + 1) = after := by
  rw [← h, ← List.drop_drop, List.drop_left, List.drop_one, List.tail_cons]

theorem getElem?_append_cons {before after : List Char} {c : Char} {n : Nat}
    (h : before.length = n) : (before ++ c :: after)[n]? = some c := by
  rw [List.getElem?_append_right (le_of_eq h), h, Nat.sub_self]
  rfl

end Text
