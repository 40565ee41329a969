import Mathlib.Data.List.Find
import Mathlib.Data.List.Infix
import Mathlib.Data.List.Pairwise

/-!
# Replacing patterns in a text

A rule replaces the occurrences of its pattern.  A text is read from the left: where a pattern
begins, the whole occurrence is replaced, and reading goes on after it.

* `pieces` cuts a text into characters and occurrences, and `substitute` fills the
  occurrences.  `pieces_induction` is the induction on this reading.
* `Apart` says that no occurrence of a pattern has a character of an inserted text.
* `foldl_substitute` says that one rule after another does what all of them do at once, when
  the rules are `Compatible`, and `foldl_substitute_of_undisturbing` for one text.
* `substitute_fill_iff` says when a rule finds the occurrences that it should in a text that
  other rules have filled.
* `substitute_of_redundant` drops a rule that adds nothing, and `substitute_singleton_ne` says
  when a replacement changes a text.
-/

namespace Substitution

variable {α : Type} [DecidableEq α]

/-- A pattern and what is put in its place. -/
structure Rule (α : Type) where
  pattern : List α
  substitute : List α
  pattern_ne : pattern ≠ []
deriving DecidableEq

/-- A part of a text that was read: a character, or an occurrence of a pattern. -/
inductive Piece (α : Type) where
  | char (a : α)
  | hole (rule : Rule α)

/-- The first rule whose pattern begins a text. -/
def matching (rules : List (Rule α)) (text : List α) : Option (Rule α) :=
  rules.find? fun rule => rule.pattern.isPrefixOf text

/-- The pieces of a text, after the rest of the occurrence that was read last. -/
def pieces (rules : List (Rule α)) : Nat → List α → List (Piece α)
  | _, [] => []
  | skip + 1, _ :: text => pieces rules skip text
  | 0, a :: text =>
    match matching rules (a :: text) with
    | some rule => .hole rule :: pieces rules (rule.pattern.length - 1) text
    | none => .char a :: pieces rules 0 text

/-- A text that is put together from pieces. -/
def fill (f : Rule α → List α) : List (Piece α) → List α
  | [] => []
  | .char a :: rest => a :: fill f rest
  | .hole rule :: rest => f rule ++ fill f rest

/-- Every occurrence of a pattern is replaced. -/
def substitute (rules : List (Rule α)) (text : List α) : List α :=
  fill Rule.substitute (pieces rules 0 text)

/-! ## Reading -/

variable {rules : List (Rule α)} {rule : Rule α} {text : List α}

theorem matching_eq_some (h : matching rules text = some rule) :
    rule ∈ rules ∧ rule.pattern <+: text := by
  refine ⟨List.mem_of_find?_eq_some h, ?_⟩
  have hstarts := List.find?_some h
  exact List.isPrefixOf_iff_prefix.1 hstarts

theorem matching_eq_none_iff :
    matching rules text = none ↔ ∀ rule ∈ rules, ¬ rule.pattern <+: text := by
  simp [matching, ← List.isPrefixOf_iff_prefix]

theorem matching_singleton (h : rule.pattern <+: text) : matching [rule] text = some rule := by
  simp [matching, List.isPrefixOf_iff_prefix.2 h]

theorem pieces_skip (skipped text : List α) :
    pieces rules skipped.length (skipped ++ text) = pieces rules 0 text := by
  induction skipped with
  | nil => rfl
  | cons a skipped ih => exact ih

theorem pieces_of_matching (h : matching rules (rule.pattern ++ text) = some rule) :
    pieces rules 0 (rule.pattern ++ text) = .hole rule :: pieces rules 0 text := by
  obtain ⟨a, rest, hpattern⟩ := List.exists_cons_of_ne_nil rule.pattern_ne
  rw [hpattern, List.cons_append] at h ⊢
  rw [pieces, h]
  simp only [hpattern, List.length_cons, Nat.add_sub_cancel, pieces_skip]

theorem pieces_of_not_matching {a : α} (h : matching rules (a :: text) = none) :
    pieces rules 0 (a :: text) = .char a :: pieces rules 0 text := by
  rw [pieces, h]

/-- To prove something of every text, go from a text to the text with one more piece before
it. -/
theorem pieces_induction {motive : List α → Prop} (rules : List (Rule α)) (nil : motive [])
    (char : ∀ a text, matching rules (a :: text) = none → motive text → motive (a :: text))
    (hole : ∀ rule text, matching rules (rule.pattern ++ text) = some rule → motive text →
      motive (rule.pattern ++ text)) (text : List α) : motive text := by
  induction hlength : text.length using Nat.strong_induction_on generalizing text with
  | _ n ih =>
    cases text with
    | nil => exact nil
    | cons a rest =>
      subst hlength
      cases hmatching : matching rules (a :: rest) with
      | none => exact char a rest hmatching (ih rest.length (by simp) rest rfl)
      | some rule =>
        obtain ⟨after, hafter⟩ := (matching_eq_some hmatching).2
        rw [← hafter] at hmatching ⊢
        refine hole rule after hmatching (ih after.length ?_ after rfl)
        have hpositive := List.length_pos_of_ne_nil rule.pattern_ne
        rw [← hafter, List.length_append]
        omega

/-- The pieces make up the text. -/
theorem fill_pattern_pieces (rules : List (Rule α)) (text : List α) :
    fill Rule.pattern (pieces rules 0 text) = text := by
  induction text using pieces_induction rules with
  | nil => rfl
  | char a text hmatching ih => rw [pieces_of_not_matching hmatching, fill, ih]
  | hole rule text hmatching ih => rw [pieces_of_matching hmatching, fill, ih]

theorem fill_congr {f g : Rule α → List α} (h : ∀ rule ∈ rules, f rule = g rule)
    (text : List α) : fill f (pieces rules 0 text) = fill g (pieces rules 0 text) := by
  induction text using pieces_induction rules with
  | nil => rfl
  | char a text hmatching ih => rw [pieces_of_not_matching hmatching, fill, fill, ih]
  | hole rule text hmatching ih =>
    rw [pieces_of_matching hmatching, fill, fill, ih, h rule (matching_eq_some hmatching).1]

/-! ## Replacing -/

theorem substitute_pattern_append (h : matching rules (rule.pattern ++ text) = some rule) :
    substitute rules (rule.pattern ++ text) = rule.substitute ++ substitute rules text := by
  unfold substitute
  rw [pieces_of_matching h, fill]

theorem substitute_singleton_pattern_append (rule : Rule α) (text : List α) :
    substitute [rule] (rule.pattern ++ text) = rule.substitute ++ substitute [rule] text :=
  substitute_pattern_append (matching_singleton (List.prefix_append _ _))

theorem substitute_cons {a : α} (h : matching rules (a :: text) = none) :
    substitute rules (a :: text) = a :: substitute rules text := by
  unfold substitute
  rw [pieces_of_not_matching h, fill]

/-- A text stays when no occurrence begins in it. -/
theorem substitute_append {before : List α}
    (h : ∀ rule ∈ rules, ∀ x, x <:+ before → x ≠ [] → ¬ rule.pattern <+: x ++ text) :
    substitute rules (before ++ text) = before ++ substitute rules text := by
  induction before with
  | nil => rfl
  | cons a before ih =>
    have hnone : matching rules (a :: (before ++ text)) = none :=
      matching_eq_none_iff.2 fun rule hrule =>
        h rule hrule (a :: before) (List.suffix_refl _) (List.cons_ne_nil a before)
    rw [List.cons_append, substitute_cons hnone, ih fun rule hrule x hx hne =>
      h rule hrule x (hx.trans (List.suffix_cons a before)) hne]
    rfl

/-- A text without occurrences stays. -/
theorem substitute_eq_self (h : ∀ rule ∈ rules, ¬ rule.pattern <:+: text) :
    substitute rules text = text := by
  have hstays : substitute rules (text ++ []) = text ++ substitute rules [] :=
    substitute_append fun rule hrule x hx _ hstarts => by
      rw [List.append_nil] at hstarts
      exact h rule hrule (hstarts.isInfix.trans hx.isInfix)
  simpa [substitute, pieces, fill] using hstays

/-- A text without a character of the pattern stays. -/
theorem substitute_singleton_of_not_mem {c : α} (hc : c ∈ rule.pattern) (h : c ∉ text) :
    substitute [rule] text = text := by
  refine substitute_eq_self fun other hother hinside => h ?_
  rw [List.mem_singleton.1 hother] at hinside
  exact hinside.subset hc

/-- What comes out is made of the text and of what the rules put into it. -/
theorem mem_substitute {a : α} (h : a ∈ substitute rules text) :
    a ∈ text ∨ ∃ rule ∈ rules, a ∈ rule.substitute := by
  induction text using pieces_induction rules with
  | nil => exact Or.inl h
  | char b text hmatching ih =>
    rw [substitute_cons hmatching] at h
    rcases List.mem_cons.1 h with rfl | hrest
    · exact Or.inl List.mem_cons_self
    · exact (ih hrest).imp_left (List.mem_cons_of_mem b)
  | hole rule text hmatching ih =>
    rw [substitute_pattern_append hmatching] at h
    rcases List.mem_append.1 h with hput | hrest
    · exact Or.inr ⟨rule, (matching_eq_some hmatching).1, hput⟩
    · exact (ih hrest).imp_left (List.mem_append_right rule.pattern)

/-- Nothing comes out of nothing only, unless a rule deletes. -/
theorem substitute_ne_nil (hput : ∀ rule ∈ rules, rule.substitute ≠ []) (h : text ≠ []) :
    substitute rules text ≠ [] := by
  induction text using pieces_induction rules with
  | nil => exact absurd rfl h
  | char b text hmatching ih =>
    rw [substitute_cons hmatching]
    exact List.cons_ne_nil _ _
  | hole rule text hmatching ih =>
    rw [substitute_pattern_append hmatching]
    exact List.append_ne_nil_of_left_ne_nil (hput rule (matching_eq_some hmatching).1) _

/-! ## Occurrences that touch a text -/

/-- One text begins the other. -/
def Meet (x y : List α) : Prop := x <+: y ∨ y <+: x

/-- An occurrence of the pattern can begin in the text. -/
def BeginsIn (pattern text : List α) : Prop := ∃ x ∈ text.tails, x ≠ [] ∧ Meet pattern x

/-- An occurrence of the pattern that begins before the text can run into it. -/
def RunsInto (pattern text : List α) : Prop :=
  ∃ y ∈ pattern.tail.tails, y ≠ [] ∧ Meet y text

/-- No occurrence of the pattern has a character of the text. -/
def Apart (pattern text : List α) : Prop := ¬ BeginsIn pattern text ∧ ¬ RunsInto pattern text

instance (x y : List α) : Decidable (Meet x y) := inferInstanceAs (Decidable (_ ∨ _))

instance (pattern text : List α) : Decidable (BeginsIn pattern text) :=
  inferInstanceAs (Decidable (∃ x ∈ text.tails, x ≠ [] ∧ Meet pattern x))

instance (pattern text : List α) : Decidable (RunsInto pattern text) :=
  inferInstanceAs (Decidable (∃ y ∈ pattern.tail.tails, y ≠ [] ∧ Meet y text))

instance (pattern text : List α) : Decidable (Apart pattern text) :=
  inferInstanceAs (Decidable (_ ∧ _))

omit [DecidableEq α] in
theorem beginsIn_of_starts {pattern inserted x : List α} (hx : x <:+ inserted) (hne : x ≠ [])
    (h : pattern <+: x ++ text) : BeginsIn pattern inserted :=
  ⟨x, (List.mem_tails x inserted).2 hx, hne,
    List.prefix_or_prefix_of_prefix h (List.prefix_append x text)⟩

omit [DecidableEq α] in
theorem beginsIn_of_suffix {pattern before text : List α} (hsuffix : before <:+ text)
    (h : BeginsIn pattern before) : BeginsIn pattern text := by
  obtain ⟨x, hx, hne, hmeet⟩ := h
  exact ⟨x, (List.mem_tails _ _).2 (((List.mem_tails _ _).1 hx).trans hsuffix), hne, hmeet⟩

omit [DecidableEq α] in
/-- A pattern does not begin in a text without its first character. -/
theorem not_beginsIn_of_not_mem {a : α} {rest : List α} (h : a ∉ text) :
    ¬ BeginsIn (a :: rest) text := by
  rintro ⟨x, hx, hne, hmeet⟩
  obtain ⟨b, x, rfl⟩ := List.exists_cons_of_ne_nil hne
  have hb : b ∈ text := ((List.mem_tails _ _).1 hx).subset List.mem_cons_self
  rcases hmeet with hstarts | hstarts
  · exact h ((List.cons_prefix_cons.1 hstarts).1 ▸ hb)
  · exact h ((List.cons_prefix_cons.1 hstarts).1 ▸ hb)

omit [DecidableEq α] in
/-- An occurrence ends in the first of two texts or goes on into the second. -/
theorem prefix_append_cases {pattern x rest : List α} (h : pattern <+: x ++ rest) :
    pattern <+: x ∨ ∃ b y, pattern = x ++ b :: y ∧ b :: y <+: rest := by
  rcases List.prefix_or_prefix_of_prefix h (List.prefix_append x _) with hbefore | ⟨y, rfl⟩
  · exact Or.inl hbefore
  · cases y with
    | nil => exact Or.inl (by rw [List.append_nil])
    | cons b y => exact Or.inr ⟨b, y, rfl, (List.prefix_append_right_inj _).1 h⟩

omit [DecidableEq α] in
/-- A pattern without a character ends before it. -/
theorem prefix_of_not_mem {a : α} {pattern x rest : List α} (ha : a ∉ pattern)
    (h : pattern <+: x ++ a :: rest) : pattern <+: x := by
  rcases prefix_append_cases h with hbefore | ⟨b, y, rfl, hstarts⟩
  · exact hbefore
  · have hb := (List.cons_prefix_cons.1 hstarts).1
    exact absurd (by simp [hb]) ha

omit [DecidableEq α] in
theorem not_meet_append {a : α} {pattern : List α} (before : List α) (ha : a ∉ pattern)
    (hlong : before.length < pattern.length) : ¬ Meet pattern (before ++ a :: text) := by
  rintro (hstarts | hstarts)
  · have hle := (prefix_of_not_mem ha hstarts).length_le
    omega
  · exact ha (hstarts.subset (by simp))

omit [DecidableEq α] in
/-- A long pattern does not begin in a text before a character that it does not have. -/
theorem beginsIn_of_append {a : α} {pattern before : List α} (ha : a ∉ pattern)
    (hlong : before.length < pattern.length) (h : BeginsIn pattern (before ++ a :: text)) :
    BeginsIn pattern text := by
  induction before with
  | nil =>
    obtain ⟨x, hx, hne, hmeet⟩ := h
    rcases List.suffix_cons_iff.1 ((List.mem_tails _ _).1 hx) with rfl | hlater
    · exact absurd hmeet (not_meet_append [] ha hlong)
    · exact ⟨x, (List.mem_tails _ _).2 hlater, hne, hmeet⟩
  | cons b before ih =>
    obtain ⟨x, hx, hne, hmeet⟩ := h
    rcases List.suffix_cons_iff.1 ((List.mem_tails _ _).1 hx) with rfl | hlater
    · exact absurd hmeet (not_meet_append (b :: before) ha hlong)
    · rw [List.length_cons] at hlong
      exact ih (by omega) ⟨x, (List.mem_tails _ _).2 hlater, hne, hmeet⟩

omit [DecidableEq α] in
theorem runsInto_of_append {pattern before : List α} (h : RunsInto pattern (before ++ text)) :
    RunsInto pattern before := by
  obtain ⟨y, hy, hne, hstarts | hstarts⟩ := h
  · exact ⟨y, hy, hne, List.prefix_or_prefix_of_prefix hstarts (List.prefix_append before text)⟩
  · exact ⟨y, hy, hne, Or.inr ((List.prefix_append before text).trans hstarts)⟩

/-- A text that is shorter than the pattern and in it. -/
def PartOf (part pattern : List α) : Prop := part <:+: pattern ∧ part.length < pattern.length

omit [DecidableEq α] in
/-- Where a pattern can begin in a text, a part of it after the text completes it. -/
theorem exists_after_of_beginsIn {pattern : List α} (hpattern : pattern ≠ [])
    (h : BeginsIn pattern text) : ∃ after, PartOf after pattern ∧ pattern <:+: text ++ after := by
  obtain ⟨x, hx, hne, hmeet⟩ := h
  obtain ⟨before, rfl⟩ := (List.mem_tails _ _).1 hx
  rcases hmeet with hstarts | ⟨after, rfl⟩
  · refine ⟨[], ⟨List.nil_infix, List.length_pos_of_ne_nil hpattern⟩, ?_⟩
    rw [List.append_nil]
    exact hstarts.isInfix.trans (List.suffix_append before x).isInfix
  · refine ⟨after, ⟨(List.suffix_append x after).isInfix, ?_⟩, ?_⟩
    · have hpositive := List.length_pos_of_ne_nil hne
      rw [List.length_append]
      omega
    · rw [List.append_assoc]
      exact (List.suffix_append before (x ++ after)).isInfix

omit [DecidableEq α] in
/-- Where a pattern can run into a text, a part of it before the text begins it, and a part of
it after the text completes it. -/
theorem exists_around_of_runsInto {pattern : List α} (h : RunsInto pattern text) :
    ∃ before after, PartOf before pattern ∧ PartOf after pattern ∧
      pattern <:+: before ++ (text ++ after) := by
  obtain ⟨y, hy, hne, hmeet⟩ := h
  obtain ⟨between, hbetween⟩ := (List.mem_tails _ _).1 hy
  cases pattern with
  | nil => simp_all
  | cons a rest =>
    change between ++ y = rest at hbetween
    subst hbetween
    have hpositive := List.length_pos_of_ne_nil hne
    have hbefore : PartOf (a :: between) (a :: (between ++ y)) := by
      refine ⟨(List.prefix_append (a :: between) y).isInfix, ?_⟩
      simp only [List.length_cons, List.length_append]
      omega
    rcases hmeet with ⟨rest, rfl⟩ | ⟨after, rfl⟩
    · refine ⟨a :: between, [], hbefore, ⟨List.nil_infix, by simp⟩, ?_⟩
      exact ⟨[], rest, by simp⟩
    · refine ⟨a :: between, after, hbefore, ⟨?_, ?_⟩, ?_⟩
      · exact ⟨a :: (between ++ text), [], by simp⟩
      · simp only [List.length_cons, List.length_append]
        omega
      · exact List.infix_refl _

omit [DecidableEq α] in
/-- An occurrence that begins before an inserted text ends before it. -/
theorem prefix_of_not_runsInto {pattern inserted x : List α} (hne : x ≠ [])
    (hruns : ¬ RunsInto pattern inserted) (h : pattern <+: x ++ (inserted ++ text)) :
    pattern <+: x := by
  rcases prefix_append_cases h with hbefore | ⟨b, y, rfl, hstarts⟩
  · exact hbefore
  · obtain ⟨a, x, rfl⟩ := List.exists_cons_of_ne_nil hne
    refine absurd ⟨b :: y, ?_, List.cons_ne_nil b y, ?_⟩ hruns
    · exact (List.mem_tails _ _).2 (List.suffix_append x (b :: y))
    · exact List.prefix_or_prefix_of_prefix hstarts (List.prefix_append inserted text)

/-- A text stays when no pattern can begin in it. -/
theorem substitute_append_of_not_beginsIn {before : List α}
    (h : ∀ rule ∈ rules, ¬ BeginsIn rule.pattern before) (text : List α) :
    substitute rules (before ++ text) = before ++ substitute rules text :=
  substitute_append fun rule hrule _ hx hne hstarts =>
    h rule hrule (beginsIn_of_starts hx hne hstarts)

theorem substitute_singleton_append {before : List α} (h : ¬ BeginsIn rule.pattern before)
    (text : List α) : substitute [rule] (before ++ text) = before ++ substitute [rule] text := by
  refine substitute_append_of_not_beginsIn (fun other hother => ?_) text
  rw [List.mem_singleton.1 hother]
  exact h

/-! ## Separators -/

/-- A character that no pattern has ends every occurrence before it. -/
theorem matching_append_separator {c : α} (hc : ∀ rule ∈ rules, c ∉ rule.pattern)
    (text rest : List α) : matching rules (text ++ c :: rest) = matching rules text := by
  unfold matching
  refine List.find?_congr fun rule hrule => ?_
  rw [Bool.eq_iff_iff, List.isPrefixOf_iff_prefix, List.isPrefixOf_iff_prefix]
  exact ⟨prefix_of_not_mem (hc rule hrule),
    fun hstarts => hstarts.trans (List.prefix_append text _)⟩

/-- What is before such a character and what is after it are replaced on their own. -/
theorem substitute_append_separator {c : α} (hc : ∀ rule ∈ rules, c ∉ rule.pattern)
    (text rest : List α) :
    substitute rules (text ++ c :: rest) =
      substitute rules text ++ c :: substitute rules rest := by
  induction text using pieces_induction rules with
  | nil =>
    have hnone : matching rules (c :: rest) = none :=
      (matching_append_separator hc [] rest).trans (matching_eq_none_iff.2 fun rule _ hstarts =>
        rule.pattern_ne (List.prefix_nil.1 hstarts))
    exact substitute_cons hnone
  | char a text hmatching ih =>
    have hnone := (matching_append_separator hc (a :: text) rest).trans hmatching
    rw [substitute_cons hmatching]
    exact (substitute_cons hnone).trans (congrArg (a :: ·) ih)
  | hole rule text hmatching ih =>
    have hsome := (matching_append_separator hc (rule.pattern ++ text) rest).trans hmatching
    rw [List.append_assoc] at hsome ⊢
    rw [substitute_pattern_append hsome, substitute_pattern_append hmatching, ih,
      List.append_assoc]

/-! ## One rule after another -/

section Stages

variable {f g : Rule α → List α}

/-- While some occurrences are filled, no occurrence of a pattern runs into them: one that
begins before them was there in the text. -/
theorem prefix_of_prefix_fill {x : List α} (hne : x ≠ [])
    (hf : ∀ other ∈ rules, f other = other.pattern ∨ ¬ RunsInto rule.pattern (f other))
    (h : rule.pattern <+: x ++ fill f (pieces rules 0 text)) : rule.pattern <+: x ++ text := by
  induction text using pieces_induction rules generalizing x with
  | nil => exact h
  | char a text hmatching ih =>
    rw [pieces_of_not_matching hmatching, fill, List.append_cons] at h
    rw [List.append_cons]
    exact ih (by simp) h
  | hole other text hmatching ih =>
    rw [pieces_of_matching hmatching, fill] at h
    rcases hf other (matching_eq_some hmatching).1 with hpattern | hruns
    · rw [hpattern, ← List.append_assoc] at h
      rw [← List.append_assoc]
      exact ih (by simp [hne]) h
    · exact (prefix_of_not_runsInto hne hruns h).trans (List.prefix_append x _)

/-- In a text whose occurrences are filled, the pattern of a rule has no occurrence but those
that were read as its own. -/
def Undisturbed (rule : Rule α) (f : Rule α → List α) : List (Piece α) → Prop
  | [] => True
  | .char a :: rest => ¬ rule.pattern <+: a :: fill f rest ∧ Undisturbed rule f rest
  | .hole other :: rest =>
    (other = rule ∨ ∀ x ∈ (f other).tails, x ≠ [] → ¬ rule.pattern <+: x ++ fill f rest) ∧
      Undisturbed rule f rest

instance (rule : Rule α) (f : Rule α → List α) :
    (parts : List (Piece α)) → Decidable (Undisturbed rule f parts)
  | [] => isTrue trivial
  | .char _ :: rest =>
    have := instDecidableUndisturbed rule f rest
    inferInstanceAs (Decidable (_ ∧ _))
  | .hole _ :: rest =>
    have := instDecidableUndisturbed rule f rest
    inferInstanceAs (Decidable (_ ∧ _))

/-- A rule then fills its own occurrences. -/
theorem substitute_fill {parts : List (Piece α)} (hpattern : f rule = rule.pattern)
    (hsubstitute : g rule = rule.substitute) (hothers : ∀ other, other ≠ rule → g other = f other)
    (h : Undisturbed rule f parts) : substitute [rule] (fill f parts) = fill g parts := by
  induction parts with
  | nil => rfl
  | cons part rest ih =>
    cases part with
    | char a =>
      obtain ⟨hpart, hrest⟩ := h
      have hnone : matching [rule] (a :: fill f rest) = none := by
        refine matching_eq_none_iff.2 fun other hother => ?_
        rw [List.mem_singleton.1 hother]
        exact hpart
      rw [fill, fill, substitute_cons hnone, ih hrest]
    | hole other =>
      obtain ⟨hpart, hrest⟩ := h
      rw [fill, fill]
      by_cases hsame : other = rule
      · subst hsame
        rw [hpattern, hsubstitute, substitute_singleton_pattern_append, ih hrest]
      · rw [hothers other hsame, substitute_append, ih hrest]
        intro single hsingle x hx hne
        rw [List.mem_singleton.1 hsingle]
        exact hpart.resolve_left hsame x ((List.mem_tails _ _).2 hx) hne

/-- That is so when the pattern does not begin in the other occurrences and does not run into
those that are filled already. -/
theorem undisturbed_pieces (hrule : rule ∈ rules) (hpattern : f rule = rule.pattern)
    (hothers : ∀ other ∈ rules, other ≠ rule → ¬ BeginsIn rule.pattern (f other) ∧
      (f other = other.pattern ∨ ¬ RunsInto rule.pattern (f other))) (text : List α) :
    Undisturbed rule f (pieces rules 0 text) := by
  have hf : ∀ other ∈ rules, f other = other.pattern ∨ ¬ RunsInto rule.pattern (f other) := by
    intro other hother
    by_cases hsame : other = rule
    · rw [hsame]
      exact Or.inl hpattern
    · exact (hothers other hother hsame).2
  induction text using pieces_induction rules with
  | nil => exact trivial
  | char a text hmatching ih =>
    rw [pieces_of_not_matching hmatching]
    refine ⟨fun hstarts => matching_eq_none_iff.1 hmatching rule hrule ?_, ih⟩
    exact prefix_of_prefix_fill (x := [a]) (List.cons_ne_nil a []) hf hstarts
  | hole other text hmatching ih =>
    rw [pieces_of_matching hmatching]
    refine ⟨or_iff_not_imp_left.2 fun hsame x hx hne hstarts => ?_, ih⟩
    exact (hothers other (matching_eq_some hmatching).1 hsame).1
      (beginsIn_of_starts ((List.mem_tails _ _).1 hx) hne hstarts)

end Stages

/-- The occurrences of the rules that are still to come stand as they are. -/
def pending (rules : List (Rule α)) (rule : Rule α) : List α :=
  if rule ∈ rules then rule.pattern else rule.substitute

/-- One rule after another finds its own occurrences in the text that the rules before it have
filled.  The occurrences of `todo` are not filled. -/
def Undisturbing (parts : List (Piece α)) (todo : List (Rule α)) : List (Rule α) → Prop
  | [] => True
  | rule :: rules =>
    Undisturbed rule (pending (rule :: rules ++ todo)) parts ∧ Undisturbing parts todo rules

instance (parts : List (Piece α)) (todo : List (Rule α)) :
    (rules : List (Rule α)) → Decidable (Undisturbing parts todo rules)
  | [] => isTrue trivial
  | _ :: rules =>
    have := instDecidableUndisturbing parts todo rules
    inferInstanceAs (Decidable (_ ∧ _))

/-- The rules then fill their occurrences. -/
theorem foldl_substitute_fill {parts : List (Piece α)} {todo : List (Rule α)}
    (hnodup : (rules ++ todo).Nodup) (h : Undisturbing parts todo rules) :
    rules.foldl (fun text rule => substitute [rule] text)
        (fill (pending (rules ++ todo)) parts) = fill (pending todo) parts := by
  induction rules with
  | nil => rfl
  | cons rule rules ih =>
    obtain ⟨hnew, hnodup⟩ := List.nodup_cons.1 hnodup
    have hothers : ∀ other, other ≠ rule →
        pending (rules ++ todo) other = pending (rule :: rules ++ todo) other := by
      intro other hother
      simp only [pending, List.cons_append, List.mem_cons, hother, false_or]
    rw [List.foldl_cons, substitute_fill (if_pos List.mem_cons_self) (if_neg hnew) hothers h.1]
    exact ih hnodup h.2

theorem fill_pending_self (rules : List (Rule α)) (text : List α) :
    fill (pending rules) (pieces rules 0 text) = text :=
  (fill_congr (fun _ hrule => if_pos hrule) text).trans (fill_pattern_pieces rules text)

theorem fill_pending_nil (rules : List (Rule α)) (text : List α) :
    fill (pending []) (pieces rules 0 text) = substitute rules text :=
  fill_congr (fun _ _ => if_neg List.not_mem_nil) text

/-- One rule after another then does what all of them do at once. -/
theorem foldl_substitute_of_undisturbing (hnodup : rules.Nodup)
    (h : Undisturbing (pieces rules 0 text) [] rules) :
    rules.foldl (fun text rule => substitute [rule] text) text = substitute rules text := by
  rw [← List.append_nil rules] at hnodup
  have hall := foldl_substitute_fill hnodup h
  rw [List.append_nil, fill_pending_self, fill_pending_nil] at hall
  exact hall

/-- The pattern of the later rule does not touch what the earlier one inserts, and the pattern
of the earlier rule does not begin in that of the later one. -/
def Precedes (earlier later : Rule α) : Prop :=
  Apart later.pattern earlier.substitute ∧ ¬ BeginsIn earlier.pattern later.pattern

def Compatible (rules : List (Rule α)) : Prop := rules.Pairwise Precedes

omit [DecidableEq α] in
theorem beginsIn_self (rule : Rule α) : BeginsIn rule.pattern rule.pattern :=
  ⟨rule.pattern, (List.mem_tails _ _).2 (List.suffix_refl _), rule.pattern_ne,
    Or.inl (List.prefix_refl _)⟩

omit [DecidableEq α] in
theorem Compatible.nodup (h : Compatible rules) : rules.Nodup :=
  List.Pairwise.imp (fun {earlier later} (hprecedes : Precedes earlier later)
    (hsame : earlier = later) => hprecedes.2 (hsame ▸ beginsIn_self earlier)) h

/-- A rule is disturbed in no text when the rules before it precede it, and when its pattern does
not begin in those of the rules after it. -/
theorem undisturbed_of_precedes {done todo : List (Rule α)}
    (hdone : ∀ earlier ∈ done, Precedes earlier rule)
    (htodo : ∀ later ∈ todo, ¬ BeginsIn rule.pattern later.pattern) (text : List α) :
    Undisturbed rule (pending (rule :: todo)) (pieces (done ++ rule :: todo) 0 text) := by
  refine undisturbed_pieces (by simp) (if_pos List.mem_cons_self) (fun other hother hne => ?_) text
  by_cases hpending : other ∈ todo
  · have hpattern : pending (rule :: todo) other = other.pattern :=
      if_pos (List.mem_cons_of_mem _ hpending)
    rw [hpattern]
    exact ⟨htodo other hpending, Or.inl rfl⟩
  · have hbefore : other ∈ done := by
      rcases List.mem_append.1 hother with hbefore | hafter
      · exact hbefore
      · exact absurd ((List.mem_cons.1 hafter).resolve_left hne) hpending
    have hfilled : pending (rule :: todo) other = other.substitute :=
      if_neg fun hmem => hpending ((List.mem_cons.1 hmem).resolve_left hne)
    obtain ⟨hbegins, hruns⟩ := (hdone other hbefore).1
    rw [hfilled]
    exact ⟨hbegins, Or.inr hruns⟩

/-- Compatible rules do not disturb each other in any text. -/
theorem Compatible.undisturbing {done todo : List (Rule α)} (h : Compatible (done ++ todo))
    (text : List α) : Undisturbing (pieces (done ++ todo) 0 text) [] todo := by
  induction todo generalizing done with
  | nil => exact trivial
  | cons rule todo ih =>
    obtain ⟨_, htodo, hdone⟩ := List.pairwise_append.1 h
    obtain ⟨hlater, _⟩ := List.pairwise_cons.1 htodo
    constructor
    · rw [List.append_nil]
      exact undisturbed_of_precedes
        (fun earlier hearlier => hdone earlier hearlier rule List.mem_cons_self)
        (fun later hmem => (hlater later hmem).2) text
    · rw [List.append_cons] at h ⊢
      exact ih h

/-- One compatible rule after another does what all of them do at once. -/
theorem foldl_substitute (h : Compatible rules) (text : List α) :
    rules.foldl (fun text rule => substitute [rule] text) text = substitute rules text := by
  have hnone : Compatible ([] ++ rules) := h
  exact foldl_substitute_of_undisturbing h.nodup (hnone.undisturbing text)

/-! ## Where a rule is disturbed -/

section Disturbed

variable {f g : Rule α → List α}

/-- The pieces with every occurrence of another rule cut into the characters that fill it. -/
def marks (rule : Rule α) (f : Rule α → List α) : List (Piece α) → List (Piece α)
  | [] => []
  | .char a :: rest => .char a :: marks rule f rest
  | .hole other :: rest =>
    (if other = rule then [.hole rule] else (f other).map .char) ++ marks rule f rest

omit [DecidableEq α] in
theorem fill_append (parts rest : List (Piece α)) :
    fill f (parts ++ rest) = fill f parts ++ fill f rest := by
  induction parts with
  | nil => rfl
  | cons part parts ih =>
    cases part with
    | char a => exact congrArg (a :: ·) ih
    | hole other => exact (congrArg (f other ++ ·) ih).trans (List.append_assoc ..).symm

omit [DecidableEq α] in
theorem fill_map_char (chars : List α) : fill f (chars.map .char) = chars := by
  induction chars with
  | nil => rfl
  | cons a chars ih => exact congrArg (a :: ·) ih

theorem fill_marks (hothers : ∀ other, other ≠ rule → g other = f other)
    (parts : List (Piece α)) : fill g (marks rule f parts) = fill g parts := by
  induction parts with
  | nil => rfl
  | cons part rest ih =>
    cases part with
    | char a => exact congrArg (a :: ·) ih
    | hole other =>
      rw [marks, fill_append, ih, fill]
      split_ifs with hsame
      · simp [fill, hsame]
      · rw [fill_map_char, hothers other hsame]

omit [DecidableEq α] in
theorem undisturbed_map_char_append (chars : List α) (rest : List (Piece α)) :
    Undisturbed rule f (chars.map .char ++ rest) ↔
      (∀ x ∈ chars.tails, x ≠ [] → ¬ rule.pattern <+: x ++ fill f rest) ∧
        Undisturbed rule f rest := by
  induction chars with
  | nil => simp
  | cons a chars ih =>
    rw [List.map_cons, List.cons_append, Undisturbed, ih, fill_append, fill_map_char,
      List.tails_cons, List.forall_mem_cons, and_assoc]
    simp

theorem undisturbed_marks (parts : List (Piece α)) :
    Undisturbed rule f (marks rule f parts) ↔ Undisturbed rule f parts := by
  induction parts with
  | nil => exact Iff.rfl
  | cons part rest ih =>
    cases part with
    | char a => rw [marks, Undisturbed, Undisturbed, ih, fill_marks fun _ _ => rfl]
    | hole other =>
      rw [marks, Undisturbed]
      split_ifs with hsame
      · rw [List.singleton_append, Undisturbed, ih]
        simp [hsame]
      · rw [undisturbed_map_char_append, ih, fill_marks fun _ _ => rfl]
        simp [hsame]

/-- Every occurrence is one of the rule. -/
def Marked (rule : Rule α) (parts : List (Piece α)) : Prop :=
  ∀ other, .hole other ∈ parts → other = rule

theorem marked_marks (parts : List (Piece α)) : Marked rule (marks rule f parts) := by
  intro other hother
  induction parts with
  | nil => cases hother
  | cons part rest ih =>
    cases part with
    | char a =>
      rcases List.mem_cons.1 hother with hfirst | hrest
      · cases hfirst
      · exact ih hrest
    | hole single =>
      rw [marks] at hother
      rcases List.mem_append.1 hother with hfirst | hrest
      · split_ifs at hfirst with hsame
        · exact Piece.hole.inj (List.mem_singleton.1 hfirst)
        · simp at hfirst
      · exact ih hrest

omit [DecidableEq α] in
/-- A pattern that does not run into itself begins at a character only where no occurrence
follows before its end. -/
theorem exists_of_prefix_fill (hpattern : f rule = rule.pattern)
    (hself : ¬ RunsInto rule.pattern rule.pattern) {x : List α} (hx : x ∈ rule.pattern.tail.tails)
    {parts : List (Piece α)} (hmarked : Marked rule parts) (h : x <+: fill f parts) :
    ∃ rest, parts = x.map .char ++ rest := by
  induction x generalizing parts with
  | nil => exact ⟨parts, rfl⟩
  | cons a x ih =>
    have hlater : x ∈ rule.pattern.tail.tails := (List.mem_tails _ _).2
      ((List.suffix_cons a x).trans ((List.mem_tails _ _).1 hx))
    cases parts with
    | nil => cases List.prefix_nil.1 h
    | cons part rest =>
      have hrest : Marked rule rest :=
        fun other hother => hmarked other (List.mem_cons_of_mem _ hother)
      cases part with
      | char b =>
        obtain ⟨rfl, hstarts⟩ := List.cons_prefix_cons.1 h
        obtain ⟨after, rfl⟩ := ih hlater hrest hstarts
        exact ⟨after, rfl⟩
      | hole other =>
        rw [hmarked other List.mem_cons_self, fill, hpattern] at h
        exact absurd ⟨a :: x, hx, List.cons_ne_nil a x,
          List.prefix_or_prefix_of_prefix h (List.prefix_append _ _)⟩ hself

/-- To prove something of all pieces with occurrences of one rule, put before them an occurrence
that was read, a character at which there is none, or one that was not read. -/
theorem marked_induction {motive : List (Piece α) → Prop} (hpattern : f rule = rule.pattern)
    (hself : ¬ RunsInto rule.pattern rule.pattern) (nil : motive [])
    (hole : ∀ rest, motive rest → motive (.hole rule :: rest))
    (char : ∀ a rest, ¬ rule.pattern <+: a :: fill f rest → motive rest →
      motive (.char a :: rest))
    (unread : ∀ rest, Marked rule rest → motive rest → motive (rule.pattern.map .char ++ rest))
    {parts : List (Piece α)} (hmarked : Marked rule parts) : motive parts := by
  induction hlength : parts.length using Nat.strong_induction_on generalizing parts with
  | _ n ih =>
    cases parts with
    | nil => exact nil
    | cons part rest =>
      subst hlength
      have hrest : Marked rule rest :=
        fun other hother => hmarked other (List.mem_cons_of_mem _ hother)
      cases part with
      | hole other =>
        rw [hmarked other List.mem_cons_self]
        exact hole rest (ih rest.length (by simp) hrest rfl)
      | char a =>
        by_cases hstarts : rule.pattern <+: a :: fill f rest
        · obtain ⟨b, x, hx⟩ := List.exists_cons_of_ne_nil rule.pattern_ne
          rw [hx] at hstarts
          obtain ⟨rfl, hafter⟩ := List.cons_prefix_cons.1 hstarts
          have htail : x ∈ rule.pattern.tail.tails := by
            rw [hx]
            exact (List.mem_tails _ _).2 (List.suffix_refl x)
          obtain ⟨after, rfl⟩ := exists_of_prefix_fill hpattern hself htail hrest hafter
          have hparts : Piece.char b :: (x.map Piece.char ++ after) =
              rule.pattern.map .char ++ after := by
            rw [hx]
            rfl
          rw [hparts]
          have hmarked' : Marked rule after :=
            fun other hother => hrest other (List.mem_append_right _ hother)
          refine unread after hmarked' (ih after.length ?_ hmarked' rfl)
          simp only [List.length_cons, List.length_append]
          omega
        · exact char a rest hstarts (ih rest.length (by simp) hrest rfl)

theorem matching_singleton_eq_none (h : ¬ rule.pattern <+: text) : matching [rule] text = none := by
  refine matching_eq_none_iff.2 fun other hother => ?_
  rw [List.mem_singleton.1 hother]
  exact h

/-- Where there are more occurrences than were read, the replacement makes the text longer or
shorter than it should. -/
theorem length_substitute_fill (hpattern : f rule = rule.pattern)
    (hsubstitute : g rule = rule.substitute) (hself : ¬ RunsInto rule.pattern rule.pattern)
    {parts : List (Piece α)} (hmarked : Marked rule parts) :
    (rule.pattern.length ≤ rule.substitute.length →
        (fill g parts).length ≤ (substitute [rule] (fill f parts)).length) ∧
      (rule.substitute.length ≤ rule.pattern.length →
        (substitute [rule] (fill f parts)).length ≤ (fill g parts).length) := by
  refine marked_induction (motive := fun parts =>
      (rule.pattern.length ≤ rule.substitute.length →
        (fill g parts).length ≤ (substitute [rule] (fill f parts)).length) ∧
      (rule.substitute.length ≤ rule.pattern.length →
        (substitute [rule] (fill f parts)).length ≤ (fill g parts).length))
    hpattern hself ⟨fun _ => Nat.zero_le _, fun _ => Nat.zero_le _⟩ ?_ ?_ ?_ hmarked
  · intro rest ih
    rw [fill, fill, hpattern, hsubstitute, substitute_singleton_pattern_append]
    simp only [List.length_append]
    omega
  · intro a rest hnone ih
    rw [fill, fill, substitute_cons (matching_singleton_eq_none hnone)]
    simp only [List.length_cons]
    omega
  · intro rest _ ih
    rw [fill_append, fill_append, fill_map_char, fill_map_char,
      substitute_singleton_pattern_append]
    simp only [List.length_append]
    omega

/-- A rule whose pattern does not run into itself, and which does not put it back, fills its own
occurrences exactly when it is undisturbed. -/
theorem substitute_fill_iff (hpattern : f rule = rule.pattern)
    (hsubstitute : g rule = rule.substitute) (hothers : ∀ other, other ≠ rule → g other = f other)
    (hself : ¬ RunsInto rule.pattern rule.pattern) (hchange : rule.substitute ≠ rule.pattern)
    (parts : List (Piece α)) :
    substitute [rule] (fill f parts) = fill g parts ↔ Undisturbed rule f parts := by
  refine ⟨fun hsame => ?_, substitute_fill hpattern hsubstitute hothers⟩
  have hunfilled : fill f (marks rule f parts) = fill f parts := fill_marks (fun _ _ => rfl) parts
  rw [← fill_marks hothers, ← hunfilled] at hsame
  rw [← undisturbed_marks]
  revert hsame
  refine marked_induction (motive := fun parts =>
      substitute [rule] (fill f parts) = fill g parts → Undisturbed rule f parts)
    hpattern hself (fun _ => trivial) ?_ ?_ ?_ (marked_marks parts)
  · intro rest ih hsame
    rw [fill, fill, hpattern, hsubstitute, substitute_singleton_pattern_append] at hsame
    exact ⟨Or.inl rfl, ih (List.append_cancel_left hsame)⟩
  · intro a rest hnone ih hsame
    rw [fill, fill, substitute_cons (matching_singleton_eq_none hnone)] at hsame
    exact ⟨hnone, ih (List.cons.inj hsame).2⟩
  · intro rest hmarked _ hsame
    rw [fill_append, fill_append, fill_map_char, fill_map_char,
      substitute_singleton_pattern_append] at hsame
    have hlengths := congrArg List.length hsame
    obtain ⟨hlonger, hshorter⟩ := length_substitute_fill hpattern hsubstitute hself hmarked
    rw [List.length_append, List.length_append] at hlengths
    have hlength : rule.substitute.length = rule.pattern.length := by omega
    exact absurd (List.append_inj hsame hlength).1 hchange

end Disturbed

/-! ## Rules that add nothing, and rules that change a text -/

/-- A rule adds nothing when the others make of its pattern what it makes of it. -/
theorem substitute_of_redundant {before after : List (Rule α)}
    (h : ∀ rest, substitute (before ++ after) (rule.pattern ++ rest) =
      rule.substitute ++ substitute (before ++ after) rest) (text : List α) :
    substitute (before ++ rule :: after) text = substitute (before ++ after) text := by
  induction text using pieces_induction (before ++ rule :: after) with
  | nil => rfl
  | char a text hmatching ih =>
    have hnone : matching (before ++ after) (a :: text) = none := by
      rw [matching_eq_none_iff] at hmatching ⊢
      intro other hother
      refine hmatching other ?_
      rcases List.mem_append.1 hother with hbefore | hafter
      · exact List.mem_append_left _ hbefore
      · exact List.mem_append_right _ (List.mem_cons_of_mem _ hafter)
    rw [substitute_cons hmatching, substitute_cons hnone, ih]
  | hole other text hmatching ih =>
    rw [substitute_pattern_append hmatching]
    by_cases hsame : other = rule
    · rw [hsame, h, ih]
    · have hother : matching (before ++ after) (other.pattern ++ text) = some other := by
        unfold matching at hmatching ⊢
        rw [List.find?_append] at hmatching ⊢
        cases hbefore :
            before.find? fun rule => rule.pattern.isPrefixOf (other.pattern ++ text) with
        | some first =>
          rw [hbefore] at hmatching
          exact hmatching
        | none =>
          rw [hbefore, Option.none_or, List.find?_cons] at hmatching
          rw [Option.none_or]
          cases hstarts : rule.pattern.isPrefixOf (other.pattern ++ text) with
          | true =>
            rw [hstarts] at hmatching
            exact absurd (Option.some.inj hmatching).symm hsame
          | false =>
            rw [hstarts] at hmatching
            exact hmatching
      rw [substitute_pattern_append hother, ih]

/-- A rule that puts its pattern back adds nothing. -/
theorem substitute_of_unchanged (before after : List (Rule α))
    (hsame : rule.substitute = rule.pattern)
    (h : ∀ other ∈ before ++ after, ¬ BeginsIn other.pattern rule.pattern) (text : List α) :
    substitute (before ++ rule :: after) text = substitute (before ++ after) text := by
  refine substitute_of_redundant (fun rest => ?_) text
  rw [hsame, substitute_append_of_not_beginsIn h]

theorem substitute_singleton_of_unchanged (hsame : rule.substitute = rule.pattern)
    (text : List α) : substitute [rule] text = text := by
  have hnone : substitute [] text = text :=
    substitute_eq_self fun _ hother => absurd hother List.not_mem_nil
  exact (substitute_of_unchanged [] [] hsame (by simp) text).trans hnone

/-- One replacement makes no text shorter when it is no shorter than the pattern, and no text
longer when it is no longer. -/
theorem length_substitute_singleton (rule : Rule α) (text : List α) :
    (rule.pattern.length ≤ rule.substitute.length →
        text.length ≤ (substitute [rule] text).length) ∧
      (rule.substitute.length ≤ rule.pattern.length →
        (substitute [rule] text).length ≤ text.length) := by
  induction text using pieces_induction [rule] with
  | nil => exact ⟨fun _ => le_rfl, fun _ => le_rfl⟩
  | char a text hmatching ih =>
    rw [substitute_cons hmatching, List.length_cons, List.length_cons]
    exact ⟨fun hle => Nat.succ_le_succ (ih.1 hle), fun hle => Nat.succ_le_succ (ih.2 hle)⟩
  | hole other text hmatching ih =>
    cases List.mem_singleton.1 (matching_eq_some hmatching).1
    rw [substitute_pattern_append hmatching, List.length_append, List.length_append]
    exact ⟨fun hle => Nat.add_le_add hle (ih.1 hle), fun hle => Nat.add_le_add hle (ih.2 hle)⟩

/-- Where there is an occurrence, what is put in its place is a part of the result. -/
theorem infix_substitute_singleton (h : rule.pattern <:+: text) :
    rule.substitute <:+: substitute [rule] text := by
  induction text using pieces_induction [rule] with
  | nil => exact absurd (List.infix_nil.1 h) rule.pattern_ne
  | char a text hmatching ih =>
    rw [substitute_cons hmatching]
    have hnot := matching_eq_none_iff.1 hmatching rule (List.mem_singleton.2 rfl)
    exact List.infix_cons (ih ((List.infix_cons_iff.1 h).resolve_left hnot))
  | hole other text hmatching ih =>
    cases List.mem_singleton.1 (matching_eq_some hmatching).1
    rw [substitute_pattern_append hmatching]
    exact (List.prefix_append _ _).isInfix

/-- A replacement changes a text that has the pattern, unless it puts the pattern back. -/
theorem substitute_singleton_ne (hchange : rule.substitute ≠ rule.pattern)
    (h : rule.pattern <:+: text) : substitute [rule] text ≠ text := by
  induction text using pieces_induction [rule] with
  | nil => exact absurd (List.infix_nil.1 h) rule.pattern_ne
  | char a text hmatching ih =>
    rw [substitute_cons hmatching]
    have hnot := matching_eq_none_iff.1 hmatching rule (List.mem_singleton.2 rfl)
    intro heq
    exact ih ((List.infix_cons_iff.1 h).resolve_left hnot) (List.cons.inj heq).2
  | hole other text hmatching ih =>
    cases List.mem_singleton.1 (matching_eq_some hmatching).1
    rw [substitute_pattern_append hmatching]
    intro heq
    obtain ⟨hgrows, hshrinks⟩ := length_substitute_singleton rule text
    have hlength := congrArg List.length heq
    rw [List.length_append, List.length_append] at hlength
    have hsame : rule.substitute.length = rule.pattern.length := by
      rcases Nat.le_total rule.pattern.length rule.substitute.length with hle | hle
      · have hlonger := hgrows hle
        omega
      · have hshorter := hshrinks hle
        omega
    exact hchange (List.append_inj heq hsame).1

end Substitution
