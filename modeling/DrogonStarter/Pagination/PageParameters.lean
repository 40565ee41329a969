import DrogonStarter.Lib.WholeNumber
import DrogonStarter.Pagination.PageRequest

/-!
# The texts of the page parameters

The API describes `page` and `page_size` as integers.  `PageRequest::from` reads the
integer at the start of each text and does not look at what follows it.

* `PageRequest.written` is the request that the parameters write when each text is a
  number from end to end.
* `parsesExactly_iff` says for which parameters `from` agrees with it.
-/

namespace DrogonStarter

open CppNumber

namespace PageRequest

/-- A number that its parameter writes from end to end, or its default. -/
def writtenNumber (parameters : String → Option String) (name : String) (fallback : Int) :
    Option Int :=
  match parameters name with
  | none => some fallback
  | some text => wholeInteger text

/-- The request that the parameters write, if both numbers are in range. -/
def written (parameters : String → Option String) : Option PageRequest := do
  let page ← writtenNumber parameters "page" 1
  let pageSize ← writtenNumber parameters "page_size" 25
  if 1 ≤ page ∧ page ≤ 2147483647 ∧ 1 ≤ pageSize ∧ pageSize ≤ 100 then
    some { page, pageSize }
  else none

/-- `from` accepts what is written, as it is written, and nothing else. -/
def ParsesExactly (parameters : String → Option String) : Prop :=
  ∀ r, fromParameters parameters = .ok r ↔ written parameters = some r

/-- Every text is a decimal integer from end to end. -/
def WholeTexts (parameters : String → Option String) : Prop :=
  ∀ name ∈ ["page", "page_size"], ∀ text ∈ parameters name, (wholeInteger text).isSome

/-- Some text does not start with an integer in the range of its parameter. -/
def StartsOutOfRange (parameters : String → Option String) : Prop :=
  ∃ parameter ∈ [("page", (2147483647 : Int)), ("page_size", kMaxPageSize)],
    ∃ text ∈ parameters parameter.1, ∀ n, stoi text = .ok n → n < 1 ∨ parameter.2 < n

theorem written_eq_some_iff {parameters : String → Option String} {r : PageRequest} :
    written parameters = some r ↔
      writtenNumber parameters "page" 1 = some r.page ∧
        writtenNumber parameters "page_size" 25 = some r.pageSize ∧
        1 ≤ r.page ∧ r.page ≤ 2147483647 ∧ 1 ≤ r.pageSize ∧ r.pageSize ≤ 100 := by
  unfold written
  cases writtenNumber parameters "page" 1 with
  | none => simp
  | some page =>
    cases writtenNumber parameters "page_size" 25 with
    | none => simp
    | some pageSize =>
      simp only [Option.bind_eq_bind, Option.bind_some, Option.ite_none_right_eq_some,
        Option.some.injEq]
      constructor
      · rintro ⟨hrange, rfl⟩
        exact ⟨rfl, rfl, hrange⟩
      · rintro ⟨rfl, rfl, hrange⟩
        exact ⟨hrange, rfl⟩

/-- What `from` reads of a parameter is its default, or the integer at the start of the text. -/
theorem readParameter_ok_iff {parameters : String → Option String} {name : String}
    {fallback n : Int} :
    readParameter parameters name fallback = .ok n ↔
      parameters name = none ∧ fallback = n ∨ ∃ text ∈ parameters name, stoi text = .ok n := by
  unfold readParameter
  cases parameters name with
  | none => simp
  | some text =>
    cases hstoi : stoi text with
    | error error => simp [Except.mapError, hstoi]
    | ok m => simp [Except.mapError, hstoi]

theorem writtenNumber_eq_some_iff {parameters : String → Option String} {name : String}
    {fallback n : Int} :
    writtenNumber parameters name fallback = some n ↔
      parameters name = none ∧ fallback = n ∨
        ∃ text ∈ parameters name, wholeInteger text = some n := by
  unfold writtenNumber
  cases parameters name <;> simp

/-- A number that is written is read, when an `int` can hold it. -/
theorem readParameter_of_writtenNumber {parameters : String → Option String} {name : String}
    {fallback n : Int} (h : writtenNumber parameters name fallback = some n) (hlow : 1 ≤ n)
    (hhigh : n ≤ 2147483647) : readParameter parameters name fallback = .ok n := by
  rw [readParameter_ok_iff]
  rcases writtenNumber_eq_some_iff.1 h with hnone | ⟨text, htext, hwhole⟩
  · exact Or.inl hnone
  · refine Or.inr ⟨text, htext, ?_⟩
    rw [stoi_of_wholeInteger hwhole, if_neg (by omega)]

/-- A number that is read is the one that is written, when the text is a number. -/
theorem writtenNumber_of_readParameter {parameters : String → Option String} {name : String}
    {fallback n : Int} (h : readParameter parameters name fallback = .ok n)
    (hwhole : ∀ text ∈ parameters name, (wholeInteger text).isSome) :
    writtenNumber parameters name fallback = some n := by
  rw [writtenNumber_eq_some_iff]
  rcases readParameter_ok_iff.1 h with hnone | ⟨text, htext, hstoi⟩
  · exact Or.inl hnone
  · obtain ⟨m, hm⟩ := Option.isSome_iff_exists.1 (hwhole text htext)
    rw [stoi_of_wholeInteger hm] at hstoi
    split_ifs at hstoi
    cases hstoi
    exact Or.inr ⟨text, htext, hm⟩

/-- A text that `stoi` reads fits an `int`. -/
theorem stoi_le {text : String} {n : Int} (h : stoi text = .ok n) : n ≤ 2147483647 := by
  simp only [stoi] at h
  split_ifs at h with hdigits hrange
  cases h
  omega

theorem readParameter_le {parameters : String → Option String} {name : String}
    {fallback n : Int} (h : readParameter parameters name fallback = .ok n)
    (hfallback : fallback ≤ 2147483647) : n ≤ 2147483647 := by
  rcases readParameter_ok_iff.1 h with ⟨_, rfl⟩ | ⟨text, _, hstoi⟩
  · exact hfallback
  · exact stoi_le hstoi

/-- Whatever is written is accepted, as it is written. -/
theorem fromParameters_of_written {parameters : String → Option String} {r : PageRequest}
    (h : written parameters = some r) : fromParameters parameters = .ok r := by
  obtain ⟨hpage, hpageSize, hlow, hhigh, hlow', hhigh'⟩ := written_eq_some_iff.1 h
  exact fromParameters_ok_iff.2 ⟨readParameter_of_writtenNumber hpage hlow hhigh,
    readParameter_of_writtenNumber hpageSize hlow' (hhigh'.trans (by decide)), hlow, hlow',
    hhigh'⟩

/-- A parameter whose text starts out of range is not accepted. -/
theorem fromParameters_of_startsOutOfRange {parameters : String → Option String}
    (h : StartsOutOfRange parameters) (r : PageRequest) : fromParameters parameters ≠ .ok r := by
  intro haccepted
  obtain ⟨hpage, hpageSize, hlow, hlow', hhigh'⟩ := fromParameters_ok_iff.1 haccepted
  obtain ⟨⟨name, high⟩, hname, text, htext, hrange⟩ := h
  simp only [List.mem_cons, Prod.mk.injEq, List.not_mem_nil, or_false] at hname
  rcases hname with ⟨rfl, rfl⟩ | ⟨rfl, rfl⟩
  · rcases readParameter_ok_iff.1 hpage with ⟨hnone, _⟩ | ⟨other, hother, hstoi⟩
    · simp [hnone] at htext
    · cases Option.mem_unique htext hother
      have hfits := stoi_le hstoi
      rcases hrange _ hstoi with hbelow | habove <;> omega
  · rcases readParameter_ok_iff.1 hpageSize with ⟨hnone, _⟩ | ⟨other, hother, hstoi⟩
    · simp [hnone] at htext
    · cases Option.mem_unique htext hother
      rcases hrange _ hstoi with hbelow | habove <;> omega

/-- Where no text starts out of range, something is accepted. -/
theorem exists_ok_of_not_startsOutOfRange {parameters : String → Option String}
    (h : ¬ StartsOutOfRange parameters) : ∃ r, fromParameters parameters = .ok r := by
  have hread : ∀ (name : String) (fallback high : Int),
      (name, high) ∈ [("page", (2147483647 : Int)), ("page_size", kMaxPageSize)] →
        1 ≤ fallback → fallback ≤ high →
          ∃ n, readParameter parameters name fallback = .ok n ∧ 1 ≤ n ∧ n ≤ high := by
    intro name fallback high hname hlow hhigh
    cases htext : parameters name with
    | none => exact ⟨fallback, readParameter_ok_iff.2 (Or.inl ⟨htext, rfl⟩), hlow, hhigh⟩
    | some text =>
      by_contra hnone
      refine h ⟨(name, high), hname, text, htext, fun n hstoi => ?_⟩
      by_contra hrange
      exact hnone ⟨n, readParameter_ok_iff.2 (Or.inr ⟨text, htext, hstoi⟩), by omega, by omega⟩
  obtain ⟨page, hpage, hlow, _⟩ :=
    hread "page" 1 2147483647 (by simp) (by decide) (by decide)
  obtain ⟨pageSize, hpageSize, hlow', hhigh'⟩ :=
    hread "page_size" 25 kMaxPageSize (by simp) (by decide) (by decide)
  exact ⟨{ page, pageSize }, fromParameters_ok_iff.2 ⟨hpage, hpageSize, hlow, hlow', hhigh'⟩⟩

/-- `from` agrees with what is written when every text is a number from end to end, or some
text is refused for the integer at its start.  A text with a number in range and more
characters is accepted and should not be. -/
theorem parsesExactly_iff (parameters : String → Option String) :
    ParsesExactly parameters ↔ WholeTexts parameters ∨ StartsOutOfRange parameters := by
  constructor
  · intro hexact
    by_cases hstarts : StartsOutOfRange parameters
    · exact Or.inr hstarts
    · obtain ⟨r, haccepted⟩ := exists_ok_of_not_startsOutOfRange hstarts
      obtain ⟨hpage, hpageSize, _⟩ := written_eq_some_iff.1 ((hexact r).1 haccepted)
      refine Or.inl fun name hname text htext => ?_
      have hwritten : ∃ fallback n, writtenNumber parameters name fallback = some n := by
        simp only [List.mem_cons, List.not_mem_nil, or_false] at hname
        rcases hname with rfl | rfl
        · exact ⟨1, _, hpage⟩
        · exact ⟨25, _, hpageSize⟩
      obtain ⟨fallback, n, hwritten⟩ := hwritten
      rcases writtenNumber_eq_some_iff.1 hwritten with ⟨hnone, _⟩ | ⟨other, hother, hwhole⟩
      · simp [hnone] at htext
      · cases Option.mem_unique htext hother
        rw [hwhole]
        rfl
  · rintro (hwhole | hstarts) r
    · refine ⟨fun haccepted => ?_, fromParameters_of_written⟩
      obtain ⟨hpage, hpageSize, hlow, hlow', hhigh'⟩ := fromParameters_ok_iff.1 haccepted
      exact written_eq_some_iff.2
        ⟨writtenNumber_of_readParameter hpage (hwhole "page" (by simp)),
          writtenNumber_of_readParameter hpageSize (hwhole "page_size" (by simp)), hlow,
          readParameter_le hpage (by decide), hlow', hhigh'⟩
    · exact iff_of_false (fromParameters_of_startsOutOfRange hstarts r) fun hwritten =>
        fromParameters_of_startsOutOfRange hstarts r (fromParameters_of_written hwritten)

/-- `?page=2abc` is the second page. -/
theorem trailing_text_accepted : ¬ ∀ parameters, ParsesExactly parameters := by
  intro hall
  have haccepted : fromParameters (fun name => if name = "page" then some "2abc" else none) =
      .ok { page := 2, pageSize := 25 } := by rfl
  have hwritten := (hall _ _).1 haccepted
  have hrefused : written (fun name => if name = "page" then some "2abc" else none) = none := by
    rfl
  rw [hrefused] at hwritten
  cases hwritten

end PageRequest

end DrogonStarter
