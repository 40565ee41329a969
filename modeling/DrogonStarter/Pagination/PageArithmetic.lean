import DrogonStarter.Pagination.Crawl

/-!
# The arithmetic of a page request

`PageRequest::from` lets every positive `int` through as a page, and `offset()` and
`hasNext()` multiply and add it as an `int`.

* `PageRequest.CountsExactly` says that no intermediate result overflows and that both
  functions give the natural number or its comparison.
* `countsExactly_iff` says for which requests that is so.
-/

namespace DrogonStarter

open CppNumber

namespace PageRequest

/-- What `offset()` and `hasNext()` compute is what they mean. -/
structure CountsExactly (r : PageRequest) : Prop where
  exact : r.Exact
  offset : r.offset = (r.page - 1) * r.pageSize
  nonneg : 0 ≤ r.offset
  hasNext : ∀ total < 2 ^ 64, ∀ items : List Unit,
    PageResult.hasNext { items, total, request := r } = true ↔ r.page * r.pageSize < total

theorem fitsInt_int32 (n : Int) : FitsInt (int32 n) := by
  unfold FitsInt int32
  rw [Int.bmod_def]
  omega

/-- The first row after the page. -/
theorem succ_page_mul (r : PageRequest) :
    (r.page - 1) * r.pageSize + r.pageSize = r.page * r.pageSize := by
  rw [Int.sub_mul, Int.one_mul, Int.sub_add_cancel]

/-- When the rows up to the end of the page can be counted, so can all the other numbers. -/
theorem Positive.exact_of_le {r : PageRequest} (h : r.Positive)
    (hend : r.page * r.pageSize ≤ 2147483647) : r.Exact := by
  obtain ⟨hpage, hpageSize⟩ := h
  have hbefore : 0 ≤ (r.page - 1) * r.pageSize := Int.mul_nonneg (by omega) (by omega)
  have hproduct := r.succ_page_mul
  have hpage' : r.page ≤ r.page * r.pageSize := le_mul_of_one_le_right (by omega) hpageSize
  refine ⟨⟨?_, ?_⟩, ⟨?_, ?_⟩, ⟨?_, ?_⟩⟩ <;> omega

/-- `hasNext()` compares the end of the page with the number of rows. -/
theorem Exact.hasNext_iff {r : PageRequest} (h : r.Exact) (hpositive : r.Positive)
    (total : Nat) (items : List Unit) :
    PageResult.hasNext { items, total, request := r } = true ↔ r.page * r.pageSize < total := by
  have hend : r.offset + r.pageSize = r.page * r.pageSize := by
    rw [h.offset_eq, succ_page_mul]
  have hfits : FitsInt (r.page * r.pageSize) := by
    rw [← succ_page_mul]
    exact h.after
  have hnonneg : 0 ≤ r.page * r.pageSize :=
    Int.mul_nonneg (Int.le_trans (by decide) hpositive.page)
      (Int.le_trans (by decide) hpositive.pageSize)
  simp only [PageResult.hasNext, hend, int32_of_fitsInt hfits, toSize, decide_eq_true_eq]
  unfold FitsInt at hfits
  omega

/-- The arithmetic of an accepted request is exact when the rows up to the end of its page
can be counted in an `int`, and only then. -/
theorem countsExactly_iff {parameters : String → Option String} {r : PageRequest}
    (h : fromParameters parameters = .ok r) :
    r.CountsExactly ↔ r.page * r.pageSize ≤ 2147483647 := by
  have hpositive := positive_of_fromParameters h
  constructor
  · intro hcounts
    rw [← succ_page_mul]
    exact hcounts.exact.after.2
  · intro hend
    have hexact := hpositive.exact_of_le hend
    refine ⟨hexact, hexact.offset_eq, ?_, fun total _ items => hexact.hasNext_iff hpositive ..⟩
    rw [hexact.offset_eq]
    exact Int.mul_nonneg (Int.sub_nonneg.2 hpositive.page)
      (Int.le_trans (by decide) hpositive.pageSize)

/-- Where the end of the page is the first number that wraps around, `hasNext()` says that
the page is the last one. -/
theorem hasNext_of_wrapped {r : PageRequest} (hoffset : r.offset = (r.page - 1) * r.pageSize)
    (hbegin : (r.page - 1) * r.pageSize ≤ 2147483647) (hsize : r.pageSize ≤ kMaxPageSize)
    (hend : 2147483647 < r.page * r.pageSize) {total : Nat} (htotal : total < 2 ^ 62)
    (items : List Unit) : PageResult.hasNext { items, total, request := r } = false := by
  have hsum : r.offset + r.pageSize = r.page * r.pageSize := by rw [hoffset, succ_page_mul]
  have hclose : r.page * r.pageSize ≤ 2147483647 + 100 := by
    have hproduct := r.succ_page_mul
    unfold kMaxPageSize at hsize
    omega
  have hwrapped : int32 (r.page * r.pageSize) = r.page * r.pageSize - 2 ^ 32 := by
    unfold int32
    rw [Int.bmod_def]
    omega
  simp only [PageResult.hasNext, hsum, hwrapped, toSize, decide_eq_false_iff_not]
  omega

/-- Even where an overflow only wraps around, one of the two functions is wrong. -/
theorem wrong_of_overflow {parameters : String → Option String} {r : PageRequest}
    (h : fromParameters parameters = .ok r) (hend : 2147483647 < r.page * r.pageSize) :
    r.offset ≠ (r.page - 1) * r.pageSize ∨
      ∃ total : Nat, r.page * r.pageSize < total ∧ ∀ items : List Unit,
        PageResult.hasNext { items, total, request := r } = false := by
  by_cases hbegin : (r.page - 1) * r.pageSize ≤ 2147483647
  · by_cases hoffset : r.offset = (r.page - 1) * r.pageSize
    · obtain ⟨_, _, _, _, hsize⟩ := fromParameters_ok_iff.1 h
      have hproduct := r.succ_page_mul
      refine Or.inr ⟨(r.page * r.pageSize).toNat + 1, by omega, fun items => ?_⟩
      refine hasNext_of_wrapped hoffset hbegin hsize hend ?_ items
      unfold kMaxPageSize at hsize
      omega
    · exact Or.inl hoffset
  · refine Or.inl fun hoffset => hbegin ?_
    rw [← hoffset]
    exact (fitsInt_int32 _).2

/-- The request of `?page=3&page_size=10`. -/
theorem countsExactly_iff_third :
    CountsExactly { page := 3, pageSize := 10 } ↔ (3 : Int) * 10 ≤ 2147483647 := by
  have haccepted : fromParameters (pageParameters 3 10) = .ok { page := 3, pageSize := 10 } := rfl
  exact countsExactly_iff haccepted

/-- The last page that `from` accepts, a hundred rows at a time. -/
theorem last_page_overflows :
    ¬ ∀ parameters r, fromParameters parameters = .ok r → r.CountsExactly := by
  intro hall
  have haccepted : fromParameters (pageParameters 2147483647 100) =
      .ok { page := 2147483647, pageSize := 100 } := by rfl
  have hcounts := hall _ _ haccepted
  have hoverflow := hcounts.exact.offset.2
  revert hoverflow
  decide

end PageRequest

end DrogonStarter
