import DrogonStarter.Lib.Number

/-!
# What is a `double`

`toDouble` throws for what is not representable and rounds the rest.

* `nearest_pos` says that no positive number that is representable is rounded to zero.
* `not_unrepresentable` says that the numbers between two powers of two that are far apart are
  representable.
-/

namespace CppNumber

variable {q : ℚ}

theorem binary64_lowest_zpow : binary64.Represents (2 ^ (-1074 : Int)) :=
  ⟨1, -1074, by decide, le_rfl, by simp⟩

theorem tiny_le : (2 : ℚ) * 2 ^ (-1074 : Int) < mkRat 1 (2 ^ 1022) := by decide +kernel

/-- A positive number is rounded to zero only when it is out of range. -/
theorem nearest_pos (hq : 0 < q) (hrepresentable : ¬ Unrepresentable q) :
    0 < binary64.nearest q := by
  refine lt_of_le_of_ne (FloatFormat.le_nearest FloatFormat.represents_zero hq.le) fun hzero => ?_
  have hsmall : q < 2 ^ (-1074 : Int) := by
    by_contra hlarge
    have hle := FloatFormat.le_nearest binary64_lowest_zpow (not_lt.1 hlarge)
    rw [← hzero] at hle
    exact absurd (two_zpow_pos (-1074)) (not_lt.2 hle)
  have herror : |significant q - q| ≤ |q| / 2 := abs_roundAt_log_sub hq.ne' (by omega)
  rw [abs_of_pos hq, abs_le] at herror
  have htiny := tiny_le
  refine hrepresentable (Or.inr ⟨?_, by rw [← hzero]; exact hq.ne⟩)
  rw [abs_lt]
  constructor <;> linarith

/-- A number that is far from both ends of the format is in range. -/
theorem not_unrepresentable (hlow : (2 : ℚ) ^ (-100 : Int) ≤ q) (hhigh : q ≤ 2 ^ 100) :
    ¬ Unrepresentable q := by
  have hpos : 0 < q := (two_zpow_pos (-100)).trans_le hlow
  have hrepresents : binary64.Represents (2 ^ 100) := ⟨1, 100, by decide, by decide, by norm_num⟩
  rintro (hover | ⟨hunder, _⟩)
  · have hnonneg := FloatFormat.le_nearest (FloatFormat.represents_zero (f := binary64)) hpos.le
    rw [abs_of_nonneg hnonneg] at hover
    have hle := hover.trans (FloatFormat.nearest_le hrepresents hhigh)
    exact absurd hle (not_le.2 (pow_lt_pow_right₀ one_lt_two (by decide)))
  · have herror : |significant q - q| ≤ |q| / 2 := abs_roundAt_log_sub hpos.ne' (by omega)
    rw [abs_of_pos hpos, abs_le] at herror
    have hhalf : mkRat 1 (2 ^ 1022) < (2 : ℚ) ^ (-100 : Int) / 2 := by decide +kernel
    obtain ⟨_, hsmall⟩ := abs_lt.1 hunder
    generalize (2 : ℚ) ^ (-100 : Int) = low at hlow hhalf
    linarith [herror.1]

example : stod "2.2250738585072013e-308" = .ok (.finite (mkRat 1 (2 ^ 1022))) := by
  decide +kernel

theorem toDouble_eq (h : ¬ Unrepresentable q) :
    toDouble q = .ok (.finite (binary64.nearest q)) :=
  if_neg h

@[simp] theorem toDouble_zero : toDouble 0 = .ok (.finite 0) := by
  have hzero : ¬ Unrepresentable 0 := by
    rintro (hover | ⟨_, hne⟩)
    · rw [FloatFormat.nearest_zero, abs_zero] at hover
      exact absurd (pow_pos two_pos 1024) (not_lt.2 hover)
    · exact hne FloatFormat.nearest_zero
  rw [toDouble_eq hzero, FloatFormat.nearest_zero]

end CppNumber
