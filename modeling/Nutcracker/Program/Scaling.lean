import Mathlib

/-!
# Scaling by a truncated quotient

`scaleDown k m x` is `x * k / m` rounded toward zero, as integer code computes it.  The part lost to
rounding has the sign of `x` and a magnitude below `m`; order, sign and the balance of two equal
sums follow from that alone.
-/

namespace Nutcracker

def scaleDown (k m x : ℤ) : ℤ := (x * k).tdiv m

/-- What rounding loses, in units of `1 / m`. -/
def scaleLoss (k m x : ℤ) : ℤ := (x * k).tmod m

section Scaling

variable {k m x y : ℤ}

theorem scaleDown_mul_add (k m x : ℤ) : scaleDown k m x * m + scaleLoss k m x = x * k :=
  Int.tdiv_mul_add_tmod (x * k) m

theorem abs_scaleLoss_lt (hm : 0 < m) : |scaleLoss k m x| < m :=
  abs_lt.mpr ⟨Int.lt_tmod_of_pos _ hm, Int.tmod_lt_of_pos _ hm⟩

theorem scaleLoss_nonneg (hk : 0 ≤ k) (hx : 0 ≤ x) : 0 ≤ scaleLoss k m x :=
  Int.tmod_nonneg m (mul_nonneg hx hk)

theorem scaleLoss_neg (k m x : ℤ) : scaleLoss k m (-x) = -scaleLoss k m x := by
  unfold scaleLoss
  rw [neg_mul, Int.neg_tmod]

theorem scaleLoss_nonpos (hk : 0 ≤ k) (hx : x ≤ 0) : scaleLoss k m x ≤ 0 := by
  have h : 0 ≤ scaleLoss k m (-x) := scaleLoss_nonneg hk (by omega)
  rw [scaleLoss_neg] at h
  omega

theorem scaleDown_neg (k m x : ℤ) : scaleDown k m (-x) = -scaleDown k m x := by
  unfold scaleDown
  rw [neg_mul, Int.neg_tdiv]

theorem scaleDown_self (hm : 0 < m) : scaleDown k m m = k :=
  Int.mul_tdiv_cancel_left k hm.ne'

theorem scaleDown_mono (hk : 0 ≤ k) (hm : 0 < m) (hxy : x ≤ y) :
    scaleDown k m x ≤ scaleDown k m y :=
  Int.tdiv_le_tdiv hm (mul_le_mul_of_nonneg_right hxy hk)

/-- Quotient and remainder scaled apart, which keeps the intermediate products small. -/
theorem scaleDown_by_parts (hk : 0 ≤ k) (hm : 0 < m) (x : ℤ) :
    x.tdiv m * k + (x.tmod m * k).tdiv m = scaleDown k m x := by
  have hnonneg : ∀ y : ℤ, 0 ≤ y → y.tdiv m * k + (y.tmod m * k).tdiv m = scaleDown k m y := by
    intro y hy
    have hrem : 0 ≤ y.tmod m * k := mul_nonneg (Int.tmod_nonneg m hy) hk
    unfold scaleDown
    calc
      y.tdiv m * k + (y.tmod m * k).tdiv m = (y.tmod m * k) / m + y.tdiv m * k := by
        rw [Int.tdiv_eq_ediv_of_nonneg hrem, add_comm]
      _ = (y.tmod m * k + y.tdiv m * k * m) / m := (Int.add_mul_ediv_right _ _ hm.ne').symm
      _ = (y * k) / m := by
        congr 1
        linear_combination k * Int.tdiv_mul_add_tmod y m
      _ = (y * k).tdiv m := (Int.tdiv_eq_ediv_of_nonneg (mul_nonneg hy hk)).symm
  rcases le_total 0 x with hx | hx
  · exact hnonneg x hx
  · have h := hnonneg (-x) (neg_nonneg.mpr hx)
    rw [scaleDown_neg, Int.neg_tdiv, Int.neg_tmod, neg_mul, neg_mul, Int.neg_tdiv] at h
    omega

/-- Rounding moves a result by less than one. -/
theorem abs_scaleDown_mul_sub_lt (hm : 0 < m) : |scaleDown k m x * m - x * k| < m := by
  have hloss : scaleDown k m x * m - x * k = -scaleLoss k m x := by
    have h := scaleDown_mul_add k m x
    omega
  rw [hloss, abs_neg]
  exact abs_scaleLoss_lt hm

/-- Two summands lose less than `2 * m` upward, and less than `m` if one of them is negative. -/
theorem scaleLoss_add_lt (hk : 0 ≤ k) (hm : 0 < m) :
    scaleLoss k m x + scaleLoss k m y < 2 * m ∧
      (x ≤ 0 ∨ y ≤ 0 → scaleLoss k m x + scaleLoss k m y < m) := by
  have hx := (abs_lt.mp (abs_scaleLoss_lt (k := k) (x := x) hm)).2
  have hy := (abs_lt.mp (abs_scaleLoss_lt (k := k) (x := y) hm)).2
  refine ⟨by omega, ?_⟩
  rintro (h | h)
  · have hneg : scaleLoss k m x ≤ 0 := scaleLoss_nonpos hk h
    omega
  · have hneg : scaleLoss k m y ≤ 0 := scaleLoss_nonpos hk h
    omega

/-- Of two equal sums, the scaled summands of the left exceed those of the right by at most two:
three would need losses near `m` on all four, with opposite signs on the two sides. -/
theorem scaleDown_add_sub_le {a b c d : ℤ} (hk : 0 ≤ k) (hm : 0 < m) (h : a + b = c + d) :
    scaleDown k m a + scaleDown k m b - (scaleDown k m c + scaleDown k m d) ≤ 2 := by
  have hbalance : (scaleDown k m a + scaleDown k m b - (scaleDown k m c + scaleDown k m d)) * m =
      scaleLoss k m c + scaleLoss k m d + (scaleLoss k m (-a) + scaleLoss k m (-b)) := by
    rw [scaleLoss_neg, scaleLoss_neg]
    calc
      _ = (a + b) * k - (c + d) * k + (scaleLoss k m c + scaleLoss k m d +
          (-scaleLoss k m a + -scaleLoss k m b)) := by
        rw [add_mul, add_mul, ← scaleDown_mul_add k m a, ← scaleDown_mul_add k m b,
          ← scaleDown_mul_add k m c, ← scaleDown_mul_add k m d]
        ring
      _ = _ := by rw [h, sub_self, zero_add]
  have hright : scaleLoss k m c + scaleLoss k m d < 2 * m ∧
      (c ≤ 0 ∨ d ≤ 0 → scaleLoss k m c + scaleLoss k m d < m) := scaleLoss_add_lt hk hm
  have hleft : scaleLoss k m (-a) + scaleLoss k m (-b) < 2 * m ∧
      (-a ≤ 0 ∨ -b ≤ 0 → scaleLoss k m (-a) + scaleLoss k m (-b) < m) := scaleLoss_add_lt hk hm
  have htotal : scaleLoss k m c + scaleLoss k m d +
      (scaleLoss k m (-a) + scaleLoss k m (-b)) < 3 * m := by
    by_cases hab : a < 0 ∧ b < 0
    · have hcd := hright.2 (by omega)
      omega
    · have hab' := hleft.2 (by omega)
      omega
  rw [← hbalance] at htotal
  exact Int.lt_add_one_iff.mp (lt_of_mul_lt_mul_right htotal hm.le)

theorem abs_scaleDown_add_sub_le {a b c d : ℤ} (hk : 0 ≤ k) (hm : 0 < m) (h : a + b = c + d) :
    |scaleDown k m a + scaleDown k m b - (scaleDown k m c + scaleDown k m d)| ≤ 2 := by
  have hle := scaleDown_add_sub_le hk hm h
  have hge := scaleDown_add_sub_le hk hm h.symm
  rw [abs_le]
  omega

end Scaling

end Nutcracker
