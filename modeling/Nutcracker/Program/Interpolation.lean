import Nutcracker.Program.Scaling

/-!
# Moving from one integer to another in a given time

`interpolate start target duration elapsed` is the position on the way, computed with a truncated
quotient.  It starts at `start`, only ever moves toward `target`, and is there just from the end of
the duration on.
-/

namespace Nutcracker

/-- On the way to `target`, `b` comes after `a`. -/
def Toward (target a b : ℤ) : Prop := (a ≤ b ∧ b ≤ target) ∨ (target ≤ b ∧ b ≤ a)

def interpolate (start target duration elapsed : ℤ) : ℤ :=
  if duration ≤ elapsed then target else start + scaleDown elapsed duration (target - start)

section Toward

variable {target a b c : ℤ}

theorem Toward.refl (target a : ℤ) : Toward target a a := by
  unfold Toward
  omega

theorem Toward.trans (h : Toward target a b) (h' : Toward target b c) : Toward target a c := by
  unfold Toward at *
  omega

/-- What lies between two bounds stays there. -/
theorem Toward.bounds {lo hi : ℤ} (h : Toward target a b) (ha : lo ≤ a ∧ a ≤ hi)
    (ht : lo ≤ target ∧ target ≤ hi) : lo ≤ b ∧ b ≤ hi := by
  unfold Toward at h
  omega

end Toward

section Interpolate

variable {start target duration elapsed elapsed' k k' m x : ℤ}

/-- A larger share of a positive distance is no smaller. -/
theorem scaleDown_mono_left (hx : 0 ≤ x) (hm : 0 < m) (hk : k ≤ k') :
    scaleDown k m x ≤ scaleDown k' m x :=
  Int.tdiv_le_tdiv hm (mul_le_mul_of_nonneg_left hk hx)

/-- The whole of a distance. -/
theorem scaleDown_all (hm : 0 < m) (x : ℤ) : scaleDown m m x = x :=
  Int.mul_tdiv_cancel x hm.ne'

/-- A share that is not the whole is smaller. -/
theorem scaleDown_lt (hx : 0 < x) (hm : 0 < m) (hk₀ : 0 ≤ k) (hk : k < m) :
    scaleDown k m x < x := by
  have hloss : 0 ≤ scaleLoss k m x := scaleLoss_nonneg hk₀ hx.le
  have hproduct : scaleDown k m x * m < x * m := by
    calc
      scaleDown k m x * m ≤ scaleDown k m x * m + scaleLoss k m x := le_add_of_nonneg_right hloss
      _ = x * k := scaleDown_mul_add k m x
      _ < x * m := mul_lt_mul_of_pos_left hk hx
  exact lt_of_mul_lt_mul_right hproduct hm.le

theorem interpolate_eq (hd : 0 < duration) : interpolate start target duration elapsed =
    start + scaleDown (min elapsed duration) duration (target - start) := by
  unfold interpolate
  split
  · rename_i hover
    rw [min_eq_right hover, scaleDown_all hd]
    omega
  · rename_i hbefore
    rw [min_eq_left (not_le.mp hbefore).le]

theorem interpolate_zero (hd : 0 < duration) : interpolate start target duration 0 = start := by
  unfold interpolate scaleDown
  rw [if_neg (not_le.mpr hd), mul_zero, Int.zero_tdiv, add_zero]

/-- Later positions lie nearer to the target, and not beyond it. -/
theorem toward_interpolate (hd : 0 < duration) (hle : elapsed ≤ elapsed') :
    Toward target (interpolate start target duration elapsed)
      (interpolate start target duration elapsed') := by
  have hmin : min elapsed duration ≤ min elapsed' duration := min_le_min_right duration hle
  have hmax : min elapsed' duration ≤ duration := min_le_right _ _
  rw [interpolate_eq hd, interpolate_eq hd]
  rcases le_total start target with hup | hdown
  · left
    have hspan : 0 ≤ target - start := by omega
    have hlater := scaleDown_mono_left hspan hd hmin
    have hend := scaleDown_mono_left hspan hd hmax
    rw [scaleDown_all hd] at hend
    omega
  · right
    have hspan : 0 ≤ -(target - start) := by omega
    have hlater := scaleDown_mono_left hspan hd hmin
    have hend := scaleDown_mono_left hspan hd hmax
    rw [scaleDown_all hd] at hend
    rw [scaleDown_neg] at hlater hend
    rw [scaleDown_neg] at hlater
    omega

/-- The target is reached at the end of the duration and not before. -/
theorem interpolate_eq_target_iff (hd : 0 < duration) (hne : start ≠ target)
    (helapsed : 0 ≤ elapsed) :
    interpolate start target duration elapsed = target ↔ duration ≤ elapsed := by
  unfold interpolate
  split
  · exact iff_of_true rfl ‹_›
  · rename_i hbefore
    refine iff_of_false ?_ hbefore
    rcases lt_or_gt_of_ne hne with hup | hdown
    · have hshort := scaleDown_lt (x := target - start) (by omega) hd helapsed
        (not_le.mp hbefore)
      omega
    · have hshort := scaleDown_lt (x := -(target - start)) (by omega) hd helapsed
        (not_le.mp hbefore)
      rw [scaleDown_neg] at hshort
      omega

end Interpolate

end Nutcracker
