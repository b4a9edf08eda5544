import Nutcracker.Program.Scaling
import Nutcracker.Rccar.DriveExact
import Nutcracker.Rccar.Motor

/-!
# The mecanum mix

Bounds, rounding, order and symmetry of `rccar_drive_mix` on the whole range in which it does not
overflow.
-/

namespace Nutcracker

namespace WheelSpeeds

def speed (r : WheelSpeeds) : Wheel → ℤ
  | .fl => r.fl
  | .fr => r.fr
  | .rl => r.rl
  | .rr => r.rr

theorem speed_map (f : ℤ → ℤ) (r : WheelSpeeds) (wheel : Wheel) :
    (r.map f).speed wheel = f (r.speed wheel) := by
  cases wheel <;> rfl

theorem abs_speed_le (r : WheelSpeeds) (wheel : Wheel) : |r.speed wheel| ≤ r.maxAbs := by
  obtain ⟨hfl, hfr, hrl, hrr⟩ := r.abs_le_maxAbs
  cases wheel with
  | fl => exact hfl
  | fr => exact hfr
  | rl => exact hrl
  | rr => exact hrr

theorem maxAbs_le {r : WheelSpeeds} {b : ℤ} (h : ∀ wheel, |r.speed wheel| ≤ b) : r.maxAbs ≤ b :=
  max_le (max_le (max_le (h .fl) (h .fr)) (h .rl)) (h .rr)

theorem exists_abs_speed_eq (r : WheelSpeeds) : ∃ wheel, |r.speed wheel| = r.maxAbs := by
  by_contra hnone
  have hne : ∀ wheel, |r.speed wheel| ≤ r.maxAbs - 1 := by
    intro wheel
    have hlt := lt_of_le_of_ne (r.abs_speed_le wheel) fun h ↦ hnone ⟨wheel, h⟩
    omega
  have hle := maxAbs_le hne
  omega

end WheelSpeeds

section Scale

variable {m x y : ℤ}

theorem scaleWheel_of_gt (hm : 512 < m) : scaleWheel m x = scaleDown 512 m x := if_pos hm

theorem scaleWheel_of_le (hm : m ≤ 512) : scaleWheel m x = x := if_neg (not_lt.mpr hm)

theorem scaleWheel_mono (h : x ≤ y) : scaleWheel m x ≤ scaleWheel m y := by
  rcases lt_or_ge 512 m with hm | hm
  · rw [scaleWheel_of_gt hm, scaleWheel_of_gt hm]
    exact scaleDown_mono (by decide) (by omega) h
  · rw [scaleWheel_of_le hm, scaleWheel_of_le hm]
    exact h

/-- The fastest wheel keeps the full range. -/
theorem abs_scaleWheel_of_abs_eq (hm : 512 < m) (hx : |x| = m) : |scaleWheel m x| = 512 := by
  have hfull : scaleWheel m m = 512 := by
    rw [scaleWheel_of_gt hm]
    exact scaleDown_self (by omega)
  rcases abs_choice x with hpos | hneg
  · rw [hpos] at hx
    rw [hx, hfull]
    rfl
  · rw [hneg] at hx
    rw [← neg_neg x, scaleWheel_neg, hx, hfull]
    rfl

end Scale

/-! ## The result of a mix -/

/-- What the outputs `o` of the mix must be, for the raw sums `raw`. -/
structure MixOk (raw o : WheelSpeeds) : Prop where
  unscaled : raw.maxAbs ≤ 512 → o = raw
  full_range : 512 < raw.maxAbs → o.maxAbs = 512
  rounding : 512 < raw.maxAbs →
    ∀ wheel, |o.speed wheel * raw.maxAbs - raw.speed wheel * 512| < raw.maxAbs
  range : ∀ wheel, -512 ≤ o.speed wheel ∧ o.speed wheel ≤ 512
  direction : ∀ wheel, (0 < o.speed wheel → 0 < raw.speed wheel) ∧
    (o.speed wheel < 0 → raw.speed wheel < 0)
  order : ∀ wheel wheel', raw.speed wheel ≤ raw.speed wheel' → o.speed wheel ≤ o.speed wheel'
  slip : |(o.fl + o.fr) - (o.rl + o.rr)| ≤ 2
  no_slip : raw.maxAbs ≤ 512 → o.fl + o.fr = o.rl + o.rr

theorem rawWheelSums_balanced (vx vy w : ℤ) :
    (rawWheelSums vx vy w).fl + (rawWheelSums vx vy w).fr =
      (rawWheelSums vx vy w).rl + (rawWheelSums vx vy w).rr := by
  simp only [rawWheelSums]
  omega

theorem rawWheelSums_eq_zero_iff {vx vy w : ℤ} :
    rawWheelSums vx vy w = .zero ↔ vx = 0 ∧ vy = 0 ∧ w = 0 := by
  simp only [rawWheelSums, WheelSpeeds.zero, WheelSpeeds.mk.injEq]
  omega

section Mixed

variable (vx vy w : ℤ)

theorem speed_mixedWheels (wheel : Wheel) : (mixedWheels vx vy w).speed wheel =
    scaleWheel (rawWheelSums vx vy w).maxAbs ((rawWheelSums vx vy w).speed wheel) :=
  WheelSpeeds.speed_map _ _ wheel

theorem mixedWheels_of_le (hm : (rawWheelSums vx vy w).maxAbs ≤ 512) :
    mixedWheels vx vy w = rawWheelSums vx vy w := by
  simp only [mixedWheels, WheelSpeeds.map, scaleWheel_of_le hm]

theorem maxAbs_mixedWheels (hm : 512 < (rawWheelSums vx vy w).maxAbs) :
    (mixedWheels vx vy w).maxAbs = 512 := by
  apply le_antisymm
  · apply WheelSpeeds.maxAbs_le
    intro wheel
    rw [speed_mixedWheels]
    exact abs_scaleWheel_le (WheelSpeeds.abs_speed_le _ wheel)
  · obtain ⟨wheel, hwheel⟩ := (rawWheelSums vx vy w).exists_abs_speed_eq
    calc
      512 = |(mixedWheels vx vy w).speed wheel| := by
        rw [speed_mixedWheels, abs_scaleWheel_of_abs_eq hm hwheel]
      _ ≤ _ := WheelSpeeds.abs_speed_le _ wheel

theorem mixedWheels_slip : |((mixedWheels vx vy w).fl + (mixedWheels vx vy w).fr) -
    ((mixedWheels vx vy w).rl + (mixedWheels vx vy w).rr)| ≤ 2 := by
  rcases lt_or_ge 512 (rawWheelSums vx vy w).maxAbs with hm | hm
  · simp only [mixedWheels, WheelSpeeds.map, scaleWheel_of_gt hm]
    exact abs_scaleDown_add_sub_le (by decide) (by omega) (rawWheelSums_balanced vx vy w)
  · rw [mixedWheels_of_le vx vy w hm, rawWheelSums_balanced, sub_self]
    decide

theorem mixOk_mixedWheels : MixOk (rawWheelSums vx vy w) (mixedWheels vx vy w) where
  unscaled := mixedWheels_of_le vx vy w
  full_range := maxAbs_mixedWheels vx vy w
  rounding hm wheel := by
    rw [speed_mixedWheels, scaleWheel_of_gt hm]
    exact abs_scaleDown_mul_sub_lt (by omega)
  range wheel := by
    rw [speed_mixedWheels, ← abs_le]
    exact abs_scaleWheel_le (WheelSpeeds.abs_speed_le _ wheel)
  direction wheel := by
    rw [speed_mixedWheels]
    exact scaleWheel_sign
  order wheel wheel' h := by
    rw [speed_mixedWheels, speed_mixedWheels]
    exact scaleWheel_mono h
  slip := mixedWheels_slip vx vy w
  no_slip hm := by
    rw [mixedWheels_of_le vx vy w hm]
    exact rawWheelSums_balanced vx vy w

/-- Scaling never brings the fastest wheel to zero. -/
theorem mixedWheels_eq_zero_iff : mixedWheels vx vy w = .zero ↔ vx = 0 ∧ vy = 0 ∧ w = 0 := by
  rw [← rawWheelSums_eq_zero_iff]
  rcases lt_or_ge 512 (rawWheelSums vx vy w).maxAbs with hm | hm
  · have hmixed : mixedWheels vx vy w ≠ .zero := by
      intro h
      have hfull := maxAbs_mixedWheels vx vy w hm
      rw [h] at hfull
      exact absurd hfull (by decide)
    have hraw : rawWheelSums vx vy w ≠ .zero := by
      intro h
      rw [h] at hm
      exact absurd hm (by decide)
    exact iff_of_false hmixed hraw
  · rw [mixedWheels_of_le vx vy w hm]

end Mixed

theorem rccarDriveMix_ok {vx vy w : ℤ} (h : |vx| + |vy| + |w| ≤ 4194303) :
    ∃ o, rccarDriveMix vx vy w = some o ∧ MixOk (rawWheelSums vx vy w) o ∧
      (o = .zero ↔ vx = 0 ∧ vy = 0 ∧ w = 0) ∧
      rccarDriveMix (-vx) (-vy) (-w) = some (o.map fun x ↦ -x) ∧
      rccarDriveMix vx (-vy) (-w) = some o.swapSides := by
  refine ⟨mixedWheels vx vy w, rccarDriveMix_eq_some h, mixOk_mixedWheels vx vy w,
    mixedWheels_eq_zero_iff vx vy w, ?_, ?_⟩
  · rw [← mixedWheels_neg]
    apply rccarDriveMix_eq_some
    rwa [abs_neg, abs_neg, abs_neg]
  · rw [← mixedWheels_mirror]
    apply rccarDriveMix_eq_some
    rwa [abs_neg, abs_neg]

theorem rccarDriveMix_ok_full_yaw :
    |(512 : ℤ)| + |(300 : ℤ)| + |(-511 : ℤ)| ≤ 4194303 ∧
      ∃ o, rccarDriveMix 512 300 (-511) = some o ∧ MixOk (rawWheelSums 512 300 (-511)) o ∧
        (o = .zero ↔ (512 : ℤ) = 0 ∧ (300 : ℤ) = 0 ∧ (-511 : ℤ) = 0) ∧
        rccarDriveMix (-512) (-300) (- -511) = some (o.map fun x ↦ -x) ∧
        rccarDriveMix 512 (-300) (- -511) = some o.swapSides :=
  ⟨by decide, rccarDriveMix_ok (by decide)⟩

end Nutcracker
