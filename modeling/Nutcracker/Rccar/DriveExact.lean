import Nutcracker.Rccar.Drive

/-!
# Exact results of the mix and of the stick conditioning

On the ranges that the platform uses no intermediate value of `rccar_drive.c` leaves `int32_t`.
The checked functions then return the closed forms of this file, on which symmetry and bounds are
proved.
-/

namespace Nutcracker

open CheckedInt

theorem iabs_eq_some {x : ℤ} (hx : |x| ≤ 2147483647) : iabs x = some |x| := by
  unfold iabs
  split
  · rename_i hneg
    rw [neg_eq_some hx, abs_of_neg hneg]
  · rename_i hnonneg
    rw [abs_of_nonneg (not_lt.mp hnonneg)]

theorem rccarDriveMaxAbs_eq_some {m x : ℤ} (hx : |x| ≤ 2147483647) :
    rccarDriveMaxAbs m x = some (max m |x|) := by
  have hmax : (if |x| > m then |x| else m) = max m |x| := by
    rcases le_or_gt |x| m with h | h
    · rw [if_neg (not_lt.mpr h), max_eq_left h]
    · rw [if_pos h, max_eq_right h.le]
  simp [rccarDriveMaxAbs, iabs_eq_some hx, hmax]

/-! ## Mix -/

/-- The wheel sums before normalisation. -/
def rawWheelSums (vx vy w : ℤ) : WheelSpeeds :=
  ⟨vx + vy + w, vx - vy - w, vx - vy + w, vx + vy - w⟩

namespace WheelSpeeds

def maxAbs (r : WheelSpeeds) : ℤ := max (max (max |r.fl| |r.fr|) |r.rl|) |r.rr|

/-- The same function on every wheel. -/
def map (f : ℤ → ℤ) (r : WheelSpeeds) : WheelSpeeds := ⟨f r.fl, f r.fr, f r.rl, f r.rr⟩

/-- Left and right wheels exchanged. -/
def swapSides (r : WheelSpeeds) : WheelSpeeds := ⟨r.fr, r.fl, r.rr, r.rl⟩

theorem abs_le_maxAbs (r : WheelSpeeds) :
    |r.fl| ≤ r.maxAbs ∧ |r.fr| ≤ r.maxAbs ∧ |r.rl| ≤ r.maxAbs ∧ |r.rr| ≤ r.maxAbs := by
  simp [maxAbs]

theorem maxAbs_swapSides (r : WheelSpeeds) : r.swapSides.maxAbs = r.maxAbs := by
  unfold maxAbs swapSides
  rw [max_comm |r.fr| |r.fl|, max_right_comm]

theorem maxAbs_neg (r : WheelSpeeds) : (r.map fun x ↦ -x).maxAbs = r.maxAbs := by
  simp [maxAbs, map]

end WheelSpeeds

/-- One wheel after normalisation by the largest magnitude `m`. -/
def scaleWheel (m x : ℤ) : ℤ := if m > 512 then (x * 512).tdiv m else x

/-- What `rccar_drive_mix` computes. -/
def mixedWheels (vx vy w : ℤ) : WheelSpeeds :=
  (rawWheelSums vx vy w).map (scaleWheel (rawWheelSums vx vy w).maxAbs)

theorem rccarDriveScale_eq_some {m x b : ℤ} (hm : m ≠ 0) (hx : |x| ≤ b)
    (hb : b * 512 ≤ 2147483647) : rccarDriveScale x m = some ((x * 512).tdiv m) := by
  have hmul : mul x 512 = some (x * 512) := mul_eq_some hx le_rfl hb
  have hprod : |x * 512| ≤ 2147483647 := by
    rw [abs_mul]
    exact (mul_le_mul_of_nonneg_right hx (by decide)).trans hb
  simp [rccarDriveScale, hmul, div_eq_some hm hprod]

/-- Each raw sum is bounded by the sum of the three magnitudes. -/
theorem abs_rawWheelSums_le (vx vy w : ℤ) :
    (rawWheelSums vx vy w).maxAbs ≤ |vx| + |vy| + |w| := by
  have hx := abs_le.mp (le_refl |vx|)
  have hy := abs_le.mp (le_refl |vy|)
  have hw := abs_le.mp (le_refl |w|)
  simp only [WheelSpeeds.maxAbs, rawWheelSums, max_le_iff, abs_le]
  omega

theorem rccarDriveMix_eq_some {vx vy w : ℤ} (h : |vx| + |vy| + |w| ≤ 4194303) :
    rccarDriveMix vx vy w = some (mixedWheels vx vy w) := by
  have hadd : ∀ x y : ℤ, |x| + |y| ≤ 4194303 → add x y = some (x + y) := fun x y hxy ↦
    add_eq_some le_rfl le_rfl (by omega)
  have hsub : ∀ x y : ℤ, |x| + |y| ≤ 4194303 → sub x y = some (x - y) := fun x y hxy ↦
    sub_eq_some le_rfl le_rfl (by omega)
  have hplus := abs_add_le vx vy
  have hminus := abs_sub vx vy
  have hw := abs_nonneg w
  have hfl : add (vx + vy) w = some (vx + vy + w) := hadd _ _ (by omega)
  have hfr : sub (vx - vy) w = some (vx - vy - w) := hsub _ _ (by omega)
  have hrl : add (vx - vy) w = some (vx - vy + w) := hadd _ _ (by omega)
  have hrr : sub (vx + vy) w = some (vx + vy - w) := hsub _ _ (by omega)
  have hmax := (abs_rawWheelSums_le vx vy w).trans h
  obtain ⟨bfl, bfr, brl, brr⟩ := (rawWheelSums vx vy w).abs_le_maxAbs
  simp only [rawWheelSums] at bfl bfr brl brr hmax
  have habs : ∀ {x : ℤ}, |x| ≤ 4194303 → |x| ≤ 2147483647 := fun hx ↦ hx.trans (by decide)
  simp only [rccarDriveMix, hadd vx vy (by omega), hsub vx vy (by omega), hfl, hfr, hrl, hrr,
    iabs_eq_some (habs (bfl.trans hmax)), rccarDriveMaxAbs_eq_some (habs (bfr.trans hmax)),
    rccarDriveMaxAbs_eq_some (habs (brl.trans hmax)),
    rccarDriveMaxAbs_eq_some (habs (brr.trans hmax)), Option.bind_eq_bind, Option.bind_some,
    Option.pure_def]
  change (if (rawWheelSums vx vy w).maxAbs > 512 then _ else _) = _
  split
  · rename_i hbig
    have hscale : ∀ {x : ℤ}, |x| ≤ 4194303 →
        rccarDriveScale x (rawWheelSums vx vy w).maxAbs =
          some ((x * 512).tdiv (rawWheelSums vx vy w).maxAbs) := fun hx ↦
      rccarDriveScale_eq_some (by omega) hx (by decide)
    have hmixed : mixedWheels vx vy w = (rawWheelSums vx vy w).map fun x ↦
        (x * 512).tdiv (rawWheelSums vx vy w).maxAbs := by
      simp only [mixedWheels, WheelSpeeds.map, scaleWheel, if_pos hbig]
    rw [hmixed]
    change ((rccarDriveScale _ (rawWheelSums vx vy w).maxAbs).bind fun _ ↦
      (rccarDriveScale _ (rawWheelSums vx vy w).maxAbs).bind fun _ ↦
        (rccarDriveScale _ (rawWheelSums vx vy w).maxAbs).bind fun _ ↦
          (rccarDriveScale _ (rawWheelSums vx vy w).maxAbs).bind fun _ ↦ _) = _
    rw [hscale (bfl.trans hmax), hscale (bfr.trans hmax), hscale (brl.trans hmax),
      hscale (brr.trans hmax)]
    rfl
  · rename_i hsmall
    simp only [mixedWheels, WheelSpeeds.map, scaleWheel, if_neg hsmall]
    rfl

theorem scaleWheel_neg (m x : ℤ) : scaleWheel m (-x) = -scaleWheel m x := by
  unfold scaleWheel
  split
  · rw [neg_mul, Int.neg_tdiv]
  · rfl

theorem abs_scaleWheel_le {m x : ℤ} (hx : |x| ≤ m) : |scaleWheel m x| ≤ 512 := by
  unfold scaleWheel
  split
  · rename_i hm
    have hmpos : 0 < m := by omega
    rw [Int.abs_eq_natAbs, Int.natAbs_tdiv]
    have hx' : x.natAbs ≤ m.natAbs := by
      rw [Int.abs_eq_natAbs] at hx
      omega
    have hle : (x * 512).natAbs / m.natAbs ≤ 512 := by
      rw [Int.natAbs_mul]
      exact Nat.div_le_of_le_mul (Nat.mul_le_mul_right 512 hx')
    exact_mod_cast hle
  · omega

/-- Normalisation never turns a wheel the other way. -/
theorem scaleWheel_sign {m x : ℤ} :
    (0 < scaleWheel m x → 0 < x) ∧ (scaleWheel m x < 0 → x < 0) := by
  unfold scaleWheel
  split
  · rename_i hm
    have hmnonneg : 0 ≤ m := by omega
    constructor
    · intro hpos
      by_contra hx
      have hneg : 0 ≤ (-(x * 512)).tdiv m := Int.tdiv_nonneg (by omega) hmnonneg
      rw [Int.neg_tdiv] at hneg
      omega
    · intro hneg
      by_contra hx
      have hpos : 0 ≤ (x * 512).tdiv m := Int.tdiv_nonneg (by omega) hmnonneg
      omega
  · exact ⟨id, id⟩

theorem mixedWheels_neg (vx vy w : ℤ) :
    mixedWheels (-vx) (-vy) (-w) = (mixedWheels vx vy w).map fun x ↦ -x := by
  have hraw : rawWheelSums (-vx) (-vy) (-w) = (rawWheelSums vx vy w).map fun x ↦ -x := by
    simp only [rawWheelSums, WheelSpeeds.map, WheelSpeeds.mk.injEq]
    omega
  unfold mixedWheels
  rw [hraw, WheelSpeeds.maxAbs_neg]
  simp only [WheelSpeeds.map, scaleWheel_neg]

theorem mixedWheels_mirror (vx vy w : ℤ) :
    mixedWheels vx (-vy) (-w) = (mixedWheels vx vy w).swapSides := by
  have hraw : rawWheelSums vx (-vy) (-w) = (rawWheelSums vx vy w).swapSides := by
    simp only [rawWheelSums, WheelSpeeds.swapSides, WheelSpeeds.mk.injEq]
    omega
  unfold mixedWheels
  rw [hraw, WheelSpeeds.maxAbs_swapSides]
  rfl

/-! ## Deadzone and diagonal snap -/

/-- One axis after the deadzone. -/
def deadzoned (v deadzone : ℤ) : ℤ := if |v| ≤ deadzone then 0 else v

theorem rccarDriveApplyDeadzone_eq_some {v deadzone : ℤ} (hv : |v| ≤ 2147483647) :
    rccarDriveApplyDeadzone v deadzone = some (deadzoned v deadzone) := by
  unfold deadzoned
  simp only [rccarDriveApplyDeadzone, iabs_eq_some hv, Option.bind_eq_bind, Option.bind_some]
  split <;> rfl

theorem deadzoned_neg (v deadzone : ℤ) : deadzoned (-v) deadzone = -deadzoned v deadzone := by
  unfold deadzoned
  rw [abs_neg]
  split <;> simp

theorem abs_deadzoned_le (v deadzone : ℤ) : |deadzoned v deadzone| ≤ |v| := by
  unfold deadzoned
  split
  · simp
  · rfl

/-- The magnitudes that `snap_diagonal_cone` moves to the diagonal. -/
def SnapCone (ax ay deadzone tanLo tanHi : ℤ) : Prop :=
  (ax ≥ diagGate deadzone ∧ ay ≥ diagGate deadzone ∧ max ax ay > deadzone) ∧
    ay * diagRatioNum ≥ ax * tanLo ∧ ay * diagRatioNum ≤ ax * tanHi

instance (ax ay deadzone tanLo tanHi : ℤ) : Decidable (SnapCone ax ay deadzone tanLo tanHi) :=
  inferInstanceAs (Decidable ((_ ∧ _ ∧ _) ∧ _ ∧ _))

/-- `mag` with the sign of `v`. -/
def signed (v mag : ℤ) : ℤ := if v < 0 then -mag else mag

/-- What `snap_diagonal_cone` computes. -/
def snapped (vx vy deadzone tanLo tanHi : ℤ) : ℤ × ℤ :=
  if SnapCone |vx| |vy| deadzone tanLo tanHi then
    (signed vx (max |vx| |vy|), signed vy (max |vx| |vy|))
  else
    (deadzoned vx deadzone, deadzoned vy deadzone)

theorem withSign_eq_some {v mag : ℤ} (hmag : |mag| ≤ 2147483647) :
    withSign v mag = some (signed v mag) := by
  unfold withSign signed
  split
  · exact neg_eq_some hmag
  · rfl

theorem inDiagonalCone_eq_some {ax ay tanLo tanHi : ℤ} (hax : |ax| ≤ 500000)
    (hay : |ay| ≤ 500000) (hlo : |tanLo| ≤ 4000) (hhi : |tanHi| ≤ 4000) :
    inDiagonalCone ax ay tanLo tanHi =
      some (decide (ay * diagRatioNum ≥ ax * tanLo ∧ ay * diagRatioNum ≤ ax * tanHi)) := by
  have hnum : mul ay diagRatioNum = some (ay * diagRatioNum) :=
    mul_eq_some hay (le_refl |diagRatioNum|) (by decide)
  have hlow : mul ax tanLo = some (ax * tanLo) := mul_eq_some hax hlo (by decide)
  have hhigh : mul ax tanHi = some (ax * tanHi) := mul_eq_some hax hhi (by decide)
  simp only [inDiagonalCone, hnum, hlow, hhigh, Option.bind_eq_bind, Option.bind_some]
  split
  · rename_i h
    simp [h]
  · rename_i h
    simp [h]

theorem snapDiagonalCone_eq_some {vx vy deadzone tanLo tanHi : ℤ} (hvx : |vx| ≤ 500000)
    (hvy : |vy| ≤ 500000) (hlo : |tanLo| ≤ 4000) (hhi : |tanHi| ≤ 4000) :
    snapDiagonalCone vx vy deadzone tanLo tanHi = some (snapped vx vy deadzone tanLo tanHi) := by
  have hmag : (if |vx| > |vy| then |vx| else |vy|) = max |vx| |vy| := by
    rcases le_or_gt |vx| |vy| with h | h
    · rw [if_neg (not_lt.mpr h), max_eq_right h]
    · rw [if_pos h, max_eq_left h.le]
  have hmagle : |(max |vx| |vy|)| ≤ 2147483647 := by
    rw [abs_of_nonneg ((abs_nonneg vx).trans (le_max_left _ _))]
    exact (max_le hvx hvy).trans (by decide)
  have hcone := inDiagonalCone_eq_some ((abs_abs vx).trans_le hvx) ((abs_abs vy).trans_le hvy)
    hlo hhi
  simp only [snapDiagonalCone, iabs_eq_some (hvx.trans (by decide)),
    iabs_eq_some (hvy.trans (by decide)), hmag, hcone, withSign_eq_some hmagle,
    Option.bind_eq_bind, Option.bind_some, Option.pure_def, snapped]
  split
  · rename_i hgate
    by_cases hin : |vy| * diagRatioNum ≥ |vx| * tanLo ∧ |vy| * diagRatioNum ≤ |vx| * tanHi
    · have hsnap : SnapCone |vx| |vy| deadzone tanLo tanHi := ⟨hgate, hin⟩
      rw [if_pos hsnap, decide_eq_true hin]
      rfl
    · have hsnap : ¬SnapCone |vx| |vy| deadzone tanLo tanHi := fun h ↦ hin h.2
      rw [if_neg hsnap, decide_eq_false hin]
      rfl
  · rename_i hgate
    have hsnap : ¬SnapCone |vx| |vy| deadzone tanLo tanHi := fun h ↦ hgate h.1
    rw [if_neg hsnap]
    rfl

section Snapped

variable {vx vy deadzone tanLo tanHi : ℤ}

theorem diagGate_pos (deadzone : ℤ) : 0 < diagGate deadzone := by
  unfold diagGate
  split
  · omega
  · decide

/-- In the cone neither axis is zero, since the gate is positive. -/
theorem SnapCone.ne_zero (h : SnapCone |vx| |vy| deadzone tanLo tanHi) : vx ≠ 0 ∧ vy ≠ 0 := by
  obtain ⟨⟨hx, hy, -⟩, -⟩ := h
  have hgate := diagGate_pos deadzone
  exact ⟨abs_pos.mp (hgate.trans_le hx), abs_pos.mp (hgate.trans_le hy)⟩

theorem signed_neg {v mag : ℤ} (hv : v ≠ 0) : signed (-v) mag = -signed v mag := by
  unfold signed
  rcases lt_or_gt_of_ne hv with h | h
  · rw [if_pos h, if_neg (by omega), neg_neg]
  · rw [if_neg h.not_gt, if_pos (by omega)]

theorem snapped_neg_right :
    snapped vx (-vy) deadzone tanLo tanHi =
      ((snapped vx vy deadzone tanLo tanHi).1, -(snapped vx vy deadzone tanLo tanHi).2) := by
  unfold snapped
  rw [abs_neg]
  split
  · rename_i hcone
    rw [signed_neg hcone.ne_zero.2]
  · rw [deadzoned_neg]

theorem snapped_neg_left :
    snapped (-vx) vy deadzone tanLo tanHi =
      (-(snapped vx vy deadzone tanLo tanHi).1, (snapped vx vy deadzone tanLo tanHi).2) := by
  unfold snapped
  rw [abs_neg]
  split
  · rename_i hcone
    rw [signed_neg hcone.ne_zero.1]
  · rw [deadzoned_neg]

theorem snapped_of_le (hx : |vx| ≤ deadzone) (hy : |vy| ≤ deadzone) :
    snapped vx vy deadzone tanLo tanHi = (0, 0) := by
  unfold snapped
  rw [if_neg]
  · unfold deadzoned
    rw [if_pos hx, if_pos hy]
  · rintro ⟨⟨-, -, hmag⟩, -⟩
    exact absurd (max_le hx hy) (not_le.mpr hmag)

theorem abs_signed (v mag : ℤ) : |signed v mag| = |mag| := by
  unfold signed
  split
  · exact abs_neg mag
  · rfl

theorem abs_snapped_le {b : ℤ} (hx : |vx| ≤ b) (hy : |vy| ≤ b) :
    |(snapped vx vy deadzone tanLo tanHi).1| ≤ b ∧
      |(snapped vx vy deadzone tanLo tanHi).2| ≤ b := by
  unfold snapped
  split
  · simp only [abs_signed]
    rw [abs_of_nonneg ((abs_nonneg vx).trans (le_max_left _ _))]
    exact ⟨max_le hx hy, max_le hx hy⟩
  · exact ⟨(abs_deadzoned_le _ _).trans hx, (abs_deadzoned_le _ _).trans hy⟩

end Snapped

end Nutcracker
