import Nutcracker.Rccar.DriveExact

/-!
# The diagonal snap

`snap_diagonal_cone` moves a vector near a diagonal onto it and clears axes inside the deadzone.
It is a projection that keeps the larger magnitude.  Its cone is bounded by two tangents that were
rounded separately, so it is not exactly symmetric about the diagonal.
-/

namespace Nutcracker

def maxNorm (v : ℤ × ℤ) : ℤ := max |v.1| |v.2|

section Projection

variable {vx vy deadzone tanLo tanHi : ℤ}

theorem snapped_of_cone (h : SnapCone |vx| |vy| deadzone tanLo tanHi) :
    snapped vx vy deadzone tanLo tanHi =
      (signed vx (maxNorm (vx, vy)), signed vy (maxNorm (vx, vy))) :=
  if_pos h

theorem snapped_of_not_cone (h : ¬SnapCone |vx| |vy| deadzone tanLo tanHi) :
    snapped vx vy deadzone tanLo tanHi = (deadzoned vx deadzone, deadzoned vy deadzone) :=
  if_neg h

theorem maxNorm_nonneg (v : ℤ × ℤ) : 0 ≤ maxNorm v := (abs_nonneg v.1).trans (le_max_left _ _)

theorem deadzoned_deadzoned (v deadzone : ℤ) :
    deadzoned (deadzoned v deadzone) deadzone = deadzoned v deadzone := by
  unfold deadzoned
  split
  · exact ite_self 0
  · rfl

theorem signed_signed {v mag : ℤ} (hmag : 0 < mag) : signed (signed v mag) mag = signed v mag := by
  unfold signed
  split
  · rw [if_pos (by omega)]
  · rw [if_neg (by omega)]

/-- On the diagonal only the gate and the deadzone count. -/
theorem snapCone_diagonal {mag : ℤ} (hlo : tanLo ≤ 1000) (hhi : 1000 ≤ tanHi) (hmag : 0 ≤ mag) :
    SnapCone mag mag deadzone tanLo tanHi ↔ diagGate deadzone ≤ mag ∧ deadzone < mag := by
  have hlow : mag * tanLo ≤ mag * 1000 := mul_le_mul_of_nonneg_left hlo hmag
  have hhigh : mag * 1000 ≤ mag * tanHi := mul_le_mul_of_nonneg_left hhi hmag
  unfold SnapCone
  rw [max_self]
  constructor
  · rintro ⟨⟨hgate, -, hdead⟩, -⟩
    exact ⟨hgate, hdead⟩
  · rintro ⟨hgate, hdead⟩
    exact ⟨⟨hgate, hgate, hdead⟩, hlow, hhigh⟩

/-- A vector in the cone lands on the diagonal, where it stays. -/
theorem snapped_snapped_of_cone (hlo : tanLo ≤ 1000) (hhi : 1000 ≤ tanHi)
    (h : SnapCone |vx| |vy| deadzone tanLo tanHi) :
    snapped (signed vx (maxNorm (vx, vy))) (signed vy (maxNorm (vx, vy))) deadzone tanLo tanHi =
      (signed vx (maxNorm (vx, vy)), signed vy (maxNorm (vx, vy))) := by
  obtain ⟨⟨hx, -, hdead⟩, -⟩ := h
  have hgate : diagGate deadzone ≤ maxNorm (vx, vy) := le_max_of_le_left hx
  have hpos : 0 < maxNorm (vx, vy) := (diagGate_pos deadzone).trans_le hgate
  have hmag : ∀ v, |signed v (maxNorm (vx, vy))| = maxNorm (vx, vy) := fun v ↦ by
    rw [abs_signed, abs_of_pos hpos]
  have hcone : SnapCone |signed vx (maxNorm (vx, vy))| |signed vy (maxNorm (vx, vy))| deadzone
      tanLo tanHi := by
    rw [hmag, hmag, snapCone_diagonal hlo hhi hpos.le]
    exact ⟨hgate, hdead⟩
  rw [snapped_of_cone hcone]
  unfold maxNorm at hmag hpos ⊢
  simp only [hmag, max_self, signed_signed hpos]

/-- Clearing an axis leaves the cone, and without clearing nothing changes. -/
theorem not_snapCone_deadzoned (h : ¬SnapCone |vx| |vy| deadzone tanLo tanHi) :
    ¬SnapCone |deadzoned vx deadzone| |deadzoned vy deadzone| deadzone tanLo tanHi := by
  intro hcone
  obtain ⟨hx, hy⟩ := hcone.ne_zero
  unfold deadzoned at hx hy hcone
  split at hx
  · exact hx rfl
  · split at hy
    · exact hy rfl
    · rename_i hbigx hbigy
      rw [if_neg hbigx, if_neg hbigy] at hcone
      exact h hcone

theorem snapped_snapped (hlo : tanLo ≤ 1000) (hhi : 1000 ≤ tanHi) :
    snapped (snapped vx vy deadzone tanLo tanHi).1 (snapped vx vy deadzone tanLo tanHi).2 deadzone
      tanLo tanHi = snapped vx vy deadzone tanLo tanHi := by
  by_cases h : SnapCone |vx| |vy| deadzone tanLo tanHi
  · rw [snapped_of_cone h]
    exact snapped_snapped_of_cone hlo hhi h
  · rw [snapped_of_not_cone h]
    rw [snapped_of_not_cone (not_snapCone_deadzoned h), deadzoned_deadzoned, deadzoned_deadzoned]

theorem abs_deadzoned (v deadzone : ℤ) :
    |deadzoned v deadzone| = if |v| ≤ deadzone then 0 else |v| := by
  unfold deadzoned
  split <;> rfl

theorem maxNorm_snapped (hdead : 0 ≤ deadzone) (h : deadzone < maxNorm (vx, vy)) :
    maxNorm (snapped vx vy deadzone tanLo tanHi) = maxNorm (vx, vy) := by
  by_cases hcone : SnapCone |vx| |vy| deadzone tanLo tanHi
  · rw [snapped_of_cone hcone]
    calc
      _ = max |maxNorm (vx, vy)| |maxNorm (vx, vy)| := by
        simp only [maxNorm, abs_signed]
      _ = _ := by rw [max_self, abs_of_nonneg (maxNorm_nonneg _)]
  · rw [snapped_of_not_cone hcone]
    simp only [maxNorm, abs_deadzoned] at h ⊢
    have hx := abs_nonneg vx
    have hy := abs_nonneg vy
    split_ifs <;> omega

theorem snapped_axis :
    ((snapped vx vy deadzone tanLo tanHi).1 = 0 ∨ (snapped vx vy deadzone tanLo tanHi).1 = vx ∨
      (snapped vx vy deadzone tanLo tanHi).1 = signed vx (maxNorm (vx, vy))) ∧
    ((snapped vx vy deadzone tanLo tanHi).2 = 0 ∨ (snapped vx vy deadzone tanLo tanHi).2 = vy ∨
      (snapped vx vy deadzone tanLo tanHi).2 = signed vy (maxNorm (vx, vy))) := by
  have hdead : ∀ v, deadzoned v deadzone = 0 ∨ deadzoned v deadzone = v := fun v ↦ by
    unfold deadzoned
    split
    · exact .inl rfl
    · exact .inr rfl
  by_cases hcone : SnapCone |vx| |vy| deadzone tanLo tanHi
  · rw [snapped_of_cone hcone]
    exact ⟨.inr (.inr rfl), .inr (.inr rfl)⟩
  · rw [snapped_of_not_cone hcone]
    exact ⟨(hdead vx).imp_right .inl, (hdead vy).imp_right .inl⟩

/-- A wider cone gives the same result on vectors that the narrower one leaves on the diagonal. -/
theorem snapped_wider {tanLo' tanHi' : ℤ} (hlo : tanLo ≤ 1000) (hhi : 1000 ≤ tanHi)
    (hlo' : tanLo' ≤ tanLo) (hhi' : tanHi ≤ tanHi') (hdead : 0 ≤ deadzone)
    (h : |(snapped vx vy deadzone tanLo tanHi).1| = |(snapped vx vy deadzone tanLo tanHi).2|) :
    snapped vx vy deadzone tanLo' tanHi' = snapped vx vy deadzone tanLo tanHi := by
  by_cases hcone : SnapCone |vx| |vy| deadzone tanLo tanHi
  · have hwide : SnapCone |vx| |vy| deadzone tanLo' tanHi' := by
      refine ⟨hcone.1, le_trans ?_ hcone.2.1, hcone.2.2.trans ?_⟩
      · exact mul_le_mul_of_nonneg_left hlo' (abs_nonneg vx)
      · exact mul_le_mul_of_nonneg_left hhi' (abs_nonneg vx)
    rw [snapped_of_cone hcone, snapped_of_cone hwide]
  · rw [snapped_of_not_cone hcone] at h ⊢
    simp only [abs_deadzoned] at h
    have hx := abs_nonneg vx
    by_cases hin : |vx| ≤ deadzone ∧ |vy| ≤ deadzone
    · rw [snapped_of_le hin.1 hin.2]
      unfold deadzoned
      rw [if_pos hin.1, if_pos hin.2]
    · have hdiag : |vx| = |vy| ∧ deadzone < |vy| := by
        split_ifs at h <;> omega
      apply snapped_of_not_cone
      rw [hdiag.1] at hcone ⊢
      rw [snapCone_diagonal hlo hhi (abs_nonneg vy)] at hcone
      rwa [snapCone_diagonal (hlo'.trans hlo) (hhi.trans hhi') (abs_nonneg vy)]

end Projection

/-! ## The two snaps -/

/-- What the result `o` of a snap must be. -/
structure SnapOk (snap : ℤ → ℤ → Option (ℤ × ℤ)) (deadzone vx vy : ℤ) (o : ℤ × ℤ) : Prop where
  result : snap vx vy = some o
  again : snap o.1 o.2 = some o
  flip_x : snap (-vx) vy = some (-o.1, o.2)
  flip_y : snap vx (-vy) = some (o.1, -o.2)
  norm_kept : deadzone < maxNorm (vx, vy) → maxNorm o = maxNorm (vx, vy)
  cleared : maxNorm (vx, vy) ≤ deadzone → o = (0, 0)
  axis_x : o.1 = 0 ∨ o.1 = vx ∨ o.1 = signed vx (maxNorm (vx, vy))
  axis_y : o.2 = 0 ∨ o.2 = vy ∨ o.2 = signed vy (maxNorm (vx, vy))

theorem snapOk_snapped {vx vy deadzone tanLo tanHi : ℤ} (hvx : |vx| ≤ 500000)
    (hvy : |vy| ≤ 500000) (hdead : 0 ≤ deadzone) (hlo : tanLo ≤ 1000) (hhi : 1000 ≤ tanHi)
    (hlo' : |tanLo| ≤ 4000) (hhi' : |tanHi| ≤ 4000) :
    SnapOk (fun vx vy ↦ snapDiagonalCone vx vy deadzone tanLo tanHi) deadzone vx vy
      (snapped vx vy deadzone tanLo tanHi) where
  result := snapDiagonalCone_eq_some hvx hvy hlo' hhi'
  again := by
    have hbound : |(snapped vx vy deadzone tanLo tanHi).1| ≤ 500000 ∧
        |(snapped vx vy deadzone tanLo tanHi).2| ≤ 500000 := abs_snapped_le hvx hvy
    rw [snapDiagonalCone_eq_some hbound.1 hbound.2 hlo' hhi', snapped_snapped hlo hhi]
  flip_x := by
    rw [snapDiagonalCone_eq_some ((abs_neg vx).trans_le hvx) hvy hlo' hhi', snapped_neg_left]
  flip_y := by
    rw [snapDiagonalCone_eq_some hvx ((abs_neg vy).trans_le hvy) hlo' hhi', snapped_neg_right]
  norm_kept := maxNorm_snapped hdead
  cleared h := snapped_of_le ((le_max_left _ _).trans h) ((le_max_right _ _).trans h)
  axis_x := snapped_axis.1
  axis_y := snapped_axis.2

theorem snapDiagonal_projection {vx vy deadzone : ℤ} (hvx : |vx| ≤ 500000) (hvy : |vy| ≤ 500000)
    (hdead : 0 ≤ deadzone) :
    ∃ narrow wide, SnapOk (rccarDriveSnapDiagonal · · deadzone) deadzone vx vy narrow ∧
      SnapOk (rccarDriveSnapDiagonalWide · · deadzone) deadzone vx vy wide ∧
      (|narrow.1| = |narrow.2| → wide = narrow) := by
  refine ⟨snapped vx vy deadzone diagTanLo diagTanHi,
    snapped vx vy deadzone diagTanLoWide diagTanHiWide, ?_, ?_, ?_⟩
  · exact snapOk_snapped hvx hvy hdead (by decide) (by decide) (by decide) (by decide)
  · exact snapOk_snapped hvx hvy hdead (by decide) (by decide) (by decide) (by decide)
  · exact snapped_wider (by decide) (by decide) (by decide) (by decide) hdead

theorem snapDiagonal_projection_near_edge :
    |(-400 : ℤ)| ≤ 500000 ∧ |(250 : ℤ)| ≤ 500000 ∧
      ∃ narrow wide, SnapOk (rccarDriveSnapDiagonal · · 60) 60 (-400) 250 narrow ∧
        SnapOk (rccarDriveSnapDiagonalWide · · 60) 60 (-400) 250 wide ∧
        (|narrow.1| = |narrow.2| → wide = narrow) :=
  ⟨by decide, by decide, snapDiagonal_projection (by decide) (by decide) (by decide)⟩

/-! ## Exchanging the axes -/

section Exchange

variable {vx vy deadzone tanLo tanHi : ℤ}

/-- Exchanging the axes commutes with a snap just when the cone has both vectors or neither. -/
theorem snapped_swap_iff :
    snapped vy vx deadzone tanLo tanHi = (snapped vx vy deadzone tanLo tanHi).swap ↔
      (SnapCone |vx| |vy| deadzone tanLo tanHi ↔ SnapCone |vy| |vx| deadzone tanLo tanHi) := by
  have hnorm : maxNorm (vy, vx) = maxNorm (vx, vy) := max_comm _ _
  have hgated : ∀ {x y : ℤ}, SnapCone |x| |y| deadzone tanLo tanHi →
      (deadzoned x deadzone, deadzoned y deadzone) =
        (signed x (maxNorm (x, y)), signed y (maxNorm (x, y))) →
      SnapCone |y| |x| deadzone tanLo tanHi := by
    intro x y hcone heq
    -- a vector that the snap does not move is on the diagonal already
    have hdiag : |x| = |y| := by
      have hx : deadzoned x deadzone = signed x (maxNorm (x, y)) := congrArg Prod.fst heq
      have hy : deadzoned y deadzone = signed y (maxNorm (x, y)) := congrArg Prod.snd heq
      have hmag := abs_of_nonneg (maxNorm_nonneg (x, y))
      replace hx := congrArg abs hx
      replace hy := congrArg abs hy
      rw [abs_deadzoned, abs_signed, hmag] at hx hy
      have hxpos := abs_pos.mpr hcone.ne_zero.1
      simp only [maxNorm] at hx hy
      split_ifs at hx hy <;> omega
    rwa [hdiag] at hcone ⊢
  constructor
  · intro hswap
    by_cases hx : SnapCone |vx| |vy| deadzone tanLo tanHi <;>
      by_cases hy : SnapCone |vy| |vx| deadzone tanLo tanHi
    · exact iff_of_true hx hy
    · rw [snapped_of_cone hx, snapped_of_not_cone hy] at hswap
      exact iff_of_true hx (hgated hx (congrArg Prod.swap hswap))
    · rw [snapped_of_cone hy, snapped_of_not_cone hx] at hswap
      exact iff_of_true (hgated hy hswap.symm) hy
    · exact iff_of_false hx hy
  · intro hcone
    by_cases hx : SnapCone |vx| |vy| deadzone tanLo tanHi
    · rw [snapped_of_cone hx, snapped_of_cone (hcone.mp hx), hnorm]
      rfl
    · rw [snapped_of_not_cone hx, snapped_of_not_cone fun hy ↦ hx (hcone.mpr hy)]
      rfl

/-- Between the two edges of the narrow cone: the slope `lo / hi` is at least `0.364`, while
`hi / lo` is above `2.747`. -/
def NarrowEdge (lo hi : ℤ) : Prop := 364 * hi ≤ 1000 * lo ∧ 2747 * lo < 1000 * hi

/-- Between the two edges of the wide cone: `hi / lo` is at most `3.732`, while `lo / hi` is below
`0.268`. -/
def WideEdge (lo hi : ℤ) : Prop := 1000 * hi ≤ 3732 * lo ∧ 1000 * lo < 268 * hi

/-- A vector that passes gate and deadzone and lies on an edge of the cone. -/
def OnEdge (edge : ℤ → ℤ → Prop) (deadzone vx vy : ℤ) : Prop :=
  diagGate deadzone ≤ min |vx| |vy| ∧ deadzone < max |vx| |vy| ∧
    edge (min |vx| |vy|) (max |vx| |vy|)

theorem snapCone_swap_narrow_iff :
    (SnapCone |vx| |vy| deadzone diagTanLo diagTanHi ↔
      SnapCone |vy| |vx| deadzone diagTanLo diagTanHi) ↔ ¬OnEdge NarrowEdge deadzone vx vy := by
  have hx := abs_nonneg vx
  have hy := abs_nonneg vy
  unfold SnapCone OnEdge NarrowEdge diagRatioNum diagTanLo diagTanHi
  omega

theorem snapCone_swap_wide_iff :
    (SnapCone |vx| |vy| deadzone diagTanLoWide diagTanHiWide ↔
      SnapCone |vy| |vx| deadzone diagTanLoWide diagTanHiWide) ↔
        ¬OnEdge WideEdge deadzone vx vy := by
  have hx := abs_nonneg vx
  have hy := abs_nonneg vy
  unfold SnapCone OnEdge WideEdge diagRatioNum diagTanLoWide diagTanHiWide
  omega

end Exchange

/-- Exchanging the axes commutes with the snap at `(vx, vy)`. -/
def Exchanges (snap : ℤ → ℤ → Option (ℤ × ℤ)) (vx vy : ℤ) : Prop :=
  ∃ a b, snap vx vy = some (a, b) ∧ snap vy vx = some (b, a)

theorem exchanges_iff {vx vy deadzone tanLo tanHi : ℤ} (hvx : |vx| ≤ 500000)
    (hvy : |vy| ≤ 500000) (hlo : |tanLo| ≤ 4000) (hhi : |tanHi| ≤ 4000) :
    Exchanges (fun vx vy ↦ snapDiagonalCone vx vy deadzone tanLo tanHi) vx vy ↔
      (SnapCone |vx| |vy| deadzone tanLo tanHi ↔ SnapCone |vy| |vx| deadzone tanLo tanHi) := by
  rw [← snapped_swap_iff]
  unfold Exchanges
  simp only [snapDiagonalCone_eq_some hvx hvy hlo hhi, snapDiagonalCone_eq_some hvy hvx hlo hhi,
    Option.some.injEq]
  constructor
  · rintro ⟨a, b, hab, hba⟩
    rw [hab, hba]
    rfl
  · exact fun h ↦ ⟨_, _, rfl, h⟩

/-- The snaps commute with exchanging the axes off the edges of their cones, and only there. -/
theorem snapDiagonal_exchanges_iff {vx vy deadzone : ℤ} (hvx : |vx| ≤ 500000)
    (hvy : |vy| ≤ 500000) :
    (Exchanges (rccarDriveSnapDiagonal · · deadzone) vx vy ↔
      ¬OnEdge NarrowEdge deadzone vx vy) ∧
    (Exchanges (rccarDriveSnapDiagonalWide · · deadzone) vx vy ↔
      ¬OnEdge WideEdge deadzone vx vy) := by
  rw [← snapCone_swap_narrow_iff, ← snapCone_swap_wide_iff]
  constructor
  · exact exchanges_iff hvx hvy (by decide) (by decide)
  · exact exchanges_iff hvx hvy (by decide) (by decide)

theorem snapDiagonal_exchanges_iff_inside :
    (Exchanges (rccarDriveSnapDiagonal · · 60) (-400) 250 ↔ ¬OnEdge NarrowEdge 60 (-400) 250) ∧
      (Exchanges (rccarDriveSnapDiagonalWide · · 60) (-400) 250 ↔
        ¬OnEdge WideEdge 60 (-400) 250) :=
  snapDiagonal_exchanges_iff (by decide) (by decide)

/-- `(250, 91)` is just inside the lower edge, `(91, 250)` just outside the upper one. -/
theorem snapDiagonal_not_symmetric :
    ¬∀ vx vy deadzone : ℤ, |vx| ≤ 500000 → |vy| ≤ 500000 → 0 ≤ deadzone →
      Exchanges (rccarDriveSnapDiagonal · · deadzone) vx vy ∧
        Exchanges (rccarDriveSnapDiagonalWide · · deadzone) vx vy := by
  intro h
  obtain ⟨⟨a, b, hab, hba⟩, -⟩ := h 250 91 60 (by decide) (by decide) (by decide)
  have ha : rccarDriveSnapDiagonal 250 91 60 = some (250, 250) := by decide
  have hb : rccarDriveSnapDiagonal 91 250 60 = some (91, 250) := by decide
  simp only [ha, hb, Option.some.injEq, Prod.mk.injEq] at hab hba
  omega

end Nutcracker
