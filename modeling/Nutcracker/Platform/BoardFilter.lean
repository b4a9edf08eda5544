import Nutcracker.Program.Feedback
import Nutcracker.Platform.Sticks

/-!
# The filter of the balance board

`bb_smooth_cog` replaces each of four smoothed weights by twelve hundredths of the distance between
the sum of two corners and the old smoothed weight; a sample without load clears all four.  The four
recurrences are one, read off at the four sides of the board.

The computation on `int32_t` is written out a second time in checked arithmetic, with `mult_frac` by
its formula.
-/

namespace Nutcracker

open CheckedInt

/-- What Bluepad32 documents `mult_frac` to be. -/
def Bluepad32.MultFrac (bp : Bluepad32) : Prop :=
  ∀ x num den, bp.multFrac x num den = x.tdiv den * num + (x.tmod den * num).tdiv den

namespace BalanceBoard

/-- The corner weights are `uint16_t`. -/
structure Unsigned16 (bb : BalanceBoard) : Prop where
  tl : bb.tl ∈ Set.Icc 0 65535
  tr : bb.tr ∈ Set.Icc 0 65535
  bl : bb.bl ∈ Set.Icc 0 65535
  br : bb.br ∈ Set.Icc 0 65535

/-- No corner carries a load. -/
def Idle (bp : Bluepad32) (bb : BalanceBoard) : Prop :=
  bb.tl < bp.balanceBoardIdleThreshold ∧ bb.tr < bp.balanceBoardIdleThreshold ∧
    bb.bl < bp.balanceBoardIdleThreshold ∧ bb.br < bp.balanceBoardIdleThreshold

instance (bp : Bluepad32) (bb : BalanceBoard) : Decidable (bb.Idle bp) :=
  inferInstanceAs (Decidable (_ ∧ _))

end BalanceBoard

/-- The four smoothed weights. -/
inductive BoardSide
  | down | top | left | right
  deriving DecidableEq

def BalanceBoardState.smooth (state : BalanceBoardState) : BoardSide → ℤ
  | .down => state.smoothDown
  | .top => state.smoothTop
  | .left => state.smoothLeft
  | .right => state.smoothRight

/-- The sum of the two corners of a side. -/
def BalanceBoard.sum (bb : BalanceBoard) : BoardSide → ℤ
  | .down => bb.bl + bb.br
  | .top => bb.tl + bb.tr
  | .left => bb.tl + bb.bl
  | .right => bb.tr + bb.br

/-- `cog_x` of a filter state. -/
def BalanceBoardState.cogX (state : BalanceBoardState) : ℤ := state.smooth .right - state.smooth .left

/-- `cog_y` of a filter state. -/
def BalanceBoardState.cogY (state : BalanceBoardState) : ℤ := state.smooth .down - state.smooth .top

/-- The filter state after a sample. -/
def BalanceBoard.filtered (bp : Bluepad32) (bb : BalanceBoard) (state : BalanceBoardState) :
    BalanceBoardState := (balanceBoardToStickAxes bp bb state).1

/-- The filter state after several samples. -/
def filterAll (bp : Bluepad32) (samples : List BalanceBoard) (state : BalanceBoardState) :
    BalanceBoardState :=
  samples.foldl (fun state bb ↦ bb.filtered bp state) state

/-- States that samples lead to from the cleared one. -/
def FilterReachable (bp : Bluepad32) (state : BalanceBoardState) : Prop :=
  ∃ samples, (∀ bb ∈ samples, bb.Unsigned16) ∧ filterAll bp samples {} = state

/-- The range of a smoothed weight. -/
def BalanceBoardState.Bounded (state : BalanceBoardState) : Prop :=
  ∀ side, state.smooth side ∈ Set.Icc (-1915) 15959

section Filter

variable {bp : Bluepad32} {bb : BalanceBoard} {state : BalanceBoardState} {side : BoardSide}

@[simp]
theorem smooth_clear (side : BoardSide) : ({} : BalanceBoardState).smooth side = 0 := by
  cases side <;> rfl

theorem multFrac_eq (hmult : bp.MultFrac) {num den : ℤ} (hnum : 0 ≤ num) (hden : 0 < den) (x : ℤ) :
    bp.multFrac x num den = scaleDown num den x :=
  (hmult x num den).trans (scaleDown_by_parts hnum hden x)

/-- One recurrence for the four sides. -/
theorem bbSmoothCog_smooth (hmult : bp.MultFrac) (side : BoardSide) :
    (bbSmoothCog bp bb state).smooth side = feedback 12 100 (bb.sum side) (state.smooth side) := by
  cases side <;> exact multFrac_eq hmult (by decide) (by decide) _

theorem balanceBoardToStickAxes_of_idle (hidle : bb.Idle bp) :
    balanceBoardToStickAxes bp bb state = ({}, 0, 0) := if_pos hidle

theorem balanceBoardToStickAxes_of_load (hload : ¬bb.Idle bp) :
    balanceBoardToStickAxes bp bb state =
      (bbSmoothCog bp bb state,
        bbScale (bbApplyMoveThreshold (bbSmoothCog bp bb state).cogX
          (bbMoveThr (bbSmoothCog bp bb state).cogX (bbSmoothCog bp bb state).cogY)),
        bbScale (bbApplyMoveThreshold (bbSmoothCog bp bb state).cogY
          (bbMoveThr (bbSmoothCog bp bb state).cogX (bbSmoothCog bp bb state).cogY))) :=
  if_neg hload

theorem filtered_of_idle (hidle : bb.Idle bp) : bb.filtered bp state = {} := by
  unfold BalanceBoard.filtered
  rw [balanceBoardToStickAxes_of_idle hidle]

theorem filtered_of_load (hload : ¬bb.Idle bp) :
    bb.filtered bp state = bbSmoothCog bp bb state := by
  unfold BalanceBoard.filtered
  rw [balanceBoardToStickAxes_of_load hload]

theorem filtered_smooth (hmult : bp.MultFrac) (hload : ¬bb.Idle bp) (side : BoardSide) :
    (bb.filtered bp state).smooth side = feedback 12 100 (bb.sum side) (state.smooth side) := by
  rw [filtered_of_load hload]
  exact bbSmoothCog_smooth hmult side

theorem filterAll_smooth (hmult : bp.MultFrac) {samples : List BalanceBoard}
    (hload : ∀ bb ∈ samples, ¬bb.Idle bp) (side : BoardSide) :
    (filterAll bp samples state).smooth side =
      feedbackAll 12 100 (samples.map (·.sum side)) (state.smooth side) := by
  induction samples generalizing state with
  | nil => rfl
  | cons bb samples ih =>
    rw [List.map_cons, feedbackAll_cons, ← filtered_smooth hmult (hload bb List.mem_cons_self)]
    exact ih fun bb' hbb' ↦ hload bb' (List.mem_cons_of_mem _ hbb')

theorem filterReachable_clear (bp : Bluepad32) : FilterReachable bp {} :=
  ⟨[], fun _ hbb ↦ absurd hbb List.not_mem_nil, rfl⟩

theorem FilterReachable.filtered (hreach : FilterReachable bp state) (hbb : bb.Unsigned16) :
    FilterReachable bp (bb.filtered bp state) := by
  obtain ⟨samples, hsamples, rfl⟩ := hreach
  refine ⟨samples ++ [bb], fun bb' hbb' ↦ ?_, ?_⟩
  · rcases List.mem_append.mp hbb' with h | h
    · exact hsamples bb' h
    · rwa [List.mem_singleton.mp h]
  · unfold filterAll
    rw [List.foldl_append]
    rfl

/-! ## Bounds -/

theorem BalanceBoard.Unsigned16.sum_mem (hbb : bb.Unsigned16) (side : BoardSide) :
    bb.sum side ∈ Set.Icc 0 131070 := by
  obtain ⟨⟨htl, htl'⟩, ⟨htr, htr'⟩, ⟨hbl, hbl'⟩, ⟨hbr, hbr'⟩⟩ := hbb
  cases side <;> constructor <;> simp only [BalanceBoard.sum] <;> omega

/-- The lower bound is the answer to the upper one and the other way round. -/
theorem encloses_smooth : Encloses 12 100 131070 (-1915) 15959 := ⟨by decide, by decide⟩

theorem bounded_clear : ({} : BalanceBoardState).Bounded := by
  intro side
  rw [smooth_clear]
  decide

theorem BalanceBoardState.Bounded.bbSmoothCog (hmult : bp.MultFrac) (hstate : state.Bounded)
    (hbb : bb.Unsigned16) : (bbSmoothCog bp bb state).Bounded := by
  intro side
  rw [bbSmoothCog_smooth hmult]
  exact encloses_smooth.feedback (by decide) (by decide) (hbb.sum_mem side) (hstate side)

theorem BalanceBoardState.Bounded.filtered (hmult : bp.MultFrac) (hstate : state.Bounded)
    (hbb : bb.Unsigned16) : (bb.filtered bp state).Bounded := by
  by_cases hidle : bb.Idle bp
  · rw [filtered_of_idle hidle]
    exact bounded_clear
  · rw [filtered_of_load hidle]
    exact hstate.bbSmoothCog hmult hbb

theorem BalanceBoardState.Bounded.filterAll (hmult : bp.MultFrac) {samples : List BalanceBoard}
    (hsamples : ∀ bb ∈ samples, bb.Unsigned16) (hstate : state.Bounded) :
    (filterAll bp samples state).Bounded := by
  induction samples generalizing state with
  | nil => exact hstate
  | cons bb samples ih =>
    apply ih
    · exact fun bb' hbb' ↦ hsamples bb' (List.mem_cons_of_mem _ hbb')
    · exact hstate.filtered hmult (hsamples bb List.mem_cons_self)

theorem FilterReachable.bounded (hmult : bp.MultFrac) (hreach : FilterReachable bp state) :
    state.Bounded := by
  obtain ⟨samples, hsamples, rfl⟩ := hreach
  exact bounded_clear.filterAll hmult hsamples

theorem abs_smooth_le (hstate : state.Bounded) (side : BoardSide) : |state.smooth side| ≤ 15959 := by
  obtain ⟨hlo, hhi⟩ := hstate side
  rw [abs_le]
  omega

end Filter

/-! ## On `int32_t` -/

def multFracChecked (x num den : ℤ) : Option ℤ := do
  let quot ← div x den
  let whole ← mul quot num
  let rest ← rem x den
  let scaled ← mul rest num
  let part ← div scaled den
  add whole part

def smoothChecked (corner corner' smooth : ℤ) : Option ℤ := do
  let sum ← add corner corner'
  let distance ← sub sum smooth
  multFracChecked distance bbSmoothNum bbSmoothDen

def bbSmoothCogChecked (bb : BalanceBoard) (state : BalanceBoardState) :
    Option BalanceBoardState := do
  let down ← smoothChecked bb.bl bb.br state.smoothDown
  let top ← smoothChecked bb.tl bb.tr state.smoothTop
  let left ← smoothChecked bb.tl bb.bl state.smoothLeft
  let right ← smoothChecked bb.tr bb.br state.smoothRight
  pure ⟨down, top, left, right⟩

def absChecked (x : ℤ) : Option ℤ := if x < 0 then neg x else pure x

def bbApplyMoveThresholdChecked (cog moveThreshold : ℤ) : Option ℤ :=
  if cog > moveThreshold then sub cog moveThreshold
  else do
    let lower ← neg moveThreshold
    if cog < lower then add cog moveThreshold else pure 0

def bbScaleChecked (cog : ℤ) : Option ℤ :=
  if cog ≠ 0 then do
    let product ← mul cog axisMax
    let scaled ← div product bbCogScaleRange
    pure (clampAxis scaled)
  else pure 0

/-- `balance_board_to_stick_axes` without undefined behaviour. -/
def balanceBoardToStickAxesChecked (bp : Bluepad32) (bb : BalanceBoard)
    (state : BalanceBoardState) : Option (BalanceBoardState × ℤ × ℤ) :=
  if bb.Idle bp then pure ({}, 0, 0)
  else do
    let state ← bbSmoothCogChecked bb state
    let cogX ← sub state.smoothRight state.smoothLeft
    let cogY ← sub state.smoothDown state.smoothTop
    let acx ← absChecked cogX
    let acy ← absChecked cogY
    let moveThr := if acx ≥ bbMoveThresholdDiag ∧ acy ≥ bbMoveThresholdDiag then bbMoveThresholdDiag
      else bbMoveThreshold
    let cogX ← bbApplyMoveThresholdChecked cogX moveThr
    let cogY ← bbApplyMoveThresholdChecked cogY moveThr
    let outX ← bbScaleChecked cogX
    let outY ← bbScaleChecked cogY
    pure (state, outX, outY)

section Checked

variable {bp : Bluepad32} {bb : BalanceBoard} {state : BalanceBoardState} {x thr : ℤ}

theorem multFracChecked_eq_some (hx : |x| ≤ 1000000) :
    multFracChecked x 12 100 = some (scaleDown 12 100 x) := by
  have hquot : |x.tdiv 100| ≤ 1000000 := (abs_tdiv_le x 100).trans hx
  have hrest : |x.tmod 100| ≤ 100 := by
    have hlower := Int.lt_tmod_of_pos x (by decide : (0 : ℤ) < 100)
    have hupper := Int.tmod_lt_of_pos x (by decide : (0 : ℤ) < 100)
    rw [abs_le]
    omega
  have hscaled : |x.tmod 100 * 12| ≤ 1200 := by
    rw [abs_mul]
    exact (mul_le_mul_of_nonneg_right hrest (abs_nonneg 12)).trans (by decide)
  have hwhole : |x.tdiv 100 * 12| ≤ 12000000 := by
    rw [abs_mul]
    exact (mul_le_mul_of_nonneg_right hquot (abs_nonneg 12)).trans (by decide)
  have hpart : |(x.tmod 100 * 12).tdiv 100| ≤ 1200 := (abs_tdiv_le _ 100).trans hscaled
  unfold multFracChecked
  simp only [Option.bind_eq_bind, Option.bind_some,
    div_eq_some (by decide : (100 : ℤ) ≠ 0) (hx.trans (by decide)),
    mul_eq_some hquot (abs_of_nonneg (by decide : (0 : ℤ) ≤ 12)).le (by decide),
    rem_eq_some (by decide : (100 : ℤ) ≠ 0) (hx.trans (by decide)),
    mul_eq_some hrest (abs_of_nonneg (by decide : (0 : ℤ) ≤ 12)).le (by decide),
    div_eq_some (by decide : (100 : ℤ) ≠ 0) (hscaled.trans (by decide)),
    add_eq_some hwhole hpart (by decide)]
  rw [scaleDown_by_parts (by decide) (by decide)]

theorem smoothChecked_eq_some (hmult : bp.MultFrac) {corner corner' smooth : ℤ}
    (hcorner : corner ∈ Set.Icc 0 65535) (hcorner' : corner' ∈ Set.Icc 0 65535)
    (hsmooth : |smooth| ≤ 15959) : smoothChecked corner corner' smooth =
      some (bp.multFrac (corner + corner' - smooth) bbSmoothNum bbSmoothDen) := by
  have habs : ∀ c ∈ Set.Icc (0 : ℤ) 65535, |c| ≤ 65535 := fun c hc ↦
    (abs_of_nonneg hc.1).trans_le hc.2
  have hsum : |corner + corner'| ≤ 131070 :=
    (abs_add_le corner corner').trans (add_le_add (habs _ hcorner) (habs _ hcorner'))
  have hdistance : |corner + corner' - smooth| ≤ 1000000 :=
    (abs_sub (corner + corner') smooth).trans ((add_le_add hsum hsmooth).trans (by decide))
  unfold smoothChecked
  simp only [Option.bind_eq_bind, Option.bind_some,
    add_eq_some (habs _ hcorner) (habs _ hcorner') (by decide),
    sub_eq_some hsum hsmooth (by decide)]
  rw [multFrac_eq hmult (by decide) (by decide)]
  exact multFracChecked_eq_some hdistance

theorem bbSmoothCogChecked_eq_some (hmult : bp.MultFrac) (hstate : state.Bounded)
    (hbb : bb.Unsigned16) : bbSmoothCogChecked bb state = some (bbSmoothCog bp bb state) := by
  have hdown : |state.smoothDown| ≤ 15959 := abs_smooth_le hstate .down
  have htop : |state.smoothTop| ≤ 15959 := abs_smooth_le hstate .top
  have hleft : |state.smoothLeft| ≤ 15959 := abs_smooth_le hstate .left
  have hright : |state.smoothRight| ≤ 15959 := abs_smooth_le hstate .right
  unfold bbSmoothCogChecked
  rw [smoothChecked_eq_some hmult hbb.bl hbb.br hdown,
    smoothChecked_eq_some hmult hbb.tl hbb.tr htop,
    smoothChecked_eq_some hmult hbb.tl hbb.bl hleft,
    smoothChecked_eq_some hmult hbb.tr hbb.br hright]
  rfl

theorem absChecked_eq_some (hx : |x| ≤ 2147483647) : absChecked x = some |x| := by
  unfold absChecked
  split
  · rename_i hneg
    rw [neg_eq_some hx, abs_of_neg hneg]
  · rename_i hnonneg
    rw [abs_of_nonneg (not_lt.mp hnonneg), Option.pure_def]

theorem bbApplyMoveThresholdChecked_eq_some (hx : |x| ≤ 1000000) (hthr : |thr| ≤ 1400) :
    bbApplyMoveThresholdChecked x thr = some (bbApplyMoveThreshold x thr) := by
  unfold bbApplyMoveThresholdChecked bbApplyMoveThreshold
  rw [neg_eq_some (hthr.trans (by decide)), sub_eq_some hx hthr (by decide),
    add_eq_some hx hthr (by decide), Option.bind_eq_bind, Option.bind_some, Option.pure_def]
  split_ifs <;> rfl

theorem bbScaleChecked_eq_some (hx : |x| ≤ 1000000) : bbScaleChecked x = some (bbScale x) := by
  have hproduct : |x * axisMax| ≤ 512000000 := by
    rw [abs_mul]
    exact (mul_le_mul_of_nonneg_right hx (abs_nonneg _)).trans (by decide)
  unfold bbScaleChecked bbScale
  rw [mul_eq_some hx (by decide : |((axisMax : ℕ) : ℤ)| ≤ 512) (by decide), Option.bind_eq_bind,
    Option.bind_some, div_eq_some (by decide) (hproduct.trans (by decide)), Option.pure_def]
  split_ifs <;> rfl

theorem bbMoveThr_mem (cogX cogY : ℤ) : bbMoveThr cogX cogY ∈ Set.Icc 900 1400 := by
  unfold bbMoveThr
  split <;> decide

theorem abs_bbApplyMoveThreshold_le (hthr : 0 ≤ thr) : |bbApplyMoveThreshold x thr| ≤ |x| := by
  unfold bbApplyMoveThreshold
  split
  · rw [abs_of_nonneg (by omega), abs_of_nonneg (by omega)]
    omega
  · split
    · rw [abs_of_nonpos (by omega), abs_of_nonpos (by omega)]
      omega
    · rw [abs_zero]
      exact abs_nonneg x

/-- From a bounded state a sample is taken without overflow. -/
theorem balanceBoardToStickAxesChecked_eq_some (hmult : bp.MultFrac) (hstate : state.Bounded)
    (hbb : bb.Unsigned16) : balanceBoardToStickAxesChecked bp bb state =
      some (balanceBoardToStickAxes bp bb state) := by
  unfold balanceBoardToStickAxesChecked
  by_cases hidle : bb.Idle bp
  · rw [if_pos hidle, balanceBoardToStickAxes_of_idle hidle]
    rfl
  have hnext : (bbSmoothCog bp bb state).Bounded := hstate.bbSmoothCog hmult hbb
  rw [if_neg hidle, bbSmoothCogChecked_eq_some hmult hstate hbb,
    balanceBoardToStickAxes_of_load hidle]
  generalize bbSmoothCog bp bb state = next at hnext
  have hX : sub next.smoothRight next.smoothLeft = some next.cogX :=
    sub_eq_some (abs_smooth_le hnext .right) (abs_smooth_le hnext .left) (by decide)
  have hY : sub next.smoothDown next.smoothTop = some next.cogY :=
    sub_eq_some (abs_smooth_le hnext .down) (abs_smooth_le hnext .top) (by decide)
  have hcogX : |next.cogX| ≤ 1000000 := (abs_sub _ _).trans
    ((add_le_add (abs_smooth_le hnext .right) (abs_smooth_le hnext .left)).trans (by decide))
  have hcogY : |next.cogY| ≤ 1000000 := (abs_sub _ _).trans
    ((add_le_add (abs_smooth_le hnext .down) (abs_smooth_le hnext .top)).trans (by decide))
  obtain ⟨hthr, hthr'⟩ := bbMoveThr_mem next.cogX next.cogY
  have hthreshold : (if |next.cogX| ≥ bbMoveThresholdDiag ∧ |next.cogY| ≥ bbMoveThresholdDiag then
      bbMoveThresholdDiag else bbMoveThreshold) = bbMoveThr next.cogX next.cogY := rfl
  generalize bbMoveThr next.cogX next.cogY = thr at hthr hthr' hthreshold
  have habs : |thr| ≤ 1400 := (abs_of_nonneg (by omega)).trans_le hthr'
  have hlean : ∀ x, |x| ≤ 1000000 → |bbApplyMoveThreshold x thr| ≤ 1000000 := fun x hx ↦
    (abs_bbApplyMoveThreshold_le (by omega)).trans hx
  simp only [Option.bind_eq_bind, Option.bind_some, hX, hY,
    absChecked_eq_some (hcogX.trans (by decide)), absChecked_eq_some (hcogY.trans (by decide)),
    hthreshold, bbApplyMoveThresholdChecked_eq_some hcogX habs,
    bbApplyMoveThresholdChecked_eq_some hcogY habs, bbScaleChecked_eq_some (hlean _ hcogX),
    bbScaleChecked_eq_some (hlean _ hcogY), Option.pure_def]

end Checked

end Nutcracker
