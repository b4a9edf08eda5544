import Nutcracker.Platform.BoardFilter
import Nutcracker.Platform.World

/-!
# The filter of the balance board as a filter

A smoothing filter with unit gain would move each smoothed weight towards the sum of its corners and
come to rest there.  `bb_smooth_cog` assigns the fraction of the distance instead of adding it, so a
smoothed weight moves towards the sum only from below the rest point of the recurrence, a tenth of
the sum, and comes to rest at the sum only for loads of a few grams.

What the recurrence does have are bounds and a short memory: whatever the samples, the states stay in
a fixed range, and five samples make any two of them agree up to one.
-/

namespace Nutcracker

variable {bp : Bluepad32} {bb : BalanceBoard} {state state' : BalanceBoardState} {side : BoardSide}

/-! ## One weight under a constant load -/

section OneWeight

variable {w s : ℤ}

/-- Under a load, one sample moves the smoothed weight towards the sum of its corners. -/
def BelowRest (w s : ℤ) : Prop :=
  (s ≤ w ∧ s * 112 ≤ w * 12 ∧ (w - s) * 12 < (w + 1) * 100) ∨ (w = 0 ∧ 0 < s ∧ s * 12 < 100)

/-- Under a load, the same sample again and again does. -/
def RestsNearLoad (w s : ℤ) : Prop :=
  (w = 10 ∧ -6 ≤ s ∧ s ≤ 1) ∨ (w ≤ 8 ∧ w - s ≤ 8 ∧ s ≤ 0) ∨ (w = 0 ∧ 0 < s ∧ s ≤ 8)

theorem feedback_mem_iff (hw : 0 ≤ w) :
    feedback 12 100 w s ∈ Set.uIcc s w ↔ BelowRest w s :=
  feedback_mem_uIcc_iff (by decide) (by decide) hw

theorem le_feedback_iff (hsw : s ≤ w) (y : ℤ) : y ≤ feedback 12 100 w s ↔ y * 100 ≤ (w - s) * 12 :=
  le_scaleDown_iff (by decide) (by decide) (sub_nonneg.mpr hsw)

/-- Below the rest point the sum is out of reach. -/
theorem le_ten_of_near (hbelow : BelowRest w s) (hnear : |s - w| ≤ 9) : w ≤ 10 := by
  obtain ⟨hlow, hhigh⟩ := abs_le.mp hnear
  rcases hbelow with ⟨-, hrest, -⟩ | ⟨rfl, -⟩
  · omega
  · decide

/-- The first two steps already decide. -/
theorem restsNearLoad_of_steps (hw : 0 ≤ w) (hten : w ≤ 10) (hfirst : BelowRest w s)
    (hsecond : BelowRest w (feedback 12 100 w s)) : RestsNearLoad w s := by
  unfold RestsNearLoad
  rcases hfirst with ⟨hsw, hrest, hover⟩ | ⟨rfl, hpos, hsmall⟩
  · have hone := le_feedback_iff hsw 1
    have htwo := le_feedback_iff hsw 2
    have hnonneg : 0 ≤ feedback 12 100 w s := feedback_nonneg (by decide) (by decide) hsw
    rcases hsecond with ⟨-, hnext, -⟩ | ⟨rfl, hnext, -⟩
    · omega
    · omega
  · omega

theorem settles_iff (hw : 0 ≤ w) :
    Settles (fun n ↦ (feedback 12 100 w)^[n] s) w 9 ↔ RestsNearLoad w s := by
  constructor
  · intro h
    have hbelow : ∀ n, BelowRest w ((feedback 12 100 w)^[n] s) := by
      intro n
      have hbetween := h.between n
      simp only [Function.iterate_succ_apply'] at hbetween
      exact (feedback_mem_iff hw).mp hbetween
    obtain ⟨start, hnear⟩ := h.near
    have hten : w ≤ 10 := le_ten_of_near (hbelow start) (hnear start le_rfl)
    exact restsNearLoad_of_steps hw hten (hbelow 0) (hbelow 1)
  · have hzero : w ≤ 8 → feedback 12 100 w 0 = 0 := by
      intro hle
      have hone := le_feedback_iff hw 1
      have hnonneg : 0 ≤ feedback 12 100 w 0 := feedback_nonneg (by decide) (by decide) hw
      omega
    rintro (⟨rfl, hlow, hhigh⟩ | ⟨hle, hlow, hhigh⟩ | ⟨rfl, hpos, hle⟩)
    · have hone := le_feedback_iff (by omega : s ≤ 10) 1
      have htwo := le_feedback_iff (by omega : s ≤ 10) 2
      apply settles_of_rest (r := 1) (by omega) (by decide)
      · rw [Set.uIcc_of_le (by omega : s ≤ 10)]
        exact ⟨hhigh, by decide⟩
      · decide
    · have hone := le_feedback_iff (by omega : s ≤ w) 1
      have hnonneg : 0 ≤ feedback 12 100 w s :=
        feedback_nonneg (by decide) (by decide) (by omega)
      apply settles_of_rest (r := 0) (by omega) (hzero hle)
      · rw [Set.uIcc_of_le (by omega : s ≤ w)]
        exact ⟨hhigh, hw⟩
      · rw [zero_sub, abs_neg, abs_of_nonneg hw]
        omega
    · have hbelow : feedback 12 100 0 s ∈ Set.uIcc s 0 :=
        (feedback_mem_iff le_rfl).mpr (.inr ⟨rfl, hpos, by omega⟩)
      have hnonpos : feedback 12 100 0 s ≤ 0 :=
        scaleDown_nonpos (by decide) (by decide) (by omega)
      have hrest : feedback 12 100 0 s = 0 := by
        rw [Set.uIcc_of_ge hpos.le] at hbelow
        exact le_antisymm hnonpos hbelow.1
      apply settles_of_rest (r := 0) hrest (hzero (by decide))
      · exact Set.right_mem_uIcc
      · decide

/-- What a cleared filter makes of a load. -/
theorem settles_clear_iff (hw : 0 ≤ w) :
    Settles (fun n ↦ (fun _ ↦ (0 : ℤ))^[n] s) w 9 ↔ (s ≤ 0 ∨ w = 0) ∧ w ≤ 9 := by
  have hmem : (0 : ℤ) ∈ Set.uIcc s w ↔ s ≤ 0 ∨ w = 0 := by
    rw [Set.mem_uIcc]
    omega
  constructor
  · intro h
    obtain ⟨start, hnear⟩ := h.near
    have hlast := hnear (start + 1) (Nat.le_succ start)
    simp only [Function.iterate_succ_apply'] at hlast
    rw [zero_sub, abs_neg, abs_of_nonneg hw] at hlast
    exact ⟨hmem.mp (h.between 0), hlast⟩
  · rintro ⟨hside, hle⟩
    apply settles_of_rest (r := 0) rfl rfl (hmem.mpr hside)
    rwa [zero_sub, abs_neg, abs_of_nonneg hw]

end OneWeight

/-! ## The four weights -/

/-- The new smoothed weight lies between the old one and the sum of its corners. -/
def SmoothsTowards (bp : Bluepad32) (bb : BalanceBoard) (state : BalanceBoardState)
    (side : BoardSide) : Prop :=
  (bb.filtered bp state).smooth side ∈ Set.uIcc (state.smooth side) (bb.sum side)

/-- The smoothed weight while one sample is repeated. -/
def heldSmooth (bp : Bluepad32) (bb : BalanceBoard) (state : BalanceBoardState) (side : BoardSide)
    (n : ℕ) : ℤ :=
  ((bb.filtered bp)^[n] state).smooth side

/-- The smoothed weight as a function of the old one alone. -/
def smoothStep (bp : Bluepad32) (bb : BalanceBoard) (side : BoardSide) : ℤ → ℤ :=
  if bb.Idle bp then fun _ ↦ 0 else feedback 12 100 (bb.sum side)

theorem filtered_eq_smoothStep (hmult : bp.MultFrac) :
    (bb.filtered bp state).smooth side = smoothStep bp bb side (state.smooth side) := by
  unfold smoothStep
  by_cases hidle : bb.Idle bp
  · rw [if_pos hidle, filtered_of_idle hidle]
    exact smooth_clear side
  · rw [if_neg hidle]
    exact filtered_smooth hmult hidle side

theorem heldSmooth_eq (hmult : bp.MultFrac) :
    heldSmooth bp bb state side = fun n ↦ (smoothStep bp bb side)^[n] (state.smooth side) := by
  funext n
  induction n with
  | zero => rfl
  | succ n ih =>
    rw [Function.iterate_succ_apply', ← ih]
    unfold heldSmooth
    rw [Function.iterate_succ_apply']
    exact filtered_eq_smoothStep hmult

/-- When a sample moves a smoothed weight towards the sum of its corners. -/
def MovesTowardsLoad (bp : Bluepad32) (bb : BalanceBoard) (w s : ℤ) : Prop :=
  if bb.Idle bp then s ≤ 0 ∨ w = 0 else BelowRest w s

/-- When a sample that is held brings a smoothed weight to the sum of its corners. -/
def ReachesLoad (bp : Bluepad32) (bb : BalanceBoard) (w s : ℤ) : Prop :=
  if bb.Idle bp then (s ≤ 0 ∨ w = 0) ∧ w ≤ 9 else RestsNearLoad w s

/-- From every state, one sample moves a smoothed weight towards the sum of its corners, and the
sample held brings it there, exactly under these conditions on the old weight and the sum. -/
theorem smooths_towards_load_iff (hmult : bp.MultFrac) (hbb : bb.Unsigned16)
    (state : BalanceBoardState) (side : BoardSide) :
    (SmoothsTowards bp bb state side ↔
        MovesTowardsLoad bp bb (bb.sum side) (state.smooth side)) ∧
      (Settles (heldSmooth bp bb state side) (bb.sum side) 9 ↔
        ReachesLoad bp bb (bb.sum side) (state.smooth side)) := by
  have hw : 0 ≤ bb.sum side := (hbb.sum_mem side).1
  unfold SmoothsTowards MovesTowardsLoad ReachesLoad
  rw [filtered_eq_smoothStep hmult, heldSmooth_eq hmult]
  unfold smoothStep
  by_cases hidle : bb.Idle bp
  · rw [if_pos hidle, if_pos hidle, if_pos hidle]
    constructor
    · rw [Set.mem_uIcc]
      omega
    · exact settles_clear_iff hw
  · rw [if_neg hidle, if_neg hidle, if_neg hidle]
    exact ⟨feedback_mem_iff hw, settles_iff hw⟩

/-- Somebody of 80 kg in the middle of the board. -/
def sampleLoad : BalanceBoard := ⟨20000, 20000, 20000, 20000⟩

theorem sampleLoad_unsigned16 : sampleLoad.Unsigned16 :=
  ⟨by decide, by decide, by decide, by decide⟩

theorem smooths_towards_load_iff_sample :
    (SmoothsTowards bluepad32 sampleLoad {} .down ↔
        MovesTowardsLoad bluepad32 sampleLoad 40000 0) ∧
      (Settles (heldSmooth bluepad32 sampleLoad {} .down) 40000 9 ↔
        ReachesLoad bluepad32 sampleLoad 40000 0) :=
  smooths_towards_load_iff (fun _ _ _ ↦ rfl) sampleLoad_unsigned16 {} .down

/-- The second of two equal samples takes the smoothed weight away from the sum of its corners. -/
theorem smooths_away_from_load : ∃ state, FilterReachable bluepad32 state ∧
    sampleLoad.Unsigned16 ∧ ¬sampleLoad.Idle bluepad32 ∧
      (sampleLoad.filtered bluepad32 state).smooth .down < state.smooth .down ∧
      state.smooth .down < sampleLoad.sum .down ∧
      ¬SmoothsTowards bluepad32 sampleLoad state .down ∧
      ¬Settles (heldSmooth bluepad32 sampleLoad state .down) (sampleLoad.sum .down) 9 := by
  have hfirst : (sampleLoad.filtered bluepad32 {}).smooth .down = 4800 := by decide
  have hsecond : (sampleLoad.filtered bluepad32
      (sampleLoad.filtered bluepad32 {})).smooth .down = 4224 := by decide
  have haway : ¬SmoothsTowards bluepad32 sampleLoad (sampleLoad.filtered bluepad32 {}) .down := by
    unfold SmoothsTowards
    rw [hfirst, hsecond, Set.uIcc_of_le (by decide)]
    decide
  refine ⟨sampleLoad.filtered bluepad32 {},
    (filterReachable_clear bluepad32).filtered sampleLoad_unsigned16, sampleLoad_unsigned16,
    by decide, ?_, ?_, haway, fun h ↦ haway (h.between 0)⟩
  · rw [hfirst, hsecond]
    decide
  · rw [hfirst]
    decide

/-! ## Bounds and memory -/

/-- The fields of the state fit `int16_t`. -/
def BalanceBoardState.FitsInt16 (state : BalanceBoardState) : Prop :=
  ∀ side, state.smooth side ∈ Set.Icc (-32768) 32767

theorem BalanceBoardState.Bounded.fitsInt16 (hstate : state.Bounded) : state.FitsInt16 := by
  intro side
  apply Set.Icc_subset_Icc _ _ (hstate side)
  · decide
  · decide

/-- After five inputs a distance of the whole range is down to one, and stays there. -/
theorem narrow_five {n : ℕ} (hn : 5 ≤ n) : (narrow 12 100)^[n] 17874 = 1 := by
  obtain ⟨n, rfl⟩ := Nat.exists_eq_add_of_le' hn
  calc
    (narrow 12 100)^[n + 5] 17874 = (narrow 12 100)^[n] ((narrow 12 100)^[5] 17874) :=
      Function.iterate_add_apply _ _ _ _
    _ = (narrow 12 100)^[n] 1 := rfl
    _ = 1 := Function.iterate_fixed rfl n

theorem abs_smooth_sub_le (hstate : state.Bounded) (hstate' : state'.Bounded) (side : BoardSide) :
    |state.smooth side - state'.smooth side| ≤ 17874 := by
  obtain ⟨hlow, hhigh⟩ := hstate side
  obtain ⟨hlow', hhigh'⟩ := hstate' side
  rw [abs_le]
  omega

/-- In every run from the cleared state the smoothed weights stay in range, so that no later sample
overflows; and five samples under load make any two such states agree up to one. -/
theorem board_filter_bounded_and_forgets (hmult : bp.MultFrac) :
    (∀ samples, (∀ bb ∈ samples, bb.Unsigned16) →
      (filterAll bp samples {}).Bounded ∧ (filterAll bp samples {}).FitsInt16 ∧
        ∀ bb, bb.Unsigned16 → balanceBoardToStickAxesChecked bp bb (filterAll bp samples {}) =
          some (balanceBoardToStickAxes bp bb (filterAll bp samples {}))) ∧
      ∀ samples (state state' : BalanceBoardState), (∀ bb ∈ samples, ¬bb.Idle bp) →
        5 ≤ samples.length → state.Bounded → state'.Bounded → ∀ side,
          |(filterAll bp samples state).smooth side - (filterAll bp samples state').smooth side| ≤
            1 := by
  constructor
  · intro samples hsamples
    have hbounded : (filterAll bp samples {}).Bounded := bounded_clear.filterAll hmult hsamples
    exact ⟨hbounded, hbounded.fitsInt16, fun bb hbb ↦
      balanceBoardToStickAxesChecked_eq_some hmult hbounded hbb⟩
  · intro samples state state' hload hlength hstate hstate' side
    rw [filterAll_smooth hmult hload, filterAll_smooth hmult hload]
    calc
      _ ≤ (narrow 12 100)^[(samples.map (·.sum side)).length] 17874 :=
        abs_feedbackAll_sub_le (by decide) (by decide) _ (abs_smooth_sub_le hstate hstate' side)
      _ = 1 := by
        rw [List.length_map]
        exact narrow_five hlength

theorem board_filter_bounded_and_forgets_bluepad32 :
    (filterAll bluepad32 [sampleLoad, sampleLoad] {}).Bounded ∧
      |(filterAll bluepad32 (List.replicate 5 sampleLoad) {}).smooth .down -
        (filterAll bluepad32 (List.replicate 5 sampleLoad)
          (filterAll bluepad32 [sampleLoad, sampleLoad] {})).smooth .down| ≤ 1 := by
  have hmult : bluepad32.MultFrac := fun _ _ _ ↦ rfl
  obtain ⟨hbounded, hforgets⟩ := board_filter_bounded_and_forgets hmult
  have hboth : ∀ bb ∈ [sampleLoad, sampleLoad], bb.Unsigned16 := by
    intro bb hbb
    rcases List.mem_pair.mp hbb with rfl | rfl <;> exact sampleLoad_unsigned16
  have hload : ∀ bb ∈ List.replicate 5 sampleLoad, ¬bb.Idle bluepad32 := by
    intro bb hbb
    rw [List.eq_of_mem_replicate hbb]
    decide
  exact ⟨(hbounded _ hboth).1, hforgets _ _ _ hload le_rfl bounded_clear (hbounded _ hboth).1 .down⟩

end Nutcracker
