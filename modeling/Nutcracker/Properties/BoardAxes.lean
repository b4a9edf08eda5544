import Nutcracker.Platform.BoardFilter
import Nutcracker.Properties.Roster
import Nutcracker.Platform.Inbox

/-!
# From the lean on a balance board to stick axes

The two smoothed differences are cut off at a threshold that depends on both, scaled and clamped.
Cutting off, scaling and clamping are monotone and fix zero, and the threshold only falls when a
difference grows, so an axis follows its own difference in sign and, as long as signs are kept, in
magnitude.
-/

namespace Nutcracker

variable {bp : Bluepad32} {bb : BalanceBoard} {state state' : BalanceBoardState}

namespace BalanceBoard

/-- `*out_x` for a sample. -/
def axisX (bp : Bluepad32) (bb : BalanceBoard) (state : BalanceBoardState) : ℤ :=
  (balanceBoardToStickAxes bp bb state).2.1

/-- `*out_y` for a sample. -/
def axisY (bp : Bluepad32) (bb : BalanceBoard) (state : BalanceBoardState) : ℤ :=
  (balanceBoardToStickAxes bp bb state).2.2

end BalanceBoard

/-! ## One axis -/

theorem clampAxis_mem (v : ℤ) : clampAxis v ∈ Set.Icc (-512) 511 := by
  unfold clampAxis
  rw [Set.mem_Icc]
  split_ifs <;> omega

theorem clampAxis_mono : Monotone clampAxis := by
  intro v v' hv
  unfold clampAxis
  split_ifs <;> omega

/-- The guard of the scaling only skips a zero. -/
theorem bbScale_eq (cog : ℤ) : bbScale cog = clampAxis (scaleDown 512 3400 cog) := by
  unfold bbScale
  by_cases hcog : cog = 0
  · rw [if_neg (not_not.mpr hcog), hcog]
    rfl
  · rw [if_pos hcog]
    rfl

theorem bbScale_mem (cog : ℤ) : bbScale cog ∈ Set.Icc (-512) 511 := by
  rw [bbScale_eq]
  exact clampAxis_mem _

theorem bbScale_mono : Monotone bbScale := by
  intro cog cog' hcog
  rw [bbScale_eq, bbScale_eq]
  apply clampAxis_mono
  exact scaleDown_mono (by decide) (by decide) hcog

/-- The axis of one difference, cut off at `thr`. -/
def boardAxis (thr cog : ℤ) : ℤ := bbScale (bbApplyMoveThreshold cog thr)

section Axis

variable {thr thr' cog cog' : ℤ}

theorem boardAxis_nonneg (hthr : 0 ≤ thr) (hcog : 0 ≤ cog) : 0 ≤ boardAxis thr cog := by
  calc
    0 = bbScale 0 := rfl
    _ ≤ boardAxis thr cog := by
      apply bbScale_mono
      unfold bbApplyMoveThreshold
      split_ifs <;> omega

theorem boardAxis_nonpos (hthr : 0 ≤ thr) (hcog : cog ≤ 0) : boardAxis thr cog ≤ 0 := by
  calc
    boardAxis thr cog ≤ bbScale 0 := by
      apply bbScale_mono
      unfold bbApplyMoveThreshold
      split_ifs <;> omega
    _ = 0 := rfl

theorem boardAxis_sign (hthr : 0 ≤ thr) :
    boardAxis thr cog = 0 ∨ (boardAxis thr cog).sign = cog.sign := by
  by_cases hzero : boardAxis thr cog = 0
  · exact .inl hzero
  right
  rcases lt_trichotomy cog 0 with hcog | rfl | hcog
  · have haxis : boardAxis thr cog < 0 := lt_of_le_of_ne (boardAxis_nonpos hthr hcog.le) hzero
    rw [Int.sign_eq_neg_one_of_neg haxis, Int.sign_eq_neg_one_of_neg hcog]
  · have haxis := le_antisymm (boardAxis_nonpos hthr le_rfl) (boardAxis_nonneg hthr le_rfl)
    exact absurd haxis hzero
  · have haxis : 0 < boardAxis thr cog := lt_of_le_of_ne (boardAxis_nonneg hthr hcog.le)
      (Ne.symm hzero)
    rw [Int.sign_eq_one_of_pos haxis, Int.sign_eq_one_of_pos hcog]

/-- A lower threshold cuts off less. -/
theorem boardAxis_le (hthr : 0 ≤ thr') (hle : thr' ≤ thr) (hcog : 0 ≤ cog) (hgrow : cog ≤ cog') :
    boardAxis thr cog ≤ boardAxis thr' cog' := by
  apply bbScale_mono
  unfold bbApplyMoveThreshold
  split_ifs <;> omega

theorem boardAxis_ge (hthr : 0 ≤ thr') (hle : thr' ≤ thr) (hcog : cog ≤ 0) (hgrow : cog' ≤ cog) :
    boardAxis thr' cog' ≤ boardAxis thr cog := by
  apply bbScale_mono
  unfold bbApplyMoveThreshold
  split_ifs <;> omega

theorem abs_boardAxis_le (hthr : 0 ≤ thr') (hle : thr' ≤ thr) (hsame : 0 ≤ cog * cog')
    (hgrow : |cog| ≤ |cog'|) : |boardAxis thr cog| ≤ |boardAxis thr' cog'| := by
  have hsides : (0 ≤ cog ∧ cog ≤ cog') ∨ (cog ≤ 0 ∧ cog' ≤ cog) := by
    rcases le_total 0 cog with hcog | hcog
    · rcases le_or_gt 0 cog' with hcog' | hcog'
      · rw [abs_of_nonneg hcog, abs_of_nonneg hcog'] at hgrow
        exact .inl ⟨hcog, hgrow⟩
      · -- only zero has the sign of everything
        obtain rfl : cog = 0 := le_antisymm (nonpos_of_mul_nonneg_left hsame hcog') hcog
        exact .inr ⟨le_rfl, hcog'.le⟩
    · rcases le_or_gt cog' 0 with hcog' | hcog'
      · rw [abs_of_nonpos hcog, abs_of_nonpos hcog'] at hgrow
        exact .inr ⟨hcog, by omega⟩
      · obtain rfl : cog = 0 := le_antisymm hcog (nonneg_of_mul_nonneg_left hsame hcog')
        exact .inl ⟨le_rfl, hcog'.le⟩
  rcases hsides with ⟨hcog, hcog'⟩ | ⟨hcog, hcog'⟩
  · rw [abs_of_nonneg (boardAxis_nonneg (hthr.trans hle) hcog),
      abs_of_nonneg (boardAxis_nonneg hthr (hcog.trans hcog'))]
    exact boardAxis_le hthr hle hcog hcog'
  · rw [abs_of_nonpos (boardAxis_nonpos (hthr.trans hle) hcog),
      abs_of_nonpos (boardAxis_nonpos hthr (hcog'.trans hcog))]
    exact neg_le_neg (boardAxis_ge hthr hle hcog hcog')

end Axis

/-! ## Both axes -/

theorem bbMoveThr_nonneg (cogX cogY : ℤ) : 0 ≤ bbMoveThr cogX cogY :=
  (by decide : (0 : ℤ) ≤ 900).trans (bbMoveThr_mem cogX cogY).1

/-- Growing differences can only lower the threshold. -/
theorem bbMoveThr_le {cogX cogX' cogY cogY' : ℤ} (hx : |cogX| ≤ |cogX'|) (hy : |cogY| ≤ |cogY'|) :
    bbMoveThr cogX' cogY' ≤ bbMoveThr cogX cogY := by
  have hdiag : bbMoveThresholdDiag ≤ bbMoveThreshold := by decide
  unfold bbMoveThr
  split_ifs <;> omega

/-- The axes are those of the smoothed differences; a cleared filter has none. -/
theorem axisX_eq (bp : Bluepad32) (bb : BalanceBoard) (state : BalanceBoardState) :
    bb.axisX bp state = boardAxis
      (bbMoveThr (bb.filtered bp state).cogX (bb.filtered bp state).cogY)
      (bb.filtered bp state).cogX := by
  unfold BalanceBoard.axisX
  by_cases hidle : bb.Idle bp
  · rw [filtered_of_idle hidle, balanceBoardToStickAxes_of_idle hidle]
    rfl
  · rw [filtered_of_load hidle, balanceBoardToStickAxes_of_load hidle]
    rfl

theorem axisY_eq (bp : Bluepad32) (bb : BalanceBoard) (state : BalanceBoardState) :
    bb.axisY bp state = boardAxis
      (bbMoveThr (bb.filtered bp state).cogX (bb.filtered bp state).cogY)
      (bb.filtered bp state).cogY := by
  unfold BalanceBoard.axisY
  by_cases hidle : bb.Idle bp
  · rw [filtered_of_idle hidle, balanceBoardToStickAxes_of_idle hidle]
    rfl
  · rw [filtered_of_load hidle, balanceBoardToStickAxes_of_load hidle]
    rfl

/-- The second lean points the same way as the first and is nowhere smaller. -/
structure LeansFurther (state state' : BalanceBoardState) : Prop where
  sameX : 0 ≤ state.cogX * state'.cogX
  sameY : 0 ≤ state.cogY * state'.cogY
  growX : |state.cogX| ≤ |state'.cogX|
  growY : |state.cogY| ≤ |state'.cogY|

instance (state state' : BalanceBoardState) : Decidable (LeansFurther state state') :=
  decidable_of_iff (0 ≤ state.cogX * state'.cogX ∧ 0 ≤ state.cogY * state'.cogY ∧
      |state.cogX| ≤ |state'.cogX| ∧ |state.cogY| ≤ |state'.cogY|)
    ⟨fun h ↦ ⟨h.1, h.2.1, h.2.2.1, h.2.2.2⟩, fun h ↦ ⟨h.1, h.2, h.3, h.4⟩⟩

theorem axes_le_of_leansFurther {bb' : BalanceBoard}
    (h : LeansFurther (bb.filtered bp state) (bb'.filtered bp state')) :
    |bb.axisX bp state| ≤ |bb'.axisX bp state'| ∧ |bb.axisY bp state| ≤ |bb'.axisY bp state'| := by
  have hthr := bbMoveThr_le h.growX h.growY
  rw [axisX_eq, axisX_eq, axisY_eq, axisY_eq]
  constructor
  · exact abs_boardAxis_le (bbMoveThr_nonneg _ _) hthr h.sameX h.growX
  · exact abs_boardAxis_le (bbMoveThr_nonneg _ _) hthr h.sameY h.growY

/-- A sample is turned into axes without overflow; each axis is in range and follows the smoothed
difference of its own direction, which a sample without load clears. -/
theorem board_axes_follow_lean (hmult : bp.MultFrac) (hreach : FilterReachable bp state)
    (hbb : bb.Unsigned16) :
    balanceBoardToStickAxesChecked bp bb state = some (balanceBoardToStickAxes bp bb state) ∧
      (bb.axisX bp state ∈ Set.Icc (-512) 511 ∧ bb.axisY bp state ∈ Set.Icc (-512) 511) ∧
      (bb.axisX bp state = 0 ∨
        (bb.axisX bp state).sign = (bb.filtered bp state).cogX.sign) ∧
      (bb.axisY bp state = 0 ∨
        (bb.axisY bp state).sign = (bb.filtered bp state).cogY.sign) ∧
      (bb.Idle bp → balanceBoardToStickAxes bp bb state = ({}, 0, 0)) ∧
      ∀ (bb' : BalanceBoard) (state' : BalanceBoardState),
        LeansFurther (bb.filtered bp state) (bb'.filtered bp state') →
          |bb.axisX bp state| ≤ |bb'.axisX bp state'| ∧
            |bb.axisY bp state| ≤ |bb'.axisY bp state'| := by
  have hthr := bbMoveThr_nonneg (bb.filtered bp state).cogX (bb.filtered bp state).cogY
  refine ⟨?_, ⟨?_, ?_⟩, ?_, ?_, balanceBoardToStickAxes_of_idle, fun bb' state' h ↦ ?_⟩
  · exact balanceBoardToStickAxesChecked_eq_some hmult (hreach.bounded hmult) hbb
  · rw [axisX_eq]
    exact bbScale_mem _
  · rw [axisY_eq]
    exact bbScale_mem _
  · rw [axisX_eq]
    exact boardAxis_sign hthr
  · rw [axisY_eq]
    exact boardAxis_sign hthr
  · exact axes_le_of_leansFurther h

/-- A load on the right corners, half as much on the left ones. -/
def sampleTilt : BalanceBoard := ⟨20000, 40000, 20000, 40000⟩

theorem sampleTilt_unsigned16 : sampleTilt.Unsigned16 :=
  ⟨by decide, by decide, by decide, by decide⟩

theorem filterReachable_sampleTilt :
    FilterReachable bluepad32 (sampleTilt.filtered bluepad32 {}) :=
  (filterReachable_clear bluepad32).filtered sampleTilt_unsigned16

theorem board_axes_follow_lean_sample :
    balanceBoardToStickAxesChecked bluepad32 sampleTilt (sampleTilt.filtered bluepad32 {}) =
        some (balanceBoardToStickAxes bluepad32 sampleTilt (sampleTilt.filtered bluepad32 {})) ∧
      sampleTilt.axisX bluepad32 (sampleTilt.filtered bluepad32 {}) = 425 ∧
      (sampleTilt.axisX bluepad32 (sampleTilt.filtered bluepad32 {}) = 0 ∨
        (sampleTilt.axisX bluepad32 (sampleTilt.filtered bluepad32 {})).sign =
          (sampleTilt.filtered bluepad32 (sampleTilt.filtered bluepad32 {})).cogX.sign) := by
  have h := board_axes_follow_lean (fun _ _ _ ↦ rfl) filterReachable_sampleTilt
    sampleTilt_unsigned16
  exact ⟨h.1, by decide, h.2.2.1⟩

/-! ## Every run -/

section Runs

variable {w : World} {e : Event} {log : Log}

/-- Corner weights as the driver delivers them. -/
def Event.Unsigned16 : Event → Prop
  | .controllerData _ (.balanceBoard bb) => bb.Unsigned16
  | _ => True

theorem inst_exec {ω : Oracle} {o : Op} {s : Sys} (ho : ∀ d ins, o ≠ .set (.inst d) ins) :
    (exec ω o s).2.plat.inst = s.plat.inst := by
  cases o with
  | set v x =>
    cases v with
    | inst d => exact absurd rfl (ho d x)
    | _ => rfl
  | createWheelTest =>
    change (if ω.taskCreated then s.startTest else s).plat.inst = _
    split <;> rfl
  | call origin c => exact congrArg Platform.inst (s.call_plat origin c)
  | timerStartOnce t us => exact congrArg Platform.inst (s.timerStartOnce_plat t us)
  | timerStartPeriodic t us => exact congrArg Platform.inst (s.timerStartPeriodic_plat t us)
  | _ => rfl

/-- Timers, requests, rounds and the wheel test leave the instances alone. -/
theorem inst_next (bp : Bluepad32) (w : World) (hplain : e.plain = true)
    (hbutton : ∀ d, e ≠ .systemButton d) (hdata : ∀ d ctl, e ≠ .controllerData d ctl) :
    (w.next bp e).sys.plat.inst = w.sys.plat.inst := by
  refine World.next_keeps (I := fun s ↦ s.plat.inst = w.sys.plat.inst) hplain ?_ ?_ ?_
    (fun _ _ h ↦ h) fun _ _ _ h ↦ h
  · cases e <;> rfl
  · intro ω o s ho hs
    refine (inst_exec fun d ins hset ↦ ?_).trans hs
    subst hset
    rcases ho.cases with h | h | h
    · exact h
    · exact h
    · cases e with
      | systemButton d' => exact hbutton d' rfl
      | controllerData d' ctl => exact hdata d' ctl rfl
      | timer t ω =>
        cases t with
        | laserRumble => rcases h with h | h | h | h | h <;> cases h
        | _ => exact h
      | _ => exact h
  · intro t ω s _ hs
    rw [(Sys.sameOutside_actuatorCallback s t).2.1]
    exact hs

/-- Writing the other fields of an instance. -/
theorem update_bbState {instances : HidDevice → Instance} {d' : HidDevice} {ins : Instance}
    (hins : ins.bbState = (instances d').bbState) (d : HidDevice) :
    (Function.update instances d' ins d).bbState = (instances d).bbState := by
  by_cases hd : d = d'
  · rw [hd, Function.update_self, hins]
  · rw [Function.update_of_ne hd]

theorem bbState_onDeviceDisconnected (bp : Bluepad32) (s : Sys) (d' d : HidDevice)
    (hd : d'.parent = none) : ((((onDeviceDisconnected bp d').run (exec {}) s).2.plat.inst d).bbState =
      (s.plat.inst d).bbState) := by
  have hdropped : ((s.dropped {} d').plat.inst d).bbState = (s.plat.inst d).bbState := by
    have hinst : (s.plat.drop d').inst = (s.plat.leaveReady d').inst :=
      ((s.plat.leaveReady d').forget_same d').2.2.1
    rw [dropped_plat, hinst]
    change (Function.update s.plat.inst d' { s.plat.inst d' with ready := false } d).bbState = _
    apply update_bbState
    rfl
  rw [run_onDeviceDisconnected bp {} s d' hd]
  split
  · rw [run_othersRemain_plat]
    exact hdropped
  · rw [run_dropConnection_plat_eq]
    exact hdropped

/-- A filter is left alone, cleared, or fed a sample of its own board. -/
theorem bbState_next (bp : Bluepad32) (w : World) (e : Event) (d : HidDevice) :
    ((w.next bp e).sys.plat.inst d).bbState = (w.sys.plat.inst d).bbState ∨
      ((w.next bp e).sys.plat.inst d).bbState = {} ∨
      ∃ bb, e = .controllerData d (.balanceBoard bb) ∧
        ((w.next bp e).sys.plat.inst d).bbState = bb.filtered bp (w.sys.plat.inst d).bbState := by
  cases e with
  | deviceConnected d' =>
    left
    change (((onDeviceConnected d').run (exec {}) w.sys).2.plat.inst d).bbState = _
    by_cases hd : d'.parent = none
    · rw [run_onDeviceConnected {} w.sys d' hd, Sys.call_plat]
      change (Function.update w.sys.plat.inst d' { w.sys.plat.inst d' with ready := false }
        d).bbState = _
      apply update_bbState
      rfl
    · rw [(run_of_virtual bp {} w.sys d' hd).1]
  | deviceReady d' =>
    change (((onDeviceReady bp d').run (exec {}) w.sys).2.plat.inst d).bbState = _ ∨
      (((onDeviceReady bp d').run (exec {}) w.sys).2.plat.inst d).bbState = _ ∨ _
    by_cases hd : d'.parent = none
    · rw [run_onDeviceReady_plat bp {} w.sys d' hd]
      change (Function.update w.sys.plat.inst d' _ d).bbState = _ ∨
        (Function.update w.sys.plat.inst d' _ d).bbState = _ ∨ _
      by_cases hsame : d = d'
      · rw [hsame, Function.update_self]
        exact .inr (.inl rfl)
      · rw [Function.update_of_ne hsame]
        exact .inl rfl
    · rw [(run_of_virtual bp {} w.sys d' hd).2.1]
      exact .inl rfl
  | deviceDisconnected d' =>
    left
    change (((onDeviceDisconnected bp d').run (exec {}) w.sys).2.plat.inst d).bbState = _
    by_cases hd : d'.parent = none
    · exact bbState_onDeviceDisconnected bp w.sys d' d hd
    · rw [(run_of_virtual bp {} w.sys d' hd).2.2]
  | systemButton d' =>
    left
    change (((onSystemButton d').run (exec {}) w.sys).2.plat.inst d).bbState = _
    rw [run_onSystemButton]
    change (Function.update w.sys.plat.inst d' ⟨_, (w.sys.plat.inst d').bbState, _⟩ d).bbState = _
    apply update_bbState
    rfl
  | controllerData d' ctl =>
    cases ctl with
    | gamepad g =>
      left
      rw [gamepad_next]
      split <;> rfl
    | balanceBoard bb =>
      rw [board_next]
      cases w.sys.plat.connected with
      | false => exact .inl rfl
      | true =>
        rw [if_pos rfl]
        change (Function.update w.sys.plat.inst d' _ d).bbState = _ ∨
          (Function.update w.sys.plat.inst d' _ d).bbState = _ ∨ _
        by_cases hsame : d = d'
        · subst hsame
          rw [Function.update_self]
          refine .inr (.inr ⟨bb, rfl, ?_⟩)
          change (Function.update w.sys.plat.inst d _ d).bbState = _
          rw [Function.update_self]
          rfl
        · rw [Function.update_of_ne hsame]
          exact .inl rfl
    | other => exact .inl (congrArg (fun s : Sys ↦ (s.plat.inst d).bbState) other_next)
  | timer | deliver | iterate | wheelTest | elapse =>
    exact .inl (congrArg (fun f ↦ (f d).bbState)
      (inst_next bp w rfl (fun _ h ↦ by cases h) fun _ _ h ↦ by cases h))

/-- Every filter state of a run is one that samples lead to from the cleared state. -/
theorem filterReachable_of_run
    (hrun : RunFromBoot bp (fun _ _ e ↦ e.Unsigned16) log w) (d : HidDevice) :
    FilterReachable bp (w.sys.plat.inst d).bbState := by
  refine hrun.invariant (I := fun _ w ↦ ∀ d, FilterReachable bp (w.sys.plat.inst d).bbState)
    ?_ ?_ d
  · rintro w ⟨us, rfl⟩ d
    exact filterReachable_clear bp
  · intro log w e _ h hok d
    rcases bbState_next bp w e d with hsame | hclear | ⟨bb, rfl, hfed⟩
    · rw [hsame]
      exact h d
    · rw [hclear]
      exact filterReachable_clear bp
    · rw [hfed]
      exact (h d).filtered hok.2

end Runs

end Nutcracker
