import Nutcracker.Program.Interpolation
import Nutcracker.Properties.RadarRest

/-!
# Sweeps of the radar

A sweep goes from where the arm stands to one of the two ends.  Its angle is a function of the time
since `sweep_t0_ms`; a failed write puts that time off by one update, which is never more than what
has passed at the next iteration.  So the angle only moves toward the end, and an undisturbed sweep
arrives at the first iteration after its duration.
-/

namespace Nutcracker

/-! ## History -/

/-- When the task last iterated. -/
def lastIterateMs : RadarLog → Option ℤ
  | [] => none
  | ⟨s, .iterate _⟩ :: _ => some s.nowMs
  | _ :: log => lastIterateMs log

/-- Iterations are at least one update apart. -/
def Spaced (log : RadarLog) (s : RadarModule) : RadarEvent → Prop
  | .iterate _ => ∀ t ∈ lastIterateMs log, t + radarUpdateMs ≤ s.nowMs
  | _ => True

instance (log : RadarLog) (s : RadarModule) : (e : RadarEvent) → Decidable (Spaced log s e)
  | .iterate _ => inferInstanceAs (Decidable (∀ t ∈ lastIterateMs log, _))
  | .setMoving _ | .setEnabled _ | .toggle | .exhibitBegin | .resume | .elapse _ => .isTrue trivial

/-- An iteration within a sweep. -/
structure SweepPoint where
  atMs : ℤ
  /-- The tracked angle after it. -/
  deg : ℤ
  enabled : Bool
  /-- The servo did not take the angle. -/
  failed : Bool
  /-- The sweep ended at the target. -/
  arrived : Bool
  deriving DecidableEq

/-- The radar is on, and no write failed. -/
def SweepPoint.Clean (p : SweepPoint) : Prop := p.enabled = true ∧ p.failed = false

/-- A sweep with its iterations, latest first. -/
structure Sweep where
  start : ℤ
  target : ℤ
  t0Ms : ℤ
  points : List SweepPoint
  deriving DecidableEq

namespace Sweep

/-- The angles of a sweep, latest first. -/
def angles (w : Sweep) : List ℤ := w.points.map SweepPoint.deg ++ [w.start]

/-- The end of an undisturbed sweep. -/
def dueMs (w : Sweep) : ℤ :=
  w.t0Ms + |w.target - w.start| * radarOneWayMs / (radarSweepMaxDeg - radarSweepMinDeg)

/-- It has neither been switched off nor arrived. -/
def Going (w : Sweep) : Prop := ∀ p ∈ w.points, p.enabled = true ∧ p.arrived = false

end Sweep

namespace RadarModule

/-- The angle that an iteration computes. -/
def sweepDeg (s : RadarModule) : ℤ := sweepNowDeg s.startDeg s.targetDeg s.sweepT0Ms s.nowMs

/-- The angle is new, and the servo does not take it. -/
def sweepFails (s : RadarModule) (servo : Servo) : Bool :=
  decide (s.sweepDeg ≠ s.lastDeg) &&
    ({ s with deg := s.sweepDeg }.servoSetDeg servo s.sweepDeg).isNone

def sweepPoint (s : RadarModule) (servo : Servo) : SweepPoint where
  atMs := s.nowMs
  deg := (s.iterate servo).deg
  enabled := s.enabled
  failed := s.enabled && s.sweepFails servo
  arrived := decide ((s.iterate servo).phase = .dwell)

end RadarModule

/-- One more iteration of the sweep in progress. -/
def extendSweeps (p : SweepPoint) : List Sweep → List Sweep
  | [] => []
  | w :: rest => { w with points := p :: w.points } :: rest

/-- All sweeps of a history, latest first. -/
def sweeps : RadarLog → List Sweep
  | [] => []
  | ⟨s, .resume⟩ :: log => ⟨s.startDeg, s.targetDeg, s.nowMs, []⟩ :: sweeps log
  | ⟨s, .iterate servo⟩ :: log =>
    if s.phase = .sweep then extendSweeps (s.sweepPoint servo) (sweeps log) else sweeps log
  | _ :: log => sweeps log

/-- What is required of a sweep: it goes from an angle to another end, its angles only move toward
that end, and as long as it is undisturbed it ends at the first iteration when it is due. -/
structure Sweep.Sound (w : Sweep) : Prop where
  start_bounds : 0 ≤ w.start ∧ w.start ≤ 180
  target_end : w.target = 0 ∨ w.target = 180
  start_ne : w.start ≠ w.target
  toward : w.angles.Pairwise fun later earlier ↦ Toward w.target earlier later
  timely : ∀ newer p older, w.points = newer ++ p :: older → (∀ q ∈ p :: older, q.Clean) →
    (p.arrived = true ↔ w.dueMs ≤ p.atMs ∧ ∀ q ∈ older, q.atMs < w.dueMs)
  ends : ∀ newer p older, w.points = newer ++ p :: older → p.arrived = true → newer = []

/-! ## The angle of a sweep -/

/-- How long an undisturbed sweep takes. -/
def sweepDurationMs (startDeg targetDeg : ℤ) : ℤ :=
  |targetDeg - startDeg| * radarOneWayMs / (radarSweepMaxDeg - radarSweepMinDeg)

section Angle

variable {startDeg targetDeg t0Ms nowMs : ℤ}

theorem sweepDurationMs_pos (hne : startDeg ≠ targetDeg) :
    0 < sweepDurationMs startDeg targetDeg := by
  have hspan : 0 < |targetDeg - startDeg| := abs_pos.mpr (by omega)
  change 0 < |targetDeg - startDeg| * 3000 / (180 - 0)
  omega

theorem sweepNowDeg_eq (hne : startDeg ≠ targetDeg) :
    sweepNowDeg startDeg targetDeg t0Ms nowMs =
      interpolate startDeg targetDeg (sweepDurationMs startDeg targetDeg) (nowMs - t0Ms) := by
  have hpos := sweepDurationMs_pos hne
  have hduration : (|targetDeg - startDeg| * radarOneWayMs).tdiv
      (radarSweepMaxDeg - radarSweepMinDeg) = sweepDurationMs startDeg targetDeg :=
    Int.tdiv_eq_ediv_of_nonneg (mul_nonneg (abs_nonneg _) (by decide))
  unfold sweepNowDeg interpolate scaleDown
  simp only [hduration, ge_iff_le]
  rw [if_neg (not_le.mpr hpos)]

end Angle

/-! ## Iterations -/

namespace RadarModule

variable {s s' : RadarModule} {servo : Servo}

/-- The arm is at a proper angle and heads for an end. -/
def Aimed (s : RadarModule) : Prop :=
  (0 ≤ s.deg ∧ s.deg ≤ 180) ∧ (s.targetDeg = 0 ∨ s.targetDeg = 180)

/-- In the sleep of `begin_sweep` the servo is attached and the next sweep has somewhere to go. -/
def Held (s : RadarModule) : Prop :=
  s.holding = true → s.attached = true ∧ s.startDeg = s.deg ∧ s.startDeg ≠ s.targetDeg

/-- Between sweeps: the arm keeps its angle and heads for an end, and only a held arm is about to
sweep. -/
def Resting (s : RadarModule) : Prop := s.Aimed ∧ s.Held ∧ s.phase ≠ .sweep

/-- The variables of the arm. -/
structure SameArm (s s' : RadarModule) : Prop where
  attached : s'.attached = s.attached
  deg : s'.deg = s.deg
  startDeg : s'.startDeg = s.startDeg
  targetDeg : s'.targetDeg = s.targetDeg
  phase : s'.phase = s.phase
  sweepT0Ms : s'.sweepT0Ms = s.sweepT0Ms
  holding : s'.holding = s.holding

theorem SameArm.aimed (h : SameArm s s') (hs : s.Aimed) : s'.Aimed := by
  unfold Aimed
  rw [h.deg, h.targetDeg]
  exact hs

theorem SameArm.held (h : SameArm s s') (hs : s.Held) : s'.Held := by
  unfold Held
  rw [h.holding, h.attached, h.startDeg, h.targetDeg, h.deg]
  exact hs

theorem sameArm_setMoving (moving : Bool) : SameArm s (s.setMoving moving) := by
  unfold setMoving
  split_ifs <;> exact ⟨rfl, rfl, rfl, rfl, rfl, rfl, rfl⟩

theorem sameArm_setEnabled (enabled : Bool) : SameArm s (s.setEnabled enabled) := by
  unfold setEnabled
  split_ifs <;> exact ⟨rfl, rfl, rfl, rfl, rfl, rfl, rfl⟩

theorem sameArm_startDelayDone : SameArm s s.startDelayDone.2 := by
  unfold startDelayDone
  split_ifs <;> exact ⟨rfl, rfl, rfl, rfl, rfl, rfl, rfl⟩

theorem oppositeEnd_spec {deg : ℤ} (hdeg : 0 ≤ deg ∧ deg ≤ 180) :
    (oppositeEnd deg = 0 ∨ oppositeEnd deg = 180) ∧ deg ≠ oppositeEnd deg := by
  unfold oppositeEnd
  split
  · rename_i hfar
    change deg ≥ (0 + 180) / 2 at hfar
    refine ⟨.inl rfl, ?_⟩
    change deg ≠ 0
    omega
  · rename_i hnear
    change ¬deg ≥ (0 + 180) / 2 at hnear
    refine ⟨.inr rfl, ?_⟩
    change deg ≠ 180
    omega

/-- The next sweep has somewhere to go. -/
theorem Aimed.aim (hs : s.Aimed) : s.aim.Aimed ∧ s.aim.startDeg ≠ s.aim.targetDeg := by
  obtain ⟨hdeg, htarget⟩ := hs
  obtain ⟨hend, hne⟩ := oppositeEnd_spec hdeg
  unfold Aimed RadarModule.aim
  by_cases harrived : s.deg = s.targetDeg
  · simp only [if_pos harrived]
    exact ⟨⟨hdeg, hend⟩, hne⟩
  · simp only [if_neg harrived]
    exact ⟨⟨hdeg, htarget⟩, harrived⟩

theorem servoAttach_spec {degree : ℤ} (hattach : s.servoAttach servo degree = some s') :
    ∃ duty, s' = { s with attached := true, duty := duty } := by
  unfold servoAttach at hattach
  split at hattach
  · rename_i hattached
    cases hattach
    exact ⟨s.duty, by rw [← hattached]⟩
  · split at hattach
    · cases hattach
      exact ⟨_, rfl⟩
    · cases hattach

/-- A write changes the servo only. -/
theorem servoSetDeg_spec {degree : ℤ} (hset : s.servoSetDeg servo degree = some s') :
    s' = { s with attached := true, duty := degreeToDuty degree } := by
  obtain ⟨s₁, hattach, hduty⟩ := Option.bind_eq_some_iff.mp hset
  obtain ⟨duty, rfl⟩ := servoAttach_spec hattach
  unfold servoApplyDuty at hduty
  split at hduty
  · cases hduty
    rfl
  · cases hduty

/-- `begin_sweep` leaves the arm at its angle, held for the next sweep or idle. -/
theorem Aimed.beginSweep (hs : s.Aimed) (hphase : s.phase ≠ .sweep) (hfree : s.holding = false) :
    (s.beginSweep servo).Resting := by
  obtain ⟨haimed, hne⟩ := hs.aim
  unfold RadarModule.beginSweep
  cases hset : s.aim.servoSetDeg servo s.deg with
  | none =>
    refine ⟨haimed, fun hholding ↦ ?_, RadarPhase.noConfusion⟩
    exact Bool.noConfusion (hfree.symm.trans hholding)
  | some s' =>
    obtain rfl := servoSetDeg_spec hset
    exact ⟨haimed, fun _ ↦ ⟨rfl, rfl, hne⟩, hphase⟩

/-- What a switched off radar does. -/
theorem iterate_off (henabled : s.enabled = false) :
    s.iterate servo = { s with attached := false, phase := .idle } := by
  cases hattached : s.attached <;> simp [iterate, servoDetach, henabled, hattached]

theorem iterate_sweep (henabled : s.enabled = true) (hattached : s.attached = true)
    (hphase : s.phase = .sweep) : s.iterate servo = s.advanceSweep servo := by
  simp [iterate, henabled, servoAttach, hattached, hphase]

theorem Resting.startIdle (hs : s.Resting) (hfree : s.holding = false) :
    (s.startIdle servo).Resting := by
  have hsame : SameArm s s.startDelayDone.2 := sameArm_startDelayDone
  have hphase : s.startDelayDone.2.phase ≠ .sweep := hsame.phase ▸ hs.2.2
  unfold RadarModule.startIdle
  by_cases hdone : s.startDelayDone.1 = true
  · simp only [if_pos hdone]
    exact (hsame.aimed hs.1).beginSweep hphase (hsame.holding.trans hfree)
  · simp only [if_neg hdone]
    exact ⟨hsame.aimed hs.1, hsame.held hs.2.1, hphase⟩

theorem Resting.endDwell (hs : s.Resting) (hfree : s.holding = false) :
    (s.endDwell servo).Resting := by
  have hsame : SameArm s s.startDelayDone.2 := sameArm_startDelayDone
  have hphase : s.startDelayDone.2.phase ≠ .sweep := hsame.phase ▸ hs.2.2
  obtain ⟨hdeg, -⟩ := hsame.aimed hs.1
  unfold RadarModule.endDwell
  split
  · by_cases hdone : s.startDelayDone.1 = true
    · simp only [if_pos hdone]
      apply Aimed.beginSweep
      · exact ⟨hdeg, (oppositeEnd_spec hdeg).1⟩
      · exact hphase
      · exact hsame.holding.trans hfree
    · simp only [if_neg hdone]
      exact ⟨hsame.aimed hs.1, hsame.held hs.2.1, hphase⟩
  · exact hs

/-- Without a sweep in progress an iteration leaves the arm at its angle. -/
theorem Resting.iterate (hs : s.Resting) (hfree : s.holding = false) :
    (s.iterate servo).Resting := by
  by_cases henabled : s.enabled = true
  · cases hattach : s.servoAttach servo s.deg with
    | none =>
      have heq : s.iterate servo = s := by simp [RadarModule.iterate, henabled, hattach]
      rw [heq]
      exact hs
    | some s' =>
      obtain ⟨duty, rfl⟩ := servoAttach_spec hattach
      have hs' : Resting { s with attached := true, duty := duty } := by
        refine ⟨hs.1, fun hholding ↦ ?_, hs.2.2⟩
        exact Bool.noConfusion (hfree.symm.trans hholding)
      cases hphase : s.phase with
      | sweep => exact absurd hphase hs.2.2
      | dwell =>
        have heq : s.iterate servo =
            { s with attached := true, duty := duty }.endDwell servo := by
          simp [RadarModule.iterate, henabled, hattach, hphase]
        rw [heq]
        exact hs'.endDwell hfree
      | idle =>
        have heq : s.iterate servo =
            { s with attached := true, duty := duty }.startIdle servo := by
          simp [RadarModule.iterate, henabled, hattach, hphase]
        rw [heq]
        exact hs'.startIdle hfree
  · rw [iterate_off (Bool.eq_false_of_not_eq_true henabled)]
    refine ⟨hs.1, fun hholding ↦ ?_, RadarPhase.noConfusion⟩
    exact Bool.noConfusion (hfree.symm.trans hholding)

/-- An iteration of a sweep: a failed write puts its time off by one update. -/
theorem advanceSweep_fields (hphase : s.phase = .sweep) (hattached : s.attached = true) :
    (s.advanceSweep servo).attached = true ∧
      (s.advanceSweep servo).deg = s.sweepDeg ∧
      (s.advanceSweep servo).startDeg = s.startDeg ∧
      (s.advanceSweep servo).targetDeg = s.targetDeg ∧
      (s.advanceSweep servo).phase = (if s.sweepDeg = s.targetDeg then .dwell else .sweep) ∧
      (s.advanceSweep servo).sweepT0Ms =
        (if s.sweepFails servo then s.sweepT0Ms + radarUpdateMs else s.sweepT0Ms) ∧
      (s.advanceSweep servo).holding = s.holding := by
  have hmove : ∃ duty lastDeg, s.moveTo servo s.sweepDeg = { s with
      attached := true, deg := s.sweepDeg, duty := duty, lastDeg := lastDeg,
      sweepT0Ms := if s.sweepFails servo then s.sweepT0Ms + radarUpdateMs else s.sweepT0Ms } := by
    unfold moveTo sweepFails
    by_cases hnew : s.sweepDeg ≠ s.lastDeg
    · rw [if_pos hnew, decide_eq_true hnew]
      cases hset : { s with deg := s.sweepDeg }.servoSetDeg servo s.sweepDeg with
      | none =>
        simp only [hattached]
        exact ⟨_, _, rfl⟩
      | some s' =>
        obtain rfl := servoSetDeg_spec hset
        exact ⟨_, _, rfl⟩
    · rw [if_neg hnew, decide_eq_false hnew]
      simp only [hattached]
      exact ⟨_, _, rfl⟩
  obtain ⟨duty, lastDeg, hmove⟩ := hmove
  have hadvance : s.advanceSweep servo = (s.moveTo servo s.sweepDeg).arrive := rfl
  rw [hadvance, hmove]
  unfold arrive
  by_cases h : s.sweepDeg = s.targetDeg
  · simp only [if_pos h, and_self]
  · simp only [if_neg h, hphase, and_self]

end RadarModule

/-! ## Sweeps in progress -/

/-- The time `t` has passed at the next iteration. -/
def PassedAtNext (log : RadarLog) (s : RadarModule) (t : ℤ) : Prop :=
  t ≤ s.nowMs ∨ ∃ t' ∈ lastIterateMs log, t ≤ t' + radarUpdateMs

/-- `w` is the sweep in progress.  The arm is where it belongs at some time after `sweep_t0_ms` that
will have passed at the next iteration. -/
structure Underway (log : RadarLog) (s : RadarModule) (w : Sweep) : Prop where
  attached : s.attached = true
  start : w.start = s.startDeg
  target : w.target = s.targetDeg
  latest : w.angles.head? = some s.deg
  place : ∃ elapsed, 0 ≤ elapsed ∧ s.deg = interpolate s.startDeg s.targetDeg
    (sweepDurationMs s.startDeg s.targetDeg) elapsed ∧ PassedAtNext log s (s.sweepT0Ms + elapsed)
  going : ∀ p ∈ w.points, p.arrived = false
  early : (∀ p ∈ w.points, p.Clean) →
    w.t0Ms = s.sweepT0Ms ∧ ∀ p ∈ w.points, p.atMs < w.dueMs

/-- As long as the latest sweep is going, the task is in it; the others have ended. -/
def LatestGoing (log : RadarLog) (s : RadarModule) : Prop :=
  ∀ w rest, sweeps log = w :: rest → (w.Going → s.phase = .sweep) ∧ ∀ w' ∈ rest, ¬w'.Going

structure SweepInv (log : RadarLog) (s : RadarModule) : Prop where
  aimed : s.Aimed
  held : s.Held
  parked : s.holding = true → s.phase ≠ .sweep
  latest : LatestGoing log s
  sound : ∀ w ∈ sweeps log, w.Sound
  underway : s.phase = .sweep → ∃ w rest, sweeps log = w :: rest ∧ Underway log s w

section Invariant

variable {log : RadarLog} {s s' : RadarModule} {servo : Servo} {w : Sweep} {p : SweepPoint}

/-- One more iteration of a sound sweep. -/
theorem Sweep.Sound.extend (hw : w.Sound) {deg : ℤ} (hlatest : w.angles.head? = some deg)
    (htoward : Toward w.target deg p.deg) (hgoing : ∀ q ∈ w.points, q.arrived = false)
    (htimely : (∀ q ∈ p :: w.points, q.Clean) →
      (p.arrived = true ↔ w.dueMs ≤ p.atMs) ∧ ∀ q ∈ w.points, q.atMs < w.dueMs) :
    Sweep.Sound { w with points := p :: w.points } where
  start_bounds := hw.start_bounds
  target_end := hw.target_end
  start_ne := hw.start_ne
  toward := by
    change (p.deg :: w.angles).Pairwise _
    refine List.pairwise_cons.mpr ⟨fun a ha ↦ ?_, hw.toward⟩
    obtain ⟨older, hangles⟩ : ∃ older, w.angles = deg :: older :=
      ⟨w.angles.tail, (List.cons_head?_tail hlatest).symm⟩
    have hpairwise := hw.toward
    rw [hangles] at hpairwise ha
    rcases List.mem_cons.mp ha with rfl | ha
    · exact htoward
    · exact ((List.pairwise_cons.mp hpairwise).1 a ha).trans htoward
  timely := by
    intro newer q older hpoints hclean
    cases newer with
    | nil =>
      obtain ⟨rfl, rfl⟩ := List.cons.inj hpoints
      obtain ⟨harrived, hearly⟩ := htimely hclean
      rw [harrived]
      exact ⟨fun hdue ↦ ⟨hdue, hearly⟩, fun h ↦ h.1⟩
    | cons p' newer =>
      obtain ⟨rfl, hrest⟩ := List.cons.inj hpoints
      exact hw.timely newer q older hrest hclean
  ends := by
    intro newer q older hpoints harrived
    cases newer with
    | nil => rfl
    | cons p' newer =>
      obtain ⟨rfl, hrest⟩ := List.cons.inj hpoints
      have hmem : q ∈ w.points := hrest ▸ List.mem_append_right _ List.mem_cons_self
      exact Bool.noConfusion ((hgoing q hmem).symm.trans harrived)

theorem PassedAtNext.mono {t : ℤ} {log' : RadarLog} (h : PassedAtNext log s t)
    (hnow : s.nowMs ≤ s'.nowMs) (hlast : lastIterateMs log' = lastIterateMs log) :
    PassedAtNext log' s' t := by
  rcases h with hpassed | ⟨t', ht', hle⟩
  · exact .inl (hpassed.trans hnow)
  · exact .inr ⟨t', hlast ▸ ht', hle⟩

/-- An event that does not concern the arm. -/
theorem SweepInv.sameArm (h : SweepInv log s) {log' : RadarLog} (hsame : s.SameArm s')
    (hnow : s.nowMs ≤ s'.nowMs) (hlast : lastIterateMs log' = lastIterateMs log)
    (hsweeps : sweeps log' = sweeps log) : SweepInv log' s' where
  aimed := hsame.aimed h.aimed
  held := hsame.held h.held
  parked := by
    rw [hsame.holding, hsame.phase]
    exact h.parked
  latest := by
    intro w rest hlog
    rw [hsame.phase]
    exact h.latest w rest (hsweeps.symm.trans hlog)
  sound := hsweeps ▸ h.sound
  underway := by
    intro hphase
    obtain ⟨w, rest, hlog, hw⟩ := h.underway (hsame.phase.symm.trans hphase)
    obtain ⟨elapsed, hpos, hdeg, hpassed⟩ := hw.place
    refine ⟨w, rest, hsweeps.trans hlog, ?_⟩
    constructor
    · exact hsame.attached.trans hw.attached
    · exact hw.start.trans hsame.startDeg.symm
    · exact hw.target.trans hsame.targetDeg.symm
    · rw [hsame.deg]
      exact hw.latest
    · rw [hsame.deg, hsame.startDeg, hsame.targetDeg, hsame.sweepT0Ms]
      exact ⟨elapsed, hpos, hdeg, hpassed.mono hnow hlast⟩
    · exact hw.going
    · rw [hsame.sweepT0Ms]
      exact hw.early

/-- The sleep of `begin_sweep` is over. -/
theorem SweepInv.resume (h : SweepInv log s) (hholding : s.holding = true) :
    SweepInv (⟨s, .resume⟩ :: log) s.resume := by
  obtain ⟨hattached, hstart, hne⟩ := h.held hholding
  have hsweeps : sweeps (⟨s, .resume⟩ :: log) =
      ⟨s.startDeg, s.targetDeg, s.nowMs, []⟩ :: sweeps log := rfl
  constructor
  · exact h.aimed
  · exact fun hheld ↦ Bool.noConfusion hheld
  · exact fun hheld ↦ Bool.noConfusion hheld
  · intro w rest hlog
    obtain ⟨-, rfl⟩ := List.cons.inj (hsweeps.symm.trans hlog)
    refine ⟨fun _ ↦ rfl, fun w' hw' ↦ ?_⟩
    cases hbefore : sweeps log with
    | nil =>
      rw [hbefore] at hw'
      cases hw'
    | cons w₁ rest₁ =>
      obtain ⟨hgoing, hended⟩ := h.latest w₁ rest₁ hbefore
      rw [hbefore] at hw'
      rcases List.mem_cons.mp hw' with rfl | hw'
      · exact fun hw ↦ h.parked hholding (hgoing hw)
      · exact hended w' hw'
  · rw [hsweeps]
    refine List.forall_mem_cons.mpr ⟨?_, h.sound⟩
    constructor
    · exact hstart.symm ▸ h.aimed.1
    · exact h.aimed.2
    · exact hne
    · exact List.pairwise_singleton _ _
    · exact fun newer p older hpoints ↦ absurd hpoints.symm (by simp)
    · exact fun newer p older hpoints ↦ absurd hpoints.symm (by simp)
  · refine fun _ ↦ ⟨_, _, hsweeps, ?_⟩
    constructor
    · exact hattached
    · rfl
    · rfl
    · exact congrArg some hstart
    · refine ⟨0, le_rfl, ?_, .inl (add_zero _).le⟩
      exact hstart.symm.trans (interpolate_zero (sweepDurationMs_pos hne)).symm
    · exact fun p hp ↦ absurd hp List.not_mem_nil
    · exact fun _ ↦ ⟨rfl, fun p hp ↦ absurd hp List.not_mem_nil⟩

theorem PassedAtNext.passed {t : ℤ} (h : PassedAtNext log s t)
    (hspaced : Spaced log s (.iterate servo)) : t ≤ s.nowMs := by
  rcases h with hpassed | ⟨t', ht', hle⟩
  · exact hpassed
  · exact hle.trans (hspaced t' ht')

/-- Where the next iteration finds the arm: no further from its end than before. -/
theorem Underway.sweepDeg (hw : Underway log s w) (hne : s.startDeg ≠ s.targetDeg)
    (hspaced : Spaced log s (.iterate servo)) :
    0 ≤ s.nowMs - s.sweepT0Ms ∧ s.sweepDeg = interpolate s.startDeg s.targetDeg
        (sweepDurationMs s.startDeg s.targetDeg) (s.nowMs - s.sweepT0Ms) ∧
      Toward s.targetDeg s.deg s.sweepDeg := by
  obtain ⟨elapsed, hpos, hdeg, hpassed⟩ := hw.place
  have hle : elapsed ≤ s.nowMs - s.sweepT0Ms := by
    have h := hpassed.passed hspaced
    omega
  have heq : s.sweepDeg = interpolate s.startDeg s.targetDeg
      (sweepDurationMs s.startDeg s.targetDeg) (s.nowMs - s.sweepT0Ms) := sweepNowDeg_eq hne
  refine ⟨hpos.trans hle, heq, ?_⟩
  rw [heq, hdeg]
  exact toward_interpolate (sweepDurationMs_pos hne) hle

/-- The due time of the sweep in progress, as the module computes it. -/
theorem Underway.dueMs (hw : Underway log s w) :
    w.dueMs = w.t0Ms + sweepDurationMs s.startDeg s.targetDeg := by
  unfold Sweep.dueMs sweepDurationMs
  rw [hw.start, hw.target]

theorem SweepInv.iterate_on (h : SweepInv log s) (hfree : s.holding = false)
    (hspaced : Spaced log s (.iterate servo)) (hphase : s.phase = .sweep)
    (henabled : s.enabled = true) :
    SweepInv (⟨s, .iterate servo⟩ :: log) (s.iterate servo) := by
  obtain ⟨w, rest, hlog, hw⟩ := h.underway hphase
  have hsound : w.Sound := h.sound w (hlog ▸ List.mem_cons_self)
  have hne : s.startDeg ≠ s.targetDeg := hw.start ▸ hw.target ▸ hsound.start_ne
  obtain ⟨helapsed, heq, htoward⟩ := hw.sweepDeg hne hspaced
  have hiterate : s.iterate servo = s.advanceSweep servo :=
    RadarModule.iterate_sweep henabled hw.attached hphase
  obtain ⟨hattached, hdeg, hstart, htarget, hphase', ht0, hholding⟩ :=
    @RadarModule.advanceSweep_fields s servo hphase hw.attached
  rw [← hiterate] at hattached hdeg hstart htarget hphase' ht0 hholding
  have hsweeps : sweeps (⟨s, .iterate servo⟩ :: log) =
      { w with points := s.sweepPoint servo :: w.points } :: rest := by
    change (if s.phase = .sweep then extendSweeps _ (sweeps log) else sweeps log) = _
    rw [if_pos hphase, hlog]
    rfl
  have hreached : s.sweepDeg = s.targetDeg ↔
      sweepDurationMs s.startDeg s.targetDeg ≤ s.nowMs - s.sweepT0Ms := by
    rw [heq]
    exact interpolate_eq_target_iff (sweepDurationMs_pos hne) hne helapsed
  have harrived : (s.sweepPoint servo).arrived = true ↔ s.sweepDeg = s.targetDeg := by
    change decide ((s.iterate servo).phase = .dwell) = true ↔ _
    rw [decide_eq_true_iff, hphase']
    by_cases hthere : s.sweepDeg = s.targetDeg
    · exact iff_of_true (if_pos hthere) hthere
    · rw [if_neg hthere]
      exact iff_of_false RadarPhase.noConfusion hthere
  have hkept : (s.sweepPoint servo).Clean → (s.iterate servo).sweepT0Ms = s.sweepT0Ms := by
    rintro ⟨-, hok⟩
    have hok : (s.enabled && s.sweepFails servo) = false := hok
    rw [henabled, Bool.true_and] at hok
    rw [ht0, hok, if_neg Bool.false_ne_true]
  have hdue : (∀ q ∈ s.sweepPoint servo :: w.points, q.Clean) →
      ((s.sweepPoint servo).arrived = true ↔ w.dueMs ≤ s.nowMs) ∧
        ∀ q ∈ w.points, q.atMs < w.dueMs := by
    intro hclean
    obtain ⟨hw₀, hearly⟩ := hw.early (List.forall_mem_cons.mp hclean).2
    refine ⟨?_, hearly⟩
    rw [harrived, hreached, hw.dueMs, hw₀]
    omega
  constructor
  · constructor
    · rw [hdeg]
      apply htoward.bounds h.aimed.1
      rcases h.aimed.2 with htarget | htarget <;> omega
    · rw [htarget]
      exact h.aimed.2
  · intro hheld
    rw [hholding, hfree] at hheld
    cases hheld
  · intro hheld
    rw [hholding, hfree] at hheld
    cases hheld
  · intro w' rest' hlog'
    obtain ⟨rfl, rfl⟩ := List.cons.inj (hsweeps.symm.trans hlog')
    refine ⟨fun hgoing ↦ ?_, (h.latest w rest hlog).2⟩
    have hopen : ¬s.sweepDeg = s.targetDeg := fun hthere ↦
      Bool.noConfusion ((hgoing _ List.mem_cons_self).2.symm.trans (harrived.mpr hthere))
    rw [hphase', if_neg hopen]
  · rw [hsweeps]
    refine List.forall_mem_cons.mpr ⟨?_, fun w' hw' ↦ h.sound w' (hlog ▸ List.mem_cons_of_mem _ hw')⟩
    apply hsound.extend hw.latest
    · change Toward w.target s.deg (s.iterate servo).deg
      rw [hw.target, hdeg]
      exact htoward
    · exact hw.going
    · exact hdue
  · intro hsweep
    have hopen : (s.sweepPoint servo).arrived = false := by
      change decide ((s.iterate servo).phase = .dwell) = false
      rw [hsweep]
      rfl
    refine ⟨_, rest, hsweeps, ?_⟩
    constructor
    · exact hattached
    · exact hw.start.trans hstart.symm
    · exact hw.target.trans htarget.symm
    · rfl
    · refine ⟨s.nowMs - s.sweepT0Ms, helapsed, ?_, .inr ⟨s.nowMs, rfl, ?_⟩⟩
      · rw [hdeg, hstart, htarget]
        exact heq
      · have hupdate : radarUpdateMs = 20 := rfl
        rw [ht0]
        split <;> omega
    · exact List.forall_mem_cons.mpr ⟨hopen, hw.going⟩
    · intro hclean
      obtain ⟨hhere, hrest⟩ := List.forall_mem_cons.mp hclean
      obtain ⟨hw₀, hearly⟩ := hw.early hrest
      refine ⟨hw₀.trans (hkept hhere).symm, List.forall_mem_cons.mpr ⟨?_, hearly⟩⟩
      by_contra hlate
      have h := (hdue hclean).1.mpr (not_lt.mp hlate)
      exact Bool.noConfusion (hopen.symm.trans h)

/-- A switched off radar abandons its sweep. -/
theorem SweepInv.iterate_off (h : SweepInv log s) (hfree : s.holding = false)
    (hphase : s.phase = .sweep) (henabled : s.enabled = false) :
    SweepInv (⟨s, .iterate servo⟩ :: log) (s.iterate servo) := by
  obtain ⟨w, rest, hlog, hw⟩ := h.underway hphase
  have hsound : w.Sound := h.sound w (hlog ▸ List.mem_cons_self)
  have hiterate : s.iterate servo = { s with attached := false, phase := .idle } :=
    RadarModule.iterate_off henabled
  have hsweeps : sweeps (⟨s, .iterate servo⟩ :: log) =
      { w with points := s.sweepPoint servo :: w.points } :: rest := by
    change (if s.phase = .sweep then extendSweeps _ (sweeps log) else sweeps log) = _
    rw [if_pos hphase, hlog]
    rfl
  constructor
  · rw [hiterate]
    exact h.aimed
  · rw [hiterate]
    exact fun hheld ↦ Bool.noConfusion (hfree.symm.trans hheld)
  · rw [hiterate]
    exact fun _ ↦ RadarPhase.noConfusion
  · intro w' rest' hlog'
    obtain ⟨rfl, rfl⟩ := List.cons.inj (hsweeps.symm.trans hlog')
    refine ⟨fun hgoing ↦ ?_, (h.latest w rest hlog).2⟩
    exact Bool.noConfusion (henabled.symm.trans (hgoing _ List.mem_cons_self).1)
  · rw [hsweeps]
    refine List.forall_mem_cons.mpr ⟨?_, fun w' hw' ↦ h.sound w' (hlog ▸ List.mem_cons_of_mem _ hw')⟩
    apply hsound.extend hw.latest
    · change Toward w.target s.deg (s.iterate servo).deg
      rw [hiterate]
      exact .refl _ _
    · exact hw.going
    · intro hclean
      have hon : s.enabled = true := (List.forall_mem_cons.mp hclean).1.1
      exact Bool.noConfusion (henabled.symm.trans hon)
  · rw [hiterate]
    exact fun hsweep ↦ RadarPhase.noConfusion hsweep

theorem SweepInv.iterate (h : SweepInv log s) (hfree : s.holding = false)
    (hspaced : Spaced log s (.iterate servo)) :
    SweepInv (⟨s, .iterate servo⟩ :: log) (s.iterate servo) := by
  by_cases hphase : s.phase = .sweep
  · cases henabled : s.enabled with
    | true => exact h.iterate_on hfree hspaced hphase henabled
    | false => exact h.iterate_off hfree hphase henabled
  · have hrest : s.Resting := ⟨h.aimed, h.held, hphase⟩
    obtain ⟨haimed, hheld, hphase'⟩ : (s.iterate servo).Resting := hrest.iterate hfree
    have hsweeps : sweeps (⟨s, .iterate servo⟩ :: log) = sweeps log := if_neg hphase
    constructor
    · exact haimed
    · exact hheld
    · exact fun _ ↦ hphase'
    · intro w rest hlog
      obtain ⟨hgoing, hended⟩ := h.latest w rest (hsweeps.symm.trans hlog)
      exact ⟨fun hw ↦ absurd (hgoing hw) hphase, hended⟩
    · exact hsweeps ▸ h.sound
    · exact fun hsweep ↦ absurd hsweep hphase'

theorem sweepInv_step (h : SweepInv log s) {e : RadarEvent} (henabled : s.Enabled e)
    (hspaced : Spaced log s e) : SweepInv (⟨s, e⟩ :: log) (s.next e) := by
  cases e with
  | setMoving moving =>
    refine h.sameArm (RadarModule.sameArm_setMoving moving) ?_ rfl rfl
    change s.nowMs ≤ (s.setMoving moving).nowMs
    unfold RadarModule.setMoving
    split_ifs <;> exact le_rfl
  | setEnabled enabled =>
    refine h.sameArm (RadarModule.sameArm_setEnabled enabled) ?_ rfl rfl
    change s.nowMs ≤ (s.setEnabled enabled).nowMs
    unfold RadarModule.setEnabled
    split_ifs <;> exact le_rfl
  | toggle =>
    refine h.sameArm (RadarModule.sameArm_setEnabled (!s.enabled)) ?_ rfl rfl
    change s.nowMs ≤ (s.setEnabled (!s.enabled)).nowMs
    unfold RadarModule.setEnabled
    split_ifs <;> exact le_rfl
  | exhibitBegin => exact h.sameArm ⟨rfl, rfl, rfl, rfl, rfl, rfl, rfl⟩ le_rfl rfl rfl
  | iterate servo => exact h.iterate henabled hspaced
  | resume => exact h.resume henabled
  | elapse ms =>
    refine h.sameArm ⟨rfl, rfl, rfl, rfl, rfl, rfl, rfl⟩ ?_ rfl rfl
    exact le_add_of_nonneg_right (Int.natCast_nonneg ms)

end Invariant

/-! ## Whole runs -/

/-- In every run the arm is at a proper angle and heads for an end, and every sweep is sound.  From its
start on, the latest sweep goes through every iteration until it arrives or is switched off, and a new
one begins only then. -/
theorem radar_sweeps {startMs : ℤ} {log : RadarLog} {s : RadarModule}
    (hrun : RadarRun Spaced startMs log s) :
    (0 ≤ s.deg ∧ s.deg ≤ 180) ∧ (s.targetDeg = 0 ∨ s.targetDeg = 180) ∧
      (∀ w ∈ sweeps log, w.Sound) ∧ LatestGoing log s := by
  have hinv : SweepInv log s := by
    refine Run.invariant (I := SweepInv) ?_ ?_ hrun
    · rintro s rfl
      constructor
      · exact ⟨⟨le_rfl, (by decide : (0 : ℤ) ≤ 180)⟩, .inr rfl⟩
      · exact fun h ↦ Bool.noConfusion h
      · exact fun h ↦ Bool.noConfusion h
      · exact fun w rest hlog ↦ absurd hlog (List.cons_ne_nil w rest).symm
      · exact fun w hw ↦ absurd hw List.not_mem_nil
      · exact fun h ↦ RadarPhase.noConfusion h
    · exact fun log s e _ h he ↦ sweepInv_step h he.1 he.2
  exact ⟨hinv.aimed.1, hinv.aimed.2, hinv.sound, hinv.latest⟩

/-- The second sweep is undisturbed and due 2033 ms after its start; the first one had a failed write
and was abandoned. -/
def twoSweeps : List Sweep :=
  [⟨58, 180, 2160, [⟨4200, 180, true, false, true⟩, ⟨4160, 178, true, false, false⟩]⟩,
    ⟨0, 180, 1060, [⟨2080, 58, false, false, false⟩, ⟨2060, 58, true, false, false⟩,
      ⟨1560, 30, true, true, false⟩]⟩]

theorem radar_sweeps_twice : ∃ log s, RadarRun Spaced 1000 log s ∧ sweeps log = twoSweeps ∧
    (0 ≤ s.deg ∧ s.deg ≤ 180) ∧ (s.targetDeg = 0 ∨ s.targetDeg = 180) ∧
      (∀ w ∈ sweeps log, w.Sound) ∧ LatestGoing log s := by
  obtain ⟨log, s, hrun, hend⟩ := exists_radarRun Spaced 1000
    [.exhibitBegin, .iterate {}, .elapse 60, .resume, .elapse 500, .iterate { duty := false },
      .elapse 500, .iterate {}, .setEnabled false, .elapse 20, .iterate {}, .exhibitBegin,
      .elapse 20, .iterate {}, .elapse 60, .resume, .elapse 2000, .iterate {}, .elapse 40,
      .iterate {}]
    (fun r ↦ decide (sweeps r.1 = twoSweeps)) (by decide +kernel)
  exact ⟨log, s, hrun, of_decide_eq_true hend, radar_sweeps hrun⟩

end Nutcracker
