import Nutcracker.Program.Run
import Nutcracker.Platform.Semantics
import Nutcracker.Rccar.Radar

/-!
# Manual sweeps start at rest

The start delay is a flag that stopping and switching on at rest set and that an elapsed delay and
the exhibit clear.  A cleared flag is harmless as long as the arm is at work or the vehicle stands;
the runs in which nothing switches on or drives off past a cleared flag sweep only at rest.
-/

namespace Nutcracker

abbrev RadarLog := List (Entry RadarModule RadarEvent)

namespace RadarModule

/-- A sweep or a rest is in progress. -/
def Busy (s : RadarModule) : Bool := decide (s.phase ≠ .idle) || s.holding

/-- The event switches the radar on. -/
def Enables (s : RadarModule) : RadarEvent → Bool
  | .setEnabled enabled => enabled && !s.enabled
  | .toggle | .exhibitBegin => !s.enabled
  | _ => false

/-- The event stops the vehicle. -/
def Stops (s : RadarModule) : RadarEvent → Bool
  | .setMoving moving => !moving && s.vehicleMoving
  | _ => false

end RadarModule

/-! ## History -/

/-- When the vehicle last became stopped; it stands when the task starts. -/
def lastStopMs (startMs : ℤ) : RadarLog → ℤ
  | [] => startMs
  | entry :: log =>
    if entry.before.Stops entry.event then entry.before.nowMs else lastStopMs startMs log

/-- When the radar was last switched on. -/
def lastEnableMs (startMs : ℤ) : RadarLog → ℤ
  | [] => startMs
  | entry :: log =>
    if entry.before.Enables entry.event then entry.before.nowMs else lastEnableMs startMs log

/-- The radar was last switched on by the exhibit. -/
def exhibitEnabled : RadarLog → Bool
  | [] => false
  | entry :: log =>
    if entry.before.Enables entry.event then decide (entry.event = .exhibitBegin)
    else exhibitEnabled log

/-- Nothing switches the radar on by hand or drives off past a cleared start delay while the arm is
idle, and the exhibit leaves a radar that is switched on by hand to its start delay. -/
def DelayKept (log : RadarLog) (s : RadarModule) : RadarEvent → Prop
  | .setEnabled true | .toggle => s.enabled = false → s.vehicleMoving = true →
    s.needStartDelay = true ∨ s.Busy = true
  | .setMoving true => s.enabled = true → exhibitEnabled log = false → s.vehicleMoving = false →
    s.needStartDelay = true ∨ s.Busy = true
  | .exhibitBegin => s.enabled = true → exhibitEnabled log = false →
    s.startDelayDone.1 = true ∨ (s.vehicleMoving = true ∧ s.Busy = true)
  | _ => True

instance (log : RadarLog) (s : RadarModule) : (e : RadarEvent) → Decidable (DelayKept log s e)
  | .setEnabled true | .toggle | .setMoving true | .exhibitBegin =>
    inferInstanceAs (Decidable (_ → _ → _))
  | .setEnabled false | .setMoving false | .iterate _ | .resume | .elapse _ => .isTrue trivial

/-- Runs from the start of the task in which every event satisfies `ok`. -/
abbrev RadarRun (ok : RadarLog → RadarModule → RadarEvent → Prop) (startMs : ℤ) :
    RadarLog → RadarModule → Prop :=
  Run RadarModule.next (fun log s e ↦ s.Enabled e ∧ ok log s e) fun s ↦ s = .start startMs

/-- Events performed one after another, as long as the guard allows them, are a run. -/
theorem exists_radarRun (ok : RadarLog → RadarModule → RadarEvent → Prop)
    [∀ log s e, Decidable (ok log s e)] (startMs : ℤ) (events : List RadarEvent)
    (p : RadarLog × RadarModule → Bool)
    (h : (Run.replay RadarModule.next (fun log s e ↦ s.Enabled e ∧ ok log s e) []
      (.start startMs) events).any p = true) :
    ∃ log s, RadarRun ok startMs log s ∧ p (log, s) = true :=
  Run.exists_of_replay events p rfl h

/-! ## Iterations -/

namespace RadarModule

variable {s : RadarModule} {servo : Servo}

/-- What an iteration never touches. -/
def SameFlags (s s' : RadarModule) : Prop :=
  s'.nowMs = s.nowMs ∧ s'.enabled = s.enabled ∧ s'.vehicleMoving = s.vehicleMoving ∧
    s'.stoppedAtMs = s.stoppedAtMs

theorem SameFlags.trans {s s' s'' : RadarModule} (h : SameFlags s s') (h' : SameFlags s' s'') :
    SameFlags s s'' :=
  ⟨h'.1.trans h.1, h'.2.1.trans h.2.1, h'.2.2.1.trans h.2.2.1, h'.2.2.2.trans h.2.2.2⟩

/-- Only the servo and the locals of a sweep change. -/
def SameRest (s s' : RadarModule) : Prop :=
  SameFlags s s' ∧ s'.needStartDelay = s.needStartDelay ∧ s'.phase = s.phase ∧
    s'.holding = s.holding

theorem SameRest.trans {s s' s'' : RadarModule} (h : SameRest s s') (h' : SameRest s' s'') :
    SameRest s s'' :=
  ⟨h.1.trans h'.1, h'.2.1.trans h.2.1, h'.2.2.1.trans h.2.2.1, h'.2.2.2.trans h.2.2.2⟩

theorem sameRest_servoAttach {degree : ℤ} {s' : RadarModule}
    (h : s.servoAttach servo degree = some s') : SameRest s s' := by
  unfold servoAttach at h
  split at h
  · cases h
    exact ⟨⟨rfl, rfl, rfl, rfl⟩, rfl, rfl, rfl⟩
  · split at h
    · cases h
      exact ⟨⟨rfl, rfl, rfl, rfl⟩, rfl, rfl, rfl⟩
    · cases h

theorem sameRest_servoSetDeg {degree : ℤ} {s' : RadarModule}
    (h : s.servoSetDeg servo degree = some s') : SameRest s s' := by
  obtain ⟨s₁, hattach, hduty⟩ := Option.bind_eq_some_iff.mp h
  apply (sameRest_servoAttach hattach).trans
  unfold servoApplyDuty at hduty
  split at hduty
  · cases hduty
    exact ⟨⟨rfl, rfl, rfl, rfl⟩, rfl, rfl, rfl⟩
  · cases hduty

/-- A sweep begins, or the servo failed and the arm is idle. -/
theorem beginSweep_spec (hfree : s.holding = false) :
    SameFlags s (s.beginSweep servo) ∧
      (s.beginSweep servo).needStartDelay = s.needStartDelay ∧
      ((s.beginSweep servo).holding = true ∨ (s.beginSweep servo).Busy = false) := by
  unfold beginSweep
  cases hset : s.aim.servoSetDeg servo s.deg with
  | none => exact ⟨⟨rfl, rfl, rfl, rfl⟩, rfl, .inr (by simp [Busy, aim, hfree])⟩
  | some s' =>
    obtain ⟨hflags, hneed, -, -⟩ := sameRest_servoSetDeg hset
    exact ⟨hflags, hneed, .inl rfl⟩

theorem startDelayDone_fst : s.startDelayDone.1 = (!s.needStartDelay ||
    (!s.vehicleMoving && decide (s.nowMs - s.stoppedAtMs ≥ radarStartDelayMs))) := by
  unfold startDelayDone
  cases s.needStartDelay <;> cases s.vehicleMoving <;>
    by_cases hdelay : s.nowMs - s.stoppedAtMs ≥ radarStartDelayMs <;> simp [hdelay]

/-- The delay is over: cleared already, or at rest for long enough. -/
theorem startDelayDone_spec : SameFlags s s.startDelayDone.2 ∧
    s.startDelayDone.2.phase = s.phase ∧ s.startDelayDone.2.holding = s.holding ∧
    (s.startDelayDone.1 = false → s.startDelayDone.2 = s) ∧
    (s.startDelayDone.1 = true → s.startDelayDone.2.needStartDelay = false ∧
      (s.needStartDelay = false ∨
        s.vehicleMoving = false ∧ s.stoppedAtMs + radarStartDelayMs ≤ s.nowMs)) := by
  have hsame : ∀ done, s.startDelayDone = (done, s) → (done = true → s.needStartDelay = false) →
      SameFlags s s.startDelayDone.2 ∧
        s.startDelayDone.2.phase = s.phase ∧ s.startDelayDone.2.holding = s.holding ∧
        (s.startDelayDone.1 = false → s.startDelayDone.2 = s) ∧
        (s.startDelayDone.1 = true → s.startDelayDone.2.needStartDelay = false ∧
          (s.needStartDelay = false ∨
            s.vehicleMoving = false ∧ s.stoppedAtMs + radarStartDelayMs ≤ s.nowMs)) := by
    intro done hdone hneed
    rw [hdone]
    exact ⟨⟨rfl, rfl, rfl, rfl⟩, rfl, rfl, fun _ ↦ rfl, fun h ↦ ⟨hneed h, .inl (hneed h)⟩⟩
  by_cases hneed : s.needStartDelay = false
  · exact hsame true (by simp [startDelayDone, hneed]) fun _ ↦ hneed
  · by_cases hmoving : s.vehicleMoving = true
    · exact hsame false (by simp [startDelayDone, hneed, hmoving]) fun h ↦ Bool.noConfusion h
    · by_cases hdelay : s.nowMs - s.stoppedAtMs ≥ radarStartDelayMs
      · have hdone : s.startDelayDone = (true, { s with needStartDelay := false }) := by
          simp [startDelayDone, hneed, hmoving, hdelay]
        rw [hdone]
        refine ⟨⟨rfl, rfl, rfl, rfl⟩, rfl, rfl, fun h ↦ Bool.noConfusion h, fun _ ↦ ⟨rfl, .inr ⟨?_, ?_⟩⟩⟩
        · simpa using hmoving
        · omega
      · exact hsame false (by simp [startDelayDone, hneed, hmoving, hdelay]) fun h ↦ Bool.noConfusion h

/-- What an iteration does to the start delay and to the arm. -/
inductive Iterated (s s' : RadarModule) : Prop
  | off (henabled : s.enabled = false) (hneed : s'.needStartDelay = s.needStartDelay)
      (hfree : s'.holding = false)
  | same (hneed : s'.needStartDelay = s.needStartDelay) (hfree : s'.holding = false)
      (hbusy : s'.Busy = s.Busy)
  | waited (hdone : s.startDelayDone.1 = true) (hneed : s'.needStartDelay = false)
      (hrest : s.vehicleMoving = false ∨ s.Busy = false)
      (hbegan : s'.holding = true ∨ s'.Busy = false)

theorem sameRest_moveTo (deg : ℤ) : SameRest s (s.moveTo servo deg) := by
  unfold moveTo
  split
  · cases hset : servoSetDeg servo { s with deg := deg } deg with
    | none => exact ⟨⟨rfl, rfl, rfl, rfl⟩, rfl, rfl, rfl⟩
    | some s' =>
      obtain ⟨hflags, hrest⟩ := sameRest_servoSetDeg hset
      exact ⟨hflags, hrest⟩
  · exact ⟨⟨rfl, rfl, rfl, rfl⟩, rfl, rfl, rfl⟩

theorem advanceSweep_spec (hfree : s.holding = false) (hphase : s.phase = .sweep) :
    SameFlags s (s.advanceSweep servo) ∧ Iterated s (s.advanceSweep servo) := by
  obtain ⟨hflags, hneed, hphase', hholding⟩ := @sameRest_moveTo s servo
    (sweepNowDeg s.startDeg s.targetDeg s.sweepT0Ms s.nowMs)
  have hbusy : s.Busy = true := by simp [Busy, hphase]
  have hfree' := hholding.trans hfree
  unfold advanceSweep arrive
  split
  · exact ⟨hflags, .same hneed hfree' (by simp [Busy, hphase])⟩
  · exact ⟨hflags, .same hneed hfree' (by simp [Busy, hphase', hphase])⟩

theorem startIdle_spec (hfree : s.holding = false) (hphase : s.phase = .idle) :
    SameFlags s (s.startIdle servo) ∧ Iterated s (s.startIdle servo) := by
  obtain ⟨hflags, -, hholding, hwait, hdone⟩ := @startDelayDone_spec s
  by_cases hr : s.startDelayDone.1 = true
  · have heq : s.startIdle servo = s.startDelayDone.2.beginSweep servo := if_pos hr
    obtain ⟨hflags', hneed, hbegan⟩ :=
      @beginSweep_spec s.startDelayDone.2 servo (hholding.trans hfree)
    rw [heq]
    exact ⟨hflags.trans hflags', .waited hr (hneed.trans (hdone hr).1)
      (.inr (by simp [Busy, hphase, hfree])) hbegan⟩
  · have heq : s.startIdle servo = s :=
      (if_neg hr).trans (hwait (Bool.eq_false_of_not_eq_true hr))
    rw [heq]
    exact ⟨⟨rfl, rfl, rfl, rfl⟩, .same rfl hfree rfl⟩

theorem endDwell_spec (hfree : s.holding = false) :
    SameFlags s (s.endDwell servo) ∧ Iterated s (s.endDwell servo) := by
  obtain ⟨hflags, -, hholding, hwait, hdone⟩ := @startDelayDone_spec s
  have hsame : s.endDwell servo = s →
      SameFlags s (s.endDwell servo) ∧ Iterated s (s.endDwell servo) := by
    intro heq
    rw [heq]
    exact ⟨⟨rfl, rfl, rfl, rfl⟩, .same rfl hfree rfl⟩
  by_cases hrest : (!s.vehicleMoving && decide (s.nowMs - s.dwellT0Ms ≥ radarEndRestMs)) = true
  · by_cases hr : s.startDelayDone.1 = true
    · have hstill : s.vehicleMoving = false := by
        rw [Bool.and_eq_true, Bool.not_eq_true'] at hrest
        exact hrest.1
      have heq : s.endDwell servo = { s.startDelayDone.2 with
          targetDeg := oppositeEnd s.startDelayDone.2.deg }.beginSweep servo :=
        (if_pos hrest).trans (if_pos hr)
      obtain ⟨hflags', hneed, hbegan⟩ := @beginSweep_spec
        { s.startDelayDone.2 with targetDeg := oppositeEnd s.startDelayDone.2.deg } servo
        (hholding.trans hfree)
      rw [heq]
      exact ⟨hflags.trans hflags', .waited hr (hneed.trans (hdone hr).1) (.inl hstill) hbegan⟩
    · exact hsame ((if_pos hrest).trans ((if_neg hr).trans (hwait (Bool.eq_false_of_not_eq_true hr))))
  · exact hsame (if_neg hrest)

/-- Attaching the servo comes first and decides nothing. -/
theorem Iterated.of_attach {s s' s'' : RadarModule} (hrest : SameRest s s')
    (h : SameFlags s' s'' ∧ Iterated s' s'') : SameFlags s s'' ∧ Iterated s s'' := by
  obtain ⟨hflags, hneed, hphase, hholding⟩ := hrest
  have hbusy : s'.Busy = s.Busy := by simp [Busy, hphase, hholding]
  refine ⟨hflags.trans h.1, ?_⟩
  cases h.2 with
  | off henabled hneed' hfree =>
    exact .off (hflags.2.1.symm.trans henabled) (hneed'.trans hneed) hfree
  | same hneed' hfree hbusy' => exact .same (hneed'.trans hneed) hfree (hbusy'.trans hbusy)
  | waited hdone hneed' hstill hbegan =>
    refine .waited ?_ hneed' ?_ hbegan
    · obtain ⟨hnow, -, hmoving, hstopped⟩ := hflags
      rw [startDelayDone_fst] at hdone ⊢
      rwa [hneed, hmoving, hnow, hstopped] at hdone
    · rw [hbusy, hflags.2.2.1] at hstill
      exact hstill

theorem iterate_spec (hfree : s.holding = false) :
    SameFlags s (s.iterate servo) ∧ Iterated s (s.iterate servo) := by
  by_cases henabled : s.enabled = true
  · cases hattach : s.servoAttach servo s.deg with
    | none =>
      have heq : s.iterate servo = s := by simp [iterate, henabled, hattach]
      rw [heq]
      exact ⟨⟨rfl, rfl, rfl, rfl⟩, .same rfl hfree rfl⟩
    | some s' =>
      have hrest := sameRest_servoAttach hattach
      have hfree' := hrest.2.2.2.trans hfree
      apply Iterated.of_attach hrest
      cases hphase : s'.phase with
      | sweep =>
        have heq : s.iterate servo = s'.advanceSweep servo := by
          simp [iterate, henabled, hattach, hphase]
        rw [heq]
        exact advanceSweep_spec hfree' hphase
      | dwell =>
        have heq : s.iterate servo = s'.endDwell servo := by
          simp [iterate, henabled, hattach, hphase]
        rw [heq]
        exact endDwell_spec hfree'
      | idle =>
        have heq : s.iterate servo = s'.startIdle servo := by
          simp [iterate, henabled, hattach, hphase]
        rw [heq]
        exact startIdle_spec hfree' hphase
  · have hoff : s.enabled = false := Bool.eq_false_of_not_eq_true henabled
    have heq : s.iterate servo =
        { (if s.attached then s.servoDetach else s) with phase := .idle } := by
      simp [iterate, hoff]
    rw [heq]
    cases s.attached
    · exact ⟨⟨rfl, rfl, rfl, rfl⟩, .off hoff rfl hfree⟩
    · exact ⟨⟨rfl, rfl, rfl, rfl⟩, .off hoff rfl hfree⟩

/-- The four flags, as the shared state of the firmware keeps them. -/
def flags (s : RadarModule) : Radar :=
  ⟨s.enabled, s.vehicleMoving, s.needStartDelay, s.stoppedAtMs⟩

theorem flags_setMoving {sys : Sys} (hsys : sys.radar = s.flags) (hnow : sys.nowMs = s.nowMs)
    (moving : Bool) : (sys.rccarRadarSetMoving moving).radar = (s.setMoving moving).flags := by
  unfold Sys.rccarRadarSetMoving setMoving
  rw [hsys, hnow]
  by_cases hsame : s.vehicleMoving = moving
  · simp [flags, hsame, hsys]
  · cases moving <;> simp [flags, hsame]

theorem flags_exhibitBegin {sys : Sys} (hsys : sys.radar = s.flags) :
    sys.rccarRadarExhibitBegin.radar = s.exhibitBegin.flags := by
  unfold Sys.rccarRadarExhibitBegin
  rw [hsys]
  rfl

theorem flags_setEnabled {sys : Sys} (hsys : sys.radar = s.flags) (hnow : sys.nowMs = s.nowMs)
    (enabled : Bool) : (sys.rccarRadarSetEnabled enabled).radar = (s.setEnabled enabled).flags := by
  unfold Sys.rccarRadarSetEnabled setEnabled
  rw [hsys, hnow]
  by_cases hsame : s.enabled = enabled
  · simp [flags, hsame, hsys]
  · cases hstart : enabled && !s.vehicleMoving <;> simp [flags, hsame, hstart]

end RadarModule

/-! ## The invariant -/

/-- Switched on by hand. -/
def ManualOn (log : RadarLog) (s : RadarModule) : Prop :=
  s.enabled = true ∧ exhibitEnabled log = false

/-- With a cleared start delay, a standing vehicle has waited for both times and the arm is idle
only at rest; otherwise the delay counts from the later of the two. -/
structure RadarInv (startMs : ℤ) (log : RadarLog) (s : RadarModule) : Prop where
  stop_le : lastStopMs startMs log ≤ s.nowMs
  enable_le : lastEnableMs startMs log ≤ s.nowMs
  stop_stopped : s.vehicleMoving = false → lastStopMs startMs log ≤ s.stoppedAtMs
  waiting : ManualOn log s → s.needStartDelay = true → s.vehicleMoving = false →
    lastEnableMs startMs log ≤ s.stoppedAtMs
  ready : ManualOn log s → s.needStartDelay = false → s.vehicleMoving = false →
    lastStopMs startMs log + radarStartDelayMs ≤ s.nowMs ∧
      lastEnableMs startMs log + radarStartDelayMs ≤ s.nowMs
  still : ManualOn log s → s.needStartDelay = false → s.Busy = false → s.vehicleMoving = false

section Invariant

variable {startMs : ℤ} {log : RadarLog} {s s' : RadarModule}

/-- The delay has passed since both times once `start_delay_done` says so at rest. -/
theorem RadarInv.elapsed (hs : RadarInv startMs log s) (hon : ManualOn log s)
    (hdone : s.startDelayDone.1 = true) (hstill : s.vehicleMoving = false) :
    lastStopMs startMs log + radarStartDelayMs ≤ s.nowMs ∧
      lastEnableMs startMs log + radarStartDelayMs ≤ s.nowMs := by
  cases hneed : s.needStartDelay with
  | false => exact hs.ready hon hneed hstill
  | true =>
    obtain ⟨-, hrest⟩ := (@RadarModule.startDelayDone_spec s).2.2.2.2 hdone
    rw [hneed] at hrest
    obtain ⟨-, hwaited⟩ := hrest.resolve_left Bool.noConfusion
    have hstop := hs.stop_stopped hstill
    have henable := hs.waiting hon hneed hstill
    omega

/-- An event that neither stops the vehicle nor switches the radar on, and moves no flag. -/
theorem RadarInv.of_flags (hs : RadarInv startMs log s) {e : RadarEvent}
    (hstops : s.Stops e = false) (henables : s.Enables e = false) (hnow : s.nowMs ≤ s'.nowMs)
    (henabled : s'.enabled = true → s.enabled = true)
    (hmoving : s'.vehicleMoving = s.vehicleMoving) (hstopped : s'.stoppedAtMs = s.stoppedAtMs)
    (hneed : s'.needStartDelay = s.needStartDelay)
    (hbusy : ManualOn log s' → s'.Busy = false → s.Busy = false) :
    RadarInv startMs (⟨s, e⟩ :: log) s' := by
  have hstop : lastStopMs startMs (⟨s, e⟩ :: log) = lastStopMs startMs log := by
    simp [lastStopMs, hstops]
  have henable : lastEnableMs startMs (⟨s, e⟩ :: log) = lastEnableMs startMs log := by
    simp [lastEnableMs, henables]
  have hmanual : ManualOn (⟨s, e⟩ :: log) s' → ManualOn log s' := by
    simp [ManualOn, exhibitEnabled, henables]
  have hback : ManualOn (⟨s, e⟩ :: log) s' → ManualOn log s :=
    fun h ↦ ⟨henabled h.1, (hmanual h).2⟩
  refine ⟨?_, ?_, fun h ↦ ?_, fun hon hn hm ↦ ?_, fun hon hn hm ↦ ?_, fun hon hn hb ↦ ?_⟩
  · exact hstop ▸ hs.stop_le.trans hnow
  · exact henable ▸ hs.enable_le.trans hnow
  · rw [hstop, hstopped]
    exact hs.stop_stopped (hmoving ▸ h)
  · rw [henable, hstopped]
    exact hs.waiting (hback hon) (hneed ▸ hn) (hmoving ▸ hm)
  · rw [henable, hstop]
    obtain ⟨h, h'⟩ := hs.ready (hback hon) (hneed ▸ hn) (hmoving ▸ hm)
    exact ⟨h.trans hnow, h'.trans hnow⟩
  · rw [hmoving]
    exact hs.still (hback hon) (hneed ▸ hn) (hbusy (hmanual hon) hb)

theorem RadarInv.iterate (hs : RadarInv startMs log s) (hfree : s.holding = false) (servo : Servo) :
    RadarInv startMs (⟨s, .iterate servo⟩ :: log) (s.iterate servo) := by
  obtain ⟨⟨hnow, henabled, hmoving, hstopped⟩, hiter⟩ := @RadarModule.iterate_spec s servo hfree
  cases hiter with
  | off hoff hneed _ =>
    refine hs.of_flags rfl rfl hnow.ge (fun h ↦ henabled ▸ h) hmoving hstopped hneed fun hon _ ↦ ?_
    rw [ManualOn, henabled, hoff] at hon
    cases hon.1
  | same hneed _ hbusy =>
    exact hs.of_flags rfl rfl hnow.ge (fun h ↦ henabled ▸ h) hmoving hstopped hneed
      fun _ h ↦ hbusy ▸ h
  | waited hdone hneed hrest hbegan =>
    have hback : ManualOn (⟨s, .iterate servo⟩ :: log) (s.iterate servo) → ManualOn log s :=
      fun h ↦ ⟨henabled ▸ h.1, h.2⟩
    refine ⟨hnow ▸ hs.stop_le, hnow ▸ hs.enable_le, fun h ↦ ?_, fun _ hn ↦ ?_, fun hon _ hm ↦ ?_,
      fun hon _ _ ↦ ?_⟩
    · rw [hstopped]
      exact hs.stop_stopped (hmoving ▸ h)
    · rw [hneed] at hn
      cases hn
    · rw [hnow]
      exact hs.elapsed (hback hon) hdone (hmoving ▸ hm)
    · rw [hmoving]
      rcases hrest with hstill | hidle
      · exact hstill
      · cases hneed' : s.needStartDelay with
        | false => exact hs.still (hback hon) hneed' hidle
        | true =>
          rw [RadarModule.startDelayDone_fst, hneed', Bool.not_true, Bool.false_or,
            Bool.and_eq_true, Bool.not_eq_true'] at hdone
          exact hdone.1

theorem RadarInv.setMoving (hs : RadarInv startMs log s) (moving : Bool)
    (hkept : DelayKept log s (.setMoving moving)) :
    RadarInv startMs (⟨s, .setMoving moving⟩ :: log) (s.setMoving moving) := by
  by_cases hsame : s.vehicleMoving = moving
  · have heq : s.setMoving moving = s := if_pos hsame
    rw [heq]
    refine hs.of_flags ?_ rfl le_rfl (fun h ↦ h) rfl rfl rfl fun _ h ↦ h
    subst hsame
    exact Bool.not_and_self _
  · cases moving with
    | true =>
      have hstill : s.vehicleMoving = false := Bool.eq_false_of_not_eq_true hsame
      have heq : s.setMoving true = { s with vehicleMoving := true } := by
        simp [RadarModule.setMoving, hstill]
      rw [heq]
      refine ⟨hs.stop_le, hs.enable_le, fun h ↦ Bool.noConfusion h, fun _ _ h ↦ Bool.noConfusion h,
        fun _ _ h ↦ Bool.noConfusion h, fun hon hneed hbusy ↦ ?_⟩
      rcases hkept hon.1 hon.2 hstill with h | h
      · exact Bool.noConfusion (h.symm.trans hneed)
      · exact Bool.noConfusion (h.symm.trans hbusy)
    | false =>
      have hmoving : s.vehicleMoving = true := Bool.eq_true_of_not_eq_false hsame
      have heq : s.setMoving false =
          { s with vehicleMoving := false, stoppedAtMs := s.nowMs, needStartDelay := true } := by
        simp [RadarModule.setMoving, hmoving]
      have hstop : lastStopMs startMs (⟨s, .setMoving false⟩ :: log) = s.nowMs := by
        simp [lastStopMs, RadarModule.Stops, hmoving]
      rw [heq]
      exact ⟨hstop.le, hs.enable_le, fun _ ↦ hstop.le, fun _ _ _ ↦ hs.enable_le,
        fun _ h ↦ Bool.noConfusion h, fun _ h ↦ Bool.noConfusion h⟩

/-- Switching on and off by hand, whichever the call. -/
theorem RadarInv.setEnabled (hs : RadarInv startMs log s) {e : RadarEvent} {enabled : Bool}
    (henables : s.Enables e = (enabled && !s.enabled)) (hstops : s.Stops e = false)
    (hkept : enabled = true → s.enabled = false → s.vehicleMoving = true →
      s.needStartDelay = true ∨ s.Busy = true) :
    RadarInv startMs (⟨s, e⟩ :: log) (s.setEnabled enabled) := by
  have hstop : lastStopMs startMs (⟨s, e⟩ :: log) = lastStopMs startMs log := by
    simp [lastStopMs, hstops]
  by_cases hsame : s.enabled = enabled
  · have heq : s.setEnabled enabled = s := if_pos hsame
    rw [heq]
    refine hs.of_flags hstops ?_ le_rfl (fun h ↦ h) rfl rfl rfl fun _ h ↦ h
    rw [henables, hsame]
    exact Bool.and_not_self _
  · cases enabled with
    | false =>
      have heq : s.setEnabled false = { s with enabled := false } := by
        have hon : s.enabled = true := Bool.eq_true_of_not_eq_false hsame
        simp [RadarModule.setEnabled, hon]
      rw [heq]
      exact hs.of_flags hstops henables le_rfl (fun h ↦ Bool.noConfusion h) rfl rfl rfl
        fun hon _ ↦ Bool.noConfusion hon.1
    | true =>
      have hoff : s.enabled = false := Bool.eq_false_of_not_eq_true hsame
      have henable : lastEnableMs startMs (⟨s, e⟩ :: log) = s.nowMs := by
        simp [lastEnableMs, henables, hoff]
      cases hmoving : s.vehicleMoving with
      | false =>
        have heq : s.setEnabled true =
            { s with enabled := true, stoppedAtMs := s.nowMs, needStartDelay := true } := by
          simp [RadarModule.setEnabled, hoff, hmoving]
        rw [heq]
        exact ⟨hstop ▸ hs.stop_le, henable.le, fun _ ↦ hstop ▸ hs.stop_le,
          fun _ _ _ ↦ henable.le, fun _ h ↦ Bool.noConfusion h, fun _ h ↦ Bool.noConfusion h⟩
      | true =>
        have heq : s.setEnabled true = { s with enabled := true } := by
          simp [RadarModule.setEnabled, hoff, hmoving]
        have hgoes : ∀ {P : Prop}, s.vehicleMoving = false → P := fun h ↦
          Bool.noConfusion (h.symm.trans hmoving)
        rw [heq]
        refine ⟨hstop ▸ hs.stop_le, henable.le, fun h ↦ hgoes h, fun _ _ h ↦ hgoes h,
          fun _ _ h ↦ hgoes h, fun _ hneed hbusy ↦ ?_⟩
        rcases hkept rfl hoff hmoving with h | h
        · exact Bool.noConfusion (h.symm.trans hneed)
        · exact Bool.noConfusion (h.symm.trans hbusy)

theorem RadarInv.exhibitBegin (hs : RadarInv startMs log s)
    (hkept : DelayKept log s .exhibitBegin) :
    RadarInv startMs (⟨s, .exhibitBegin⟩ :: log) s.exhibitBegin := by
  cases hon : s.enabled with
  | false =>
    have henable : lastEnableMs startMs (⟨s, .exhibitBegin⟩ :: log) = s.nowMs := by
      simp [lastEnableMs, RadarModule.Enables, hon]
    have hexhibit : exhibitEnabled (⟨s, .exhibitBegin⟩ :: log) = true := by
      simp [exhibitEnabled, RadarModule.Enables, hon]
    have hmanual : ∀ {P : Prop}, ManualOn (⟨s, .exhibitBegin⟩ :: log) s.exhibitBegin → P :=
      fun h ↦ Bool.noConfusion (hexhibit.symm.trans h.2)
    exact ⟨hs.stop_le, henable.le, hs.stop_stopped, fun h ↦ hmanual h, fun h ↦ hmanual h,
      fun h ↦ hmanual h⟩
  | true =>
    have henables : s.Enables .exhibitBegin = false := by simp [RadarModule.Enables, hon]
    have hexhibit : exhibitEnabled (⟨s, .exhibitBegin⟩ :: log) = exhibitEnabled log := by
      simp [exhibitEnabled, henables]
    have henable : lastEnableMs startMs (⟨s, .exhibitBegin⟩ :: log) = lastEnableMs startMs log := by
      simp [lastEnableMs, henables]
    have hback : ManualOn (⟨s, .exhibitBegin⟩ :: log) s.exhibitBegin → ManualOn log s :=
      fun h ↦ ⟨hon, hexhibit.symm.trans h.2⟩
    refine ⟨hs.stop_le, henable ▸ hs.enable_le, hs.stop_stopped, fun _ h ↦ Bool.noConfusion h,
      fun hmanual _ hstill ↦ ?_, fun hmanual _ hbusy ↦ ?_⟩
    · rw [henable]
      rcases hkept hon (hback hmanual).2 with hdone | ⟨hmoving, -⟩
      · exact hs.elapsed (hback hmanual) hdone hstill
      · exact Bool.noConfusion (hmoving.symm.trans hstill)
    · rcases hkept hon (hback hmanual).2 with hdone | ⟨-, hbusy'⟩
      · rw [RadarModule.startDelayDone_fst, Bool.or_eq_true, Bool.not_eq_true'] at hdone
        rcases hdone with hneed | hrest
        · exact hs.still (hback hmanual) hneed hbusy
        · rw [Bool.and_eq_true, Bool.not_eq_true'] at hrest
          exact hrest.1
      · exact Bool.noConfusion (hbusy'.symm.trans hbusy)

theorem radarInv_step (hs : RadarInv startMs log s) {e : RadarEvent} (henabled : s.Enabled e)
    (hkept : DelayKept log s e) : RadarInv startMs (⟨s, e⟩ :: log) (s.next e) := by
  cases e with
  | setMoving moving => exact hs.setMoving moving hkept
  | setEnabled enabled =>
    refine hs.setEnabled rfl rfl fun h ↦ ?_
    subst h
    exact hkept
  | toggle =>
    refine hs.setEnabled ?_ rfl fun _ ↦ hkept
    exact (Bool.and_self _).symm
  | exhibitBegin => exact hs.exhibitBegin hkept
  | iterate servo => exact hs.iterate henabled servo
  | resume =>
    exact hs.of_flags rfl rfl le_rfl (fun h ↦ h) rfl rfl rfl fun _ h ↦ by cases h
  | elapse ms =>
    refine hs.of_flags rfl rfl ?_ (fun h ↦ h) rfl rfl rfl fun _ h ↦ h
    exact le_add_of_nonneg_right (Int.natCast_nonneg ms)

end Invariant

/-! ## Sweeps begin at rest -/

/-- A sweep begins in an iteration that ends in the sleep of `begin_sweep`. -/
def RadarModule.BeginsSweep (s : RadarModule) (servo : Servo) : Prop :=
  s.holding = false ∧ (s.iterate servo).holding = true

instance (s : RadarModule) (servo : Servo) : Decidable (s.BeginsSweep servo) :=
  inferInstanceAs (Decidable (_ ∧ _))

/-- As long as every step keeps the delay, a sweep of a radar that the exhibit did not switch on
begins at rest, and not before the delay has passed since the vehicle stopped and since the radar
was switched on. -/
theorem sweep_begins_at_rest {startMs : ℤ} {log : RadarLog} {s : RadarModule}
    (hrun : RadarRun DelayKept startMs log s) {servo : Servo} (hbegins : s.BeginsSweep servo) :
    exhibitEnabled log = true ∨ s.vehicleMoving = false ∧
      s.nowMs - lastStopMs startMs log ≥ radarStartDelayMs ∧
      s.nowMs - lastEnableMs startMs log ≥ radarStartDelayMs := by
  have hinv : RadarInv startMs log s := by
    refine hrun.invariant (I := fun log s ↦ RadarInv startMs log s) ?_ ?_
    · rintro s rfl
      exact ⟨le_rfl, le_rfl, fun _ ↦ le_rfl, fun h ↦ Bool.noConfusion h.1,
        fun h ↦ Bool.noConfusion h.1, fun h ↦ Bool.noConfusion h.1⟩
    · exact fun log s e _ hs h ↦ radarInv_step hs h.1 h.2
  obtain ⟨hfree, hheld⟩ := hbegins
  cases hexhibit : exhibitEnabled log with
  | true => exact .inl rfl
  | false =>
    right
    obtain ⟨-, hiter⟩ := @RadarModule.iterate_spec s servo hfree
    cases hiter with
    | off _ _ h | same _ h _ => exact Bool.noConfusion (h.symm.trans hheld)
    | waited hdone _ hrest _ =>
      have henabled : s.enabled = true := by
        by_contra hoff
        rw [Bool.not_eq_true] at hoff
        have heq : (s.iterate servo).holding = s.holding := by
          cases hattached : s.attached <;>
            simp [RadarModule.iterate, RadarModule.servoDetach, hoff, hattached]
        exact Bool.noConfusion (hfree.symm.trans (heq.symm.trans hheld))
      have hon : ManualOn log s := ⟨henabled, hexhibit⟩
      have hstill : s.vehicleMoving = false := by
        rcases hrest with hstill | hidle
        · exact hstill
        · rw [RadarModule.startDelayDone_fst, Bool.or_eq_true, Bool.not_eq_true'] at hdone
          rcases hdone with hneed | hwaited
          · exact hinv.still hon hneed hidle
          · rw [Bool.and_eq_true, Bool.not_eq_true'] at hwaited
            exact hwaited.1
      obtain ⟨hstop, henable⟩ := hinv.elapsed hon hdone hstill
      exact ⟨hstill, by omega, by omega⟩

/-- Switched on at rest, the radar sweeps five seconds later. -/
theorem sweep_begins_at_rest_late : ∃ log s, RadarRun DelayKept 1000 log s ∧
    s.BeginsSweep {} ∧ (exhibitEnabled log = true ∨ s.vehicleMoving = false ∧
      s.nowMs - lastStopMs 1000 log ≥ radarStartDelayMs ∧
      s.nowMs - lastEnableMs 1000 log ≥ radarStartDelayMs) := by
  obtain ⟨log, s, hrun, hend⟩ := exists_radarRun DelayKept 1000
    [.setMoving true, .elapse 500, .setMoving false, .elapse 1000, .setEnabled true, .iterate {},
      .elapse 5000]
    (fun r ↦ decide (r.2.BeginsSweep {}))
    (by decide +kernel)
  have hbegins : s.BeginsSweep {} := of_decide_eq_true hend
  exact ⟨log, s, hrun, hbegins, sweep_begins_at_rest hrun hbegins⟩

/-- Switched off after a sweep and on again while driving, the radar sweeps at once. -/
theorem sweep_begins_driving : ∃ log s, RadarRun (fun _ _ _ ↦ True) 1000 log s ∧
    s.BeginsSweep {} ∧ exhibitEnabled log = false ∧ s.vehicleMoving = true := by
  obtain ⟨log, s, hrun, hend⟩ := exists_radarRun (fun _ _ _ ↦ True) 1000
    [.toggle, .elapse 5000, .iterate {}, .elapse 60, .resume, .toggle, .iterate {},
      .setMoving true, .toggle]
    (fun r ↦ decide (r.2.BeginsSweep {} ∧
      exhibitEnabled r.1 = false ∧ r.2.vehicleMoving = true))
    (by decide +kernel)
  exact ⟨log, s, hrun, of_decide_eq_true hend⟩

end Nutcracker
