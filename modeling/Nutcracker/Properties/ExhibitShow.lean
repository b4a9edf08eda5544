import Nutcracker.Platform.Outputs
import Nutcracker.Program.Run
import Nutcracker.Program.Timetable

/-!
# The exhibit performs its schedule

The schedule of the exhibit is an endless timetable of nineteen stages a cycle.  A run of the module
from `rccar_exhibit_begin`, ticked at arbitrary times while nothing is connected, is a performance of
that timetable: the outputs are the cues of the stages, each stage is left at the first tick at or
after its nominal end, and every laser shot is followed by its sound.
-/

namespace Nutcracker

open Firmware Prog Sys

/-! ## The schedule -/

/-- A stage of the show, with the direction in which its cycle starts and the track of its cycle. -/
structure ShowStage where
  phase : ExhibitPhase
  sign : ℤ
  track : ℕ

/-- The stages of a cycle. -/
def showOrder : List ExhibitPhase :=
  [.turretA, .laserArm, .laserGap, .laserHold, .headlightDelay, .headlight, .afterHeadlight,
    .turretRev, .headlightDelay2, .headlight2, .afterHeadlight2, .turretB, .gatlingArm,
    .gatlingGap, .afterGatling, .mist, .afterMist, .sfx, .afterSfx]

namespace ShowStage

/-- The outputs with which a stage begins. -/
def cues (stage : ShowStage) : List Call :=
  match stage.phase with
  | .start | .headlightDelay => []
  | .turretA | .turretB => [.turretSet (stage.sign * 384)]
  | .turretRev => [.turretSet (-stage.sign * 384)]
  | .laserArm | .headlightDelay2 | .gatlingArm => [.turretSet 0]
  | .laserGap | .laserHold => [.laserFire]
  | .headlight | .headlight2 => [.headlightSet true]
  | .afterHeadlight | .afterHeadlight2 => [.headlightSet false]
  | .gatlingGap | .afterGatling => [.dfplayerPlay 3, .laserGatling]
  | .mist => [.humidifierSet true]
  | .afterMist => [.humidifierSet false]
  | .sfx => [.dfplayerPlay stage.track, .radarExhibitBegin]
  | .afterSfx => [.radarSetEnabled false]

/-- The nominal duration of a stage, in milliseconds; that of the track is its playing time. -/
def durationMs (stage : ShowStage) : ℤ :=
  match stage.phase with
  | .start => 0
  | .turretA | .turretRev | .turretB | .mist | .afterSfx => 2000
  | .laserArm | .headlightDelay | .afterHeadlight | .headlightDelay2 | .afterHeadlight2
  | .gatlingArm | .gatlingGap => 1000
  | .laserGap => 200 + 1907
  | .laserHold | .headlight | .headlight2 | .afterGatling | .afterMist => 3000
  | .sfx => rccarDfplayerResumeIdleMs stage.track

end ShowStage

/-- The endlessly repeated show; every cycle starts in the direction in which the last one did not
end, and plays one of four tracks. -/
def showTimetable : Timetable ShowStage Call where
  offers n := {stage | showOrder[n % 19]? = some stage.phase ∧ stage.sign = (-1) ^ (n / 19) ∧
    stage.track ∈ [6, 7, 8, 9]}
  cues := ShowStage.cues
  duration := ShowStage.durationMs

/-! ## Runs of the module -/

/-- The exhibit module and the shared state. -/
structure Show where
  sys : Sys
  exhibit : Exhibit

/-- A call of `rccar_exhibit_tick`, with the random number it may draw. -/
structure Tick where
  nowMs : ℤ
  random : ℕ

namespace Show

def next (w : Show) (t : Tick) : Show :=
  let r := (rccarExhibitTick w.exhibit t.nowMs).run (exec { espRandom := t.random }) w.sys
  ⟨r.2, r.1⟩

/-- The calls of a tick. -/
def calls (w : Show) (t : Tick) : List Call :=
  (callsOf ((rccarExhibitTick w.exhibit t.nowMs).trace (exec { espRandom := t.random })
    w.sys)).map Prod.snd

/-- The module has just begun, with everything that the show drives switched off before. -/
def Begun (w : Show) : Prop :=
  ∃ (s : Sys) (nowMs : ℤ), s.plat.connected = false ∧ s.motor.turret = 0 ∧
    s.radar.enabled = false ∧ s.humidifier.on = false ∧ s.laser.led = false ∧
    s.laser.gatlingLed = false ∧
    w = ⟨((rccarExhibitBegin nowMs).run (exec {}) s).2, ((rccarExhibitBegin nowMs).run (exec {}) s).1⟩

end Show

abbrev ShowLog := List (Entry Show Tick)

/-- The clock readings of the ticks, latest first. -/
def readings (log : ShowLog) : List ℤ := log.map fun entry ↦ entry.event.nowMs

/-- Ticks come in the order of time. -/
def InOrder (log : ShowLog) (t : Tick) : Prop := ∀ now ∈ (readings log).head?, now ≤ t.nowMs

/-- A run of the module after `rccar_exhibit_begin`. -/
abbrev ShowRun : ShowLog → Show → Prop :=
  Run Show.next (fun log _ t ↦ InOrder log t) Show.Begun

/-- A call that is neither a repeated command nor the sound of the gun. -/
def isCue (turret : ℤ) : Call → Bool
  | .wheelSet speeds => decide (speeds ≠ .zero)
  | .turretSet speed => decide (speed ≠ turret)
  | .dfplayerPlay track => decide (track ≠ trackGun)
  | _ => true

/-- The outputs of a run, without repetitions of the command in force. -/
def cuesOf : ShowLog → List Call
  | [] => []
  | entry :: log =>
    cuesOf log ++
      (entry.before.calls entry.event).filter (isCue entry.before.sys.motor.turret)

/-- A laser shot or the sound of the gun. -/
def isGun : Call → Bool
  | .laserFire => true
  | .dfplayerPlay track => decide (track = trackGun)
  | _ => false

/-- The shots and their sounds, with the times at which they were issued. -/
def shotsOf : ShowLog → List (ℤ × Call)
  | [] => []
  | entry :: log =>
    shotsOf log ++
      ((entry.before.calls entry.event).filter isGun).map fun c ↦ (entry.event.nowMs, c)

/-- Every shot is followed by exactly one sound, before the next shot and not before 200 ms have
passed; the parameter is the time of a last shot without its sound. -/
inductive Answered : Option ℤ → List (ℤ × Call) → Prop
  | start : Answered none []
  | shot {l : List (ℤ × Call)} (t : ℤ) (h : Answered none l) :
      Answered (some t) (l ++ [(t, .laserFire)])
  | sound {l : List (ℤ × Call)} {t : ℤ} (t' : ℤ) (h : Answered (some t) l) (hdelay : t + 200 ≤ t') :
      Answered none (l ++ [(t', .dfplayerPlay trackGun)])

/-- The speed of a turn of the turret. -/
def turnOf : Call → Option ℤ
  | .turretSet speed => if speed = 0 then none else some speed
  | _ => none

/-- The turns of the turret in the order in which they were made. -/
def turnsOf (log : ShowLog) : List ℤ := (cuesOf log).filterMap turnOf

/-! ## Entering a stage -/

namespace Exhibit

variable (e : Exhibit) (nowMs : ℤ)

/-- The stage after a phase. -/
def successor : ExhibitPhase → ExhibitPhase
  | .start => .turretA
  | .turretA => .laserArm
  | .laserArm => .laserGap
  | .laserGap => .laserHold
  | .laserHold => .headlightDelay
  | .headlightDelay => .headlight
  | .headlight => .afterHeadlight
  | .afterHeadlight => .turretRev
  | .turretRev => .headlightDelay2
  | .headlightDelay2 => .headlight2
  | .headlight2 => .afterHeadlight2
  | .afterHeadlight2 => .turretB
  | .turretB => .gatlingArm
  | .gatlingArm => .gatlingGap
  | .gatlingGap => .afterGatling
  | .afterGatling => .mist
  | .mist => .afterMist
  | .afterMist => .sfx
  | .sfx => .afterSfx
  | .afterSfx => .turretA

/-- The direction in which the cycle of the next stage starts. -/
def leadSign : ℤ :=
  match e.phase with
  | .start | .afterSfx | .turretRev | .headlightDelay2 | .headlight2 | .afterHeadlight2 =>
    e.turretSign
  | _ => -e.turretSign

def nextStage (track : ℕ) : ShowStage := ⟨successor e.phase, e.leadSign, track⟩

def isLaserPhase (phase : ExhibitPhase) : Bool :=
  decide (phase = .laserGap) || decide (phase = .laserHold)

/-- What the module remembers of a stage that it enters. -/
def enter (stage : ShowStage) : Exhibit where
  active := e.active
  phase := stage.phase
  phaseUntilMs := nowMs + stage.durationMs
  turretCmd :=
    match stage.phase with
    | .turretA | .turretB => stage.sign * 384
    | .turretRev => -stage.sign * 384
    | .laserArm | .headlightDelay2 | .gatlingArm => 0
    | _ => e.turretCmd
  turretSign := if isTurretPhase stage.phase then -e.turretSign else e.turretSign
  gunPending := isLaserPhase stage.phase || e.gunPending
  gunDueMs := if isLaserPhase stage.phase then nowMs + 200 else e.gunDueMs

/-- The module after the gun sound of a tick. -/
def gunPlayed : Exhibit := if e.gunDue nowMs then { e with gunPending := false } else e

def gunCalls : List Call := if e.gunDue nowMs then [.dfplayerPlay trackGun] else []

/-- The call of a tick that does not end its phase. -/
def refresh : List Call := if isTurretPhase e.phase then [.turretSet e.turretCmd] else []

end Exhibit

section Emits

variable {ω : Oracle} {s : Sys} {e : Exhibit} {nowMs : ℤ}

/-- A phase that is not over repeats the turret command at most. -/
theorem emits_stay (hconnected : s.plat.connected = false) (hstart : e.phase ≠ .start)
    (hearly : nowMs < e.phaseUntilMs) :
    Emits ω .exhibit s (exhibitPhaseTick e nowMs) e.refresh e := by
  unfold exhibitPhaseTick Exhibit.refresh
  cases hturret : Exhibit.isTurretPhase e.phase with
  | true =>
    rw [if_pos rfl, if_pos rfl, if_pos hearly]
    apply Emits.get
    rw [show s.get .connected = false from hconnected]
    exact .call (.pure e)
  | false =>
    rw [if_neg Bool.false_ne_true, if_neg Bool.false_ne_true, if_pos ⟨hstart, hearly⟩]
    exact .pure e

theorem emits_afterTurret (hturret : Exhibit.isTurretPhase e.phase = true) (track : ℕ) :
    Emits ω .exhibit s (rccarMotorTurretSet .exhibit 0 >>= fun _ ↦
      (.pure (afterTurret { e with turretCmd := 0 } nowMs) : Firmware Exhibit))
      (e.nextStage track).cues (e.enter nowMs (e.nextStage track)) := by
  obtain ⟨active, phase, until_, cmd, sign, pending, gunDue⟩ := e
  cases phase with
  | turretA | turretRev | turretB => exact .call (.pure _)
  | _ => cases hturret

theorem emits_advance (hturret : Exhibit.isTurretPhase e.phase = false) :
    Emits ω .exhibit s (exhibitAdvance e nowMs) (e.nextStage (sfxTrack ω.espRandom)).cues
      (e.enter nowMs (e.nextStage (sfxTrack ω.espRandom))) := by
  obtain ⟨active, phase, until_, cmd, sign, pending, gunDue⟩ := e
  cases phase with
  | turretA | turretRev | turretB => cases hturret
  | start | afterHeadlight2 | afterSfx => exact .call (.pure _)
  | afterHeadlight =>
    have hsign : - -sign = sign := neg_neg sign
    simp only [exhibitAdvance, Exhibit.nextStage, Exhibit.successor, Exhibit.leadSign,
      ShowStage.cues, Exhibit.enter, hsign]
    exact .call (.pure _)
  | laserHold => exact .pure _
  | laserArm | laserGap | headlightDelay | headlight | headlightDelay2 | headlight2
  | afterGatling | mist | sfx => exact .call (.pure _)
  | gatlingArm | gatlingGap => exact .call (.call (.pure _))
  | afterMist => exact .espRandom (.call (.call (.pure _)))

/-- A phase that is over leads to the next stage. -/
theorem emits_enter (hconnected : s.plat.connected = false)
    (hdue : e.phase = .start ∨ e.phaseUntilMs ≤ nowMs) :
    Emits ω .exhibit s (exhibitPhaseTick e nowMs) (e.nextStage (sfxTrack ω.espRandom)).cues
      (e.enter nowMs (e.nextStage (sfxTrack ω.espRandom))) := by
  have hunblocked : s.get .connected = false := hconnected
  have hlate : e.phase ≠ .start → ¬nowMs < e.phaseUntilMs := by
    intro hstart hearly
    rcases hdue with hdue | hdue
    · exact hstart hdue
    · omega
  unfold exhibitPhaseTick
  cases hturret : Exhibit.isTurretPhase e.phase with
  | true =>
    have hstart : e.phase ≠ .start := by
      intro h
      rw [h] at hturret
      cases hturret
    rw [if_pos rfl, if_neg (hlate hstart)]
    apply Emits.get
    rw [hunblocked]
    exact emits_afterTurret hturret _
  | false =>
    rw [if_neg Bool.false_ne_true, if_neg fun h ↦ hlate h.1 h.2]
    apply Emits.get
    rw [hunblocked]
    exact emits_advance hturret

/-- A tick stops the wheels, plays the sound of the gun when it is due, and goes on with the
phase. -/
theorem emits_tick (hactive : e.active = true) (hconnected : s.plat.connected = false)
    {cs : List Call} {e' : Exhibit}
    (hphase : ∀ s' : Sys, s'.plat.connected = false →
      Emits ω .exhibit s' (exhibitPhaseTick (e.gunPlayed nowMs) nowMs) cs e') :
    Emits ω .exhibit s (rccarExhibitTick e nowMs) (.wheelSet .zero :: (e.gunCalls nowMs ++ cs))
      e' := by
  have hunblocked : ∀ s' : Sys, s'.plat.connected = false → s'.get .connected = false :=
    fun _ h ↦ h
  have hstopped : (s.call .exhibit (.wheelSet .zero)).plat.connected = false := hconnected
  unfold rccarExhibitTick
  rw [if_pos hactive]
  apply Emits.get
  rw [hunblocked s hconnected]
  apply Emits.call
  unfold Exhibit.gunCalls
  cases hgun : e.gunDue nowMs with
  | true =>
    apply Emits.get
    rw [hunblocked _ hstopped]
    apply Emits.call
    have hplayed : e.gunPlayed nowMs = { e with gunPending := false } := if_pos hgun
    rw [← hplayed]
    exact hphase _ hstopped
  | false =>
    have hplayed : e.gunPlayed nowMs = e := if_neg (by simp [hgun])
    rw [hplayed] at hphase
    exact hphase _ hstopped

end Emits

/-! ## The outputs of a phase -/

/-- The switches are as the phase wants them. -/
structure ShowsPhase (phase : ExhibitPhase) (o : Outputs) : Prop where
  turret : Exhibit.isTurretPhase phase = false → o.turret = 0
  headlight : o.headlight.on = decide (phase = .headlight ∨ phase = .headlight2)
  humidifier : o.humidifier.on = decide (phase = .mist)
  radar : o.radar = decide (phase = .sfx)

@[simp]
theorem setHeadlight_on (o : Outputs) (on : Bool) : (o.setHeadlight on).headlight.on = on := by
  unfold Outputs.setHeadlight
  by_cases h : o.headlight.on = on <;> simp [h]

/-- The cues of the next stage switch on what it wants and off what the last one wanted. -/
theorem ShowsPhase.successor {phase : ExhibitPhase} {o : Outputs} (h : ShowsPhase phase o)
    (sign : ℤ) (track : ℕ) :
    ShowsPhase (Exhibit.successor phase)
      ((ShowStage.cues ⟨Exhibit.successor phase, sign, track⟩).foldl Outputs.after o) := by
  obtain ⟨hturret, hheadlight, hhumidifier, hradar⟩ := h
  cases phase <;>
    constructor <;>
    simp_all [Exhibit.successor, ShowStage.cues, Outputs.after, Exhibit.isTurretPhase,
      Outputs.setHumidifier, Outputs.setHeadlight]

/-- Stopped wheels and sounds are no switches. -/
theorem ShowsPhase.of_tick {phase : ExhibitPhase} {o : Outputs} (h : ShowsPhase phase o)
    (e : Exhibit) (nowMs : ℤ) :
    ShowsPhase phase ((.wheelSet .zero :: e.gunCalls nowMs).foldl Outputs.after o) := by
  unfold Exhibit.gunCalls
  split <;> exact ⟨h.turret, h.headlight, h.humidifier, h.radar⟩

/-! ## Cues, turns and shots of a tick -/

section Tick

variable {e : Exhibit} {nowMs : ℤ} {turret : ℤ}

theorem sfxTrack_mem (random : ℕ) : sfxTrack random ∈ [6, 7, 8, 9] := by
  unfold sfxTrack
  split <;> decide

/-- Stopping the wheels, the sound of the gun and the repeated turret command are no cues. -/
theorem filter_isCue_tick (cs : List Call) :
    (.wheelSet .zero :: (e.gunCalls nowMs ++ cs)).filter (isCue turret) =
      cs.filter (isCue turret) := by
  have hgun : (e.gunCalls nowMs).filter (isCue turret) = [] := by
    unfold Exhibit.gunCalls
    split <;> rfl
  rw [List.filter_cons_of_neg (by simp [isCue]), List.filter_append, hgun, List.nil_append]

theorem filter_isCue_refresh : e.refresh.filter (isCue e.turretCmd) = [] := by
  unfold Exhibit.refresh
  split <;> simp [isCue]

/-- The turret command in force belongs to the phase, and the next turn has a direction. -/
structure TurretAgrees (e : Exhibit) (turret : ℤ) : Prop where
  command : turret = e.turretCmd
  moving : Exhibit.isTurretPhase e.phase = true → turret ≠ 0
  still : Exhibit.isTurretPhase e.phase = false → turret = 0
  sign : e.turretSign = 1 ∨ e.turretSign = -1

theorem filter_isCue_cues (h : TurretAgrees e turret) {track : ℕ} (htrack : track ∈ [6, 7, 8, 9]) :
    (e.nextStage track).cues.filter (isCue turret) = (e.nextStage track).cues := by
  have htrack' : track ≠ 2 := by
    rintro rfl
    revert htrack
    decide
  obtain ⟨-, hmoving, hstill, hsign⟩ := h
  obtain ⟨active, phase, until_, cmd, sign, pending, gunDue⟩ := e
  have hsign' : sign = 1 ∨ sign = -1 := hsign
  cases phase with
  | start | afterHeadlight | afterHeadlight2 | afterSfx =>
    obtain rfl : turret = 0 := hstill rfl
    rcases hsign' with rfl | rfl <;> rfl
  | turretA | turretRev | turretB =>
    have hne : 0 ≠ turret := (hmoving rfl).symm
    simp [Exhibit.nextStage, Exhibit.successor, ShowStage.cues, isCue, hne]
  | afterMist => simp [Exhibit.nextStage, Exhibit.successor, ShowStage.cues, isCue, htrack']
  | _ => rfl

/-- The turns in the cues of the next stage. -/
theorem turns_cues (hsign : e.turretSign = 1 ∨ e.turretSign = -1) (track : ℕ) :
    (e.nextStage track).cues.filterMap turnOf =
      if Exhibit.isTurretPhase (Exhibit.successor e.phase) then [e.turretSign * 384] else [] := by
  obtain ⟨active, phase, until_, cmd, sign, pending, gunDue⟩ := e
  have hsign' : sign = 1 ∨ sign = -1 := hsign
  cases phase with
  | start | afterHeadlight | afterHeadlight2 | afterSfx =>
    rcases hsign' with rfl | rfl <;> rfl
  | _ => rfl

theorem filter_isGun_cues {track : ℕ} (htrack : track ∈ [6, 7, 8, 9]) :
    (e.nextStage track).cues.filter isGun =
      if Exhibit.isLaserPhase (Exhibit.successor e.phase) then [.laserFire] else [] := by
  have htrack' : track ≠ 2 := by
    rintro rfl
    revert htrack
    decide
  obtain ⟨active, phase, until_, cmd, sign, pending, gunDue⟩ := e
  cases phase with
  | afterMist =>
    simp [Exhibit.nextStage, Exhibit.successor, ShowStage.cues, isGun, htrack',
      Exhibit.isLaserPhase]
  | _ => rfl

theorem laser_durationMs {stage : ShowStage} (h : Exhibit.isLaserPhase stage.phase = true) :
    200 ≤ stage.durationMs := by
  obtain ⟨phase, sign, track⟩ := stage
  cases phase with
  | laserGap | laserHold => simp [ShowStage.durationMs]
  | _ => cases h

theorem filter_isGun_refresh : e.refresh.filter isGun = [] := by
  unfold Exhibit.refresh
  split <;> rfl

theorem filter_isGun_tick (cs : List Call) :
    (.wheelSet .zero :: (e.gunCalls nowMs ++ cs)).filter isGun =
      e.gunCalls nowMs ++ cs.filter isGun := by
  have hgun : (e.gunCalls nowMs).filter isGun = e.gunCalls nowMs := by
    unfold Exhibit.gunCalls
    split <;> rfl
  rw [List.filter_cons_of_neg (by decide), List.filter_append, hgun]

/-- The turret after the cues of the next stage. -/
theorem TurretAgrees.enter (h : TurretAgrees e turret) (track : ℕ) (o : Outputs)
    (ho : o.turret = turret) :
    TurretAgrees (e.enter nowMs (e.nextStage track))
      ((e.nextStage track).cues.foldl Outputs.after o).turret := by
  obtain ⟨hcommand, hmoving, hstill, hsign⟩ := h
  subst ho
  obtain ⟨active, phase, until_, cmd, sign, pending, gunDue⟩ := e
  have hflip : -sign = 1 ∨ -sign = -1 := by
    simp only at hsign
    omega
  have hspin : sign * 384 ≠ 0 ∧ -sign * 384 ≠ 0 := by
    simp only at hsign
    omega
  have hsign' : sign = 1 ∨ sign = -1 := hsign
  cases phase <;>
    simp_all [Exhibit.nextStage, Exhibit.successor, Exhibit.leadSign, ShowStage.cues,
      Exhibit.enter, Exhibit.isTurretPhase, Outputs.after, Outputs.setHumidifier,
      Outputs.setHeadlight] <;>
    constructor <;>
    simp_all [Exhibit.isTurretPhase]

end Tick

/-! ## The sound of the gun -/

/-- The pending shot, with the time by which the last tick has not played its sound yet. -/
structure GunAgrees (shot : Option ℤ) (log : ShowLog) (e : Exhibit) : Prop where
  pending : e.gunPending = shot.isSome
  last : ∀ t, shot = some t → Exhibit.isLaserPhase e.phase = true ∧ e.gunDueMs = t + 200 ∧
    t + 200 ≤ e.phaseUntilMs ∧ ∀ now ∈ (readings log).head?, now < t + 200

section Gun

variable (e : Exhibit) (nowMs : ℤ)

@[simp] theorem gunPlayed_active : (e.gunPlayed nowMs).active = e.active := by
  unfold Exhibit.gunPlayed
  split <;> rfl

@[simp] theorem gunPlayed_phase : (e.gunPlayed nowMs).phase = e.phase := by
  unfold Exhibit.gunPlayed
  split <;> rfl

@[simp] theorem gunPlayed_phaseUntilMs : (e.gunPlayed nowMs).phaseUntilMs = e.phaseUntilMs := by
  unfold Exhibit.gunPlayed
  split <;> rfl

@[simp] theorem gunPlayed_turretCmd : (e.gunPlayed nowMs).turretCmd = e.turretCmd := by
  unfold Exhibit.gunPlayed
  split <;> rfl

@[simp] theorem gunPlayed_turretSign : (e.gunPlayed nowMs).turretSign = e.turretSign := by
  unfold Exhibit.gunPlayed
  split <;> rfl

@[simp] theorem gunPlayed_leadSign : (e.gunPlayed nowMs).leadSign = e.leadSign := by
  unfold Exhibit.leadSign
  rw [gunPlayed_phase, gunPlayed_turretSign]

variable {e nowMs} {pending : Option ℤ} {log : ShowLog} {shots : List (ℤ × Call)}

/-- The first part of a tick plays the sound of a shot that is due and leaves the others pending. -/
theorem GunAgrees.gunPlayed (h : GunAgrees pending log e) (hshots : Answered pending shots) :
    ∃ pending', Answered pending' (shots ++ (e.gunCalls nowMs).map fun c ↦ (nowMs, c)) ∧
      (e.gunPlayed nowMs).gunPending = pending'.isSome ∧
      ∀ t, pending' = some t → Exhibit.isLaserPhase e.phase = true ∧
        (e.gunPlayed nowMs).gunDueMs = t + 200 ∧ t + 200 ≤ e.phaseUntilMs ∧ nowMs < t + 200 := by
  unfold Exhibit.gunPlayed Exhibit.gunCalls
  cases hdue : e.gunDue nowMs with
  | true =>
    obtain ⟨⟨-, hgun⟩, htime⟩ : (_ ∧ e.gunPending = true) ∧ nowMs ≥ e.gunDueMs := by
      simpa [Exhibit.gunDue] using hdue
    cases hpending : pending with
    | none =>
      rw [h.pending, hpending] at hgun
      cases hgun
    | some t =>
      obtain ⟨-, htdue, -, -⟩ := h.last t hpending
      rw [hpending] at hshots
      refine ⟨none, ?_, rfl, fun t' ht' ↦ by cases ht'⟩
      exact .sound nowMs hshots (htdue ▸ htime)
  | false =>
    refine ⟨pending, ?_, h.pending, fun t ht ↦ ?_⟩
    · rw [if_neg Bool.false_ne_true, List.map_nil, List.append_nil]
      exact hshots
    · obtain ⟨hphase, htdue, huntil, -⟩ := h.last t ht
      refine ⟨hphase, htdue, huntil, ?_⟩
      have hgun : e.gunPending = true := by rw [h.pending, ht, Option.isSome_some]
      have hlaser : (decide (e.phase = .laserGap) || decide (e.phase = .laserHold)) = true := hphase
      by_contra hlate
      have hnow : nowMs ≥ e.gunDueMs := by omega
      rw [Exhibit.gunDue, hlaser, hgun, decide_eq_true hnow] at hdue
      cases hdue

end Gun

/-! ## One tick -/

/-- What holds after every tick, for the visits made so far. -/
structure ShowInv (log : ShowLog) (w : Show) (visits : List (Visit ShowStage)) : Prop where
  performance : showTimetable.Performance (readings log) visits
  cues : cuesOf log = showTimetable.performed visits
  active : w.exhibit.active = true
  connected : w.sys.plat.connected = false
  place : showOrder[visits.length % 19]? = some (Exhibit.successor w.exhibit.phase)
  lead : w.exhibit.leadSign = (-1) ^ (visits.length / 19)
  start : w.exhibit.phase = .start ↔ visits = []
  current : ∀ v ∈ visits.head?,
    w.exhibit.phase = v.stage.phase ∧ w.exhibit.phaseUntilMs = showTimetable.due v
  shows : ShowsPhase w.exhibit.phase w.sys.outputs
  turret : TurretAgrees w.exhibit w.sys.motor.turret
  turns : ∃ n, turnsOf log = (List.range n).map (fun k ↦ (-1) ^ k * 384) ∧
    w.exhibit.turretSign = (-1) ^ n
  shots : ∃ pending, Answered pending (shotsOf log) ∧ GunAgrees pending log w.exhibit

section Step

variable {log : ShowLog} {w : Show} {visits : List (Visit ShowStage)} {t : Tick}

theorem show_of_emits {cs : List Call} {e' : Exhibit}
    (h : Emits { espRandom := t.random } .exhibit w.sys (rccarExhibitTick w.exhibit t.nowMs) cs e') :
    w.next t = ⟨w.sys.callAll .exhibit cs, e'⟩ ∧ w.calls t = cs := by
  constructor
  · change Show.mk _ _ = _
    rw [h.result, h.state]
  · unfold Show.calls
    rw [h.calls, List.map_map]
    exact List.map_id' cs

theorem outputs_tick (cs : List Call) :
    (w.sys.callAll .exhibit (.wheelSet .zero :: (w.exhibit.gunCalls t.nowMs ++ cs))).outputs =
      cs.foldl Outputs.after
        ((.wheelSet .zero :: w.exhibit.gunCalls t.nowMs).foldl Outputs.after w.sys.outputs) := by
  rw [outputs_callAll, ← List.cons_append, List.foldl_append]

theorem turret_tick (e : Exhibit) (nowMs : ℤ) (o : Outputs) :
    ((.wheelSet .zero :: e.gunCalls nowMs).foldl Outputs.after o).turret = o.turret := by
  unfold Exhibit.gunCalls
  split <;> rfl

/-- The stages of a cycle in their order; the last one leads to the next cycle. -/
theorem place_succ {n : ℕ} {phase : ExhibitPhase}
    (h : showOrder[n % 19]? = some (Exhibit.successor phase)) :
    showOrder[(n + 1) % 19]? = some (Exhibit.successor (Exhibit.successor phase)) ∧
      (n + 1) / 19 = n / 19 + if Exhibit.successor phase = .afterSfx then 1 else 0 := by
  have hall : ∀ j < 19, ∀ p, showOrder[j]? = some p →
      showOrder[(j + 1) % 19]? = some (Exhibit.successor p) ∧ (p = .afterSfx ↔ j = 18) := by
    intro j hj p hp
    interval_cases j <;> cases hp <;> decide
  obtain ⟨hnext, hlast⟩ := hall (n % 19) (Nat.mod_lt _ (by decide)) _ h
  constructor
  · rwa [Nat.add_mod, Nat.mod_eq_of_lt (by decide : 1 < 19)]
  · split
    · rename_i hsfx
      have := hlast.mp hsfx
      omega
    · rename_i hsfx
      have : n % 19 ≠ 18 := fun h18 ↦ hsfx (hlast.mpr h18)
      omega

theorem leadSign_enter (e : Exhibit) (nowMs : ℤ) (track : ℕ) :
    (e.enter nowMs (e.nextStage track)).leadSign =
      if Exhibit.successor e.phase = .afterSfx then -e.leadSign else e.leadSign := by
  obtain ⟨active, phase, until_, cmd, sign, pending, gunDue⟩ := e
  cases phase <;>
    simp [Exhibit.leadSign, Exhibit.enter, Exhibit.nextStage, Exhibit.successor,
      Exhibit.isTurretPhase]

theorem refresh_same {e : Exhibit} {o : Outputs} (h : o.turret = e.turretCmd) :
    e.refresh.foldl Outputs.after o = o := by
  unfold Exhibit.refresh
  split
  · rw [← h]
    rfl
  · rfl

/-- A tick before the end of the phase. -/
theorem ShowInv.stay (hinv : ShowInv log w visits) (hstart : w.exhibit.phase ≠ .start)
    (hearly : t.nowMs < w.exhibit.phaseUntilMs) : ShowInv (⟨w, t⟩ :: log) (w.next t) visits := by
  obtain ⟨v, rest, rfl⟩ : ∃ v rest, visits = v :: rest :=
    List.exists_cons_of_ne_nil fun h ↦ hstart (hinv.start.mpr h)
  have hemits := @emits_tick { espRandom := t.random } w.sys w.exhibit t.nowMs hinv.active
    hinv.connected _ _ fun s' hs' ↦ emits_stay hs' (by rwa [gunPlayed_phase])
      (by rwa [gunPlayed_phaseUntilMs])
  obtain ⟨hnext, hcalls⟩ := show_of_emits hemits
  have hcommand : (w.exhibit.gunPlayed t.nowMs).turretCmd = w.sys.motor.turret :=
    (gunPlayed_turretCmd _ _).trans hinv.turret.command.symm
  have hcues : cuesOf (⟨w, t⟩ :: log) = cuesOf log := by
    change cuesOf log ++ (w.calls t).filter (isCue w.sys.motor.turret) = cuesOf log
    rw [hcalls, filter_isCue_tick, ← hcommand, filter_isCue_refresh, List.append_nil]
  have houtputs : (w.next t).sys.outputs =
      (.wheelSet .zero :: w.exhibit.gunCalls t.nowMs).foldl Outputs.after w.sys.outputs := by
    have hturret := turret_tick w.exhibit t.nowMs w.sys.outputs
    rw [hnext, outputs_tick]
    exact refresh_same (hturret.trans hcommand.symm)
  have hturret : (w.next t).sys.motor.turret = w.sys.motor.turret :=
    (congrArg Outputs.turret houtputs).trans (turret_tick w.exhibit t.nowMs w.sys.outputs)
  have hexhibit : (w.next t).exhibit = w.exhibit.gunPlayed t.nowMs := by rw [hnext]
  have hphase : (w.next t).exhibit.phase = w.exhibit.phase := by
    rw [hexhibit, gunPlayed_phase]
  obtain ⟨pending, hanswered, hgun⟩ := hinv.shots
  obtain ⟨pending', hanswered', hpending', hlast'⟩ := hgun.gunPlayed hanswered
  exact
    { performance := .stay hinv.performance (by rwa [← (hinv.current v rfl).2])
      cues := hcues.trans hinv.cues
      active := by rw [hexhibit, gunPlayed_active, hinv.active]
      connected := by rw [hnext, callAll_plat, hinv.connected]
      place := hphase ▸ hinv.place
      lead := by rw [hexhibit, gunPlayed_leadSign, hinv.lead]
      start := hphase ▸ hinv.start
      current := by
        rw [hexhibit, gunPlayed_phase, gunPlayed_phaseUntilMs]
        exact hinv.current
      shows := by
        rw [hphase, houtputs]
        exact hinv.shows.of_tick _ _
      turret := by
        rw [hturret, hexhibit]
        exact
          { command := hcommand.symm
            moving := gunPlayed_phase w.exhibit t.nowMs ▸ hinv.turret.moving
            still := gunPlayed_phase w.exhibit t.nowMs ▸ hinv.turret.still
            sign := gunPlayed_turretSign w.exhibit t.nowMs ▸ hinv.turret.sign }
      turns := by
        unfold turnsOf
        rw [hcues, hexhibit, gunPlayed_turretSign]
        exact hinv.turns
      shots := by
        refine ⟨pending', ?_, hexhibit ▸ hpending', fun at_ hat ↦ ?_⟩
        · change Answered pending' (shotsOf log ++ ((w.calls t).filter isGun).map _)
          rw [hcalls, filter_isGun_tick, filter_isGun_refresh, List.append_nil]
          exact hanswered'
        · obtain ⟨hlaser, hdue, huntil, hnow⟩ := hlast' at_ hat
          rw [hexhibit, gunPlayed_phase, gunPlayed_phaseUntilMs]
          refine ⟨hlaser, hdue, huntil, fun now hhead ↦ ?_⟩
          obtain rfl : t.nowMs = now := Option.some.inj hhead
          exact hnow }

/-- A tick that ends the phase. -/
theorem ShowInv.enter (hinv : ShowInv log w visits)
    (hdue : w.exhibit.phase = .start ∨ w.exhibit.phaseUntilMs ≤ t.nowMs) :
    ShowInv (⟨w, t⟩ :: log) (w.next t)
      (⟨w.exhibit.nextStage (sfxTrack t.random), t.nowMs⟩ :: visits) := by
  have htrack := sfxTrack_mem t.random
  have hstage : (w.exhibit.gunPlayed t.nowMs).nextStage (sfxTrack t.random) =
      w.exhibit.nextStage (sfxTrack t.random) := by
    unfold Exhibit.nextStage
    rw [gunPlayed_phase, gunPlayed_leadSign]
  have hemits := @emits_tick { espRandom := t.random } w.sys w.exhibit t.nowMs hinv.active
    hinv.connected _ _ fun s' hs' ↦ emits_enter hs' (by rwa [gunPlayed_phase, gunPlayed_phaseUntilMs])
  obtain ⟨hnext, hcalls⟩ := show_of_emits hemits
  have hagrees : TurretAgrees (w.exhibit.gunPlayed t.nowMs) w.sys.motor.turret :=
    { command := hinv.turret.command.trans (gunPlayed_turretCmd _ _).symm
      moving := gunPlayed_phase w.exhibit t.nowMs ▸ hinv.turret.moving
      still := gunPlayed_phase w.exhibit t.nowMs ▸ hinv.turret.still
      sign := gunPlayed_turretSign w.exhibit t.nowMs ▸ hinv.turret.sign }
  have hcues : cuesOf (⟨w, t⟩ :: log) =
      cuesOf log ++ (w.exhibit.nextStage (sfxTrack t.random)).cues := by
    change cuesOf log ++ (w.calls t).filter (isCue w.sys.motor.turret) = _
    rw [hcalls, filter_isCue_tick, filter_isCue_cues hagrees htrack, hstage]
  have houtputs : (w.next t).sys.outputs =
      (w.exhibit.nextStage (sfxTrack t.random)).cues.foldl Outputs.after
        ((.wheelSet .zero :: w.exhibit.gunCalls t.nowMs).foldl Outputs.after w.sys.outputs) := by
    rw [hnext, outputs_tick, hstage]
  have hexhibit : (w.next t).exhibit = (w.exhibit.gunPlayed t.nowMs).enter t.nowMs
      (w.exhibit.nextStage (sfxTrack t.random)) := by
    rw [hnext, ← hstage]
  have hphase : (w.next t).exhibit.phase = Exhibit.successor w.exhibit.phase := by
    rw [hexhibit]
    rfl
  obtain ⟨hplace, hcycle⟩ := place_succ hinv.place
  obtain ⟨pending, hanswered, hgun⟩ := hinv.shots
  obtain ⟨pending', hanswered', hpending', hlast'⟩ := @hgun.gunPlayed _ t.nowMs _ _ _ hanswered
  -- a shot that is still without its sound would outlast its phase
  have hnone : pending' = none := by
    cases hshot : pending' with
    | none => rfl
    | some shot =>
      obtain ⟨hlaser, -, huntil, hearly⟩ := hlast' shot hshot
      rcases hdue with hstart | hdue
      · rw [hstart] at hlaser
        cases hlaser
      · omega
  subst hnone
  exact
    { performance := by
        refine .enter hinv.performance (fun v hv ↦ ?_) ⟨hinv.place, hinv.lead, htrack⟩
        have hstart : w.exhibit.phase ≠ .start := by
          intro h
          rw [hinv.start.mp h] at hv
          cases hv
        rw [← (hinv.current v hv).2]
        exact hdue.resolve_left hstart
      cues := by
        rw [hcues, hinv.cues, Timetable.performed_cons]
        rfl
      active := by
        rw [hexhibit]
        exact (gunPlayed_active _ _).trans hinv.active
      connected := by rw [hnext, callAll_plat, hinv.connected]
      place := by
        rw [hphase]
        exact hplace
      lead := by
        have hlead := leadSign_enter (w.exhibit.gunPlayed t.nowMs) t.nowMs (sfxTrack t.random)
        rw [hstage, gunPlayed_phase, gunPlayed_leadSign, hinv.lead] at hlead
        rw [hexhibit, hlead, List.length_cons, hcycle]
        split
        · rw [pow_succ, mul_neg_one]
        · rw [add_zero]
      start := by
        rw [hphase]
        have hne : Exhibit.successor w.exhibit.phase ≠ .start := by
          cases w.exhibit.phase <;> exact ExhibitPhase.noConfusion
        exact ⟨fun h ↦ absurd h hne, fun h ↦ by cases h⟩
      current := fun v hv ↦ by
        obtain rfl : _ = v := Option.some.inj hv
        rw [hexhibit]
        exact ⟨rfl, rfl⟩
      shows := by
        rw [hphase, houtputs]
        exact (hinv.shows.of_tick _ _).successor _ _
      turret := by
        have hturret := @hagrees.enter _ t.nowMs _ (sfxTrack t.random)
          ((.wheelSet .zero :: w.exhibit.gunCalls t.nowMs).foldl Outputs.after w.sys.outputs)
          (turret_tick w.exhibit t.nowMs w.sys.outputs)
        rw [hstage, ← houtputs, ← hexhibit] at hturret
        exact hturret
      turns := by
        obtain ⟨n, hturns, hsign⟩ := hinv.turns
        have hcueTurns := turns_cues hinv.turret.sign (sfxTrack t.random)
        have hsign' : (w.next t).exhibit.turretSign =
            if Exhibit.isTurretPhase (Exhibit.successor w.exhibit.phase) then -w.exhibit.turretSign
            else w.exhibit.turretSign := by
          rw [hexhibit, ← gunPlayed_turretSign w.exhibit t.nowMs]
          rfl
        have hturns' : turnsOf (⟨w, t⟩ :: log) = turnsOf log ++
            if Exhibit.isTurretPhase (Exhibit.successor w.exhibit.phase) then
              [w.exhibit.turretSign * 384] else [] := by
          unfold turnsOf
          rw [hcues, List.filterMap_append, hcueTurns]
        rw [hturns', hsign', hturns, hsign]
        split
        · refine ⟨n + 1, ?_, ?_⟩
          · rw [List.range_succ, List.map_append]
            rfl
          · rw [pow_succ, mul_neg_one]
        · exact ⟨n, List.append_nil _, rfl⟩
      shots := by
        have hguns : shotsOf (⟨w, t⟩ :: log) = shotsOf log ++
            (w.exhibit.gunCalls t.nowMs ++
              if Exhibit.isLaserPhase (Exhibit.successor w.exhibit.phase) then
                [Call.laserFire] else []).map fun c ↦ (t.nowMs, c) := by
          change shotsOf log ++ ((w.calls t).filter isGun).map _ = _
          rw [hcalls, filter_isGun_tick, hstage, filter_isGun_cues htrack]
        rw [List.map_append, ← List.append_assoc] at hguns
        have hpendingNext : (w.next t).exhibit.gunPending =
            Exhibit.isLaserPhase (Exhibit.successor w.exhibit.phase) := by
          rw [hexhibit]
          change (_ || (w.exhibit.gunPlayed t.nowMs).gunPending) = _
          rw [hpending']
          exact Bool.or_false _
        rw [hguns]
        cases hlaser : Exhibit.isLaserPhase (Exhibit.successor w.exhibit.phase) with
        | false =>
          refine ⟨none, ?_, hpendingNext.trans hlaser, fun at_ hat ↦ by cases hat⟩
          rw [if_neg Bool.false_ne_true, List.map_nil, List.append_nil]
          exact hanswered'
        | true =>
          refine ⟨some t.nowMs, .shot t.nowMs hanswered', hpendingNext.trans hlaser,
            fun at_ hat ↦ ?_⟩
          obtain rfl : t.nowMs = at_ := Option.some.inj hat
          refine ⟨hphase ▸ hlaser, ?_, ?_, fun now hnow ↦ ?_⟩
          · rw [hexhibit]
            exact if_pos hlaser
          · have hlong : 200 ≤ (w.exhibit.nextStage (sfxTrack t.random)).durationMs :=
              laser_durationMs hlaser
            rw [hexhibit]
            change t.nowMs + 200 ≤ t.nowMs + _
            omega
          · obtain rfl : t.nowMs = now := Option.some.inj hnow
            omega }

end Step

/-! ## Every run -/

theorem showInv_begun {w : Show} (hbegun : w.Begun) : ShowInv [] w [] := by
  obtain ⟨s, nowMs, hconnected, hturret, hradar, hhumidifier, -, -, rfl⟩ := hbegun
  have houtputs : (s.call .exhibit (.headlightSet false)).outputs = s.outputs.setHeadlight false :=
    outputs_call s .exhibit (.headlightSet false)
  have hturret' : (s.call .exhibit (.headlightSet false)).motor.turret = 0 :=
    (congrArg Outputs.turret houtputs).trans hturret
  exact
    { performance := .start
      cues := rfl
      active := rfl
      connected := (s.call_plat .exhibit _ ▸ hconnected :)
      place := rfl
      lead := rfl
      start := ⟨fun _ ↦ rfl, fun _ ↦ rfl⟩
      current := fun v hv ↦ by cases hv
      shows :=
        { turret := fun _ ↦ hturret'
          headlight := (congrArg (fun o ↦ o.headlight.on) houtputs).trans (setHeadlight_on _ _)
          humidifier := (congrArg (fun o ↦ o.humidifier.on) houtputs).trans hhumidifier
          radar := (congrArg Outputs.radar houtputs).trans hradar }
      turret :=
        { command := hturret'
          moving := fun h ↦ by cases h
          still := fun _ ↦ hturret'
          sign := .inl rfl }
      turns := ⟨0, rfl, rfl⟩
      shots := ⟨none, .start, rfl, fun t ht ↦ by cases ht⟩ }

theorem showInv_of_run {log : ShowLog} {w : Show} (hrun : ShowRun log w) :
    ∃ visits, ShowInv log w visits := by
  refine hrun.invariant (I := fun log w ↦ ∃ visits, ShowInv log w visits) ?_ ?_
  · intro w hbegun
    exact ⟨[], showInv_begun hbegun⟩
  · rintro log w t - ⟨visits, hinv⟩ -
    by_cases hdue : w.exhibit.phase = .start ∨ w.exhibit.phaseUntilMs ≤ t.nowMs
    · exact ⟨_, hinv.enter hdue⟩
    · obtain ⟨hstart, hearly⟩ := not_or.mp hdue
      exact ⟨visits, hinv.stay hstart (not_le.mp hearly)⟩

/-- The module has performed its schedule so far. -/
structure OnSchedule (log : ShowLog) (w : Show) (visits : List (Visit ShowStage)) : Prop where
  /-- Every stage was left at the first tick at or after its nominal end. -/
  performance : showTimetable.Performance (readings log) visits
  phase : w.exhibit.phase = ((visits.head?).map fun v ↦ v.stage.phase).getD .start
  /-- The outputs are the beginning of an endlessly repeated script. -/
  script : ∃ script : ℕ → ShowStage, (∀ n, script n ∈ showTimetable.offers n) ∧
    cuesOf log = (List.range visits.length).flatMap fun n ↦ (script n).cues
  turret : w.sys.motor.turret ≠ 0 → Exhibit.isTurretPhase w.exhibit.phase = true
  headlight : w.sys.headlight.on = true → w.exhibit.phase = .headlight ∨ w.exhibit.phase = .headlight2
  humidifier : w.sys.humidifier.on = true → w.exhibit.phase = .mist
  radar : w.sys.radar.enabled = true → w.exhibit.phase = .sfx
  /-- The turns alternate, the first one being positive. -/
  turns : turnsOf log = (List.range (turnsOf log).length).map fun k ↦ (-1) ^ k * 384
  /-- A shot without its sound is less than 200 ms old. -/
  shots : ∃ pending, Answered pending (shotsOf log) ∧
    ∀ t, pending = some t → ∀ now ∈ (readings log).head?, now < t + 200

theorem showTimetable_offers (n : ℕ) : (showTimetable.offers n).Nonempty := by
  have hplace : n % 19 < showOrder.length := Nat.mod_lt _ (by decide)
  exact ⟨⟨showOrder[n % 19], (-1) ^ (n / 19), 6⟩, List.getElem?_eq_getElem hplace, rfl,
    List.mem_cons_self⟩

/-- Every run of the exhibit while nothing is connected refines the schedule. -/
theorem exhibit_on_schedule {log : ShowLog} {w : Show} (hrun : ShowRun log w) :
    ∃ visits, OnSchedule log w visits := by
  obtain ⟨visits, hinv⟩ := showInv_of_run hrun
  obtain ⟨n, hturns, -⟩ := hinv.turns
  obtain ⟨pending, hanswered, hgun⟩ := hinv.shots
  exact ⟨visits,
    { performance := hinv.performance
      phase := by
        cases visits with
        | nil => exact hinv.start.mpr rfl
        | cons v rest => exact (hinv.current v rfl).1
      script := hinv.cues ▸ hinv.performance.exists_script showTimetable_offers
      turret := fun hmoving ↦ by
        by_contra hphase
        exact hmoving (hinv.turret.still (Bool.eq_false_iff.mpr hphase))
      headlight := fun hon ↦ of_decide_eq_true (hinv.shows.headlight.symm.trans hon)
      humidifier := fun hon ↦ of_decide_eq_true (hinv.shows.humidifier.symm.trans hon)
      radar := fun hon ↦ of_decide_eq_true (hinv.shows.radar.symm.trans hon)
      turns := by rw [hturns, List.length_map, List.length_range]
      shots := ⟨pending, hanswered, fun t ht ↦ (hgun.last t ht).2.2.2⟩ }⟩

instance (log : ShowLog) (t : Tick) : Decidable (InOrder log t) :=
  match h : (readings log).head? with
  | none => .isTrue fun _ hnow ↦ by rw [h] at hnow; cases hnow
  | some now =>
    decidable_of_iff (now ≤ t.nowMs) ⟨fun hle now' hnow' ↦ by
      rw [h] at hnow'
      exact Option.some.inj hnow' ▸ hle, fun hall ↦ hall now h⟩

/-- A late tick plays the sound of the first shot and fires the second one. -/
theorem exhibit_on_schedule_late : ∃ log w, ShowRun log w ∧
    turnsOf log = [384] ∧ (shotsOf log).length = 3 ∧ ∃ visits, OnSchedule log w visits := by
  have hbegun : Show.Begun ⟨({ clock := 1000 } : Sys).call .exhibit (.headlightSet false),
      { active := true }⟩ := ⟨{ clock := 1000 }, 1, rfl, rfl, rfl, rfl, rfl, rfl, rfl⟩
  obtain ⟨log, w, hrun, hend⟩ : ∃ log w, ShowRun log w ∧
      decide (turnsOf log = [384] ∧ (shotsOf log).length = 3) = true :=
    Run.exists_of_replay [⟨10, 0⟩, ⟨1000, 0⟩, ⟨2010, 0⟩, ⟨3050, 0⟩, ⟨9000, 0⟩]
      (fun r ↦ decide (turnsOf r.1 = [384] ∧ (shotsOf r.1).length = 3)) hbegun (by decide +kernel)
  obtain ⟨hturns, hshots⟩ := of_decide_eq_true hend
  exact ⟨log, w, hrun, hturns, hshots, exhibit_on_schedule hrun⟩

end Nutcracker
