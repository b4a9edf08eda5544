import Nutcracker.Platform.Effects

/-!
# The outputs

The commands and switches that a visitor sees.  A call changes them in a way that depends on nothing
else, so the effect of a sequence of calls on the outputs can be computed from the calls alone.
-/

namespace Nutcracker

open Prog Sys

/-- What the car shows. -/
@[ext]
structure Outputs where
  wheels : WheelSpeeds
  turret : ℤ
  radar : Bool
  humidifier : Humidifier
  neopixel : Neopixel
  led : Bool
  gatlingLed : Bool
  headlight : Headlight
  deriving DecidableEq

def Sys.outputs (s : Sys) : Outputs where
  wheels := s.motor.wheels
  turret := s.motor.turret
  radar := s.radar.enabled
  humidifier := s.humidifier
  neopixel := s.neopixel
  led := s.laser.led
  gatlingLed := s.laser.gatlingLed
  headlight := s.headlight

namespace Outputs

def setHumidifier (o : Outputs) (on : Bool) : Outputs :=
  { o with
    humidifier := if o.humidifier.on = on then o.humidifier else ⟨on, on⟩
    neopixel := { o.neopixel with mist := on } }

def setHeadlight (o : Outputs) (on : Bool) : Outputs :=
  { o with headlight := if o.headlight.on = on then o.headlight else ⟨on, on⟩ }

/-- The outputs after a call. -/
def after (o : Outputs) : Call → Outputs
  | .wheelSet speeds => { o with wheels := speeds }
  | .turretSet speed => { o with turret := speed }
  | .radarSetEnabled enabled => { o with radar := enabled }
  | .radarToggle => { o with radar := !o.radar }
  | .radarExhibitBegin => { o with radar := true }
  | .humidifierSet on => o.setHumidifier on
  | .humidifierPulseOnMs onMs => if onMs = 0 then o else o.setHumidifier true
  | .neopixelSetEnabled enabled =>
    { o with neopixel := { o.neopixel with engineWanted := enabled } }
  | .laserFire => { o with led := true }
  | .laserGatling => { o with gatlingLed := true }
  | .laserStop => { o with led := false, gatlingLed := false }
  | .headlightSet on => o.setHeadlight on
  | .headlightToggle => o.setHeadlight !o.headlight.on
  | _ => o

end Outputs

section Calls

variable (s : Sys) (origin : Origin)

theorem outputs_timerStart (t : Timer) (us : ℕ) (period : Option ℕ) :
    (s.timerStart t us period).outputs = s.outputs := by
  obtain ⟨timers, h⟩ := s.timerStart_eq t us period
  rw [h]
  rfl

theorem outputs_humidifierSet (on : Bool) :
    (s.rccarHumidifierSet on).outputs = s.outputs.setHumidifier on := by
  unfold rccarHumidifierSet rccarNeopixelMistSet Outputs.setHumidifier
  by_cases h : s.humidifier.on = on <;> simp [outputs, h]

theorem outputs_headlightSet (on : Bool) :
    (s.rccarHeadlightSet on).outputs = s.outputs.setHeadlight on := by
  unfold rccarHeadlightSet Outputs.setHeadlight
  by_cases h : s.headlight.on = on <;> simp [outputs, h]

theorem outputs_radarSetEnabled (enabled : Bool) :
    (s.rccarRadarSetEnabled enabled).outputs = { s.outputs with radar := enabled } := by
  unfold rccarRadarSetEnabled
  by_cases h : s.radar.enabled = enabled
  · simp [outputs, h]
  · cases hstart : enabled && !s.radar.vehicleMoving <;> simp [outputs, h]

theorem outputs_call (c : Call) : (s.call origin c).outputs = s.outputs.after c := by
  cases c with
  | radarSetMoving moving =>
    change (s.rccarRadarSetMoving moving).outputs = s.outputs
    unfold rccarRadarSetMoving
    split_ifs <;> rfl
  | radarSetEnabled enabled => exact outputs_radarSetEnabled s enabled
  | radarToggle => exact outputs_radarSetEnabled s _
  | humidifierSet on => exact outputs_humidifierSet s on
  | humidifierPulseOnMs onMs =>
    change (s.rccarHumidifierPulseOnMs onMs).outputs = if onMs = 0 then s.outputs else _
    unfold rccarHumidifierPulseOnMs
    split
    · rfl
    · exact (outputs_timerStart _ _ _ _).trans (outputs_humidifierSet _ true)
  | laserFire => exact (outputs_timerStart _ _ _ _).trans rfl
  | laserGatling =>
    exact (outputs_timerStart _ _ _ _).trans ((outputs_timerStart _ _ _ _).trans rfl)
  | headlightSet on => exact outputs_headlightSet s on
  | headlightToggle => exact outputs_headlightSet s _
  | wheelSet | turretSet | radarExhibitBegin | neopixelSetEnabled | laserStop | dfplayerPlay
  | dfplayerPlayLoop | dfplayerStop | dfplayerSetVolume | dfplayerSetWaitingIdle
  | storageVolumeSet | storageEraseAndRestart | playDualRumble | setPlayerLeds
  | setLightbarColor | stopScanning | startScanning => rfl

end Calls

/-! ## Operations -/

/-- The calls among the performed operations, with who issued them. -/
def callsOf (tr : List (Prog.Step Op Op.Ans)) : List (Origin × Call) :=
  tr.filterMap fun step ↦
    match step.1 with
    | .call origin c => some (origin, c)
    | _ => none

theorem callsOf_append (tr tr' : List (Prog.Step Op Op.Ans)) :
    callsOf (tr ++ tr') = callsOf tr ++ callsOf tr' :=
  List.filterMap_append

/-- Only calls change the outputs. -/
theorem outputs_exec (ω : Oracle) (o : Op) (s : Sys) :
    (exec ω o s).2.outputs =
      (callsOf [⟨o, (exec ω o s).1⟩]).foldl (fun out c ↦ out.after c.2) s.outputs := by
  cases o with
  | set v x => cases v <;> rfl
  | call origin c => exact outputs_call s origin c
  | timerStartOnce t us => exact outputs_timerStart s t us none
  | timerStartPeriodic t us => exact outputs_timerStart s t us _
  | createWheelTest =>
    cases htask : ω.taskCreated with
    | false => simp [exec, htask, callsOf]
    | true => simp [exec, htask, callsOf, startTest, outputs]
  | _ => rfl

/-- What a call can do to the outputs, an operation can. -/
theorem outputs_keep {P : Outputs → Prop} {ω : Oracle} {o : Op} {s : Sys} (h : P s.outputs)
    (hcall : ∀ origin c, o = .call origin c → P (s.outputs.after c)) :
    P (exec ω o s).2.outputs := by
  rw [outputs_exec]
  cases o with
  | call origin c => exact hcall origin c rfl
  | _ => exact h

theorem outputs_actuatorCallback (s : Sys) (t : Timer) :
    (actuatorCallback s t).outputs =
      match t with
      | .humidifierRestore => s.outputs.setHumidifier false
      | .laserLedOff => { s.outputs with led := false }
      | .gatlingBlink => { s.outputs with gatlingLed := !s.laser.gatlingOn }
      | .gatlingStop => { s.outputs with gatlingLed := false }
      | _ => s.outputs := by
  cases t with
  | humidifierRestore => exact outputs_humidifierSet s false
  | _ => rfl

/-! ## Programs that only call -/

def Sys.callAll (s : Sys) (origin : Origin) (cs : List Call) : Sys :=
  cs.foldl (fun s c ↦ s.call origin c) s

@[simp]
theorem callAll_nil (s : Sys) (origin : Origin) : s.callAll origin [] = s := rfl

@[simp]
theorem callAll_cons (s : Sys) (origin : Origin) (c : Call) (cs : List Call) :
    s.callAll origin (c :: cs) = (s.call origin c).callAll origin cs := rfl

theorem callAll_append (s : Sys) (origin : Origin) (cs cs' : List Call) :
    s.callAll origin (cs ++ cs') = (s.callAll origin cs).callAll origin cs' :=
  List.foldl_append

@[simp]
theorem callAll_plat (s : Sys) (origin : Origin) (cs : List Call) :
    (s.callAll origin cs).plat = s.plat := by
  induction cs generalizing s with
  | nil => rfl
  | cons c cs ih => exact (ih _).trans (s.call_plat origin c)

theorem outputs_callAll (s : Sys) (origin : Origin) (cs : List Call) :
    (s.callAll origin cs).outputs = cs.foldl Outputs.after s.outputs := by
  induction cs generalizing s with
  | nil => rfl
  | cons c cs ih =>
    calc
      ((s.call origin c).callAll origin cs).outputs =
          cs.foldl Outputs.after (s.call origin c).outputs := ih _
      _ = (c :: cs).foldl Outputs.after s.outputs := by rw [outputs_call, List.foldl_cons]

/-- From `s` the program performs exactly the calls `cs` on behalf of `origin` and returns `a`. -/
structure Emits {α : Type} (ω : Oracle) (origin : Origin) (s : Sys) (p : Firmware α)
    (cs : List Call) (a : α) : Prop where
  result : (p.run (exec ω) s).1 = a
  state : (p.run (exec ω) s).2 = s.callAll origin cs
  calls : callsOf (p.trace (exec ω) s) = cs.map fun c ↦ (origin, c)

namespace Emits

variable {α β : Type} {ω : Oracle} {origin : Origin} {s : Sys} {cs cs' : List Call}

theorem pure (a : α) : Emits ω origin s (Prog.pure a) [] a := ⟨rfl, rfl, rfl⟩

theorem call {c : Call} {f : Unit → Firmware α} {a : α}
    (h : Emits ω origin (s.call origin c) (f ()) cs a) :
    Emits ω origin s (.op (.call origin c) f) (c :: cs) a :=
  ⟨h.result, h.state, congrArg (List.cons (origin, c)) h.calls⟩

theorem get {v : Var} {f : v.Val → Firmware α} {a : α} (h : Emits ω origin s (f (s.get v)) cs a) :
    Emits ω origin s (.op (.get v) f) cs a :=
  ⟨h.result, h.state, h.calls⟩

theorem espRandom {f : ℕ → Firmware α} {a : α} (h : Emits ω origin s (f ω.espRandom) cs a) :
    Emits ω origin s (.op .espRandom f) cs a :=
  ⟨h.result, h.state, h.calls⟩

theorem bind {p : Firmware α} {f : α → Firmware β} {a : α} {b : β}
    (hp : Emits ω origin s p cs a) (hf : Emits ω origin (s.callAll origin cs) (f a) cs' b) :
    Emits ω origin s (p >>= f) (cs ++ cs') b where
  result := by rw [run_bind, hp.result, hp.state, hf.result]
  state := by rw [run_bind, hp.result, hp.state, hf.state, callAll_append]
  calls := by
    rw [trace_bind, callsOf_append, hp.result, hp.state]
    exact (congrArg₂ _ hp.calls hf.calls).trans List.map_append.symm

end Emits

end Nutcracker
