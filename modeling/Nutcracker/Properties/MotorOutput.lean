import Nutcracker.Rccar.Comparators

/-!
# Motor output is all or coast

What `rccar_motor_wheel_set` and `rccar_motor_turret_set` leave in the comparators, from any values
and for every pattern of refused writes.
-/

namespace Nutcracker

open Prog MotorDriver

/-- The write that coasts a comparator, taken by the driver. -/
def WriteTrace.coasts (tr : WriteTrace) (c : Comparator) : Prop :=
  (⟨⟨c, 0, true⟩, true⟩ : Prog.Step ComparatorWrite fun _ ↦ Bool) ∈ tr

def WriteTrace.accepted (tr : WriteTrace) : Prop := ∀ x ∈ tr, x.2 = true

def WriteTrace.ownAccepted (tr : WriteTrace) : Prop := ∀ x ∈ tr, x.1.coast = false → x.2 = true

def WriteTrace.coastAccepted (tr : WriteTrace) : Prop := ∀ x ∈ tr, x.1.coast = true → x.2 = true

def WriteTrace.failed (tr : WriteTrace) : Prop := ∃ x ∈ tr, x.2 = false

/-- Not both comparators of a motor are nonzero. -/
def Comparators.single (s : Comparators) (motor : MotorId) : Prop :=
  s ⟨motor, .a⟩ = 0 ∨ s ⟨motor, .b⟩ = 0

/-- The effect of a write on the comparators. -/
def Written (o : ComparatorWrite) (s : Comparators) (ok : Bool) (s' : Comparators) : Prop :=
  s' = s.write o ok

/-- A finished program: its writes, its result and the comparators it leaves. -/
abbrev Finishes {α : Type} (p : MotorDriver α) (s : Comparators) (tr : WriteTrace) (a : α)
    (s' : Comparators) : Prop :=
  Exec Written p s tr (.pure a) s'

theorem finishes_run {α : Type} (p : MotorDriver α) (s : Comparators) (ω : ℕ → Bool) :
    Finishes p s (p.trace Comparators.handle (s, ω)) (p.run Comparators.handle (s, ω)).1
      (p.run Comparators.handle (s, ω)).2.1 := by
  induction p generalizing s ω with
  | pure a => exact .refl _ _
  | op o next ih => exact .step rfl (ih _ _ _)

namespace Comparators

variable {s : Comparators} {c : Comparator} {o : ComparatorWrite} {ok : Bool}

theorem write_of_ne (hc : c ≠ o.comparator) : s.write o ok c = s c := by
  unfold write
  split
  · exact Function.update_of_ne hc _ _
  · rfl

theorem write_of_motor_ne (hc : c.motor ≠ o.comparator.motor) : s.write o ok c = s c :=
  write_of_ne fun h ↦ hc (congrArg Comparator.motor h)

theorem write_self {ticks : ℕ} {coast : Bool} : s.write ⟨c, ticks, coast⟩ true c = ticks :=
  Function.update_self _ _ _

theorem write_zero (ho : o.ticks = 0) (hs : s c = 0) : s.write o ok c = 0 := by
  by_cases hc : c = o.comparator
  · subst hc
    cases ok with
    | true => exact (Function.update_self _ _ _).trans ho
    | false => exact hs
  · rw [write_of_ne hc]
    exact hs

end Comparators

variable {s s' : Comparators} {tr : WriteTrace}

/-! ## One motor -/

/-- What `set_motor_duty` does: `ok` is its result, `tr` are its writes. -/
structure DutyWritten (motor : MotorId) (d : Duty) (s s' : Comparators) (ok : Bool)
    (tr : WriteTrace) : Prop where
  frame : ∀ c, c.motor ≠ motor → s' c = s c
  own : ∀ x ∈ tr, x.1.coast = false ∧ x.1.comparator.motor = motor
  done : ok = true → s'.pair motor = d ∧ tr.accepted
  failed : ok = false → tr.failed

theorem dutyWritten_of_finishes {motor : MotorId} {v : MotorSpeed} {ok : Bool}
    (h : Finishes (setMotorDuty motor v) s tr ok s') : DutyWritten motor v.duty s s' ok tr := by
  obtain ⟨okA, s₁, tr₁, rfl, rfl, h₁⟩ := exec_op_pure h
  cases okA with
  | false =>
    -- the second comparator is not written
    obtain ⟨rfl, rfl, rfl⟩ := exec_pure_pure h₁
    refine ⟨fun _ _ ↦ rfl, ?_, nofun, fun _ ↦ ⟨_, List.mem_cons_self, rfl⟩⟩
    intro x hx
    obtain rfl := List.mem_singleton.mp hx
    exact ⟨rfl, rfl⟩
  | true =>
    obtain ⟨okB, s₂, tr₂, rfl, rfl, h₂⟩ := exec_op_pure h₁
    obtain ⟨rfl, rfl, rfl⟩ := exec_pure_pure h₂
    refine ⟨?_, ?_, ?_, fun hok ↦ ⟨_, List.mem_cons_of_mem _ List.mem_cons_self, hok⟩⟩
    · intro c hc
      rw [Comparators.write_of_motor_ne hc, Comparators.write_of_motor_ne hc]
    · intro x hx
      rcases List.mem_cons.mp hx with rfl | hx
      · exact ⟨rfl, rfl⟩
      · obtain rfl := List.mem_singleton.mp hx
        exact ⟨rfl, rfl⟩
    · intro hok
      subst hok
      constructor
      · have ha : (s.write ⟨⟨motor, .a⟩, v.duty.a, false⟩ true).write
            ⟨⟨motor, .b⟩, v.duty.b, false⟩ true ⟨motor, .a⟩ = v.duty.a := by
          rw [Comparators.write_of_ne (by simp)]
          exact Comparators.write_self
        exact congrArg₂ Duty.mk ha Comparators.write_self
      · intro x hx
        rcases List.mem_cons.mp hx with rfl | hx
        · rfl
        · obtain rfl := List.mem_singleton.mp hx
          rfl

theorem MotorSpeed.motorDuty_val (v : MotorSpeed) : motorDuty v.val = some v.duty :=
  (Option.some_get _).symm

theorem MotorSpeed.duty_single (v : MotorSpeed) : v.duty.a = 0 ∨ v.duty.b = 0 := by
  have hduty := v.motorDuty_val
  generalize v.duty = d at hduty
  unfold motorDuty at hduty
  split_ifs at hduty
  · obtain rfl := Option.some.inj hduty
    exact .inr rfl
  · obtain ⟨_, -, hd⟩ := Option.bind_eq_some_iff.mp hduty
    obtain rfl := Option.some.inj hd
    exact .inl rfl
  · obtain rfl := Option.some.inj hduty
    exact .inl rfl

/-! ## Coasting -/

/-- What `coast` does with the comparators of `motors`. -/
structure Coasted (motors : List MotorId) (s s' : Comparators) (tr : WriteTrace) : Prop where
  frame : ∀ c, c.motor ∉ motors → s' c = s c
  keeps_zero : ∀ c, s c = 0 → s' c = 0
  zero : ∀ c, tr.coasts c → s' c = 0
  coast : ∀ x ∈ tr, x.1.coast = true
  covered : ∀ c : Comparator, c.motor ∈ motors → tr.coastAccepted → tr.coasts c

theorem coasted_of_finishes {motors : List MotorId} (h : Finishes (coast motors) s tr () s') :
    Coasted motors s s' tr := by
  induction motors generalizing s tr with
  | nil =>
    obtain ⟨-, rfl, rfl⟩ := exec_pure_pure h
    exact ⟨fun _ _ ↦ rfl, fun _ h ↦ h, fun _ h ↦ absurd h List.not_mem_nil,
      fun _ h ↦ absurd h List.not_mem_nil, fun _ h ↦ absurd h List.not_mem_nil⟩
  | cons motor rest ih =>
    obtain ⟨okA, s₁, tr₁, rfl, rfl, h₁⟩ := exec_op_pure h
    obtain ⟨okB, s₂, tr₂, rfl, rfl, h₂⟩ := exec_op_pure h₁
    have hrest := ih h₂
    have hin : ∀ {x y z}, x ∈ tr₂ → x ∈ y :: z :: tr₂ := fun hx ↦
      List.mem_cons_of_mem _ (List.mem_cons_of_mem _ hx)
    constructor
    · intro c hc
      obtain ⟨hne, hnot⟩ := not_or.mp (mt List.mem_cons.mpr hc)
      rw [hrest.frame c hnot, Comparators.write_of_motor_ne hne, Comparators.write_of_motor_ne hne]
    · intro c hc
      exact hrest.keeps_zero c (Comparators.write_zero rfl (Comparators.write_zero rfl hc))
    · intro c hc
      rcases List.mem_cons.mp hc with ha | hc
      · cases ha
        exact hrest.keeps_zero _ (Comparators.write_zero rfl Comparators.write_self)
      rcases List.mem_cons.mp hc with hb | hc
      · cases hb
        exact hrest.keeps_zero _ Comparators.write_self
      · exact hrest.zero c hc
    · intro x hx
      rcases List.mem_cons.mp hx with rfl | hx
      · rfl
      rcases List.mem_cons.mp hx with rfl | hx
      · rfl
      · exact hrest.coast x hx
    · rintro ⟨motor', side⟩ hc hall
      rcases List.mem_cons.mp hc with rfl | hc
      · obtain rfl : okA = true := hall _ List.mem_cons_self rfl
        obtain rfl : okB = true := hall _ (List.mem_cons_of_mem _ List.mem_cons_self) rfl
        cases side with
        | a => exact List.mem_cons_self
        | b => exact List.mem_cons_of_mem _ List.mem_cons_self
      · exact hin (hrest.covered _ hc fun x hx ↦ hall x (hin hx))

/-! ## The wheels -/

/-- What the loop over `wheels` does. -/
structure LoopWritten (vals : Wheel → MotorSpeed) (wheels : List Wheel) (s s' : Comparators)
    (failed : Bool) (tr : WriteTrace) : Prop where
  frame : ∀ c, (∀ wheel ∈ wheels, c.motor ≠ .wheel wheel) → s' c = s c
  own : ∀ x ∈ tr, x.1.coast = false ∧ ∃ wheel ∈ wheels, x.1.comparator.motor = .wheel wheel
  done : failed = false →
    tr.accepted ∧ ∀ wheel ∈ wheels, s'.pair (.wheel wheel) = (vals wheel).lift.duty
  failed : failed = true → tr.failed

theorem loopWritten_of_finishes {vals : Wheel → MotorSpeed} {wheels : List Wheel} {failed : Bool}
    (h : Finishes (wheelSetLoop vals wheels) s tr failed s') :
    LoopWritten vals wheels s s' failed tr := by
  induction wheels generalizing s tr with
  | nil =>
    obtain ⟨rfl, rfl, rfl⟩ := exec_pure_pure h
    exact ⟨fun _ _ ↦ rfl, fun _ h ↦ absurd h List.not_mem_nil, fun _ ↦
      ⟨fun _ h ↦ absurd h List.not_mem_nil, fun _ h ↦ absurd h List.not_mem_nil⟩, nofun⟩
  | cons wheel rest ih =>
    obtain ⟨ok, s₁, tr₁, tr₂, rfl, hduty, hrest⟩ := exec_bind_pure h
    have hduty := dutyWritten_of_finishes hduty
    have hown₁ : ∀ x ∈ tr₁, x.1.coast = false ∧
        ∃ wheel' ∈ wheel :: rest, x.1.comparator.motor = .wheel wheel' := fun x hx ↦
      ⟨(hduty.own x hx).1, wheel, List.mem_cons_self, (hduty.own x hx).2⟩
    cases ok with
    | false =>
      obtain ⟨rfl, rfl, rfl⟩ := exec_pure_pure hrest
      rw [List.append_nil]
      exact ⟨fun c hc ↦ hduty.frame c (hc wheel List.mem_cons_self), hown₁, nofun,
        fun _ ↦ hduty.failed rfl⟩
    | true =>
      have hloop := ih hrest
      obtain ⟨hpair, haccepted⟩ := hduty.done rfl
      refine ⟨fun c hc ↦ ?_, fun x hx ↦ ?_, fun hok ↦ ⟨fun x hx ↦ ?_, fun wheel' hwheel ↦ ?_⟩,
        fun hfailed ↦ ?_⟩
      · rw [hloop.frame c fun w hw ↦ hc w (List.mem_cons_of_mem _ hw)]
        exact hduty.frame c (hc wheel List.mem_cons_self)
      · rcases List.mem_append.mp hx with hx | hx
        · exact hown₁ x hx
        · obtain ⟨hcoast, w, hw, hmotor⟩ := hloop.own x hx
          exact ⟨hcoast, w, List.mem_cons_of_mem _ hw, hmotor⟩
      · rcases List.mem_append.mp hx with hx | hx
        · exact haccepted x hx
        · exact (hloop.done hok).1 x hx
      · by_cases hin : wheel' ∈ rest
        · exact (hloop.done hok).2 wheel' hin
        · obtain rfl := (List.mem_cons.mp hwheel).resolve_right hin
          have hkept : ∀ side, s' ⟨.wheel wheel', side⟩ = s₁ ⟨.wheel wheel', side⟩ := fun side ↦
            hloop.frame _ fun w hw h ↦ hin (MotorId.wheel.inj h ▸ hw)
          rw [← hpair]
          exact congrArg₂ Duty.mk (hkept .a) (hkept .b)
      · obtain ⟨x, hx, hrefused⟩ := hloop.failed hfailed
        exact ⟨x, List.mem_append_right _ hx, hrefused⟩

theorem mem_allWheels (wheel : Wheel) : wheel ∈ [Wheel.fl, .fr, .rl, .rr] := by
  cases wheel <;> decide

theorem mem_allMotors (motor : MotorId) :
    motor ∈ [MotorId.wheel .fl, .wheel .fr, .wheel .rl, .wheel .rr, .turret] := by
  rcases motor with (_ | _ | _ | _) | _ <;> decide

/-- What `rccar_motor_wheel_set` must do. -/
structure WheelSetOk (vals : Wheel → MotorSpeed) (s s' : Comparators) (tr : WriteTrace) :
    Prop where
  applied : tr.accepted → s'.pair .turret = s.pair .turret ∧
    ∀ wheel, motorDuty (applyMinSpeed (vals wheel).val) = some (s'.pair (.wheel wheel))
  coasted : tr.failed → ∀ c, tr.coasts c → s' c = 0
  stopped : tr.failed → tr.coastAccepted → ∀ c, s' c = 0

/-- What `rccar_motor_turret_set` must do. -/
structure TurretSetOk (s s' : Comparators) : Prop where
  frame : ∀ wheel side, s' ⟨.wheel wheel, side⟩ = s ⟨.wheel wheel, side⟩

/-- The motors that a call is about. -/
def MotorCall.drives : MotorCall → MotorId → Prop
  | .wheelSet _, .wheel _ | .turretSet _, .turret => True
  | _, _ => False

/-- The motors of a call turn one way, and no other motor is set against itself. -/
structure Singles (call : MotorCall) (s s' : Comparators) : Prop where
  driven : ∀ motor, call.drives motor → s'.single motor
  kept : ∀ motor, s.single motor → s'.single motor

/-- Its own writes or those that coast were accepted. -/
def WriteTrace.settled (tr : WriteTrace) : Prop := tr.ownAccepted ∨ tr.coastAccepted

theorem single_of_pair {motor : MotorId} {v : MotorSpeed} (h : s'.pair motor = v.duty) :
    s'.single motor := by
  have hsingle := v.duty_single
  rw [← h] at hsingle
  exact hsingle

theorem single_congr {motor : MotorId} (h : ∀ side, s' ⟨motor, side⟩ = s ⟨motor, side⟩)
    (hs : s.single motor) : s'.single motor := by
  unfold Comparators.single
  rwa [h .a, h .b]

/-- A call that fails and coasts, or one that does not fail: the two ways a call finishes. -/
theorem wheelSet_cases {vals : Wheel → MotorSpeed}
    (h : Finishes (MotorDriver.rccarMotorWheelSet vals) s tr () s') :
    (LoopWritten vals [.fl, .fr, .rl, .rr] s s' false tr) ∨
    ∃ s₁ tr₁ tr₂, tr = tr₁ ++ tr₂ ∧ LoopWritten vals [.fl, .fr, .rl, .rr] s s₁ true tr₁ ∧
      Coasted [.wheel .fl, .wheel .fr, .wheel .rl, .wheel .rr, .turret] s₁ s' tr₂ := by
  obtain ⟨failed, s₁, tr₁, tr₂, rfl, hloop, hrest⟩ := exec_bind_pure h
  cases failed with
  | false =>
    obtain ⟨-, rfl, rfl⟩ := exec_pure_pure hrest
    rw [List.append_nil]
    exact .inl (loopWritten_of_finishes hloop)
  | true =>
    exact .inr ⟨s₁, tr₁, tr₂, rfl, loopWritten_of_finishes hloop, coasted_of_finishes hrest⟩

theorem turretSet_cases {v : MotorSpeed} (h : Finishes (MotorDriver.rccarMotorTurretSet v) s tr () s') :
    (DutyWritten .turret v.duty s s' true tr) ∨
    ∃ s₁ tr₁ tr₂, tr = tr₁ ++ tr₂ ∧ DutyWritten .turret v.duty s s₁ false tr₁ ∧
      Coasted [.turret] s₁ s' tr₂ := by
  obtain ⟨ok, s₁, tr₁, tr₂, rfl, hduty, hrest⟩ := exec_bind_pure h
  cases ok with
  | true =>
    obtain ⟨-, rfl, rfl⟩ := exec_pure_pure hrest
    rw [List.append_nil]
    exact .inl (dutyWritten_of_finishes hduty)
  | false =>
    exact .inr ⟨s₁, tr₁, tr₂, rfl, dutyWritten_of_finishes hduty, coasted_of_finishes hrest⟩

section Failure

variable {motors : List MotorId} {s₁ : Comparators} {tr₁ tr₂ : WriteTrace}

/-- The writes that coast come after the failure. -/
theorem coasts_append (hown : ∀ x ∈ tr₁, x.1.coast = false) {c : Comparator}
    (hc : WriteTrace.coasts (tr₁ ++ tr₂) c) : tr₂.coasts c := by
  rcases List.mem_append.mp hc with hc | hc
  · exact absurd (hown _ hc) nofun
  · exact hc

theorem coastAccepted_append (h : WriteTrace.coastAccepted (tr₁ ++ tr₂)) : tr₂.coastAccepted :=
  fun x hx ↦ h x (List.mem_append_right _ hx)

/-- After a failure a settled call has accepted the writes that coast. -/
theorem coastAccepted_of_settled (hfailed : tr₁.failed) (hown : ∀ x ∈ tr₁, x.1.coast = false)
    (h : WriteTrace.settled (tr₁ ++ tr₂)) : tr₂.coastAccepted := by
  rcases h with h | h
  · obtain ⟨x, hx, hrefused⟩ := hfailed
    exact absurd (hrefused.symm.trans (h x (List.mem_append_left _ hx) (hown x hx))) nofun
  · exact coastAccepted_append h

theorem Coasted.all_zero (h : Coasted motors s₁ s' tr₂) (haccepted : tr₂.coastAccepted)
    {c : Comparator} (hc : c.motor ∈ motors) : s' c = 0 :=
  h.zero c (h.covered c hc haccepted)

end Failure

theorem wheelSetOk_of_finishes {vals : Wheel → MotorSpeed}
    (h : Finishes (MotorDriver.rccarMotorWheelSet vals) s tr () s') : WheelSetOk vals s s' tr := by
  rcases wheelSet_cases h with hloop | ⟨s₁, tr₁, tr₂, rfl, hloop, hcoast⟩
  · obtain ⟨haccepted, hpairs⟩ := hloop.done rfl
    have hnot : ¬tr.failed := fun ⟨x, hx, hrefused⟩ ↦
      absurd (hrefused.symm.trans (haccepted x hx)) nofun
    refine ⟨fun _ ↦ ⟨?_, fun wheel ↦ ?_⟩, fun h ↦ absurd h hnot, fun h ↦ absurd h hnot⟩
    · exact congrArg₂ Duty.mk (hloop.frame _ nofun) (hloop.frame _ nofun)
    · rw [hpairs wheel (mem_allWheels wheel)]
      exact (vals wheel).lift.motorDuty_val
  · have hown : ∀ x ∈ tr₁, x.1.coast = false := fun x hx ↦ (hloop.own x hx).1
    refine ⟨fun haccepted ↦ ?_, fun _ c hc ↦ hcoast.zero c (coasts_append hown hc), fun _ h c ↦ ?_⟩
    · obtain ⟨x, hx, hrefused⟩ := hloop.failed rfl
      exact absurd (hrefused.symm.trans (haccepted x (List.mem_append_left _ hx))) nofun
    · exact hcoast.all_zero (coastAccepted_append h) (mem_allMotors c.motor)

theorem turretSetOk_of_finishes {v : MotorSpeed} (h : Finishes (MotorDriver.rccarMotorTurretSet v) s tr () s') :
    TurretSetOk s s' := by
  constructor
  intro wheel side
  rcases turretSet_cases h with hduty | ⟨s₁, tr₁, tr₂, rfl, hduty, hcoast⟩
  · exact hduty.frame _ nofun
  · rw [hcoast.frame _ (by simp)]
    exact hduty.frame _ nofun

/-! ## One direction -/

theorem wheelSet_singles {vals : Wheel → MotorSpeed}
    (h : Finishes (MotorDriver.rccarMotorWheelSet vals) s tr () s') (hsettled : tr.settled) :
    Singles (.wheelSet vals) s s' := by
  rcases wheelSet_cases h with hloop | ⟨s₁, tr₁, tr₂, rfl, hloop, hcoast⟩
  · have hwheel : ∀ wheel, s'.single (.wheel wheel) := fun wheel ↦
      single_of_pair ((hloop.done rfl).2 wheel (mem_allWheels wheel))
    constructor
    · intro motor hmotor
      cases motor with
      | wheel wheel => exact hwheel wheel
      | turret => exact hmotor.elim
    · intro motor hs
      cases motor with
      | wheel wheel => exact hwheel wheel
      | turret => exact single_congr (fun side ↦ hloop.frame _ nofun) hs
  · have haccepted := coastAccepted_of_settled (hloop.failed rfl) (fun x hx ↦ (hloop.own x hx).1)
      hsettled
    have hzero : ∀ motor, s'.single motor := fun motor ↦
      .inl (hcoast.all_zero haccepted (mem_allMotors motor))
    exact ⟨fun motor _ ↦ hzero motor, fun motor _ ↦ hzero motor⟩

theorem turretSet_singles {v : MotorSpeed}
    (h : Finishes (MotorDriver.rccarMotorTurretSet v) s tr () s') (hsettled : tr.settled) :
    Singles (.turretSet v) s s' := by
  have hturret : s'.single .turret := by
    rcases turretSet_cases h with hduty | ⟨s₁, tr₁, tr₂, rfl, hduty, hcoast⟩
    · exact single_of_pair (hduty.done rfl).1
    · have haccepted := coastAccepted_of_settled (hduty.failed rfl)
        (fun x hx ↦ (hduty.own x hx).1) hsettled
      exact .inl (hcoast.all_zero haccepted List.mem_cons_self)
  constructor
  · intro motor hmotor
    cases motor with
    | wheel wheel => exact hmotor.elim
    | turret => exact hturret
  · intro motor hs
    cases motor with
    | wheel wheel => exact single_congr ((turretSetOk_of_finishes h).frame wheel) hs
    | turret => exact hturret

theorem singles_next (s : Comparators) (e : MotorEvent) (hsettled : (s.writes e).settled) :
    Singles e.call s (s.next e) := by
  have h := finishes_run e.call.prog s e.accepts
  obtain ⟨call, accepts⟩ := e
  cases call with
  | wheelSet vals => exact wheelSet_singles h hsettled
  | turretSet v => exact turretSet_singles h hsettled

/-! ## Whole runs -/

/-- After the two calls of `rccar_motor_init` no motor is set against itself, if every call so far
was settled. -/
theorem single_of_run {log : List (Entry Comparators MotorEvent)} {s : Comparators}
    (hrun : MotorRun (fun _ s e ↦ (s.writes e).settled) log s) :
    (1 ≤ log.length → ∀ wheel, s.single (.wheel wheel)) ∧
      (2 ≤ log.length → s.single .turret) := by
  refine Run.invariant (I := fun log s ↦ (1 ≤ log.length → ∀ wheel, s.single (.wheel wheel)) ∧
    (2 ≤ log.length → s.single .turret)) ?_ ?_ hrun
  · exact fun s _ ↦ ⟨fun h ↦ absurd h (by decide), fun h ↦ absurd h (by decide)⟩
  · rintro log s e - ⟨hwheels, hturret⟩ ⟨⟨hfirst, hsecond⟩, hsettled⟩
    have hsingles := singles_next s e hsettled
    constructor
    · intro _ wheel
      by_cases hlog : log.length = 0
      · apply hsingles.driven
        rw [hfirst hlog]
        trivial
      · exact hsingles.kept _ (hwheels (by omega) wheel)
    · intro hlen
      rw [List.length_cons] at hlen
      by_cases hlog : log.length = 1
      · apply hsingles.driven
        rw [hsecond hlog]
        trivial
      · exact hsingles.kept _ (hturret (by omega))

/-- All or coast, for every call in every state and for every pattern of refused writes; no motor
that a settled call drives is set against itself, and none at all when every call was settled. -/
theorem motor_all_or_coast :
    (∀ s vals accepts, WheelSetOk vals s (Comparators.next s ⟨.wheelSet vals, accepts⟩)
      (Comparators.writes s ⟨.wheelSet vals, accepts⟩)) ∧
    (∀ s v accepts, TurretSetOk s (Comparators.next s ⟨.turretSet v, accepts⟩)) ∧
    (∀ (s : Comparators) e, (s.writes e).settled → Singles e.call s (s.next e)) ∧
    ∀ log s, MotorRun (fun _ s e ↦ (s.writes e).settled) log s → 2 ≤ log.length →
      ∀ motor, s.single motor := by
  refine ⟨?_, ?_, singles_next, ?_⟩
  · exact fun s vals accepts ↦ wheelSetOk_of_finishes (finishes_run _ s accepts)
  · exact fun s v accepts ↦ turretSetOk_of_finishes (finishes_run _ s accepts)
  · intro log s hrun hlen motor
    obtain ⟨hwheels, hturret⟩ := single_of_run hrun
    cases motor with
    | wheel wheel => exact hwheels (by omega) wheel
    | turret => exact hturret hlen

def stopWheels : MotorEvent := ⟨.wheelSet fun _ ↦ .stop, fun _ ↦ true⟩

def turnTurret (v : MotorSpeed) (accepts : ℕ → Bool) : MotorEvent := ⟨.turretSet v, accepts⟩

/-- The two calls of `rccar_motor_init`, and a turret that turns. -/
def turretTurns : Comparators :=
  ((Comparators.next (fun _ ↦ 0) stopWheels).next (turnTurret .stop fun _ ↦ true)).next
    (turnTurret ⟨384, by decide⟩ fun _ ↦ true)

/-- Only the second write of a wheel command is refused. -/
def refusedWheels : MotorEvent := ⟨.wheelSet fun _ ↦ ⟨384, by decide⟩, fun n ↦ decide (n ≠ 1)⟩

/-- The turret turns until a wheel command is refused, with which all motors coast. -/
theorem motor_all_or_coast_refused : ∃ log s, MotorRun (fun _ s e ↦ (s.writes e).settled) log s ∧
    (∃ before, log.head? = some ⟨before, refusedWheels⟩ ∧ before ⟨.turret, .a⟩ ≠ 0) ∧
      (∀ c, s c = 0) ∧ ∀ motor, s.single motor := by
  have h₀ : MotorRun (fun _ s e ↦ (s.writes e).settled) [] fun _ ↦ 0 := .start trivial
  have h₁ := Run.step stopWheels h₀ ⟨⟨fun _ ↦ rfl, nofun⟩, .inl (by
    unfold WriteTrace.ownAccepted
    decide +kernel)⟩
  have h₂ := Run.step (turnTurret .stop fun _ ↦ true) h₁ ⟨⟨nofun, fun _ ↦ rfl⟩, .inl (by
    unfold WriteTrace.ownAccepted
    decide +kernel)⟩
  have h₃ := Run.step (turnTurret ⟨384, by decide⟩ fun _ ↦ true) h₂ ⟨⟨nofun, nofun⟩, .inl (by
    unfold WriteTrace.ownAccepted
    decide +kernel)⟩
  have hcoast : (turretTurns.writes refusedWheels).coastAccepted := by
    unfold WriteTrace.coastAccepted
    decide +kernel
  have h₄ := Run.step refusedWheels h₃ ⟨⟨nofun, nofun⟩, .inr hcoast⟩
  obtain ⟨hwheels, -, -, hsingle⟩ := motor_all_or_coast
  refine ⟨_, _, h₄, ⟨_, rfl, by decide +kernel⟩, ?_, hsingle _ _ h₄ (by decide)⟩
  refine (hwheels _ _ _).stopped ?_ hcoast
  unfold WriteTrace.failed
  decide +kernel

/-- The turret turns one way; a reversal is refused after its first write, as are the writes that
coast; then a wheel command is accepted, with the turret set against itself. -/
theorem turret_against_itself :
    ¬∀ log s, MotorRun (fun _ _ _ ↦ True) log s → 2 ≤ log.length → ∀ e, (s.writes e).settled →
      ∀ motor, (s.next e).single motor := by
  intro h
  have h₀ : MotorRun (fun _ _ _ ↦ True) [] fun _ ↦ 0 := .start trivial
  have h₁ := Run.step stopWheels h₀ ⟨⟨fun _ ↦ rfl, nofun⟩, trivial⟩
  have h₂ := Run.step (turnTurret .stop fun _ ↦ true) h₁ ⟨⟨nofun, fun _ ↦ rfl⟩, trivial⟩
  have h₃ := Run.step (turnTurret ⟨-384, by decide⟩ fun _ ↦ true) h₂ ⟨⟨nofun, nofun⟩, trivial⟩
  have h₄ := Run.step (turnTurret ⟨384, by decide⟩ fun n ↦ decide (n = 0)) h₃
    ⟨⟨nofun, nofun⟩, trivial⟩
  have hsettled := h _ _ h₄ (by decide) stopWheels (.inl (by
    unfold WriteTrace.ownAccepted
    decide +kernel)) .turret
  revert hsettled
  unfold Comparators.single
  decide +kernel

end Nutcracker
