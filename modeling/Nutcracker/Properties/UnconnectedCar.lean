import Nutcracker.Properties.CoreThreads

/-!
# The unconnected car

The callback that drops the connection raises the cancel flag of the wheel test, and a round that
begins afterwards shows the exhibit, which turns no wheel.  A round that is already past its last
look at the connection goes on: it may still turn the wheels, until the exhibit stops them, and it may
still start a wheel test, where a start clears the flag.
-/

namespace Nutcracker

open Prog

variable {bp : Bluepad32} {log : CoreLog} {s : Cores} {e : CoreEvent} {ω : Oracle}

/-! ## Since the connection was dropped -/

namespace Cores

/-- The operation of a step of the btstack thread. -/
def btstackOp (s : Cores) : CoreEvent → Option Op
  | .btstack => s.btstack.nextOp
  | _ => none

/-- The operation of a step of the wheel test. -/
def testOp (s : Cores) : CoreEvent → Option Op
  | .wheelTest => s.sys.motor.test.prog.nextOp
  | _ => none

/-- A tick of the exhibit stops the wheels. -/
def exhibitStops (s : Cores) : CoreEvent → Bool
  | .input _ =>
    match s.input.nextOp with
    | some (.call .exhibit (.wheelSet _)) => true
    | _ => false
  | _ => false

end Cores

/-- What an operation writes to the connection. -/
def connectedWritten : Op → Option Bool
  | .set .connected connected => some connected
  | _ => none

/-- What has happened since the callback for the last ready device has dropped the connection, as
long as no device is ready. -/
structure Dropped where
  down : Bool := false
  /-- The callback has raised the cancel flag. -/
  raised : Bool := false
  /-- It has returned. -/
  returned : Bool := false
  /-- The round that was in flight has ended. -/
  ended : Bool := false
  /-- The exhibit has stopped the wheels since then. -/
  stilled : Bool := false
  /-- What the wheel test has done since the flag was raised. -/
  test : WindDown := {}
  /-- It has looked at the flag. -/
  looked : Bool := false

def Dropped.after (d : Dropped) (s : Cores) (e : CoreEvent) (s' : Cores) : Dropped :=
  let down := d.down || decide ((s.btstackOp e).bind connectedWritten = some false)
  if 0 < s'.sys.plat.readyCount then {}
  else
    { down := down
      raised := d.raised || (d.down && decide ((s.btstackOp e).bind cancelWritten = some true))
      returned := d.returned || (d.raised && s'.btstack.finished)
      ended := down && (d.ended || s'.input.finished)
      stilled := d.stilled || (d.raised && d.ended && s.exhibitStops e)
      test := if d.raised then (s.testOp e).elim d.test d.test.after else d.test
      looked := d.looked || (d.raised && (s.testOp e).any looksAtCancel) }

/-- What has happened in a run. -/
def dropped (bp : Bluepad32) : CoreLog → Dropped
  | [] => {}
  | ⟨s, e⟩ :: log => (dropped bp log).after s e (s.next bp e)

/-- The callback has returned, and the round that was in flight has ended. -/
def Dropped.unconnected (d : Dropped) : Bool := d.returned && d.ended

/-- No wheel test goes on, and no command turns a wheel, except for one command of a test that was
past its look at the flag, which stops the wheel before it waits. -/
structure CommandsCease (d : Dropped) (s : Cores) : Prop where
  cancelled : s.sys.motor.test.prog.finished = false → s.sys.motor.testCancel = true ∧
    QuitsFrom s.sys.motor.test.prog wheelTestQuitOps d.looked
  once : d.test.spins ≤ 1
  stopped : d.test.spinning = true → s.sys.motor.test.prog.finished = false ∧
    ∀ ticks, s.performs .wheelTest ≠ some (.vTaskDelay ticks)
  silent : ∀ e origin speeds, s.performs e = some (.call origin (.wheelSet speeds)) →
    speeds ≠ .zero → e = .wheelTest ∧ d.looked = false

/-- No wheel test is created with the cancel flag down once the callback has raised it. -/
def CreatesCancelled (bp : Bluepad32) (log : CoreLog) (s : Cores) : CoreEvent → Prop
  | .input ω => ω.taskCreated = true ∧ s.input.nextOp.any createsTest = true →
    (dropped bp log).raised = true → s.sys.motor.testCancel = true
  | _ => True

instance (bp : Bluepad32) (log : CoreLog) (s : Cores) :
    (e : CoreEvent) → Decidable (CreatesCancelled bp log s e)
  | .input _ => inferInstanceAs (Decidable (_ → _ → _))
  | .enters _ | .expires _ | .begins | .btstack | .espTimer _ | .wheelTest | .elapse _ =>
    .isTrue trivial

/-! ## Since the flag was raised -/

/-- What holds of a wheel test once the callback has raised the flag. -/
structure Cancelled (d : Dropped) (s : Sys) : Prop where
  winds : WindsDownFrom s.motor.test.prog d.test
  quits : QuitsFrom s.motor.test.prog wheelTestQuitOps d.looked
  spins : d.test.spins ≤ 1
  flag : s.motor.test.prog.finished = false → s.motor.testCancel = true

/-- Only a wheel test has a wheel turn. -/
def Stilled (d : Dropped) (s : Sys) : Prop := s.motor.wheels ≠ .zero → d.test.spinning = true

/-- What holds since the connection was dropped. -/
structure DroppedInv (d : Dropped) (s : Cores) : Prop where
  down : d.down = true → s.sys.plat.connected = false
  returned : d.returned = true → d.raised = true
  ended : d.ended = true → d.down = true ∧
    s.input.Sat (Answers false) (RoundOp false) fun _ ↦ True
  calm : d.raised = false → d.test = {} ∧ d.looked = false
  cancelled : d.raised = true → Cancelled d s.sys
  stilled : d.stilled = true → d.raised = true ∧ d.ended = true ∧ Stilled d s.sys

theorem droppedInv_none (s : Cores) : DroppedInv {} s where
  down := nofun
  returned := nofun
  ended := nofun
  calm _ := ⟨rfl, rfl⟩
  cancelled := nofun
  stilled := nofun

section After

variable {d : Dropped}

theorem connected_of_down (h : DroppedInv d s) (hthreads : ThreadsInv s) (he : s.Enabled e)
    (hcount : ¬0 < (s.next bp e).sys.plat.readyCount) (hdown : (d.down ||
      decide ((s.btstackOp e).bind connectedWritten = some false)) = true) :
    (s.next bp e).sys.plat.connected = false := by
  by_cases hbtstack : e = .btstack
  · subst hbtstack
    obtain ⟨o, rest, hprog⟩ := exists_op_of_unfinished he
    obtain ⟨positive, hfollows, hpositive⟩ := hthreads.btstack
    rw [hprog] at hfollows
    rw [next_btstack hprog] at hcount ⊢
    have hop : s.btstackOp .btstack = some o := by
      change s.btstack.nextOp = some o
      rw [hprog]
      rfl
    by_cases hset : ∃ x, o = .set .connected x
    · obtain ⟨x, rfl⟩ := hset
      cases x with
      | true => exact absurd (hpositive (hfollows.1.2 rfl)) hcount
      | false => rfl
    · have hsame := connected_exec (ω := {}) (s := s.sys) fun x h ↦ hset ⟨x, h⟩
      refine hsame.trans (h.down ?_)
      have hwritten : connectedWritten o = none := by
        cases o with
        | set v x =>
          cases v with
          | connected => exact absurd ⟨x, rfl⟩ hset
          | _ => rfl
        | _ => rfl
      rw [hop, Option.bind_some, hwritten] at hdown
      simpa using hdown
  · have hop : s.btstackOp e = none := by
      cases e <;> first | rfl | exact absurd rfl hbtstack
    rw [hop] at hdown
    rw [(hthreads.samePlat he hbtstack bp).connected]
    exact h.down (by simpa using hdown)

/-- A round that began after the connection was dropped never finds one. -/
theorem exhibit_of_ended (h : DroppedInv d s) (he : s.Enabled e)
    (hended : (d.ended || (s.next bp e).input.finished) = true) :
    (s.next bp e).input.Sat (Answers false) (RoundOp false) fun _ ↦ True := by
  rcases Bool.or_eq_true_iff.mp hended with hended | hfinished
  · obtain ⟨hdown, hsat⟩ := h.ended hended
    cases e with
    | begins =>
      obtain ⟨t, hprog⟩ := exists_pure_of_finished he
      rw [next_begins hprog]
      exact (sat_inputProcessRound false t).post_mono fun _ _ ↦ trivial
    | input ω =>
      obtain ⟨o, rest, hprog⟩ := exists_op_of_unfinished he
      rw [hprog] at hsat
      rw [next_input hprog]
      exact hsat.2 _ (answers_exec (h.down hdown) ω o)
    | _ => exact hsat
  · obtain ⟨t, hprog⟩ := exists_pure_of_finished hfinished
    rw [hprog]
    trivial

theorem quit_allows_of_raised {st : Quit} {o : Op} {s : Sys} (hs : s.motor.testCancel = true) :
    quitProtocol.allows st o (exec {} o s).1 := by
  cases o with
  | get v =>
    cases v with
    | wheelTestCancel => exact hs
    | _ => trivial
  | _ => trivial

/-- A step of the wheel test under the raised flag. -/
theorem Cancelled.wheelTest (h : Cancelled d s.sys) (he : s.Enabled .wheelTest) {d' : Dropped}
    (htest : d'.test = (s.testOp .wheelTest).elim d.test d.test.after)
    (hlooked : d'.looked = (d.looked || (s.testOp .wheelTest).any looksAtCancel)) :
    Cancelled d' (s.next bp .wheelTest).sys := by
  obtain ⟨o, next, hprog, ho, hnext, -, hcancel, -⟩ := stepWheelTest_spec he
  have hflag := h.flag he
  have hop : s.testOp .wheelTest = some o := by
    change s.sys.motor.test.prog.nextOp = some o
    rw [hprog]
    rfl
  obtain ⟨hwinds, hquits, hspins, -⟩ := h
  rw [hprog] at hwinds hquits
  rw [hop] at htest hlooked
  have hwinds' := hwinds.2 _ (allows_of_raised hflag)
  have hquits' := hquits.2 _ (quit_allows_of_raised hflag)
  refine ⟨?_, ?_, ?_, fun _ ↦ hcancel.trans hflag⟩
  · rw [htest]
    change WindsDownFrom s.sys.stepWheelTest.motor.test.prog (d.test.after o)
    rw [hnext]
    exact hwinds'
  · rw [hlooked]
    change QuitsFrom s.sys.stepWheelTest.motor.test.prog wheelTestQuitOps
      (d.looked || looksAtCancel o)
    rw [hnext]
    exact QuitsFrom.mono hquits' (Nat.sub_le wheelTestQuitOps 1)
  · rw [htest]
    exact hwinds.1.1

/-- A step of another thread under the raised flag. -/
theorem Cancelled.other (h : Cancelled d s.sys) (hthreads : ThreadsInv s) (he : s.Enabled e)
    (htest : e ≠ .wheelTest) (hcreates : ∀ ω, e = .input ω →
      ω.taskCreated = true ∧ s.input.nextOp.any createsTest = true → s.sys.motor.testCancel = true)
    {d' : Dropped} (htest' : d'.test = d.test) (hlooked : d'.looked = d.looked) :
    Cancelled d' (s.next bp e).sys := by
  by_cases hinput : ∃ ω, e = .input ω
  · obtain ⟨ω, rfl⟩ := hinput
    obtain ⟨o, rest, hprog⟩ := exists_op_of_unfinished he
    obtain ⟨null, hfollows, hnull⟩ := hthreads.input
    rw [hprog] at hfollows
    have hcancel := testCancel_exec ω o s.sys
    have hcreates := hcreates ω rfl
    rw [hprog] at hcreates
    rw [next_input hprog]
    by_cases hcreate : ω.taskCreated = true ∧ createsTest o = true
    · have hraised := hcreates hcreate
      obtain ⟨hcreated, ho⟩ := hcreate
      obtain rfl : o = .createWheelTest := by
        cases o <;> first | rfl | cases ho
      have hfresh : (exec ω .createWheelTest s.sys).2.motor.test.prog = wheelTestTask := by
        change (if ω.taskCreated then s.sys.startTest else s.sys).motor.test.prog = _
        rw [hcreated]
        rfl
      refine ⟨?_, ?_, htest' ▸ h.spins, fun _ ↦ hcancel.trans hraised⟩
      · rw [hfresh, htest']
        exact windsDownFrom_task h.spins
      · rw [hfresh]
        exact quitsFrom_task d'.looked
    · have hsame := test_input hcreate s.sys
      refine ⟨?_, ?_, htest' ▸ h.spins, fun hunfinished ↦ ?_⟩
      · rw [htest']
        change WindsDownFrom (exec ω o s.sys).2.motor.test.prog d.test
        rw [hsame]
        exact h.winds
      · rw [hlooked]
        change QuitsFrom (exec ω o s.sys).2.motor.test.prog wheelTestQuitOps d.looked
        rw [hsame]
        exact h.quits
      · change (exec ω o s.sys).2.motor.test.prog.finished = false at hunfinished
        rw [hsame] at hunfinished
        refine hcancel.trans ?_
        cases hwrite : cancelWritten o with
        | none => exact h.flag hunfinished
        | some cancel =>
          cases cancel with
          | true => rfl
          | false =>
            -- the flag is cleared only after a null handle has been read
            have hnull := hnull (reset_of_ok hfollows.1.2 hwrite)
            exact Bool.noConfusion (hnull.symm.trans (hthreads.handle hunfinished))
  · have hsame := hthreads.sameTest he (fun ω he ↦ hinput ⟨ω, he⟩) htest bp
    refine ⟨?_, ?_, htest' ▸ h.spins, fun hunfinished ↦ ?_⟩
    · rw [hsame.test, htest']
      exact h.winds
    · rw [hsame.test, hlooked]
      exact h.quits
    · rw [hsame.test] at hunfinished
      rcases hsame.testCancel with hcancel | hcancel
      · exact hcancel.trans (h.flag hunfinished)
      · exact hcancel

/-- A wheel test that has a wheel turn stops it before it waits. -/
theorem Cancelled.spinning (h : Cancelled d s.sys) (hspinning : d.test.spinning = true) :
    s.sys.motor.test.prog.finished = false ∧
      ∀ ticks, s.performs .wheelTest ≠ some (.vTaskDelay ticks) := by
  have hwinds := h.winds
  cases hprog : s.sys.motor.test.prog with
  | pure a =>
    rw [hprog] at hwinds
    exact Bool.noConfusion (hwinds.symm.trans hspinning)
  | op o next =>
    refine ⟨rfl, fun ticks hperforms ↦ ?_⟩
    change s.sys.motor.test.prog.nextOp = _ at hperforms
    rw [hprog] at hwinds hperforms
    obtain rfl := Option.some.inj hperforms
    exact hwinds.1.2 hspinning ticks rfl

/-- Whenever the flag is raised, the wheel test winds down. -/
theorem cancelled_of_raise {o : Op} {rest : o.Ans → Firmware Unit} (hprog : s.btstack = .op o rest)
    (hwrite : cancelWritten o = some true) (houtside : OutsideOp o) {d' : Dropped}
    (htest : d'.test = {}) (hlooked : d'.looked = false) :
    Cancelled d' (s.next bp .btstack).sys := by
  have hsame := sameTest_exec houtside {} s.sys
  rw [next_btstack hprog]
  refine ⟨?_, ?_, ?_, fun _ ↦ ?_⟩
  · rw [htest, hsame.test]
    exact windsDown_task.rest s.sys.motor.test.rest
  · rw [hlooked, hsame.test]
    exact quits_task.rest s.sys.motor.test.rest
  · rw [htest]
    exact Nat.zero_le 1
  · change (exec {} o s.sys).2.motor.testCancel = true
    rw [testCancel_exec, hwrite]
    rfl

/-- The btstack thread raises the flag; nobody else has a step then. -/
theorem exists_raise (hthreads : ThreadsInv s) (he : s.Enabled e)
    (hwrite : (s.btstackOp e).bind cancelWritten = some true) :
    e = .btstack ∧ ∃ o rest, s.btstack = .op o rest ∧ cancelWritten o = some true ∧ OutsideOp o := by
  cases e with
  | btstack =>
    obtain ⟨o, rest, hprog⟩ := exists_op_of_unfinished he
    change s.btstack.nextOp.bind cancelWritten = some true at hwrite
    rw [hprog] at hwrite
    exact ⟨rfl, o, rest, hprog, hwrite, hthreads.btstack_op hprog⟩
  | _ => cases hwrite

/-! ### Wheels that turn -/

/-- An operation sets the wheels or leaves them. -/
theorem wheels_exec_or (ω : Oracle) (o : Op) (sys : Sys) :
    (∃ origin, o = .call origin (.wheelSet (exec ω o sys).2.motor.wheels)) ∨
      (∀ origin speeds, o ≠ .call origin (.wheelSet speeds)) ∧
        (exec ω o sys).2.motor.wheels = sys.motor.wheels := by
  by_cases hset : ∃ origin speeds, o = .call origin (.wheelSet speeds)
  · obtain ⟨origin, speeds, rfl⟩ := hset
    exact .inl ⟨origin, rfl⟩
  · refine .inr ⟨fun origin speeds ho ↦ hset ⟨origin, speeds, ho⟩, ?_⟩
    apply Option.some.inj
    rw [← wheels_exec]
    cases o with
    | call origin c =>
      cases c with
      | wheelSet speeds => exact absurd ⟨origin, speeds, rfl⟩ hset
      | _ => rfl
    | _ => rfl

theorem Stilled.op {sys : Sys} {o : Op} (h : Stilled d sys)
    (ho : ∀ origin speeds, o = .call origin (.wheelSet speeds) → speeds = .zero) :
    Stilled d (exec ω o sys).2 := by
  intro hturns
  rcases wheels_exec_or ω o sys with ⟨origin, heq⟩ | ⟨-, hsame⟩
  · exact absurd (ho origin _ heq) hturns
  · rw [hsame] at hturns
    exact h hturns

/-- A test that turns a wheel is spinning. -/
theorem Stilled.wheelTest (h : Stilled d s.sys) (he : s.Enabled .wheelTest) {d' : Dropped}
    (htest : d'.test = (s.testOp .wheelTest).elim d.test d.test.after) :
    Stilled d' s.sys.stepWheelTest := by
  obtain ⟨o, next, hprog, -⟩ := stepWheelTest_spec he
  have hop : s.testOp .wheelTest = some o := by
    change s.sys.motor.test.prog.nextOp = some o
    rw [hprog]
    rfl
  have hstep : s.sys.stepWheelTest.motor.wheels = (exec {} o s.sys).2.motor.wheels := by
    rcases htest : s.sys.motor.test with ⟨prog, rest⟩
    rw [htest] at hprog
    obtain rfl : prog = .op o next := hprog
    unfold Sys.stepWheelTest
    rw [htest]
  unfold Stilled
  rw [hstep, htest, hop]
  intro hturns
  rcases wheels_exec_or {} o s.sys with ⟨origin, heq⟩ | ⟨hne, hsame⟩
  · rw [heq]
    change (d.test.after (.call origin (.wheelSet _))).spinning = true
    rw [WindDown.after_wheelSet, if_neg hturns]
  · rw [hsame] at hturns
    have hafter : d.test.after o = d.test := by
      cases o with
      | call origin c =>
        cases c with
        | wheelSet speeds => exact absurd rfl (hne origin speeds)
        | _ => rfl
      | _ => rfl
    change (d.test.after o).spinning = true
    rw [hafter]
    exact h hturns

/-- A round of the exhibit turns no wheel. -/
theorem exhibit_wheels {origin : Origin} {speeds : WheelSpeeds}
    (ho : RoundOp false (.call origin (.wheelSet speeds))) : speeds = .zero := by
  rcases ho with h | h | h
  · cases h
  · cases h
  · exact h.2

theorem Stilled.next (h : Stilled d s.sys) (hthreads : ThreadsInv s) (he : s.Enabled e)
    (hinput : s.input.Sat (Answers false) (RoundOp false) fun _ ↦ True) {d' : Dropped}
    (htest : d'.test = (s.testOp e).elim d.test d.test.after) : Stilled d' (s.next bp e).sys := by
  have hsame (hop : s.testOp e = none) : d'.test = d.test := by
    rw [htest, hop]
    rfl
  cases e with
  | wheelTest => exact h.wheelTest he htest
  | enters e =>
    unfold Stilled
    rw [hsame rfl]
    cases e <;> exact h
  | expires t =>
    unfold Stilled
    rw [hsame rfl, show (s.next bp (.expires t)).sys.motor = s.sys.motor from
      motor_actuatorCallback (s.sys.timerExpire t) t]
    exact h
  | begins | elapse =>
    unfold Stilled
    rw [hsame rfl]
    exact h
  | input ω =>
    obtain ⟨o, rest, hprog⟩ := exists_op_of_unfinished he
    rw [hprog] at hinput
    unfold Stilled
    rw [hsame rfl, next_input hprog]
    exact h.op fun origin speeds ho ↦ exhibit_wheels (ho ▸ hinput.1)
  | btstack =>
    obtain ⟨o, rest, hprog⟩ := exists_op_of_unfinished he
    have houtside := hthreads.btstack_op hprog
    unfold Stilled
    rw [hsame rfl, next_btstack hprog]
    exact h.op fun origin speeds ho ↦ (outside_call (ho ▸ houtside)).1 speeds rfl
  | espTimer ω =>
    obtain ⟨o, rest, hprog⟩ := exists_op_of_unfinished he
    obtain ⟨t, ω', hcallback⟩ := hthreads.espTimer_op hprog
    unfold Stilled
    rw [hsame rfl, next_espTimer hprog]
    exact h.op fun origin speeds ho ↦
      (outside_call (outside_of_callback (ho ▸ hcallback))).1 speeds rfl

/-- The tick of the exhibit that stops the wheels. -/
theorem stilled_of_exhibitStops (he : s.Enabled e) (hstops : s.exhibitStops e = true)
    (hinput : s.input.Sat (Answers false) (RoundOp false) fun _ ↦ True) (d' : Dropped) :
    Stilled d' (s.next bp e).sys := by
  cases e with
  | input ω =>
    obtain ⟨o, rest, hprog⟩ := exists_op_of_unfinished he
    rw [hprog] at hinput
    unfold Cores.exhibitStops at hstops
    rw [hprog] at hstops
    cases o with
    | call origin c =>
      cases c with
      | wheelSet speeds =>
        intro hturns
        rw [next_input hprog] at hturns
        exact absurd (exhibit_wheels hinput.1) hturns
      | _ => cases origin <;> cases hstops
    | _ => cases hstops
  | _ => cases hstops

theorem DroppedInv.next (h : DroppedInv d s) (hthreads : ThreadsInv s) (he : s.Enabled e)
    (hcreates : ∀ ω, e = .input ω → ω.taskCreated = true ∧ s.input.nextOp.any createsTest = true →
      d.raised = true → s.sys.motor.testCancel = true) :
    DroppedInv (d.after s e (s.next bp e)) (s.next bp e) := by
  unfold Dropped.after
  by_cases hcount : 0 < (s.next bp e).sys.plat.readyCount
  · rw [if_pos hcount]
    exact droppedInv_none _
  rw [if_neg hcount]
  constructor
  case down => exact connected_of_down h hthreads he hcount
  case returned =>
    intro hreturned
    rcases Bool.or_eq_true_iff.mp hreturned with hreturned | hreturned
    · exact Bool.or_eq_true_iff.mpr (.inl (h.returned hreturned))
    · exact Bool.or_eq_true_iff.mpr (.inl (Bool.and_eq_true_iff.mp hreturned).1)
  case ended =>
    intro hended
    obtain ⟨hdown, hended⟩ := Bool.and_eq_true_iff.mp hended
    exact ⟨hdown, exhibit_of_ended h he hended⟩
  case calm =>
    intro hraised
    have hbefore := (Bool.or_eq_false_iff.mp hraised).1
    obtain ⟨htest, hlooked⟩ := h.calm hbefore
    change (if d.raised then _ else d.test) = _ ∧ (d.looked || (d.raised && _)) = false
    rw [hbefore, hlooked]
    exact ⟨htest, rfl⟩
  case cancelled =>
    intro hraised
    cases hbefore : d.raised with
    | true =>
      have hcancelled := h.cancelled hbefore
      by_cases htest : e = .wheelTest
      · subst htest
        exact hcancelled.wheelTest he rfl rfl
      · have hop : s.testOp e = none := by
          cases e <;> first | rfl | exact absurd rfl htest
        refine hcancelled.other hthreads he htest (fun ω he hcreate ↦ hcreates ω he hcreate hbefore)
          ?_ ?_
        · change (if true then (s.testOp e).elim d.test d.test.after else d.test) = d.test
          rw [hop]
          rfl
        · change (d.looked || (true && (s.testOp e).any looksAtCancel)) = d.looked
          rw [hop]
          exact Bool.or_false _
    | false =>
      change (d.raised || _) = true at hraised
      rw [hbefore, Bool.false_or] at hraised
      have hwrite := of_decide_eq_true (Bool.and_eq_true_iff.mp hraised).2
      obtain ⟨rfl, o, rest, hprog, hwrite, houtside⟩ := exists_raise hthreads he hwrite
      obtain ⟨htest, hlooked⟩ := h.calm hbefore
      refine cancelled_of_raise hprog hwrite houtside ?_ ?_
      · exact htest
      · change (d.looked || (false && _)) = false
        rw [hlooked]
        rfl
  case stilled =>
    intro hstilled
    have hbefore : d.raised = true ∧ d.ended = true := by
      rcases Bool.or_eq_true_iff.mp hstilled with hstilled | hstilled
      · exact ⟨(h.stilled hstilled).1, (h.stilled hstilled).2.1⟩
      · exact Bool.and_eq_true_iff.mp (Bool.and_eq_true_iff.mp hstilled).1
    obtain ⟨hraised, hended⟩ := hbefore
    obtain ⟨hdown, hinput⟩ := h.ended hended
    refine ⟨Bool.or_eq_true_iff.mpr (.inl hraised), ?_, ?_⟩
    · change ((d.down || _) && (d.ended || _)) = true
      rw [hdown, hended]
      rfl
    · rcases Bool.or_eq_true_iff.mp hstilled with hstilled | hstops
      · refine (h.stilled hstilled).2.2.next hthreads he hinput ?_
        change (if d.raised then _ else _) = _
        rw [if_pos hraised]
      · exact stilled_of_exhibitStops he (Bool.and_eq_true_iff.mp hstops).2 hinput _

end After

theorem droppedInv_of_run {bp : Bluepad32} {log : CoreLog} {s : Cores}
    (hrun : CoreRun bp (CreatesCancelled bp) log s) : DroppedInv (dropped bp log) s := by
  refine Run.invariant (I := fun log s ↦ DroppedInv (dropped bp log) s) ?_ ?_ hrun
  · rintro s -
    exact droppedInv_none _
  · rintro log s e hbefore hinv ⟨he, hok⟩
    refine hinv.next (threadsInv_of_run hbefore) he ?_
    rintro ω rfl
    exact hok

/-! ## No wheel turns -/

/-- **The wheel commands cease with the connection**: in whatever order the threads have interleaved,
once the callback that dropped the connection has returned and the round that was in flight has
ended, no wheel test goes on and no command turns a wheel until a device becomes ready.  The one way
out is a wheel test that is created after the flag was cleared. -/
theorem wheel_commands_cease {bp : Bluepad32} {log : CoreLog} {s : Cores}
    (hrun : CoreRun bp (CreatesCancelled bp) log s)
    (hunconnected : (dropped bp log).unconnected = true) : CommandsCease (dropped bp log) s := by
  have hthreads := threadsInv_of_run hrun
  have hinv := droppedInv_of_run hrun
  obtain ⟨hreturned, hended⟩ := Bool.and_eq_true_iff.mp hunconnected
  have hcancelled := hinv.cancelled (hinv.returned hreturned)
  obtain ⟨-, hinput⟩ := hinv.ended hended
  constructor
  case cancelled => exact fun hunfinished ↦ ⟨hcancelled.flag hunfinished, hcancelled.quits⟩
  case once => exact hcancelled.spins
  case stopped => exact hcancelled.spinning
  case silent =>
    intro e origin speeds hperforms hspeeds
    cases e with
    | enters | expires | begins | elapse => cases hperforms
    | input ω =>
      obtain ⟨rest, hprog⟩ := exists_op_of_nextOp hperforms
      rw [hprog] at hinput
      exact absurd (exhibit_wheels hinput.1) hspeeds
    | btstack =>
      obtain ⟨rest, hprog⟩ := exists_op_of_nextOp hperforms
      exact absurd ((outside_call (hthreads.btstack_op hprog)).1 speeds rfl) hspeeds
    | espTimer ω =>
      obtain ⟨rest, hprog⟩ := exists_op_of_nextOp hperforms
      obtain ⟨t, ω', ho⟩ := hthreads.espTimer_op hprog
      exact absurd ((outside_call (outside_of_callback ho)).1 speeds rfl) hspeeds
    | wheelTest =>
      obtain ⟨rest, hprog⟩ := exists_op_of_nextOp hperforms
      have hquits := hcancelled.quits
      rw [hprog] at hquits
      refine ⟨rfl, Bool.eq_false_iff.mpr fun hlooked ↦ hspeeds ?_⟩
      exact hquits.1.2 hlooked

/-! ## Interleavings -/

def callback (e : Event) (ops : ℕ) : List CoreEvent := .enters e :: List.replicate ops .btstack

/-- A pad connects and holds L1 and R1 for three seconds; the round that starts the wheel test is about
to clear the cancel flag. -/
def aboutToStart : List CoreEvent :=
  let ctl : Controller := .gamepad { buttons := { shoulderL := true, shoulderR := true } }
  callback (.deviceConnected (samplePad 1)) 4 ++ callback (.deviceReady (samplePad 1)) 28 ++
    callback (.controllerData (samplePad 1) ctl) 7 ++ .begins :: List.replicate 19 (.input {}) ++
    .elapse 3000000 :: callback (.controllerData (samplePad 1) ctl) 7 ++
    .begins :: List.replicate 13 (.input {})

/-- The whole callback for the device that goes away. -/
def dropsPad : List CoreEvent := callback (.deviceDisconnected (samplePad 1)) 46

/-- The rest of the round that starts the wheel test. -/
def startsTest : List CoreEvent := List.replicate 14 (.input { taskCreated := true })

/-- The pad goes away while the wheel test turns a wheel. -/
theorem wheel_commands_cease_test : ∃ log s,
    CoreRun bluepad32 (CreatesCancelled bluepad32) log s ∧
      s.sys.motor.test.prog.finished = false ∧ CommandsCease (dropped bluepad32 log) s := by
  obtain ⟨log, s, hrun, hend⟩ := exists_coreRun bluepad32 (CreatesCancelled bluepad32)
    (aboutToStart ++ startsTest ++ List.replicate 6 .wheelTest ++ dropsPad)
    (fun r ↦ !r.2.sys.motor.test.prog.finished && (dropped bluepad32 r.1).unconnected)
    (by decide +kernel)
  obtain ⟨hunfinished, hunconnected⟩ := Bool.and_eq_true_iff.mp hend
  exact ⟨log, s, hrun, Bool.not_eq_true' _ |>.mp hunfinished,
    wheel_commands_cease hrun hunconnected⟩

/-- The pad goes away just before the flag is cleared: the wheel test then runs without a
controller, and turns a wheel. -/
theorem wheel_test_outlives_connection : ∃ log s, CoreRun bluepad32 (fun _ _ _ ↦ True) log s ∧
    (dropped bluepad32 log).unconnected = true ∧ s.sys.motor.wheels ≠ .zero ∧
      ¬CommandsCease (dropped bluepad32 log) s := by
  obtain ⟨log, s, hrun, hend⟩ := exists_coreRun bluepad32 (fun _ _ _ ↦ True)
    (aboutToStart ++ dropsPad ++ startsTest ++ List.replicate 6 .wheelTest)
    (fun r ↦ ((dropped bluepad32 r.1).unconnected && decide (r.2.sys.motor.wheels ≠ .zero)) &&
      (!r.2.sys.motor.test.prog.finished && !r.2.sys.motor.testCancel))
    (by decide +kernel)
  obtain ⟨hbegan, hend⟩ := Bool.and_eq_true_iff.mp hend
  obtain ⟨hunconnected, hturns⟩ := Bool.and_eq_true_iff.mp hbegan
  obtain ⟨hunfinished, hclear⟩ := Bool.and_eq_true_iff.mp hend
  refine ⟨log, s, hrun, hunconnected, of_decide_eq_true hturns, fun hcease ↦ ?_⟩
  obtain ⟨hcancel, -⟩ := hcease.cancelled (Bool.not_eq_true' _ |>.mp hunfinished)
  exact Bool.noConfusion (hclear.symm.trans (congrArg not hcancel))

/-! ## The wheels stand still -/

/-- **An unconnected car stands still**: once the callback that dropped the connection has raised the
cancel flag and then the exhibit has stopped the wheels, in a round that began after the connection
was dropped, the wheels stand still in every state until a device becomes ready.  Only a wheel test
that was past its look at the flag may turn a wheel once more; it then still runs under the raised
flag, ends within a bounded number of operations and does not wait before it has stopped the
wheel. -/
theorem unconnected_car_stands_still {bp : Bluepad32} {log : CoreLog} {s : Cores}
    (hrun : CoreRun bp (CreatesCancelled bp) log s) (hstilled : (dropped bp log).stilled = true) :
    s.sys.motor.wheels = .zero ∨
      s.sys.motor.test.prog.finished = false ∧ s.sys.motor.testCancel = true ∧
        (dropped bp log).test.spins ≤ 1 ∧
        QuitsFrom s.sys.motor.test.prog wheelTestQuitOps (dropped bp log).looked ∧
        ∀ ticks, s.performs .wheelTest ≠ some (.vTaskDelay ticks) := by
  have hinv := droppedInv_of_run hrun
  obtain ⟨hraised, -, honly⟩ := hinv.stilled hstilled
  have hcancelled := hinv.cancelled hraised
  by_cases hturns : s.sys.motor.wheels = .zero
  · exact .inl hturns
  · obtain ⟨hunfinished, hwaits⟩ := hcancelled.spinning (honly hturns)
    exact .inr ⟨hunfinished, hcancelled.flag hunfinished, hcancelled.spins, hcancelled.quits, hwaits⟩

/-- The pad goes away while a round is about to set the wheels. -/
def aboutToDrive : List CoreEvent :=
  let ctl : Controller := .gamepad { axisY := -512 }
  callback (.deviceConnected (samplePad 1)) 4 ++ callback (.deviceReady (samplePad 1)) 28 ++
    callback (.controllerData (samplePad 1) ctl) 7 ++ .begins :: List.replicate 13 (.input {}) ++
    dropsPad

/-- The wheels turn although the callback has stopped them, until the next round stops them. -/
theorem unconnected_car_stands_still_late : ∃ log s,
    CoreRun bluepad32 (CreatesCancelled bluepad32) log s ∧
      (∃ entry ∈ log, entry.before.sys.plat.connected = false ∧
        entry.before.sys.motor.wheels ≠ .zero) ∧ s.sys.motor.wheels = .zero := by
  obtain ⟨log, s, hrun, hend⟩ := exists_coreRun bluepad32 (CreatesCancelled bluepad32)
    (aboutToDrive ++ List.replicate 5 (.input {}) ++ .begins :: List.replicate 6 (.input {}))
    (fun r ↦ ((dropped bluepad32 r.1).stilled && r.2.sys.motor.test.prog.finished) &&
      r.1.any fun entry ↦ !entry.before.sys.plat.connected &&
        decide (entry.before.sys.motor.wheels ≠ .zero))
    (by decide +kernel)
  obtain ⟨hend, hlate⟩ := Bool.and_eq_true_iff.mp hend
  obtain ⟨hstilled, hfinished⟩ := Bool.and_eq_true_iff.mp hend
  obtain ⟨entry, hentry, hlate⟩ := List.any_eq_true.mp hlate
  obtain ⟨hdown, hturns⟩ := Bool.and_eq_true_iff.mp hlate
  refine ⟨log, s, hrun, ⟨entry, hentry, Bool.not_eq_true' _ |>.mp hdown, of_decide_eq_true hturns⟩, ?_⟩
  refine (unconnected_car_stands_still hrun hstilled).resolve_right fun htest ↦ ?_
  exact Bool.noConfusion (htest.1.symm.trans hfinished)

end Nutcracker
