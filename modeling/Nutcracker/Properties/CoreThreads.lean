import Nutcracker.Platform.Cores
import Nutcracker.Platform.Unchanged
import Nutcracker.Properties.WheelTestCancel

/-!
# What the threads owe each other

Every thread keeps to a protocol of its own, and the shared variables agree with the stages of all of
them, in whatever order their operations come.
-/

namespace Nutcracker

open Prog

variable {bp : Bluepad32} {log : CoreLog} {s : Cores} {e : CoreEvent} {ω : Oracle}

/-! ## What operations leave alone -/

theorem TaskOp.not_connected {o : Op} (ho : TaskOp o) (x : Bool) : o ≠ .set .connected x := by
  rintro rfl
  exact ho

theorem TaskOp.not_readyCount {o : Op} (ho : TaskOp o) (x : ℤ) : o ≠ .set .readyCount x := by
  rintro rfl
  exact ho

theorem CallbackOp.not_connected {e : Event} {o : Op} (ho : CallbackOp e o) (x : Bool) :
    o ≠ .set .connected x := by
  rintro rfl
  exact Event.Writes.ofCallback (e := e) (v := .connected) ho

theorem CallbackOp.not_readyCount {e : Event} {o : Op} (ho : CallbackOp e o) (x : ℤ) :
    o ≠ .set .readyCount x := by
  rintro rfl
  exact Event.Writes.ofCallback (e := e) (v := .readyCount) ho

theorem OutsideOp.not_create {o : Op} (ho : OutsideOp o) : o ≠ .createWheelTest := by
  rintro rfl
  rcases ho with h | h | ⟨e, h⟩ <;> exact h

theorem OutsideOp.not_testTask {o : Op} (ho : OutsideOp o) (task : Bool) :
    o ≠ .set .wheelTestTask task := by
  rintro rfl
  rcases ho with h | h | ⟨e, h⟩
  · exact h
  · exact h
  · exact Event.Writes.ofCallback (e := e) (v := .wheelTestTask) h

theorem OutsideOp.cancelWritten {o : Op} (ho : OutsideOp o) : cancelWritten o ≠ some false := by
  cases o with
  | set v x =>
    cases v with
    | wheelTestCancel =>
      rcases ho with h | h | ⟨e, h⟩
      · obtain rfl : x = true := h
        exact nofun
      · exact h.elim
      · exact (Event.Writes.ofCallback (e := e) (v := .wheelTestCancel) h).elim
    | _ => exact nofun
  | _ => exact nofun

/-- The parts of the shared state that the connection and the wheel test rest on. -/
structure SameTest (s s' : Sys) : Prop where
  test : s'.motor.test = s.motor.test
  testTask : s'.motor.testTask = s.motor.testTask
  testCancel : s'.motor.testCancel = s.motor.testCancel ∨ s'.motor.testCancel = true

structure SamePlat (s s' : Sys) : Prop where
  connected : s'.plat.connected = s.plat.connected
  readyCount : s'.plat.readyCount = s.plat.readyCount

theorem sameTest_of_motor {s s' : Sys} (h : s'.motor = s.motor) : SameTest s s' where
  test := congrArg Motor.test h
  testTask := congrArg Motor.testTask h
  testCancel := .inl (congrArg Motor.testCancel h)

theorem samePlat_of_plat {s s' : Sys} (h : s'.plat = s.plat) : SamePlat s s' where
  connected := congrArg Platform.connected h
  readyCount := congrArg Platform.readyCount h

theorem sameTest_exec {o : Op} (ho : OutsideOp o) (ω : Oracle) (s : Sys) :
    SameTest s (exec ω o s).2 where
  test := test_exec ho.not_create
  testTask := testTask_exec ω o s ho.not_testTask ho.not_create
  testCancel := by
    rw [testCancel_exec]
    cases hwrite : Nutcracker.cancelWritten o with
    | none => exact .inl rfl
    | some cancel =>
      cases cancel with
      | true => exact .inr rfl
      | false => exact absurd hwrite ho.cancelWritten

theorem samePlat_exec {o : Op} (hconnected : ∀ x, o ≠ .set .connected x)
    (hcount : ∀ x, o ≠ .set .readyCount x) (ω : Oracle) (s : Sys) : SamePlat s (exec ω o s).2 where
  connected := connected_exec hconnected
  readyCount := readyCount_exec hcount

theorem plat_exec_of_test {o : Op} (ho : WheelTestOp o) (s : Sys) :
    (exec {} o s).2.plat = s.plat := by
  cases o with
  | set v x => cases v <;> first | rfl | exact ho.elim
  | call origin c => exact s.call_plat origin c
  | get | vTaskDelay => rfl
  | _ => exact ho.elim

/-- An operation of the wheel test. -/
theorem stepWheelTest_spec {s : Sys} (h : s.motor.test.prog.finished = false) :
    ∃ o next, s.motor.test.prog = .op o next ∧ WheelTestOp o ∧
      s.stepWheelTest.motor.test.prog = next (exec {} o s).1 ∧
      s.stepWheelTest.motor.testTask = (exec {} o s).2.motor.testTask ∧
      s.stepWheelTest.motor.testCancel = s.motor.testCancel ∧ s.stepWheelTest.plat = s.plat := by
  rcases htest : s.motor.test with ⟨_ | ⟨o, next⟩, rest⟩
  · rw [htest] at h
    cases h
  · have ho : WheelTestOp o := (onlyWheelTest_task.rest rest).1
    have hstep : s.stepWheelTest = { (exec {} o s).2 with
        motor := { (exec {} o s).2.motor with
          test := ⟨next (exec {} o s).1, rest.perform (exec {} o s).1⟩ } } := by
      unfold Sys.stepWheelTest
      rw [htest]
    have hcancel : (exec {} o s).2.motor.testCancel = s.motor.testCancel := by
      rw [testCancel_exec, cancelWritten_of_test ho]
      rfl
    refine ⟨o, next, rfl, ho, ?_, ?_, ?_, ?_⟩
    · rw [hstep]
    · rw [hstep]
    · rw [hstep]
      exact hcancel
    · rw [hstep]
      exact plat_exec_of_test ho s

/-! ## The threads -/

/-- What holds of the threads and of what they share, whatever has happened. -/
structure ThreadsInv (s : Cores) : Prop where
  input : ∃ null, FollowsInput s.input null ∧ (null = true → s.sys.motor.testTask = false)
  btstack : ∃ positive, FollowsBtstack s.btstack positive ∧
    (positive = true → 0 < s.sys.plat.readyCount)
  count : 0 ≤ s.sys.plat.readyCount
  espTimer : ∃ t ω, s.espTimer.Sat (fun _ _ ↦ True) (CallbackOp (.timer t ω)) fun _ ↦ True
  lives : ∃ alive, Lives s.sys.motor.test.prog alive
  handle : s.sys.motor.test.prog.finished = false → s.sys.motor.testTask = true

section Suspended

variable {o : Op}

theorem ThreadsInv.input_op {rest : o.Ans → Firmware InputTask} (h : ThreadsInv s)
    (hprog : s.input = .op o rest) : TaskOp o := by
  obtain ⟨null, hfollows, -⟩ := h.input
  rw [hprog] at hfollows
  exact hfollows.1.1

theorem ThreadsInv.btstack_op {rest : o.Ans → Firmware Unit} (h : ThreadsInv s)
    (hprog : s.btstack = .op o rest) : OutsideOp o := by
  obtain ⟨positive, hfollows, -⟩ := h.btstack
  rw [hprog] at hfollows
  exact hfollows.1.1

theorem ThreadsInv.espTimer_op {rest : o.Ans → Firmware Unit} (h : ThreadsInv s)
    (hprog : s.espTimer = .op o rest) : ∃ t ω, CallbackOp (.timer t ω) o := by
  obtain ⟨t, ω, hsat⟩ := h.espTimer
  rw [hprog] at hsat
  exact ⟨t, ω, hsat.1⟩

end Suspended

theorem threadsInv_boot (us volume : ℕ) (initialised : Bool) :
    ThreadsInv (Cores.boot us volume initialised) where
  input := ⟨false, trivial, nofun⟩
  btstack := ⟨false, followsBtstack_onInitComplete initialised false, nofun⟩
  count := le_rfl
  espTimer := ⟨.restart, {}, trivial⟩
  lives := ⟨false, rfl⟩
  handle := nofun

theorem next_input {o : Op} {rest : o.Ans → Firmware InputTask} (h : s.input = .op o rest) :
    s.next bp (.input ω) =
      { s with sys := (exec ω o s.sys).2, input := rest (exec ω o s.sys).1 } := by
  unfold Cores.next
  rw [h]
  rfl

theorem next_begins {t : InputTask} (h : s.input = .pure t) :
    s.next bp .begins = { s with input := inputProcessRound t } := by
  unfold Cores.next
  rw [h]
  rfl

theorem next_btstack {o : Op} {rest : o.Ans → Firmware Unit} (h : s.btstack = .op o rest) :
    s.next bp .btstack =
      { s with sys := (exec {} o s.sys).2, btstack := rest (exec {} o s.sys).1 } := by
  unfold Cores.next
  rw [h]
  rfl

theorem next_espTimer {o : Op} {rest : o.Ans → Firmware Unit} (h : s.espTimer = .op o rest) :
    s.next bp (.espTimer ω) =
      { s with sys := (exec ω o s.sys).2, espTimer := rest (exec ω o s.sys).1 } := by
  unfold Cores.next
  rw [h]
  rfl

/-- The wheel test changes by its own steps and those of the input task, apart from the cancel flag,
which anyone may raise. -/
theorem ThreadsInv.sameTest (h : ThreadsInv s) (he : s.Enabled e) (hinput : ∀ ω, e ≠ .input ω)
    (htest : e ≠ .wheelTest) (bp : Bluepad32) : SameTest s.sys (s.next bp e).sys := by
  cases e with
  | enters e =>
    apply sameTest_of_motor
    cases e <;> rfl
  | expires t => exact sameTest_of_motor (motor_actuatorCallback (s.sys.timerExpire t) t)
  | begins | elapse => exact sameTest_of_motor rfl
  | input ω => exact absurd rfl (hinput ω)
  | wheelTest => exact absurd rfl htest
  | btstack =>
    obtain ⟨o, rest, hprog⟩ := exists_op_of_unfinished he
    rw [next_btstack hprog]
    exact sameTest_exec (h.btstack_op hprog) {} s.sys
  | espTimer ω =>
    obtain ⟨o, rest, hprog⟩ := exists_op_of_unfinished he
    obtain ⟨t, ω', ho⟩ := h.espTimer_op hprog
    rw [next_espTimer hprog]
    exact sameTest_exec (outside_of_callback ho) ω s.sys

/-- The connection and the count change by the steps of the btstack thread. -/
theorem ThreadsInv.samePlat (h : ThreadsInv s) (he : s.Enabled e) (hbtstack : e ≠ .btstack)
    (bp : Bluepad32) : SamePlat s.sys (s.next bp e).sys := by
  cases e with
  | enters e =>
    apply samePlat_of_plat
    cases e <;> rfl
  | expires t =>
    exact samePlat_of_plat (Sys.sameOutside_actuatorCallback (s.sys.timerExpire t) t).2.1
  | begins | elapse => exact samePlat_of_plat rfl
  | btstack => exact absurd rfl hbtstack
  | input ω =>
    obtain ⟨o, rest, hprog⟩ := exists_op_of_unfinished he
    have ho := h.input_op hprog
    rw [next_input hprog]
    exact samePlat_exec ho.not_connected ho.not_readyCount ω s.sys
  | espTimer ω =>
    obtain ⟨o, rest, hprog⟩ := exists_op_of_unfinished he
    obtain ⟨t, ω', ho⟩ := h.espTimer_op hprog
    rw [next_espTimer hprog]
    exact samePlat_exec ho.not_connected ho.not_readyCount ω s.sys
  | wheelTest =>
    obtain ⟨o, next, -, -, -, -, -, hplat⟩ := stepWheelTest_spec he
    exact samePlat_of_plat hplat

/-- What the stage of the btstack thread promises it, and what it knows afterwards. -/
theorem btstackProtocol_exec {o : Op} {sys : Sys} {positive : Bool}
    (hok : btstackProtocol.ok positive o) (hcount : 0 ≤ sys.plat.readyCount)
    (hpositive : positive = true → 0 < sys.plat.readyCount) :
    btstackProtocol.allows positive o (exec {} o sys).1 ∧ 0 ≤ (exec {} o sys).2.plat.readyCount ∧
      (btstackProtocol.next positive o (exec {} o sys).1 = true →
        0 < (exec {} o sys).2.plat.readyCount) := by
  have hidle := (answers_exec rfl {} o (s := sys)).idle
  by_cases hset : ∃ x, o = .set .readyCount x
  · obtain ⟨x, rfl⟩ := hset
    exact ⟨⟨hidle, trivial⟩, hok.2, fun h ↦ of_decide_eq_true h⟩
  rw [readyCount_exec fun x h ↦ hset ⟨x, h⟩]
  refine ⟨⟨hidle, ?_⟩, hcount, ?_⟩
  · cases o with
    | get v => cases v <;> first | exact hcount | exact trivial
    | _ => exact trivial
  · cases o with
    | get v => cases v <;> first | exact fun h ↦ of_decide_eq_true h | exact hpositive
    | set v x =>
      cases v with
      | readyCount => exact absurd ⟨x, rfl⟩ hset
      | _ => exact hpositive
    | _ => exact hpositive

theorem ThreadsInv.input_next (h : ThreadsInv s) (he : s.Enabled e) (bp : Bluepad32) :
    ∃ null, FollowsInput (s.next bp e).input null ∧
      (null = true → (s.next bp e).sys.motor.testTask = false) := by
  obtain ⟨null, hfollows, hnull⟩ := h.input
  by_cases hinput : ∃ ω, e = .input ω
  · obtain ⟨ω, rfl⟩ := hinput
    obtain ⟨o, rest, hprog⟩ := exists_op_of_unfinished he
    rw [hprog] at hfollows
    obtain ⟨hallows, hnull'⟩ := startProtocol_exec (ω := ω) hfollows.1.2 hnull
    refine ⟨startProtocol.next null o (exec ω o s.sys).1, ?_, ?_⟩
    · rw [next_input hprog]
      exact hfollows.2 _ ⟨hallows, (answers_exec rfl ω o).idle⟩
    · rw [next_input hprog]
      exact hnull'
  have hinput : ∀ ω, e ≠ .input ω := fun ω he ↦ hinput ⟨ω, he⟩
  by_cases htest : e = .wheelTest
  · subst htest
    refine ⟨null, hfollows, fun hset ↦ ?_⟩
    exact Bool.noConfusion ((hnull hset).symm.trans (h.handle he))
  have hsame := h.sameTest he hinput htest bp
  by_cases hbegins : e = .begins
  · subst hbegins
    obtain ⟨t, hprog⟩ := exists_pure_of_finished he
    refine ⟨false, ?_, nofun⟩
    rw [next_begins hprog]
    exact followsInput_round t
  · refine ⟨null, ?_, fun hset ↦ hsame.testTask.trans (hnull hset)⟩
    have hinput' : (s.next bp e).input = s.input := by
      cases e with
      | input ω => exact absurd rfl (hinput ω)
      | begins => exact absurd rfl hbegins
      | _ => rfl
    rw [hinput']
    exact hfollows

theorem ThreadsInv.btstack_next (h : ThreadsInv s) (he : s.Enabled e) (bp : Bluepad32) :
    0 ≤ (s.next bp e).sys.plat.readyCount ∧ ∃ positive,
      FollowsBtstack (s.next bp e).btstack positive ∧
        (positive = true → 0 < (s.next bp e).sys.plat.readyCount) := by
  obtain ⟨positive, hfollows, hpositive⟩ := h.btstack
  by_cases hbtstack : e = .btstack
  · subst hbtstack
    obtain ⟨o, rest, hprog⟩ := exists_op_of_unfinished he
    rw [hprog] at hfollows
    rw [next_btstack hprog]
    obtain ⟨hallows, hcount, hnext⟩ := btstackProtocol_exec hfollows.1 h.count hpositive
    exact ⟨hcount, _, hfollows.2 _ hallows, hnext⟩
  · have hcount := (h.samePlat he hbtstack bp).readyCount
    rw [hcount]
    refine ⟨h.count, ?_⟩
    cases e with
    | enters e => exact ⟨false, followsBtstack_callback bp e false, nofun⟩
    | btstack => exact absurd rfl hbtstack
    | _ => exact ⟨positive, hfollows, hpositive⟩

theorem ThreadsInv.espTimer_next (h : ThreadsInv s) (he : s.Enabled e) (bp : Bluepad32) :
    ∃ t ω, (s.next bp e).espTimer.Sat (fun _ _ ↦ True) (CallbackOp (.timer t ω)) fun _ ↦ True := by
  cases e with
  | expires t => exact ⟨t, {}, sat_timerCallback bp t {}⟩
  | espTimer ω =>
    obtain ⟨o, rest, hprog⟩ := exists_op_of_unfinished he
    obtain ⟨t, ω', hsat⟩ := h.espTimer
    rw [hprog] at hsat
    rw [next_espTimer hprog]
    exact ⟨t, ω', hsat.2 _ trivial⟩
  | _ => exact h.espTimer

def createsTest : Op → Bool
  | .createWheelTest => true
  | _ => false

/-- Only a successful creation replaces the wheel test. -/
theorem test_input {o : Op} (hcreate : ¬(ω.taskCreated = true ∧ createsTest o = true)) (s : Sys) :
    (exec ω o s).2.motor.test = s.motor.test := by
  cases o with
  | createWheelTest =>
    have hfailed : ω.taskCreated = false := Bool.eq_false_iff.mpr fun h ↦ hcreate ⟨h, rfl⟩
    change (if ω.taskCreated then s.startTest else s).motor.test = _
    rw [hfailed]
    rfl
  | _ => exact test_exec nofun

theorem ThreadsInv.test_next (h : ThreadsInv s) (he : s.Enabled e) (bp : Bluepad32) :
    (∃ alive, Lives (s.next bp e).sys.motor.test.prog alive) ∧
      ((s.next bp e).sys.motor.test.prog.finished = false →
        (s.next bp e).sys.motor.testTask = true) := by
  by_cases htest : e = .wheelTest
  · subst htest
    obtain ⟨alive, hlives⟩ := h.lives
    obtain ⟨o, next, hprog, ho, hnext, htask, -, -⟩ := stepWheelTest_spec he
    rw [hprog] at hlives
    obtain rfl : alive = true := hlives.1.1
    have hlives' : Lives (s.next bp .wheelTest).sys.motor.test.prog
        (lifeProtocol.next true o (exec {} o s.sys).1) := by
      change Lives s.sys.stepWheelTest.motor.test.prog _
      rw [hnext]
      exact hlives.2 _ trivial
    refine ⟨⟨_, hlives'⟩, fun hunfinished ↦ ?_⟩
    rw [hlives'.finished, Bool.not_eq_false'] at hunfinished
    exact htask.trans (testTask_of_lives ho (h.handle he) hunfinished)
  by_cases hinput : ∃ ω, e = .input ω
  · obtain ⟨ω, rfl⟩ := hinput
    obtain ⟨o, rest, hprog⟩ := exists_op_of_unfinished he
    obtain ⟨null, hfollows, hnull⟩ := h.input
    rw [hprog] at hfollows
    rw [next_input hprog]
    by_cases hcreate : ω.taskCreated = true ∧ createsTest o = true
    · obtain ⟨hcreated, ho⟩ := hcreate
      obtain rfl : o = .createWheelTest := by
        cases o <;> first | rfl | cases ho
      change (∃ alive, Lives (if ω.taskCreated then s.sys.startTest else s.sys).motor.test.prog
        alive) ∧ (_ → (if ω.taskCreated then s.sys.startTest else s.sys).motor.testTask = true)
      rw [hcreated]
      exact ⟨⟨true, lives_task⟩, fun _ ↦ rfl⟩
    · have hsame := test_input hcreate s.sys
      change (∃ alive, Lives (exec ω o s.sys).2.motor.test.prog alive) ∧
        ((exec ω o s.sys).2.motor.test.prog.finished = false →
          (exec ω o s.sys).2.motor.testTask = true)
      rw [hsame]
      exact ⟨h.lives, fun hunfinished ↦ testTask_of_ok hfollows.1.2 hnull (h.handle hunfinished)⟩
  · have hsame := h.sameTest he (fun ω he ↦ hinput ⟨ω, he⟩) htest bp
    rw [hsame.test, hsame.testTask]
    exact ⟨h.lives, h.handle⟩

theorem ThreadsInv.next (h : ThreadsInv s) (he : s.Enabled e) (bp : Bluepad32) :
    ThreadsInv (s.next bp e) where
  input := h.input_next he bp
  btstack := (h.btstack_next he bp).2
  count := (h.btstack_next he bp).1
  espTimer := h.espTimer_next he bp
  lives := (h.test_next he bp).1
  handle := (h.test_next he bp).2

theorem threadsInv_of_run {ok : CoreLog → Cores → CoreEvent → Prop} (hrun : CoreRun bp ok log s) :
    ThreadsInv s := by
  refine Run.invariant (I := fun _ s ↦ ThreadsInv s) ?_ ?_ hrun
  · rintro s ⟨us, volume, initialised, rfl⟩
    exact threadsInv_boot us volume initialised
  · rintro log s e - hinv ⟨he, -⟩
    exact hinv.next he bp

end Nutcracker
