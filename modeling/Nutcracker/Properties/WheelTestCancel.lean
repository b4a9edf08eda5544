import Nutcracker.Program.Run
import Nutcracker.Platform.Frame
import Nutcracker.Rccar.WheelTest

/-!
# Cancelling a wheel test

The input task starts and stops wheel tests, any other task may stop one, and the tests run beside
them.  Every access to a flag and every wheel command is a step of its own, and all interleavings are
runs.  A created test gets a place in a list of its own, so that nothing but the code keeps two of
them apart; creation stores the handle before the new task runs.
-/

namespace Nutcracker

open Prog

/-! ## Tasks -/

/-- A call of the input task. -/
inductive TestCall
  | start
  | stop (origin : Origin)

def TestCall.prog : TestCall → Firmware Unit
  | .start => rccarMotorWheelTestStart
  | .stop origin => rccarMotorWheelTestStop origin

/-- The shared state, and what each task has still to do. -/
structure TestTasks where
  sys : Sys
  /-- The call that the input task is in. -/
  input : Firmware Unit := .pure ()
  /-- The stops that other tasks are in. -/
  stops : List (Firmware Unit) := []
  /-- Every test created so far, in the order of creation. -/
  tests : List (Firmware Unit) := []

/-- The task that an operation creates. -/
def spawned : (o : Op) → o.Ans → List (Firmware Unit)
  | .createWheelTest, true => [wheelTestTask]
  | _, _ => []

inductive TestEvent
  | inputCalls (c : TestCall)
  | stopCalled (origin : Origin)
  /-- One operation of the input task, of a stop, of a test. -/
  | input (ω : Oracle)
  | stop (i : ℕ)
  | test (j : ℕ)
  /-- Anything that leaves the flags of the wheel test as they are. -/
  | elsewhere (sys : Sys)

namespace TestTasks

def next (s : TestTasks) : TestEvent → TestTasks
  | .inputCalls c => { s with input := c.prog }
  | .stopCalled origin => { s with stops := s.stops ++ [rccarMotorWheelTestStop origin] }
  | .input ω =>
    match s.input with
    | .pure _ => s
    | .op o rest =>
      let r := exec ω o s.sys
      { s with sys := r.2, input := rest r.1, tests := s.tests ++ spawned o r.1 }
  | .stop i =>
    match s.stops[i]? with
    | some (.op o rest) =>
      let r := exec {} o s.sys
      { s with sys := r.2, stops := s.stops.set i (rest r.1) }
    | _ => s
  | .test j =>
    match s.tests[j]? with
    | some (.op o rest) =>
      let r := exec {} o s.sys
      { s with sys := r.2, tests := s.tests.set j (rest r.1) }
    | _ => s
  | .elsewhere sys => { s with sys := sys }

/-- A call begins when the one before has returned. -/
def Enabled (s : TestTasks) : TestEvent → Prop
  | .inputCalls _ => s.input.finished = true
  | .elsewhere sys => sys.motor.testTask = s.sys.motor.testTask ∧
    sys.motor.testActive = s.sys.motor.testActive ∧ sys.motor.testCancel = s.sys.motor.testCancel
  | _ => True

/-- The operation that an event performs. -/
def performs (s : TestTasks) : TestEvent → Option Op
  | .input _ => s.input.nextOp
  | .stop i => s.stops[i]?.bind nextOp
  | .test j => s.tests[j]?.bind nextOp
  | .inputCalls _ | .stopCalled _ | .elsewhere _ => none

/-- A test is past its creation and has not come to its end. -/
def Unfinished (s : TestTasks) (j : ℕ) : Prop := ∃ q ∈ s.tests[j]?, q.finished = false

/-- No test has been created yet. -/
def Start (s : TestTasks) : Prop :=
  ∃ sys : Sys, sys.motor.testTask = false ∧ s = { sys := sys }

end TestTasks

/-- The steps of a run so far, latest first. -/
abbrev TestLog := List (Entry TestTasks TestEvent)

abbrev TestRun : TestLog → TestTasks → Prop :=
  Run TestTasks.next (fun _ s e ↦ s.Enabled e) TestTasks.Start

/-! ## Histories -/

/-- What an operation writes to the cancel flag. -/
def cancelWritten : Op → Option Bool
  | .set .wheelTestCancel cancel => some cancel
  | _ => none

/-- The cancel flag was raised for the `j`-th test: since the last reset before its creation. -/
def cancelled (j : ℕ) : TestLog → Bool
  | [] => false
  | entry :: log =>
    match (entry.before.performs entry.event).bind cancelWritten with
    | some true => true
    | some false => decide (j < entry.before.tests.length) && cancelled j log
    | none => cancelled j log

/-- The operation of a step if it is one of the `j`-th test. -/
def ownOp (j : ℕ) (s : TestTasks) : TestEvent → Option Op
  | .test i => if i = j then s.performs (.test i) else none
  | _ => none

/-- What the `j`-th test has done since it was cancelled. -/
def woundDown (j : ℕ) : TestLog → WindDown
  | [] => {}
  | entry :: log =>
    if cancelled j log then (ownOp j entry.before entry.event).elim (woundDown j log)
      (woundDown j log).after
    else woundDown j log

/-- The last wheel command of the `j`-th test. -/
def lastCommand (j : ℕ) : TestLog → Option WheelSpeeds
  | [] => none
  | entry :: log => (ownOp j entry.before entry.event).elim (lastCommand j log)
      (commandAfter (lastCommand j log))

section Histories

variable {log : TestLog} {s : TestTasks} {e : TestEvent} {j : ℕ}

theorem next_stop (i : ℕ) : s.next (.stop i) =
    match s.stops[i]? with
    | some (.op o rest) =>
      { s with
        sys := (exec {} o s.sys).2, stops := s.stops.set i (rest (exec {} o s.sys).1) }
    | _ => s := rfl

theorem performs_stop (i : ℕ) : s.performs (.stop i) = s.stops[i]?.bind nextOp := rfl

theorem next_test (j : ℕ) : s.next (.test j) =
    match s.tests[j]? with
    | some (.op o rest) =>
      { s with
        sys := (exec {} o s.sys).2, tests := s.tests.set j (rest (exec {} o s.sys).1) }
    | _ => s := rfl

theorem performs_test (j : ℕ) : s.performs (.test j) = s.tests[j]?.bind nextOp := rfl

theorem woundDown_of_none (h : ownOp j s e = none) :
    woundDown j (⟨s, e⟩ :: log) = woundDown j log := by
  change (if _ then (ownOp j s e).elim _ _ else _) = _
  rw [h]
  exact ite_self _

theorem lastCommand_of_none (h : ownOp j s e = none) :
    lastCommand j (⟨s, e⟩ :: log) = lastCommand j log := by
  change (ownOp j s e).elim _ _ = _
  rw [h]
  rfl

theorem cancelled_cons : cancelled j (⟨s, e⟩ :: log) =
    match (s.performs e).bind cancelWritten with
    | some true => true
    | some false => decide (j < s.tests.length) && cancelled j log
    | none => cancelled j log := rfl

end Histories

/-! ## The flags -/

section Flags

variable (ω : Oracle) (o : Op) (s : Sys)

theorem testCancel_exec :
    (exec ω o s).2.motor.testCancel = (cancelWritten o).getD s.motor.testCancel := by
  cases o with
  | set v x => cases v <;> rfl
  | call origin c => exact s.call_get origin c .wheelTestCancel
  | createWheelTest =>
    change (if ω.taskCreated then s.startTest else s).motor.testCancel = _
    split <;> rfl
  | timerStartOnce t us => exact congrArg Motor.testCancel (s.timerStartOnce_motor t us)
  | timerStartPeriodic t us => exact congrArg Motor.testCancel (s.timerStartPeriodic_motor t us)
  | _ => rfl

theorem testTask_exec (hset : ∀ task, o ≠ .set .wheelTestTask task)
    (hcreate : o ≠ .createWheelTest) :
    (exec ω o s).2.motor.testTask = s.motor.testTask := by
  cases o with
  | set v x =>
    cases v with
    | wheelTestTask => exact absurd rfl (hset x)
    | _ => rfl
  | call origin c => exact s.call_get origin c .wheelTestTask
  | createWheelTest => exact absurd rfl hcreate
  | timerStartOnce t us => exact congrArg Motor.testTask (s.timerStartOnce_motor t us)
  | timerStartPeriodic t us => exact congrArg Motor.testTask (s.timerStartPeriodic_motor t us)
  | _ => rfl

end Flags

/-! ## The tests -/

/-- What holds of the `j`-th test, of which `q` remains. -/
structure TestInv (log : TestLog) (s : TestTasks) (j : ℕ) (q : Firmware Unit) : Prop where
  rest : Rest wheelTestTask q
  lives : ∃ alive, Lives q alive
  alive : q.finished = false → s.sys.motor.testTask = true ∧ j + 1 = s.tests.length
  stopped : EndsStopped q (lastCommand j log)
  cancel : cancelled j log = true → q.finished = false → s.sys.motor.testCancel = true
  winds : cancelled j log = true → WindsDownFrom q (woundDown j log)

/-- What holds of all tests, and of those still to be created. -/
structure PoolInv (log : TestLog) (s : TestTasks) : Prop where
  tests : ∀ j, ∀ q ∈ s.tests[j]?, TestInv log s j q
  cancel : ∀ j, s.tests.length ≤ j → cancelled j log = true → s.sys.motor.testCancel = true
  unborn : ∀ j, s.tests.length ≤ j → lastCommand j log = none ∧ woundDown j log = {}
  calm : ∀ j, cancelled j log = false → woundDown j log = {}
  spins : ∀ j, (woundDown j log).spins ≤ 1

section Pool

variable {log : TestLog} {s : TestTasks} {e : TestEvent}

/-- A step of another task that creates no test.  It may clear the handle or the cancel flag only if
the handle is null. -/
theorem PoolInv.keep (h : PoolInv log s) (he : ∀ j, ownOp j s e = none)
    (htests : (s.next e).tests = s.tests)
    (hhandle : s.sys.motor.testTask = true → (s.next e).sys.motor.testTask = true)
    (hcancel : (s.next e).sys.motor.testCancel =
      ((s.performs e).bind cancelWritten).getD s.sys.motor.testCancel)
    (hreset : (s.performs e).bind cancelWritten = some false → s.sys.motor.testTask = false) :
    PoolInv (⟨s, e⟩ :: log) (s.next e) := by
  have hcancelled (j : ℕ) := @cancelled_cons log s e j
  refine ⟨fun j q hq ↦ ?_, fun j hj hset ↦ ?_, fun j hj ↦ ?_, fun j hclear ↦ ?_, fun j ↦ ?_⟩
  · rw [htests] at hq
    obtain ⟨hrest, hlives, halive, hstopped, hraised, hwinds⟩ := h.tests j q hq
    refine ⟨hrest, hlives, fun hq ↦ ?_, ?_, fun hset hq ↦ ?_, fun hset ↦ ?_⟩
    · rw [htests]
      exact ⟨hhandle (halive hq).1, (halive hq).2⟩
    · rw [lastCommand_of_none (he j)]
      exact hstopped
    · rw [hcancel]
      cases hwrite : (s.performs e).bind cancelWritten with
      | none =>
        rw [hcancelled, hwrite] at hset
        exact hraised hset hq
      | some cancel =>
        cases cancel with
        | true => rfl
        | false => exact Bool.noConfusion ((hreset hwrite).symm.trans (halive hq).1)
    · rw [woundDown_of_none (he j)]
      cases hbefore : cancelled j log with
      | true => exact hwinds hbefore
      | false =>
        rw [h.calm j hbefore]
        exact windsDown_task.rest hrest
  · rw [htests] at hj
    rw [hcancel]
    cases hwrite : (s.performs e).bind cancelWritten with
    | none =>
      rw [hcancelled, hwrite] at hset
      exact h.cancel j hj hset
    | some cancel =>
      cases cancel with
      | true => rfl
      | false =>
        rw [hcancelled, hwrite] at hset
        have hlt : j < s.tests.length := of_decide_eq_true (Bool.and_eq_true_iff.mp hset).1
        exact absurd hlt (Nat.not_lt.mpr hj)
  · rw [htests] at hj
    rw [lastCommand_of_none (he j), woundDown_of_none (he j)]
    exact h.unborn j hj
  · rw [woundDown_of_none (he j)]
    by_cases hj : s.tests.length ≤ j
    · exact (h.unborn j hj).2
    · apply h.calm
      rw [hcancelled, decide_eq_true (Nat.not_le.mp hj), Bool.true_and] at hclear
      cases hwrite : (s.performs e).bind cancelWritten with
      | none => rwa [hwrite] at hclear
      | some cancel =>
        rw [hwrite] at hclear
        cases cancel with
        | true => exact Bool.noConfusion hclear
        | false => exact hclear
  · rw [woundDown_of_none (he j)]
    exact h.spins j

/-- The input task creates a test while the handle is null. -/
theorem PoolInv.create (h : PoolInv log s) (hnull : s.sys.motor.testTask = false)
    (he : ∀ j, ownOp j s e = none) (htests : (s.next e).tests = s.tests ++ [wheelTestTask])
    (hhandle : (s.next e).sys.motor.testTask = true)
    (hcancel : (s.next e).sys.motor.testCancel = s.sys.motor.testCancel)
    (hwrite : (s.performs e).bind cancelWritten = none) :
    PoolInv (⟨s, e⟩ :: log) (s.next e) := by
  have hcancelled (j : ℕ) : cancelled j (⟨s, e⟩ :: log) = cancelled j log := by
    rw [cancelled_cons, hwrite]
  have hlength : (s.next e).tests.length = s.tests.length + 1 := by
    rw [htests, List.length_append, List.length_singleton]
  refine ⟨fun j q hq ↦ ?_, fun j hj hset ↦ ?_, fun j hj ↦ ?_, fun j hclear ↦ ?_, fun j ↦ ?_⟩
  · rw [htests] at hq
    by_cases hj : j < s.tests.length
    · rw [List.getElem?_append_left hj] at hq
      obtain ⟨hrest, hlives, halive, hstopped, hraised, hwinds⟩ := h.tests j q hq
      have hfinished : q.finished = false → False := fun hq ↦
        Bool.noConfusion (hnull.symm.trans (halive hq).1)
      refine ⟨hrest, hlives, fun hq ↦ (hfinished hq).elim, ?_, fun _ hq ↦ (hfinished hq).elim,
        fun hset ↦ ?_⟩
      · rw [lastCommand_of_none (he j)]
        exact hstopped
      · rw [woundDown_of_none (he j)]
        exact hwinds ((hcancelled j).symm.trans hset)
    · have hj : s.tests.length ≤ j := Nat.not_lt.mp hj
      rw [List.getElem?_append_right hj, Option.mem_def, List.getElem?_singleton] at hq
      split at hq
      · obtain rfl := Option.some.inj hq
        have hlast : j = s.tests.length := by omega
        obtain ⟨hcommand, hwound⟩ := h.unborn j hj
        refine ⟨.refl _, ⟨true, lives_task⟩, fun _ ↦ ⟨hhandle, ?_⟩, ?_, fun hset _ ↦ ?_,
          fun _ ↦ ?_⟩
        · rw [hlength, hlast]
        · rw [lastCommand_of_none (he j), hcommand]
          exact endsStopped_task
        · rw [hcancel]
          exact h.cancel j hj ((hcancelled j).symm.trans hset)
        · rw [woundDown_of_none (he j), hwound]
          exact windsDown_task.here
      · cases hq
  · rw [hlength] at hj
    rw [hcancel]
    exact h.cancel j (Nat.le_of_succ_le hj) ((hcancelled j).symm.trans hset)
  · rw [hlength] at hj
    rw [lastCommand_of_none (he j), woundDown_of_none (he j)]
    exact h.unborn j (Nat.le_of_succ_le hj)
  · rw [woundDown_of_none (he j)]
    exact h.calm j ((hcancelled j).symm.trans hclear)
  · rw [woundDown_of_none (he j)]
    exact h.spins j

theorem cancelWritten_of_test {o : Op} (ho : WheelTestOp o) : cancelWritten o = none := by
  cases o with
  | set v x => cases v <;> first | rfl | exact ho.elim
  | _ => rfl

/-- The handle after an operation of a test. -/
theorem testTask_of_lives {o : Op} {s : Sys} (ho : WheelTestOp o) (hs : s.motor.testTask = true)
    (halive : lifeProtocol.next true o (exec {} o s).1 = true) :
    (exec {} o s).2.motor.testTask = true := by
  by_cases hset : ∃ task, o = .set .wheelTestTask task
  · obtain ⟨task, rfl⟩ := hset
    exact halive
  · rw [testTask_exec]
    · exact hs
    · exact fun task heq ↦ hset ⟨task, heq⟩
    · rintro rfl
      exact ho

theorem allows_of_raised {st : WindDown} {o : Op} {s : Sys} (hs : s.motor.testCancel = true) :
    windDownProtocol.allows st o (exec {} o s).1 := by
  cases o with
  | get v =>
    cases v with
    | wheelTestCancel => exact hs
    | _ => trivial
  | _ => trivial

/-- An operation of the `j`-th test. -/
theorem PoolInv.test (h : PoolInv log s) {j : ℕ} {o : Op} {rest : o.Ans → Firmware Unit}
    (hj : s.tests[j]? = some (.op o rest)) :
    PoolInv (⟨s, .test j⟩ :: log) (s.next (.test j)) := by
  obtain ⟨hrest, ⟨alive, hlives⟩, halive, hstopped, hraised, hwinds⟩ := h.tests j _ hj
  obtain ⟨rfl, ho⟩ : alive = true ∧ WheelTestOp o := hlives.1
  obtain ⟨hhandle, hlast⟩ := halive rfl
  have hperforms : s.performs (.test j) = some o := by
    rw [performs_test, hj]
    rfl
  have hown : ownOp j s (.test j) = some o := (if_pos rfl).trans hperforms
  have hother : ∀ i, i ≠ j → ownOp i s (.test j) = none := fun i hi ↦ if_neg hi.symm
  have hcancelled (i : ℕ) : cancelled i (⟨s, .test j⟩ :: log) = cancelled i log := by
    rw [cancelled_cons, hperforms, Option.bind_some, cancelWritten_of_test ho]
  have hcommand : lastCommand j (⟨s, .test j⟩ :: log) = commandAfter (lastCommand j log) o := by
    change (ownOp j s (.test j)).elim _ _ = _
    rw [hown]
    rfl
  have hwound : woundDown j (⟨s, .test j⟩ :: log) =
      if cancelled j log then (woundDown j log).after o else woundDown j log := by
    change (if cancelled j log then (ownOp j s (.test j)).elim _ _ else _) = _
    rw [hown]
    rfl
  have hnext : s.next (.test j) =
      { s with sys := (exec {} o s.sys).2, tests := s.tests.set j (rest (exec {} o s.sys).1) } := by
    rw [next_test, hj]
  have hflag : (s.next (.test j)).sys.motor.testCancel = s.sys.motor.testCancel := by
    rw [hnext]
    change (exec {} o s.sys).2.motor.testCancel = _
    rw [testCancel_exec, cancelWritten_of_test ho]
    rfl
  have hlength : (s.next (.test j)).tests.length = s.tests.length := by
    rw [hnext]
    exact List.length_set
  refine ⟨fun i q hq ↦ ?_, fun i hi hset ↦ ?_, fun i hi ↦ ?_, fun i hclear ↦ ?_, fun i ↦ ?_⟩
  · rw [hnext] at hq
    by_cases hi : i = j
    · subst hi
      have hlt : i < s.tests.length := by omega
      obtain rfl : rest (exec {} o s.sys).1 = q := by
        rw [List.getElem?_set_self hlt] at hq
        exact Option.some.inj hq
      have hlives' : Lives (rest (exec {} o s.sys).1) (lifeProtocol.next true o _) :=
        hlives.2 _ trivial
      refine ⟨hrest.perform _, ⟨_, hlives'⟩, fun hq ↦ ⟨?_, ?_⟩, ?_, fun hset _ ↦ ?_, fun hset ↦ ?_⟩
      · rw [hnext]
        apply testTask_of_lives ho hhandle
        rw [hlives'.finished] at hq
        simpa using hq
      · rw [hlength]
        exact hlast
      · rw [hcommand]
        exact hstopped.2 _ trivial
      · rw [hflag]
        exact hraised ((hcancelled i).symm.trans hset) rfl
      · have hset : cancelled i log = true := (hcancelled i).symm.trans hset
        rw [hwound, if_pos hset]
        exact (hwinds hset).2 _ (allows_of_raised (hraised hset rfl))
    · -- the others have come to their ends
      have hq : q ∈ s.tests[i]? := by
        rw [List.getElem?_set_ne (Ne.symm hi)] at hq
        exact hq
      obtain ⟨hrest', hlives', halive', hstopped', hraised', hwinds'⟩ := h.tests i q hq
      have hfinished : q.finished = false → False := fun hq ↦ hi (by
        have hlast' := (halive' hq).2
        omega)
      refine ⟨hrest', hlives', fun hq ↦ (hfinished hq).elim, ?_, fun _ hq ↦ (hfinished hq).elim,
        fun hset ↦ ?_⟩
      · rw [lastCommand_of_none (hother i hi)]
        exact hstopped'
      · rw [woundDown_of_none (hother i hi)]
        exact hwinds' ((hcancelled i).symm.trans hset)
  · rw [hlength] at hi
    rw [hflag]
    exact h.cancel i hi ((hcancelled i).symm.trans hset)
  · rw [hlength] at hi
    have hne : i ≠ j := by omega
    rw [lastCommand_of_none (hother i hne), woundDown_of_none (hother i hne)]
    exact h.unborn i hi
  · have hbefore : cancelled i log = false := (hcancelled i).symm.trans hclear
    by_cases hi : i = j
    · subst hi
      rw [hwound, hbefore]
      exact h.calm i hbefore
    · rw [woundDown_of_none (hother i hi)]
      exact h.calm i hbefore
  · by_cases hi : i = j
    · subst hi
      rw [hwound]
      split
      · rename_i hset
        exact (hwinds hset).1.1
      · exact h.spins i
    · rw [woundDown_of_none (hother i hi)]
      exact h.spins i

end Pool

/-! ## Every run -/

/-- What holds between two steps.  The input task may know that the handle is null. -/
structure TasksInv (log : TestLog) (s : TestTasks) : Prop where
  input : ∃ null, s.input.Follows startProtocol (fun _ _ ↦ True) null ∧
    (null = true → s.sys.motor.testTask = false)
  stops : ∀ p ∈ s.stops, p.Sat (fun _ _ ↦ True) StopOp fun _ ↦ True
  pool : PoolInv log s

section Steps

variable {log : TestLog} {s : TestTasks} {e : TestEvent}

/-- A step that leaves the flags and the tests as they are. -/
theorem PoolInv.silent (h : PoolInv log s) (hperforms : s.performs e = none)
    (htests : (s.next e).tests = s.tests)
    (hhandle : (s.next e).sys.motor.testTask = s.sys.motor.testTask)
    (hcancel : (s.next e).sys.motor.testCancel = s.sys.motor.testCancel) :
    PoolInv (⟨s, e⟩ :: log) (s.next e) := by
  have hown (j : ℕ) : ownOp j s e = none := by
    cases e with
    | test i =>
      change (if i = j then s.performs (.test i) else none) = none
      rw [hperforms]
      exact ite_self none
    | _ => rfl
  refine h.keep hown htests (fun h ↦ hhandle.trans h) ?_ ?_
  · rw [hcancel, hperforms]
    rfl
  · rw [hperforms]
    exact nofun

theorem tasksInv_start (hs : s.Start) : TasksInv [] s := by
  obtain ⟨sys, hnull, rfl⟩ := hs
  refine ⟨⟨true, trivial, fun _ ↦ hnull⟩, nofun, ?_⟩
  exact
    { tests := nofun
      cancel := fun _ _ h ↦ Bool.noConfusion h
      unborn := fun _ _ ↦ ⟨rfl, rfl⟩
      calm := fun _ _ ↦ rfl
      spins := fun _ ↦ Nat.zero_le 1 }

theorem follows_call (c : TestCall) (null : Bool) :
    c.prog.Follows startProtocol (fun _ _ ↦ True) null := by
  cases c with
  | start => exact follows_start null
  | stop origin => exact follows_stop null origin

/-- What the stage of the input task promises it, and what it knows afterwards. -/
theorem startProtocol_exec {ω : Oracle} {o : Op} {sys : Sys} {null : Bool}
    (hok : startProtocol.ok null o) (hnull : null = true → sys.motor.testTask = false) :
    startProtocol.allows null o (exec ω o sys).1 ∧
      (startProtocol.next null o (exec ω o sys).1 = true →
        (exec ω o sys).2.motor.testTask = false) := by
  cases o with
  | get v =>
    cases v with
    | wheelTestTask =>
      refine ⟨hnull, fun h ↦ ?_⟩
      have h : (!sys.motor.testTask) = true := h
      simpa using h
    | _ => exact ⟨trivial, hnull⟩
  | createWheelTest =>
    refine ⟨trivial, fun h ↦ ?_⟩
    have h : (null && !ω.taskCreated) = true := h
    obtain ⟨hnull', hfailed⟩ : null = true ∧ ω.taskCreated = false := by simpa using h
    change (if ω.taskCreated then sys.startTest else sys).motor.testTask = false
    rw [hfailed]
    exact hnull hnull'
  | set v x =>
    cases v with
    | wheelTestTask => exact ⟨trivial, fun _ ↦ hok.1⟩
    | _ => exact ⟨trivial, hnull⟩
  | _ =>
    refine ⟨trivial, fun h ↦ ?_⟩
    rw [testTask_exec]
    · exact hnull h
    · exact nofun
    · exact nofun

/-- The handle after an operation of the input task. -/
theorem testTask_of_ok {ω : Oracle} {o : Op} {sys : Sys} {null : Bool}
    (hok : startProtocol.ok null o) (hnull : null = true → sys.motor.testTask = false)
    (hset : sys.motor.testTask = true) : (exec ω o sys).2.motor.testTask = true := by
  have hnot : null = true → False := fun h ↦ Bool.noConfusion ((hnull h).symm.trans hset)
  rw [testTask_exec]
  · exact hset
  · rintro task rfl
    exact hnot hok.2
  · rintro rfl
    exact hnot hok

/-- Only a known null handle lets the input task clear the cancel flag. -/
theorem reset_of_ok {o : Op} {null : Bool} (hok : startProtocol.ok null o)
    (hwrite : cancelWritten o = some false) : null = true := by
  cases o with
  | set v x =>
    cases v with
    | wheelTestCancel => exact hok (Option.some.inj hwrite)
    | _ => cases hwrite
  | _ => cases hwrite

theorem spawned_eq_nil {ω : Oracle} {o : Op} {sys : Sys}
    (hcreate : ¬(o = .createWheelTest ∧ ω.taskCreated = true)) :
    spawned o (exec ω o sys).1 = [] := by
  cases o with
  | createWheelTest =>
    change spawned .createWheelTest ω.taskCreated = []
    rw [Bool.eq_false_iff.mpr fun h ↦ hcreate ⟨rfl, h⟩]
    rfl
  | _ => rfl

/-- A task that has nothing to do does nothing. -/
theorem TasksInv.idle (h : TasksInv log s) (hperforms : s.performs e = none)
    (hsame : s.next e = s) : TasksInv (⟨s, e⟩ :: log) (s.next e) := by
  have hpool := h.pool.silent hperforms (congrArg TestTasks.tests hsame)
    (congrArg (fun s ↦ s.sys.motor.testTask) hsame)
    (congrArg (fun s ↦ s.sys.motor.testCancel) hsame)
  rw [hsame] at hpool ⊢
  exact ⟨h.input, h.stops, hpool⟩

theorem TasksInv.input_step (h : TasksInv log s) (ω : Oracle) :
    TasksInv (⟨s, .input ω⟩ :: log) (s.next (.input ω)) := by
  obtain ⟨null, hfollows, hnull⟩ := h.input
  cases hinput : s.input with
  | pure a =>
    apply h.idle
    · change s.input.nextOp = none
      rw [hinput]
      rfl
    · unfold TestTasks.next
      rw [hinput]
  | op o rest =>
    rw [hinput] at hfollows
    obtain ⟨hok, hrest⟩ := hfollows
    obtain ⟨hallows, hnull'⟩ := startProtocol_exec (ω := ω) hok hnull
    have hnext : s.next (.input ω) =
        { s with
          sys := (exec ω o s.sys).2
          input := rest (exec ω o s.sys).1
          tests := s.tests ++ spawned o (exec ω o s.sys).1 } := by
      unfold TestTasks.next
      rw [hinput]
    have hperforms : s.performs (.input ω) = some o := by
      change s.input.nextOp = some o
      rw [hinput]
      rfl
    have hpool : PoolInv (⟨s, .input ω⟩ :: log) (s.next (.input ω)) := by
      by_cases hcreate : o = .createWheelTest ∧ ω.taskCreated = true
      · obtain ⟨rfl, hcreated⟩ := hcreate
        have hspawned : spawned .createWheelTest ω.taskCreated = [wheelTestTask] := by
          rw [hcreated]
          rfl
        refine h.pool.create (hnull hok) (fun _ ↦ rfl) ?_ ?_ ?_ ?_
        · rw [hnext]
          exact congrArg (s.tests ++ ·) hspawned
        · rw [hnext]
          change (if ω.taskCreated then s.sys.startTest else s.sys).motor.testTask = true
          rw [hcreated]
          rfl
        · rw [hnext]
          exact testCancel_exec ω .createWheelTest s.sys
        · rw [hperforms]
          rfl
      · refine h.pool.keep (fun _ ↦ rfl) ?_ ?_ ?_ fun hwrite ↦ ?_
        · rw [hnext]
          change s.tests ++ spawned o _ = s.tests
          rw [spawned_eq_nil hcreate, List.append_nil]
        · rw [hnext]
          exact testTask_of_ok hok hnull
        · rw [hnext, hperforms]
          exact testCancel_exec ω o s.sys
        · rw [hperforms] at hwrite
          exact hnull (reset_of_ok hok hwrite)
    refine ⟨⟨startProtocol.next null o (exec ω o s.sys).1, ?_, ?_⟩, ?_, hpool⟩
    · rw [hnext]
      exact hrest _ hallows
    · rw [hnext]
      exact hnull'
    · rw [hnext]
      exact h.stops

theorem testTask_of_stop {o : Op} {sys : Sys} (ho : StopOp o) :
    (exec {} o sys).2.motor.testTask = sys.motor.testTask := by
  apply testTask_exec
  · rintro task rfl
    exact ho
  · rintro rfl
    exact ho

theorem cancelWritten_of_stop {o : Op} (ho : StopOp o) : cancelWritten o ≠ some false := by
  cases o with
  | set v x =>
    cases v with
    | wheelTestCancel =>
      obtain rfl : x = true := ho
      exact nofun
    | _ => exact ho.elim
  | _ => exact nofun

theorem TasksInv.stop_step (h : TasksInv log s) (i : ℕ) :
    TasksInv (⟨s, .stop i⟩ :: log) (s.next (.stop i)) := by
  obtain ⟨null, hfollows, hnull⟩ := h.input
  rcases hi : s.stops[i]? with _ | _ | ⟨o, rest⟩
  · exact h.idle (by rw [performs_stop, hi]; rfl) (by rw [next_stop, hi])
  · exact h.idle (by rw [performs_stop, hi]; rfl) (by rw [next_stop, hi])
  · have hp := h.stops _ (List.mem_of_getElem? hi)
    have hperforms : s.performs (.stop i) = some o := by
      rw [performs_stop, hi]
      rfl
    have hnext : s.next (.stop i) =
        { s with
          sys := (exec {} o s.sys).2, stops := s.stops.set i (rest (exec {} o s.sys).1) } := by
      rw [next_stop, hi]
    have hhandle : (s.next (.stop i)).sys.motor.testTask = s.sys.motor.testTask := by
      rw [hnext]
      exact testTask_of_stop hp.1
    refine ⟨⟨null, ?_, fun h ↦ hhandle.trans (hnull h)⟩, fun q hq ↦ ?_, ?_⟩
    · rw [hnext]
      exact hfollows
    · rw [hnext] at hq
      rcases List.mem_or_eq_of_mem_set hq with hq | rfl
      · exact h.stops q hq
      · exact hp.2 _ trivial
    · refine h.pool.keep (fun _ ↦ rfl) ?_ hhandle.trans ?_ fun hwrite ↦ ?_
      · rw [hnext]
      · rw [hnext, hperforms]
        exact testCancel_exec {} o s.sys
      · rw [hperforms] at hwrite
        exact absurd hwrite (cancelWritten_of_stop hp.1)

theorem TasksInv.test_step (h : TasksInv log s) (j : ℕ) :
    TasksInv (⟨s, .test j⟩ :: log) (s.next (.test j)) := by
  obtain ⟨null, hfollows, hnull⟩ := h.input
  rcases hj : s.tests[j]? with _ | _ | ⟨o, rest⟩
  · exact h.idle (by rw [performs_test, hj]; rfl) (by rw [next_test, hj])
  · exact h.idle (by rw [performs_test, hj]; rfl) (by rw [next_test, hj])
  · have hhandle := ((h.pool.tests j _ hj).alive rfl).1
    have hnext : s.next (.test j) =
        { s with
          sys := (exec {} o s.sys).2, tests := s.tests.set j (rest (exec {} o s.sys).1) } := by
      rw [next_test, hj]
    refine ⟨⟨null, ?_, fun h ↦ ?_⟩, ?_, h.pool.test hj⟩
    · rw [hnext]
      exact hfollows
    · exact Bool.noConfusion ((hnull h).symm.trans hhandle)
    · rw [hnext]
      exact h.stops

theorem TasksInv.step (h : TasksInv log s) (he : s.Enabled e) :
    TasksInv (⟨s, e⟩ :: log) (s.next e) := by
  cases e with
  | inputCalls c =>
    exact ⟨⟨false, follows_call c false, nofun⟩, h.stops, h.pool.silent rfl rfl rfl rfl⟩
  | stopCalled origin =>
    refine ⟨h.input, fun p hp ↦ ?_, h.pool.silent rfl rfl rfl rfl⟩
    rcases List.mem_append.mp hp with hp | hp
    · exact h.stops p hp
    · obtain rfl := List.mem_singleton.mp hp
      exact sat_stop origin
  | input ω => exact h.input_step ω
  | stop i => exact h.stop_step i
  | test j => exact h.test_step j
  | elsewhere sys =>
    obtain ⟨hhandle, -, hcancel⟩ := he
    obtain ⟨null, hfollows, hnull⟩ := h.input
    exact ⟨⟨null, hfollows, fun h ↦ hhandle.trans (hnull h)⟩, h.stops,
      h.pool.silent rfl rfl hhandle hcancel⟩

theorem tasksInv_of_run (hrun : TestRun log s) : TasksInv log s :=
  hrun.invariant (I := TasksInv) (fun _ hs ↦ tasksInv_start hs) fun _ _ _ _ h he ↦ h.step he

end Steps

/-! ## Every interleaving -/

/-- In every interleaving at most one test is unfinished; a cancelled test turns at most one wheel
more and never waits while it does; a finished test has left the wheels stopped; and as long as a
test is unfinished, a start does nothing and a raised flag stays raised. -/
theorem wheel_test_cancels {log : TestLog} {s : TestTasks} (hrun : TestRun log s) :
    (∀ i j, s.Unfinished i → s.Unfinished j → i = j) ∧
    (∀ j, (woundDown j log).spins ≤ 1 ∧
      (cancelled j log = true → ∀ ticks, s.performs (.test j) = some (.vTaskDelay ticks) →
        (woundDown j log).spinning = false)) ∧
    (∀ j, ∀ q ∈ s.tests[j]?, q.finished = true → lastCommand j log = some .zero) ∧
    ∀ j, s.Unfinished j →
      (s.input = rccarMotorWheelTestStart →
        ∀ ω, s.next (.input ω) = { s with input := .pure () }) ∧
      s.input.nextOp ≠ some (.set .wheelTestCancel false) ∧
      (cancelled j log = true → s.sys.motor.testCancel = true) := by
  obtain ⟨⟨null, hfollows, hnull⟩, -, hpool⟩ := tasksInv_of_run hrun
  refine ⟨fun i j hi hj ↦ ?_, fun j ↦ ⟨hpool.spins j, fun hset ticks hperforms ↦ ?_⟩,
    fun j q hq hfinished ↦ ?_, fun j hj ↦ ?_⟩
  · obtain ⟨p, hp, hi⟩ := hi
    obtain ⟨q, hq, hj⟩ := hj
    have hi := ((hpool.tests i p hp).alive hi).2
    have hj := ((hpool.tests j q hq).alive hj).2
    omega
  · obtain ⟨q, hq, hop⟩ := Option.bind_eq_some_iff.mp hperforms
    have hwinds := (hpool.tests j q hq).winds hset
    cases q with
    | pure a => cases hop
    | op o rest =>
      obtain rfl := Option.some.inj hop
      exact Bool.eq_false_iff.mpr fun hspinning ↦ hwinds.1.2 hspinning ticks rfl
  · have hstopped := (hpool.tests j q hq).stopped
    cases q with
    | pure a => exact hstopped
    | op o rest => cases hfinished
  · obtain ⟨q, hq, hj⟩ := hj
    have hinv := hpool.tests j q hq
    have hhandle := (hinv.alive hj).1
    refine ⟨fun hinput ω ↦ ?_, fun hreset ↦ ?_, fun hset ↦ hinv.cancel hset hj⟩
    · unfold TestTasks.next
      rw [hinput]
      change { s with
        input := if s.sys.motor.testTask then Prog.pure () else _, tests := s.tests ++ [] } = _
      rw [if_pos hhandle, List.append_nil]
    · cases hinput : s.input with
      | pure a =>
        rw [hinput] at hreset
        cases hreset
      | op o rest =>
        rw [hinput] at hreset hfollows
        obtain rfl := Option.some.inj hreset
        have hreset := hnull (hfollows.1 rfl)
        exact Bool.noConfusion (hreset.symm.trans hhandle)

instance (s : TestTasks) : (e : TestEvent) → Decidable (s.Enabled e)
  | .inputCalls _ => inferInstanceAs (Decidable (_ = _))
  | .elsewhere _ => inferInstanceAs (Decidable (_ ∧ _))
  | .stopCalled _ | .input _ | .stop _ | .test _ => .isTrue trivial

/-- Steps performed one after another from the start, as long as they are enabled, are a run. -/
theorem exists_testRun (events : List TestEvent) (p : TestLog × TestTasks → Bool)
    (h : (Run.replay TestTasks.next (fun _ s e ↦ s.Enabled e) [] { sys := { clock := 1000 } }
      events).any p = true) : ∃ log s, TestRun log s ∧ p (log, s) = true :=
  Run.exists_of_replay events p ⟨_, rfl, rfl⟩ h

/-- A stop between the last look at the flag and the command: one wheel turns once more. -/
theorem wheel_test_cancels_late : ∃ log s, TestRun log s ∧ cancelled 0 log = true ∧
    (woundDown 0 log).spins = 1 ∧ s.sys.motor.testCancel = true ∧
      ∀ i, s.Unfinished i → i = 0 := by
  obtain ⟨log, s, hrun, hend⟩ := exists_testRun
    [.inputCalls .start, .input {}, .input {}, .input {}, .test 0, .test 0, .test 0,
      .stopCalled .callback, .stop 0, .test 0]
    (fun r ↦ decide (cancelled 0 r.1 = true ∧ (woundDown 0 r.1).spins = 1) &&
      (r.2.tests[0]?).any fun q ↦ !q.finished)
    (by decide +kernel)
  obtain ⟨hwound, hany⟩ := Bool.and_eq_true_iff.mp hend
  obtain ⟨hset, hspins⟩ := of_decide_eq_true hwound
  obtain ⟨q, hq, hfinished⟩ := (Option.any_eq_true _ _).mp hany
  have hunfinished : s.Unfinished 0 := ⟨_, hq, by simpa using hfinished⟩
  have hclaim := wheel_test_cancels hrun
  exact ⟨log, s, hrun, hset, hspins, (hclaim.2.2.2 0 hunfinished).2.2 hset, fun i hi ↦
    hclaim.1 i 0 hi hunfinished⟩

end Nutcracker
