import Nutcracker.Platform.Cores

/-!
# The invariant rule of the interleavings

A property of the shared state that every permitted operation keeps holds in every interleaving, if
the programs of the threads perform only permitted operations as long as they are answered as that
property promises.
-/

namespace Nutcracker

open Prog

/-- A step that performs an operation leaves the shared state of that operation, but for the program
that the wheel test has still to perform. -/
theorem Cores.next_of_performs (bp : Bluepad32) {s : Cores} {e : CoreEvent} {o : Op}
    (h : s.performs e = some o) : ∃ ω test,
      (s.next bp e).sys = { (exec ω o s.sys).2 with
        motor := { (exec ω o s.sys).2.motor with test := test } } := by
  cases e with
  | enters | expires | begins | elapse => cases h
  | input ω =>
    obtain ⟨rest, hprog⟩ := exists_op_of_nextOp h
    refine ⟨ω, (exec ω o s.sys).2.motor.test, ?_⟩
    unfold Cores.next
    rw [hprog]
    rfl
  | btstack =>
    obtain ⟨rest, hprog⟩ := exists_op_of_nextOp h
    refine ⟨{}, (exec {} o s.sys).2.motor.test, ?_⟩
    unfold Cores.next
    rw [hprog]
    rfl
  | espTimer ω =>
    obtain ⟨rest, hprog⟩ := exists_op_of_nextOp h
    refine ⟨ω, (exec ω o s.sys).2.motor.test, ?_⟩
    unfold Cores.next
    rw [hprog]
    rfl
  | wheelTest =>
    change s.sys.motor.test.prog.nextOp = some o at h
    rcases htest : s.sys.motor.test with ⟨prog, rest⟩
    rw [htest] at h
    obtain ⟨next, rfl⟩ := exists_op_of_nextOp h
    refine ⟨{}, ⟨next (exec {} o s.sys).1, rest.perform (exec {} o s.sys).1⟩, ?_⟩
    change s.sys.stepWheelTest = _
    unfold Sys.stepWheelTest
    rw [htest]

theorem nextOp_ne_none {α : Type} {p : Firmware α} (h : p.finished = false) : p.nextOp ≠ none := by
  obtain ⟨o, next, rfl⟩ := exists_op_of_unfinished h
  exact Option.some_ne_none o

/-- Those who perform operations. -/
inductive CoreThread
  | input | btstack | espTimer | wheelTest

/-- Who performs the operation of a step. -/
def CoreEvent.thread : CoreEvent → Option CoreThread
  | .input _ => some .input
  | .btstack => some .btstack
  | .espTimer _ => some .espTimer
  | .wheelTest => some .wheelTest
  | .enters _ | .expires _ | .begins | .elapse _ => none

/-- What has to be shown once of every program, every operation and every other step. -/
structure CoreRule (bp : Bluepad32) (allows : (o : Op) → o.Ans → Prop)
    (ok : CoreThread → Op → Prop) (J : Sys → Prop) : Prop where
  exec : ∀ thread ω o s, ok thread o → J s → allows o (exec ω o s).1 ∧ J (exec ω o s).2
  round : ∀ t, (inputProcessRound t).Sat allows (ok .input) fun _ ↦ True
  callback : ∀ e, e.onBtstack = true →
    (World.callback bp e).Sat allows (ok .btstack) fun _ ↦ True
  timer : ∀ s t, J s → (s.timers t).isSome = true →
    (timerCallback bp t).Sat allows (ok .espTimer) fun _ ↦ True
  test : ∀ o, WheelTestOp o → ok .wheelTest o
  prepared : ∀ s e, e.onBtstack = true → J s → J (World.prepared s e)
  expire : ∀ s t, J s → J (actuatorCallback (s.timerExpire t) t)
  remaining : ∀ (s : Sys) test, J s → J { s with motor := { s.motor with test := test } }
  elapse : ∀ (s : Sys) us, J s → J { s with clock := s.clock + us }

namespace CoreRule

variable {bp : Bluepad32} {allows : (o : Op) → o.Ans → Prop} {ok : CoreThread → Op → Prop}
  {J : Sys → Prop} {s : Cores} {e : CoreEvent} {log : CoreLog}

/-- The property, and what the threads have still to do. -/
structure Holds (allows : (o : Op) → o.Ans → Prop) (ok : CoreThread → Op → Prop) (J : Sys → Prop)
    (s : Cores) : Prop where
  state : J s.sys
  input : s.input.Sat allows (ok .input) fun _ ↦ True
  btstack : s.btstack.Sat allows (ok .btstack) fun _ ↦ True
  espTimer : s.espTimer.Sat allows (ok .espTimer) fun _ ↦ True

/-- No thread has anything to do yet. -/
theorem holds_idle {sys : Sys} (hsys : J sys) : Holds allows ok J { sys := sys } :=
  ⟨hsys, trivial, trivial, trivial⟩

/-- The next operation of the wheel test is one of the wheel test. -/
theorem wheelTestOp_of_nextOp {sys : Sys} {o : Op} (h : sys.motor.test.prog.nextOp = some o) :
    WheelTestOp o := by
  rcases htest : sys.motor.test with ⟨prog, rest⟩
  rw [htest] at h
  obtain ⟨next, rfl⟩ := exists_op_of_nextOp h
  exact (onlyWheelTest_task.rest rest).1

/-- Every operation that is performed is permitted. -/
theorem Holds.ok_of_performs (rule : CoreRule bp allows ok J) (h : Holds allows ok J s) {o : Op}
    (hperforms : s.performs e = some o) : ∃ thread, e.thread = some thread ∧ ok thread o := by
  cases e with
  | enters | expires | begins | elapse => cases hperforms
  | input ω => exact ⟨.input, rfl, h.input.ok_of_nextOp hperforms⟩
  | btstack => exact ⟨.btstack, rfl, h.btstack.ok_of_nextOp hperforms⟩
  | espTimer ω => exact ⟨.espTimer, rfl, h.espTimer.ok_of_nextOp hperforms⟩
  | wheelTest => exact ⟨.wheelTest, rfl, rule.test o (wheelTestOp_of_nextOp hperforms)⟩

/-- An operation of a thread. -/
theorem advance {α : Type} (rule : CoreRule bp allows ok J) (thread : CoreThread) {p : Firmware α}
    {sys : Sys} (ω : Oracle) (hsys : J sys) (hp : p.Sat allows (ok thread) fun _ ↦ True) :
    J (p.advance (Nutcracker.exec ω) sys).2 ∧
      (p.advance (Nutcracker.exec ω) sys).1.Sat allows (ok thread) fun _ ↦ True := by
  cases p with
  | pure a => exact ⟨hsys, trivial⟩
  | op o next =>
    obtain ⟨hanswer, hnext⟩ := rule.exec thread ω o sys hp.1 hsys
    exact ⟨hnext, hp.2 _ hanswer⟩

theorem stepWheelTest (rule : CoreRule bp allows ok J) {sys : Sys} (hsys : J sys) :
    J sys.stepWheelTest := by
  unfold Sys.stepWheelTest
  split
  · exact hsys
  · rename_i o next rest heq
    apply rule.remaining
    exact (rule.exec .wheelTest {} o sys (rule.test o (onlyWheelTest_task.rest rest).1) hsys).2

theorem holds_next (rule : CoreRule bp allows ok J) (h : Holds allows ok J s) (he : s.Enabled e) :
    Holds allows ok J (s.next bp e) := by
  cases e with
  | enters e =>
    exact ⟨rule.prepared s.sys e he.2.1 h.state, h.input, rule.callback e he.2.1, h.espTimer⟩
  | expires t =>
    obtain ⟨-, -, alarm, halarm, -⟩ := he
    have hsome : (s.sys.timers t).isSome = true := Option.isSome_of_mem halarm
    exact ⟨rule.expire s.sys t h.state, h.input, h.btstack, rule.timer s.sys t h.state hsome⟩
  | begins =>
    exact ⟨h.state, h.input.bind fun t _ ↦ rule.round t, h.btstack, h.espTimer⟩
  | input ω =>
    obtain ⟨hstate, hinput⟩ := rule.advance .input ω h.state h.input
    exact ⟨hstate, hinput, h.btstack, h.espTimer⟩
  | btstack =>
    obtain ⟨hstate, hbtstack⟩ := rule.advance .btstack {} h.state h.btstack
    exact ⟨hstate, h.input, hbtstack, h.espTimer⟩
  | espTimer ω =>
    obtain ⟨hstate, hespTimer⟩ := rule.advance .espTimer ω h.state h.espTimer
    exact ⟨hstate, h.input, h.btstack, hespTimer⟩
  | wheelTest => exact ⟨rule.stepWheelTest h.state, h.input, h.btstack, h.espTimer⟩
  | elapse us => exact ⟨rule.elapse s.sys us h.state, h.input, h.btstack, h.espTimer⟩

/-- The property holds after every interleaving from a state with it. -/
theorem holds_of_run (rule : CoreRule bp allows ok J) {guard : CoreLog → Cores → CoreEvent → Prop}
    {init : Cores → Prop} (hinit : ∀ s, init s → Holds allows ok J s)
    (hrun : Run (Cores.next bp) (fun log s e ↦ s.Enabled e ∧ guard log s e) init log s) :
    Holds allows ok J s :=
  hrun.invariant (I := fun _ s ↦ Holds allows ok J s) hinit fun _ _ _ _ h hok ↦
    rule.holds_next h hok.1

end CoreRule

end Nutcracker
