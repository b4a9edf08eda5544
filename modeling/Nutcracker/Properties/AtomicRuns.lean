import Nutcracker.Properties.CoreRegister

/-!
# Atomic callbacks are interleavings

In `World` a callback and a round are one step.  Each such step is a sequence of steps of the threads in
which nobody else takes a turn, so a run of the one is a run of the other, to the same shared state
and with every callback entered in the same shared state.
-/

namespace Nutcracker

open Prog

variable {bp : Bluepad32} {log : CoreLog} {s : Cores}

abbrev FreeRun (bp : Bluepad32) : CoreLog → Cores → Prop := CoreRun bp fun _ _ _ ↦ True

/-- All threads are between two callbacks. -/
def World.threads (w : World) : Cores := { sys := w.sys, input := .pure w.task }

/-- The callbacks of the btstack thread in a run, each with the state that it found. -/
def btstackLog (log : Log) : Log :=
  (log.filter fun entry ↦ entry.event.onBtstack).map fun entry ↦
    ⟨⟨entry.before.sys, {}⟩, entry.event⟩

theorem btstackLog_cons (w : World) (log : Log) {e : Event} (he : e.onBtstack = true) :
    btstackLog (⟨w, e⟩ :: log) = ⟨⟨w.sys, {}⟩, e⟩ :: btstackLog log := by
  simp only [btstackLog, List.filter_cons, he, if_true, List.map_cons]

/-- The input task goes on to the end of its round. -/
theorem exists_input_finished (ω : Oracle) (p : Firmware InputTask)
    (hrun : FreeRun bp log s) (hprog : s.input = p) : ∃ log', FreeRun bp log'
      { s with sys := (p.run (exec ω) s.sys).2, input := .pure (p.run (exec ω) s.sys).1 } ∧
        callbackLog log' = callbackLog log := by
  induction p generalizing log s with
  | pure t =>
    refine ⟨log, ?_, rfl⟩
    change FreeRun bp log { s with input := .pure t }
    rw [← hprog]
    exact hrun
  | op o next ih =>
    have hstep : FreeRun bp (⟨s, .input ω⟩ :: log) (s.next bp (.input ω)) :=
      .step _ hrun ⟨by rw [Cores.Enabled, hprog]; rfl, trivial⟩
    rw [next_input hprog] at hstep
    exact ih (exec ω o s.sys).1 hstep rfl

theorem exists_btstack_finished (p : Firmware Unit) (hrun : FreeRun bp log s)
    (hprog : s.btstack = p) : ∃ log', FreeRun bp log'
      { s with sys := (p.run (exec {}) s.sys).2, btstack := .pure () } ∧
        callbackLog log' = callbackLog log := by
  induction p generalizing log s with
  | pure u =>
    refine ⟨log, ?_, rfl⟩
    change FreeRun bp log { s with btstack := .pure u }
    rw [← hprog]
    exact hrun
  | op o next ih =>
    have hstep : FreeRun bp (⟨s, .btstack⟩ :: log) (s.next bp .btstack) :=
      .step _ hrun ⟨by rw [Cores.Enabled, hprog]; rfl, trivial⟩
    rw [next_btstack hprog] at hstep
    exact ih (exec {} o s.sys).1 hstep rfl

theorem exists_espTimer_finished (ω : Oracle) (p : Firmware Unit) (hrun : FreeRun bp log s)
    (hprog : s.espTimer = p) : ∃ log', FreeRun bp log'
      { s with sys := (p.run (exec ω) s.sys).2, espTimer := .pure () } ∧
        callbackLog log' = callbackLog log := by
  induction p generalizing log s with
  | pure u =>
    refine ⟨log, ?_, rfl⟩
    change FreeRun bp log { s with espTimer := .pure u }
    rw [← hprog]
    exact hrun
  | op o next ih =>
    have hstep : FreeRun bp (⟨s, .espTimer ω⟩ :: log) (s.next bp (.espTimer ω)) :=
      .step _ hrun ⟨by rw [Cores.Enabled, hprog]; rfl, trivial⟩
    rw [next_espTimer hprog] at hstep
    exact ih (exec ω o s.sys).1 hstep rfl

/-- A timer either runs a callback of the platform or one of an actuator. -/
theorem timer_next (bp : Bluepad32) (w : World) (t : Timer) (ω : Oracle) :
    (w.next bp (.timer t ω)).sys =
      ((timerCallback bp t).run (exec ω) (actuatorCallback (w.sys.timerExpire t) t)).2 := by
  cases t <;> rfl

/-- A step of `World` is a sequence of steps of the threads. -/
theorem exists_threads_next {w : World} {e : Event} {wlog : Log} (he : w.Enabled e)
    (hrun : FreeRun bp log w.threads) (hlog : callbackLog log = btstackLog wlog) :
    ∃ log', FreeRun bp log' (w.next bp e).threads ∧
      callbackLog log' = btstackLog (⟨w, e⟩ :: wlog) := by
  have hcallback : ∀ e : Event, e.onBtstack = true → w.Enabled e →
      (w.next bp e).sys = ((World.callback bp e).run (exec {}) (World.prepared w.sys e)).2 →
      (w.next bp e).task = w.task → ∃ log', FreeRun bp log' (w.next bp e).threads ∧
        callbackLog log' = btstackLog (⟨w, e⟩ :: wlog) := by
    intro e hbtstack he hsys htask
    have hstep : FreeRun bp (⟨w.threads, .enters e⟩ :: log) (w.threads.next bp (.enters e)) :=
      .step _ hrun ⟨⟨rfl, hbtstack, by cases e <;> exact he⟩, trivial⟩
    obtain ⟨log', hrun', hlog'⟩ := exists_btstack_finished _ hstep rfl
    refine ⟨log', ?_, hlog'.trans ?_⟩
    · unfold World.threads
      rw [hsys, htask]
      exact hrun'
    · rw [callbackLog_enters, hlog, btstackLog_cons w wlog hbtstack]
      rfl
  cases e with
  | deviceConnected | deviceReady | deviceDisconnected | systemButton | controllerData | deliver =>
    exact hcallback _ rfl he rfl rfl
  | timer t ω =>
    have hstep : FreeRun bp (⟨w.threads, .expires t⟩ :: log) (w.threads.next bp (.expires t)) :=
      .step _ hrun ⟨⟨rfl, he⟩, trivial⟩
    obtain ⟨log', hrun', hlog'⟩ := exists_espTimer_finished ω _ hstep rfl
    refine ⟨log', ?_, hlog'.trans hlog⟩
    unfold World.threads
    rw [timer_next]
    exact hrun'
  | iterate ω =>
    have hstep : FreeRun bp (⟨w.threads, .begins⟩ :: log) (w.threads.next bp .begins) :=
      .step _ hrun ⟨rfl, trivial⟩
    obtain ⟨log', hrun', hlog'⟩ := exists_input_finished ω _ hstep rfl
    exact ⟨log', hrun', hlog'.trans hlog⟩
  | wheelTest =>
    have hstep : FreeRun bp (⟨w.threads, .wheelTest⟩ :: log) (w.threads.next bp .wheelTest) :=
      .step _ hrun ⟨he, trivial⟩
    exact ⟨_, hstep, hlog⟩
  | elapse us =>
    have hstep : FreeRun bp (⟨w.threads, .elapse us⟩ :: log) (w.threads.next bp (.elapse us)) :=
      .step _ hrun ⟨trivial, trivial⟩
    exact ⟨_, hstep, hlog⟩

/-- **Every run with atomic callbacks is one of the interleavings**: after an `on_init_complete` of its
own, it leaves the shared state and the locals of the input task as the interleaving does, and the
btstack thread enters the same callbacks in the same shared states. -/
theorem atomic_run_is_interleaving {bp : Bluepad32} {ok : Log → World → Event → Prop} {log : Log}
    {w : World} (hrun : RunFromBoot bp ok log w) :
    ∃ log', FreeRun bp log' w.threads ∧ callbackLog log' = btstackLog log := by
  refine Run.invariant (I := fun log w ↦
    ∃ log', FreeRun bp log' w.threads ∧ callbackLog log' = btstackLog log) ?_ ?_ hrun
  · rintro w ⟨us, rfl⟩
    have hstart : ∃ log', FreeRun bp log' (World.boot us).threads ∧
        ∀ entry ∈ log', entry.event = .btstack :=
      Cores.run_onInitComplete bp us (World.boot us).sys.volume ⟨us, _, true, rfl⟩
    obtain ⟨log', hrun', hstart⟩ := hstart
    refine ⟨log', hrun', List.filterMap_eq_nil_iff.mpr fun entry hmem ↦ ?_⟩
    rw [hstart entry hmem]
    rfl
  · rintro log w e - ⟨log', hrun', hlog⟩ ⟨he, -⟩
    exact exists_threads_next he hrun' hlog

end Nutcracker
