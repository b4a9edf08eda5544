import Nutcracker.Platform.Inbox
import Nutcracker.Properties.CoreThreads

/-!
# The queue under interleaving

`input_queue` is a box for one report.  The btstack thread sends and resets, the input task receives,
and either may be anywhere in a callback or a round when the other comes to the queue.  A callback
sends only under a connection, and the one that drops the connection resets the queue, so that no
report outlives its connection.
-/

namespace Nutcracker

open Prog

variable {bp : Bluepad32} {log : CoreLog} {s : Cores} {e : CoreEvent}

/-! ## Operations on the queue -/

/-- The operations on the queue, latest first. -/
def mailOf (log : CoreLog) : List (MailOp InputEvent) :=
  log.filterMap fun entry ↦ (entry.before.performs entry.event).bind Op.mail

/-- The reports that the input task has received, latest first. -/
def receivedReports (log : CoreLog) : List InputEvent :=
  log.filterMap fun entry ↦
    match (entry.before.performs entry.event).bind Op.mail with
    | some .receive => entry.before.sys.plat.inputQueue
    | _ => none

/-- The reports that the btstack thread has sent, latest first. -/
def sentReports (log : CoreLog) : List InputEvent := MailOp.sent (mailOf log)

theorem queue_of_exec (ω : Oracle) (o : Op) (s : Sys) (ops : List (MailOp InputEvent))
    (h : s.plat.inputQueue = MailOp.box ops) :
    (exec ω o s).2.plat.inputQueue = MailOp.box (o.mail.toList ++ ops) := by
  rw [inputQueue_exec]
  cases o.mail with
  | none => exact h
  | some op => exact (MailOp.box_cons op ops).symm

theorem mailOf_cons (log : CoreLog) (s : Cores) (e : CoreEvent) :
    mailOf (⟨s, e⟩ :: log) = ((s.performs e).bind Op.mail).toList ++ mailOf log := by
  unfold mailOf
  rw [List.filterMap_cons]
  cases (s.performs e).bind Op.mail <;> rfl

/-- The queue holds what the operations so far have left in it. -/
theorem queue_of_run {ok : CoreLog → Cores → CoreEvent → Prop} (hrun : CoreRun bp ok log s) :
    s.sys.plat.inputQueue = MailOp.box (mailOf log) := by
  refine Run.invariant (I := fun log s ↦ s.sys.plat.inputQueue = MailOp.box (mailOf log)) ?_ ?_ hrun
  · rintro s ⟨us, volume, initialised, rfl⟩
    rfl
  · rintro log s e hbefore hqueue ⟨he, -⟩
    rw [mailOf_cons]
    cases e with
    | enters e =>
      refine Eq.trans ?_ hqueue
      cases e <;> rfl
    | expires t =>
      have hplat := (Sys.sameOutside_actuatorCallback (s.sys.timerExpire t) t).2.1
      exact (congrArg Platform.inputQueue hplat).trans hqueue
    | begins | elapse => exact hqueue
    | input ω =>
      obtain ⟨o, rest, hprog⟩ := exists_op_of_unfinished he
      rw [next_input hprog]
      unfold Cores.performs
      rw [hprog]
      exact queue_of_exec ω o s.sys _ hqueue
    | btstack =>
      obtain ⟨o, rest, hprog⟩ := exists_op_of_unfinished he
      rw [next_btstack hprog]
      unfold Cores.performs
      rw [hprog]
      exact queue_of_exec {} o s.sys _ hqueue
    | espTimer ω =>
      obtain ⟨o, rest, hprog⟩ := exists_op_of_unfinished he
      rw [next_espTimer hprog]
      unfold Cores.performs
      rw [hprog]
      exact queue_of_exec ω o s.sys _ hqueue
    | wheelTest =>
      obtain ⟨o, next, hprog, ho, -, -, -, hplat⟩ := stepWheelTest_spec he
      have hmail : (s.performs .wheelTest).bind Op.mail = none := by
        unfold Cores.performs
        rw [hprog]
        cases o <;> first | rfl | exact ho.elim
      rw [hmail]
      exact (congrArg Platform.inputQueue hplat).trans hqueue

/-! ## What the btstack thread owes the queue -/

/-- What the btstack thread knows. -/
inductive MailStage
  /-- Without a connection the queue is empty. -/
  | kept
  /-- There is a connection. -/
  | connected
  /-- The connection has been dropped, and the queue has still to be reset. -/
  | owing

namespace MailStage

/-- A look at `s_connected`. -/
def look : MailStage → Bool → MailStage
  | .kept, true => .connected
  | stage, _ => stage

def reset : MailStage → MailStage
  | .owing => .kept
  | stage => stage

/-- What a stage tells about the shared state. -/
def Agrees (sys : Sys) : MailStage → Prop
  | .kept => sys.plat.connected = false → sys.plat.inputQueue = none
  | .connected => sys.plat.connected = true
  | .owing => True

/-- A look makes the thread owe nothing. -/
theorem look_ne {stage : MailStage} (h : stage ≠ .owing) (connected : Bool) :
    stage.look connected ≠ .owing := by
  cases stage with
  | kept => cases connected <;> exact nofun
  | connected => exact h
  | owing => exact absurd rfl h

end MailStage

/-- A report is sent only under a connection. -/
def mailProtocol : Protocol Op Op.Ans MailStage where
  ok stage
    | .queueOverwrite _ => stage = .connected
    | _ => True
  allows _ o answer := IdleAnswer o answer
  next stage
    | .set .connected connected, _ => if connected then .connected else .owing
    | .get .connected, connected => stage.look connected
    | .queueReset, _ => stage.reset
    | _, _ => stage

/-- A program that resets the queue if it drops the connection. -/
abbrev FollowsMail (p : Firmware Unit) (stage : MailStage) : Prop :=
  p.Follows mailProtocol (fun stage' _ ↦ stage' ≠ .owing) stage

/-- Operations that neither drop the connection nor send. -/
def KeepsMail : Op → Prop
  | .set .connected connected => connected = true
  | .queueOverwrite _ => False
  | _ => True

theorem KeepsMail.ok {o : Op} (ho : KeepsMail o) (stage : MailStage) : mailProtocol.ok stage o := by
  cases o <;> trivial

theorem KeepsMail.next {o : Op} (ho : KeepsMail o) {stage : MailStage} (hstage : stage ≠ .owing)
    (answer : o.Ans) : mailProtocol.next stage o answer ≠ .owing := by
  cases o with
  | set v x =>
    cases v with
    | connected =>
      obtain rfl : x = true := ho
      exact nofun
    | _ => exact hstage
  | get v =>
    cases v with
    | connected => exact MailStage.look_ne hstage answer
    | _ => exact hstage
  | queueReset => cases stage <;> exact nofun
  | _ => exact hstage

theorem followsMail_of_keeps {p : Firmware Unit} (hp : p.Sat IdleAnswer KeepsMail fun _ ↦ True)
    {stage : MailStage} (hstage : stage ≠ .owing) : FollowsMail p stage := by
  refine (hp.follows (· ≠ .owing) (fun st o hst ho ↦ ?_) hstage).post_mono fun _ _ h ↦ h.1
  exact ⟨ho.ok st, fun answer hanswer ↦ ⟨hanswer, ho.next hst answer⟩⟩

theorem keeps_of_steady {o : Op} (ho : SteadyOp o) : KeepsMail o := by
  cases o with
  | set v x => cases v <;> trivial
  | queueOverwrite => exact ho.elim
  | _ => trivial

theorem keeps_of_init {o : Op} (ho : InitOp o) : KeepsMail o := by
  cases o with
  | set | queueOverwrite => exact ho.elim
  | _ => trivial

theorem keeps_of_callback {event : Event} {o : Op} (ho : CallbackOp event o)
    (hevent : ∀ d ctl, event ≠ .controllerData d ctl) : KeepsMail o := by
  cases o with
  | set v x =>
    cases v with
    | connected => exact absurd rfl (ho.not_connected x)
    | _ => trivial
  | queueOverwrite evt =>
    obtain ⟨d, ctl, rfl, -⟩ := ho
    exact absurd rfl (hevent d ctl)
  | _ => trivial

section Callbacks

variable {p : Firmware Unit} {stage : MailStage} (d : HidDevice)

theorem keeps_steady (hp : p.Sat IdleAnswer SteadyOp fun _ ↦ True) :
    p.Sat IdleAnswer KeepsMail fun _ ↦ True :=
  hp.mono (fun _ _ h ↦ h) (fun _ h ↦ keeps_of_steady h) fun _ h ↦ h

theorem keeps_onDeviceConnected : (onDeviceConnected d).Sat IdleAnswer KeepsMail fun _ ↦ True := by
  refine sat_ite (fun _ ↦ trivial) fun _ ↦ ?_
  exact ⟨trivial, fun _ _ ↦ ⟨trivial, fun _ _ ↦ ⟨trivial, fun _ _ ↦ ⟨trivial, fun _ _ ↦
    trivial⟩⟩⟩⟩

theorem keeps_onDeviceReady : (onDeviceReady bp d).Sat IdleAnswer KeepsMail fun _ ↦ True := by
  refine sat_ite (fun _ ↦ trivial) fun _ ↦ ?_
  refine Sat.perform_bind trivial fun ins _ ↦ Sat.perform_bind trivial fun first _ ↦ ?_
  refine Sat.bind (keeps_steady (steady_takeRole d _)) fun _ _ ↦ ?_
  refine ⟨trivial, fun _ _ ↦ ⟨trivial, fun count _ ↦ ⟨trivial, fun _ _ ↦ ⟨trivial, fun _ _ ↦
    ⟨trivial, fun _ _ ↦ ⟨trivial, fun _ _ ↦ ⟨trivial, fun _ _ ↦ ⟨trivial, fun _ _ ↦
      ⟨rfl, fun _ _ ↦ ?_⟩⟩⟩⟩⟩⟩⟩⟩⟩
  exact keeps_steady (steady_readyRest bp d first)

theorem keeps_dropDevice (ins : Instance) :
    (dropDevice d ins).Sat IdleAnswer KeepsMail fun _ ↦ True := by
  refine Sat.bind (?_ : (leaveReady d ins).Sat IdleAnswer KeepsMail fun _ ↦ True) fun _ _ ↦
    keeps_steady (steady_forget d)
  refine sat_when (fun _ ↦ ⟨trivial, fun _ _ ↦ ⟨trivial, fun count _ ↦ ?_⟩⟩) fun _ ↦ trivial
  exact sat_when (fun _ ↦ ⟨trivial, fun _ _ ↦ trivial⟩) fun _ ↦ trivial

theorem keeps_othersRemain (wasBb wasGp : Bool) :
    (othersRemain bp wasBb wasGp).Sat IdleAnswer KeepsMail fun _ ↦ True := by
  refine Sat.perform_bind rfl fun _ _ ↦ ?_
  refine Sat.when_bind (fun _ ↦ ⟨trivial, fun _ _ ↦ trivial⟩) ?_
  refine Sat.when_bind (fun _ ↦ ⟨trivial, fun _ _ ↦ trivial⟩) ?_
  exact keeps_steady (steady_maybeScheduleScan bp)

/-- The failsafe leaves the queue to the callback. -/
theorem owing_failsafeStop :
    failsafeStop.Follows mailProtocol (fun stage' _ ↦ stage' = .owing) .owing := by
  refine (sat_failsafeStop.follows_stage MailStage.owing fun o ho ↦ ?_).post_mono fun _ _ h ↦ h.1
  cases o with
  | set v x =>
    cases v with
    | connected => exact ho.elim
    | _ => exact ⟨trivial, fun _ h ↦ ⟨h, rfl⟩⟩
  | nowMs | idleToMove | call => exact ⟨trivial, fun _ h ↦ ⟨h, rfl⟩⟩
  | _ => exact ho.elim

theorem followsMail_dropConnection : FollowsMail dropConnection stage := by
  refine ⟨trivial, fun _ _ ↦ ⟨trivial, fun _ _ ↦ ⟨trivial, fun _ _ ↦ ⟨trivial, fun _ _ ↦
    ⟨trivial, fun _ _ ↦ ⟨trivial, fun _ _ ↦ Follows.perform_bind trivial fun _ _ ↦ ?_⟩⟩⟩⟩⟩⟩
  refine Follows.bind owing_failsafeStop ?_
  rintro _ _ rfl
  refine Follows.perform_bind trivial fun _ _ ↦ followsMail_of_keeps ?_ MailStage.noConfusion
  refine Sat.bind (keeps_steady steady_connectedIdleBgmReset) fun _ _ ↦ ?_
  exact ⟨trivial, fun _ _ ↦ ⟨trivial, fun _ _ ↦ ⟨trivial, fun _ _ ↦ ⟨trivial, fun _ _ ↦ trivial⟩⟩⟩⟩

theorem followsMail_onDeviceDisconnected (hstage : stage ≠ .owing) :
    FollowsMail (onDeviceDisconnected bp d) stage := by
  refine follows_ite (fun _ ↦ hstage) fun _ ↦ ?_
  refine Follows.perform_bind trivial fun ins _ ↦ Follows.perform_bind trivial fun bb _ ↦
    Follows.perform_bind trivial fun gp _ ↦ ?_
  refine Follows.bind (followsMail_of_keeps (keeps_dropDevice d ins) hstage) fun stage' _ hstage' ↦ ?_
  refine Follows.perform_bind trivial fun count _ ↦ ?_
  exact follows_ite (fun _ ↦ followsMail_of_keeps (keeps_othersRemain _ _) hstage') fun _ ↦
    followsMail_dropConnection

/-- A report is queued after a look at the connection. -/
theorem followsMail_onControllerData (ctl : Controller) (hstage : stage ≠ .owing) :
    FollowsMail (onControllerData bp d ctl) stage := by
  refine Follows.perform_bind trivial fun connected _ ↦ ?_
  cases connected with
  | false => exact MailStage.look_ne hstage false
  | true =>
    have hstage' : mailProtocol.next stage (.get .connected) true = .connected := by
      cases stage with
      | owing => exact absurd rfl hstage
      | _ => rfl
    have hsat := (@sat_onControllerData IdleAnswer bp d ctl).2 true trivial
    rw [hstage']
    refine (hsat.follows_stage MailStage.connected fun o ho ↦ ?_).post_mono fun _ _ h ↦ ?_
    · refine ⟨?_, fun answer hanswer ↦ ⟨hanswer, ?_⟩⟩
      · cases o <;> trivial
      · cases o with
        | set v x =>
          cases v with
          | connected => exact absurd rfl (ho.not_connected x)
          | _ => rfl
        | get v => cases v <;> rfl
        | _ => rfl
    · rw [h.1]
      exact MailStage.noConfusion

theorem followsMail_callback (event : Event) (hstage : stage ≠ .owing) :
    FollowsMail (World.callback bp event) stage := by
  by_cases hdata : ∃ d ctl, event = .controllerData d ctl
  · obtain ⟨d, ctl, rfl⟩ := hdata
    exact followsMail_onControllerData d ctl hstage
  cases hplain : event.plain with
  | true =>
    have hsat := @sat_callback IdleAnswer bp event hplain
    refine followsMail_of_keeps (hsat.mono (fun _ _ h ↦ h) (fun o ho ↦ ?_) fun _ h ↦ h) hstage
    exact keeps_of_callback ho fun d ctl hevent ↦ hdata ⟨d, ctl, hevent⟩
  | false =>
    cases event with
    | deviceConnected d => exact followsMail_of_keeps (keeps_onDeviceConnected d) hstage
    | deviceReady d => exact followsMail_of_keeps (keeps_onDeviceReady d) hstage
    | deviceDisconnected d => exact followsMail_onDeviceDisconnected d hstage
    | systemButton | controllerData | timer | deliver | iterate | wheelTest | elapse => cases hplain

end Callbacks

/-! ## Every interleaving -/

section Agrees

variable {stage : MailStage} {sys sys' : Sys}

theorem mailAgrees_of_same (h : stage.Agrees sys)
    (hconnected : sys'.plat.connected = sys.plat.connected)
    (hqueue : sys'.plat.inputQueue = sys.plat.inputQueue ∨ sys'.plat.inputQueue = none) :
    stage.Agrees sys' := by
  cases stage with
  | kept =>
    intro hdown
    exact hqueue.elim (fun h' ↦ h'.trans (h (hconnected.symm.trans hdown))) id
  | connected => exact hconnected.trans h
  | owing => trivial

/-- What the btstack thread knows stays true of its own operations. -/
theorem mailAgrees_exec {o : Op} (hok : mailProtocol.ok stage o) (h : stage.Agrees sys) :
    (mailProtocol.next stage o (exec {} o sys).1).Agrees (exec {} o sys).2 := by
  cases o with
  | set v x =>
    cases v with
    | connected => cases x <;> trivial
    | _ => exact mailAgrees_of_same h (connected_exec fun _ ↦ nofun) (.inl (inputQueue_exec {} _ sys))
  | get v =>
    cases v with
    | connected =>
      cases stage with
      | kept =>
        change (MailStage.look .kept sys.plat.connected).Agrees sys
        cases hup : sys.plat.connected with
        | false => exact h
        | true => exact hup
      | connected | owing => exact h
    | _ => exact h
  | queueReset =>
    cases stage with
    | kept | owing => exact fun _ ↦ rfl
    | connected => exact h
  | queueOverwrite evt =>
    obtain rfl : stage = .connected := hok
    exact h
  | queueReceive => exact mailAgrees_of_same h rfl (.inr rfl)
  | _ => exact mailAgrees_of_same h (connected_exec fun _ ↦ nofun) (.inl (inputQueue_exec {} _ sys))

end Agrees

/-- The other threads at most empty the queue. -/
theorem queue_other (hthreads : ThreadsInv s) (he : s.Enabled e) (hbtstack : e ≠ .btstack) :
    (s.next bp e).sys.plat.inputQueue = s.sys.plat.inputQueue ∨
      (s.next bp e).sys.plat.inputQueue = none := by
  cases e with
  | enters e =>
    refine .inl ?_
    cases e <;> rfl
  | expires t =>
    have hplat := (Sys.sameOutside_actuatorCallback (s.sys.timerExpire t) t).2.1
    exact .inl (congrArg Platform.inputQueue hplat)
  | begins | elapse => exact .inl rfl
  | btstack => exact absurd rfl hbtstack
  | input ω =>
    obtain ⟨o, rest, hprog⟩ := exists_op_of_unfinished he
    have ho := hthreads.input_op hprog
    rw [next_input hprog]
    change (exec ω o s.sys).2.plat.inputQueue = _ ∨ _ = none
    rw [inputQueue_exec]
    cases o with
    | queueReceive => exact .inr rfl
    | queueOverwrite | queueReset => exact ho.elim
    | _ => exact .inl rfl
  | espTimer ω =>
    obtain ⟨o, rest, hprog⟩ := exists_op_of_unfinished he
    obtain ⟨t, ω', ho⟩ := hthreads.espTimer_op hprog
    rw [next_espTimer hprog]
    change (exec ω o s.sys).2.plat.inputQueue = _ ∨ _ = none
    rw [inputQueue_exec]
    cases o with
    | queueOverwrite evt =>
      obtain ⟨d, ctl, htimer, -⟩ := ho
      cases htimer
    | queueReceive | queueReset => exact ho.elim
    | _ => exact .inl rfl
  | wheelTest =>
    obtain ⟨o, next, -, -, -, -, -, hplat⟩ := stepWheelTest_spec he
    exact .inl (congrArg Platform.inputQueue hplat)

/-- What the btstack thread has still to do for the queue. -/
def MailInv (s : Cores) : Prop := ∃ stage, FollowsMail s.btstack stage ∧ stage.Agrees s.sys

theorem MailInv.next (h : MailInv s) (hthreads : ThreadsInv s) (he : s.Enabled e) :
    MailInv (s.next bp e) := by
  obtain ⟨stage, hfollows, hagrees⟩ := h
  by_cases hbtstack : e = .btstack
  · subst hbtstack
    obtain ⟨o, rest, hprog⟩ := exists_op_of_unfinished he
    rw [hprog] at hfollows
    rw [next_btstack hprog]
    exact ⟨_, hfollows.2 _ (answers_exec rfl {} o (s := s.sys)).idle,
      mailAgrees_exec hfollows.1 hagrees⟩
  · have hconnected := (hthreads.samePlat he hbtstack bp).connected
    have hagrees' := mailAgrees_of_same hagrees hconnected (queue_other hthreads he hbtstack)
    cases e with
    | enters event =>
      obtain ⟨a, hprog⟩ := exists_pure_of_finished he.1
      rw [hprog] at hfollows
      exact ⟨stage, followsMail_callback event hfollows, hagrees'⟩
    | btstack => exact absurd rfl hbtstack
    | expires | begins | input | espTimer | wheelTest | elapse => exact ⟨stage, hfollows, hagrees'⟩

theorem mailInv_of_run {ok : CoreLog → Cores → CoreEvent → Prop} (hrun : CoreRun bp ok log s) :
    MailInv s := by
  refine Run.invariant (I := fun _ s ↦ MailInv s) ?_ ?_ hrun
  · rintro s ⟨us, volume, initialised, rfl⟩
    have hinit := (@sat_onInitComplete IdleAnswer initialised).mono (fun _ _ h ↦ h)
      (fun _ h ↦ keeps_of_init h) fun _ h ↦ h
    exact ⟨.kept, followsMail_of_keeps hinit MailStage.noConfusion, fun _ ↦ rfl⟩
  · rintro log s e hbefore hinv ⟨he, -⟩
    exact hinv.next (threadsInv_of_run hbefore) he

/-- Between two callbacks, the queue is empty without a connection. -/
theorem MailInv.queue (h : MailInv s) (hreturned : s.btstack.finished = true)
    (hdown : s.sys.plat.connected = false) : s.sys.plat.inputQueue = none := by
  obtain ⟨stage, hfollows, hagrees⟩ := h
  obtain ⟨a, hprog⟩ := exists_pure_of_finished hreturned
  rw [hprog] at hfollows
  cases stage with
  | kept => exact hagrees hdown
  | connected => exact Bool.noConfusion (hdown.symm.trans hagrees)
  | owing => exact absurd rfl hfollows

theorem receivedReports_append (later earlier : CoreLog) :
    receivedReports (later ++ earlier) = receivedReports later ++ receivedReports earlier :=
  List.filterMap_append

theorem mailOf_append (later earlier : CoreLog) :
    mailOf (later ++ earlier) = mailOf later ++ mailOf earlier :=
  List.filterMap_append

/-- The reports received are those delivered by the box. -/
theorem received_of_run {ok : CoreLog → Cores → CoreEvent → Prop} (hrun : CoreRun bp ok log s) :
    receivedReports log = MailOp.delivered (mailOf log) := by
  refine Run.invariant (I := fun log _ ↦ receivedReports log = MailOp.delivered (mailOf log)) ?_ ?_
    hrun
  · intro s _
    rfl
  · intro log s e hbefore ih _
    have hqueue := queue_of_run hbefore
    have hcons : receivedReports (⟨s, e⟩ :: log) =
        (match (s.performs e).bind Op.mail with
          | some .receive => s.sys.plat.inputQueue
          | _ => none).toList ++ receivedReports log := by
      unfold receivedReports
      rw [List.filterMap_cons]
      split <;> rename_i h <;> rw [h] <;> rfl
    rw [hcons, mailOf_cons, ih]
    cases (s.performs e).bind Op.mail with
    | none => rfl
    | some op =>
      cases op with
      | send | reset => rfl
      | receive =>
        rw [hqueue]
        rfl

/-- From a state with an empty queue on, the box delivers what has been sent since then. -/
theorem received_after_empty {ok : CoreLog → Cores → CoreEvent → Prop} {later earlier : CoreLog}
    {entry : Entry Cores CoreEvent} (hrun : CoreRun bp ok (later ++ entry :: earlier) s)
    (hempty : entry.before.sys.plat.inputQueue = none) :
    receivedReports (later ++ [entry]) = MailOp.delivered (mailOf (later ++ [entry])) := by
  have hbefore := hrun.of_suffix ⟨later, rfl⟩
  have hbox := (queue_of_run hbefore).symm.trans hempty
  have hall := received_of_run hrun
  rw [List.append_cons, receivedReports_append, mailOf_append, MailOp.delivered_append_of_empty hbox,
    received_of_run hbefore] at hall
  exact List.append_cancel_right hall

/-- What the queue hands over, and when. -/
structure HandsOver (log : CoreLog) (s : Cores) : Prop where
  /-- Reports are received in the order in which they were sent and none of them twice. -/
  once : (receivedReports log).Sublist (sentReports log)
  /-- A report is sent by a callback, under a connection. -/
  sent : ∀ e evt, s.performs e = some (.queueOverwrite evt) →
    e = .btstack ∧ s.sys.plat.connected = true
  empty : s.btstack.finished = true → s.sys.plat.connected = false → s.sys.plat.inputQueue = none
  /-- What is received after a state without a connection was sent after it. -/
  later : ∀ later entry earlier, log = later ++ entry :: earlier →
    entry.before.btstack.finished = true → entry.before.sys.plat.connected = false →
      (receivedReports (later ++ [entry])).Sublist (sentReports (later ++ [entry]))

/-- **No report outlives its connection**: in whatever order the threads interleave, the input task
receives reports in the order in which they were sent and none of them twice; a report is only sent
under a connection; and once the callback that dropped the connection has returned the queue is
empty, so that whatever the input task receives from then on was sent by a later connection. -/
theorem reports_end_with_connection {bp : Bluepad32} {log : CoreLog} {s : Cores}
    (hrun : CoreRun bp (fun _ _ _ ↦ True) log s) : HandsOver log s := by
  have hthreads := threadsInv_of_run hrun
  have hmail := mailInv_of_run hrun
  constructor
  case once =>
    rw [received_of_run hrun]
    exact MailOp.delivered_sublist (mailOf log)
  case sent =>
    intro e evt hperforms
    cases e with
    | enters | expires | begins | elapse => cases hperforms
    | input ω =>
      obtain ⟨rest, hprog⟩ := exists_op_of_nextOp hperforms
      exact (hthreads.input_op hprog).elim
    | btstack =>
      obtain ⟨rest, hprog⟩ := exists_op_of_nextOp hperforms
      obtain ⟨stage, hfollows, hagrees⟩ := hmail
      rw [hprog] at hfollows
      obtain rfl : stage = .connected := hfollows.1
      exact ⟨rfl, hagrees⟩
    | espTimer ω =>
      obtain ⟨rest, hprog⟩ := exists_op_of_nextOp hperforms
      obtain ⟨t, ω', d, ctl, htimer, -⟩ := hthreads.espTimer_op hprog
      cases htimer
    | wheelTest => exact (s.sys.motor.test.only.ok_of_nextOp hperforms).elim
  case empty => exact hmail.queue
  case later =>
    rintro later entry earlier rfl hreturned hdown
    have hempty := (mailInv_of_run (hrun.of_suffix ⟨later, rfl⟩)).queue hreturned hdown
    rw [received_after_empty hrun hempty]
    exact MailOp.delivered_sublist (mailOf (later ++ [entry]))

/-- A report is still in the queue when its device goes away; the input task receives the one that is
sent after the device has come back. -/
theorem reports_end_with_connection_again : ∃ log s,
    CoreRun bluepad32 (fun _ _ _ ↦ True) log s ∧
      ((receivedReports log).length = 1 ∧ (sentReports log).length = 2) ∧ HandsOver log s := by
  let callback (e : Event) (ops : ℕ) : List CoreEvent := .enters e :: List.replicate ops .btstack
  let ready := callback (.deviceReady (samplePad 1)) 28 ++
    callback (.controllerData (samplePad 1) (.gamepad {})) 7
  obtain ⟨log, s, hrun, hend⟩ := exists_coreRun bluepad32 (fun _ _ _ ↦ True)
    (ready ++ callback (.deviceDisconnected (samplePad 1)) 46 ++ ready ++ [.begins, .input {}])
    (fun r ↦ decide ((receivedReports r.1).length = 1 ∧ (sentReports r.1).length = 2))
    (by decide +kernel)
  exact ⟨log, s, hrun, of_decide_eq_true hend, reports_end_with_connection hrun⟩

end Nutcracker
