import Nutcracker.Platform.Inbox
import Nutcracker.Program.Presses
import Nutcracker.Program.Protocol

/-!
# One action per press

Y, A, B and Select act when the pad sample of a round shows the button and the sample before did not;
X acts in the same way when a report arrives.  The previous buttons are one word for all devices.  A
press acts once as long as the word still comes from the device that holds the button: the buttons of
another pad, or the empty ones of the board, make the next sample of the held button look like a press.
-/

namespace Nutcracker

open Prog

variable {bp : Bluepad32} {log : Log} {w : World} {e : Event} {ω : Oracle}

/-! ## Buttons -/

/-- The buttons that act on an edge. -/
inductive EdgeButton
  | y | a | select | b | x
  deriving DecidableEq

namespace EdgeButton

def pressed : EdgeButton → Buttons → MiscButtons → Bool
  | .y, buttons, _ => buttons.y
  | .a, buttons, _ => buttons.a
  | .select, _, misc => misc.select
  | .b, buttons, _ => buttons.b
  | .x, buttons, _ => buttons.x

/-- A sample shows the button. -/
def shown (k : EdgeButton) (pad : InputEvent) : Bool := k.pressed pad.buttons pad.miscButtons

/-- The call by which a round acts, in the order of the round; X is not for rounds. -/
def action : EdgeButton → Option Call
  | .y => some .radarToggle
  | .a => some .laserGatling
  | .select => some .headlightToggle
  | .b => some .laserFire
  | .x => none

/-- The device for which an operation of a round is the action. -/
def actor (k : EdgeButton) : Op → Option (Option HidDevice)
  | .call (.pad d) c => if k.action = some c then some d else none
  | _ => none

/-- The device for which an operation of `on_controller_data` is the action. -/
def reacts (k : EdgeButton) (d : HidDevice) : Op → Option (Option HidDevice)
  | .timerStartOnce .humidifierPulse _ => if k = .x then some (some d) else none
  | _ => none

/-- The remembered bit: X has a word of its own. -/
def word (k : EdgeButton) (w : World) : Bool :=
  match k with
  | .x => w.sys.plat.gamepadPrevButtons.x
  | k => k.pressed w.task.prevButtons w.task.prevMiscButtons

end EdgeButton

/-- The device of a sample; a board has no buttons. -/
def InputEvent.source (pad : InputEvent) : Option HidDevice :=
  if pad.balanceBoard then none else pad.device

/-! ## Histories -/

namespace World

/-- The devices for which an event acts. -/
def actors (bp : Bluepad32) (k : EdgeButton) (w : World) : Event → List (Option HidDevice)
  | .iterate ω => (w.roundTrace ω).filterMap fun x ↦ k.actor x.1
  | .controllerData d ctl =>
    ((onControllerData bp d ctl).trace (exec {}) w.sys).filterMap fun x ↦ k.reacts d x.1
  | _ => []

/-- A look at a sample. -/
def sampleMove (k : EdgeButton) (pad : InputEvent) (acts : Bool) : Move HidDevice :=
  pad.source.elim .blank fun d ↦ .look d (k.shown pad) acts

/-- A round looks at its sample; one without a device forgets the last sample. -/
def roundMoves (k : EdgeButton) (w : World) (acts : Bool) : List (Move HidDevice) :=
  w.processed.elim (if w.sys.plat.connected then [] else [.blank])
    fun evt ↦ [sampleMove k (w.sample evt) acts]

/-- A device callback that leaves the buttons of the last report empty. -/
def forgetMoves (bp : Bluepad32) (k : EdgeButton) (w : World) (e : Event) : List (Move HidDevice) :=
  if k = .x ∧ (w.next bp e).sys.plat.gamepadPrevButtons = {} then [.blank] else []

/-- What an event is for one button. -/
def moves (bp : Bluepad32) (k : EdgeButton) (w : World) (e : Event) : List (Move HidDevice) :=
  let acts := !(w.actors bp k e).isEmpty
  match e with
  | .controllerData d (.gamepad g) =>
    let down := k.pressed g.buttons g.miscButtons
    if w.sys.plat.connected then
      .report d down :: if k = .x then [.look d down acts] else []
    else []
  | .iterate _ => if k = .x then [] else w.roundMoves k acts
  | .deviceDisconnected d => .restart d :: w.forgetMoves bp k e
  | .deviceConnected _ | .deviceReady _ => w.forgetMoves bp k e
  | _ => []

end World

/-- The books of a history. -/
def watch (bp : Bluepad32) (k : EdgeButton) : Log → Watch HidDevice
  | [] => {}
  | entry :: log => (watch bp k log).afterAll (entry.before.moves bp k entry.event)

/-- The device of every action so far, latest first. -/
def actionsOf (bp : Bluepad32) (k : EdgeButton) : Log → List (Option HidDevice)
  | [] => []
  | entry :: log => entry.before.actors bp k entry.event ++ actionsOf bp k log

/-- The device of every press so far: a report that shows the button while the one before it in the
stream of the device does not. -/
def pressesOf (bp : Bluepad32) (k : EdgeButton) (log : Log) : List (Option HidDevice) :=
  (watch bp k log).presses.map some

/-- No press that has been looked at before is looked at again after another source. -/
def NoResumedPress (bp : Bluepad32) (k : EdgeButton) (log : Log) (w : World) (e : Event) : Prop :=
  (watch bp k log).resumesAny (w.moves bp k e) = false

instance (bp : Bluepad32) (k : EdgeButton) (log : Log) (w : World) (e : Event) :
    Decidable (NoResumedPress bp k log w e) :=
  inferInstanceAs (Decidable (_ = false))

/-! ## At most one action a round -/

/-- The place of an action in the order of a round. -/
def Op.rank : Op → Option ℕ
  | .call (.pad _) .radarToggle => some 0
  | .call (.pad _) .laserGatling => some 1
  | .call (.pad _) .headlightToggle => some 2
  | .call (.pad _) .laserFire => some 3
  | _ => none

/-- Actions come in their order, each at most once. -/
def actionProtocol : Protocol Op Op.Ans ℕ where
  ok k o := ∀ r, o.rank = some r → k ≤ r
  allows _ := IdleAnswer
  next k o _ := o.rank.elim k (· + 1)

section Order

variable {α : Type} {p : Firmware α} {k : ℕ}

/-- Programs without actions. -/
theorem follows_of_sat {allows : (o : Op) → o.Ans → Prop} {ok : Op → Prop} {post : α → Prop}
    (hp : p.Sat allows ok post) (hallows : ∀ o answer, IdleAnswer o answer → allows o answer)
    (hok : ∀ o, ok o → o.rank = none) :
    p.Follows actionProtocol (fun st a ↦ st = k ∧ post a) k := by
  refine hp.follows_stage k fun o ho ↦ ?_
  have hrank := hok o ho
  refine ⟨fun r hr ↦ ?_, fun answer hanswer ↦ ⟨hallows o answer hanswer, ?_⟩⟩
  · cases hrank.symm.trans hr
  · change o.rank.elim k (· + 1) = k
    rw [hrank]
    rfl

/-- What follows the protocol performs each action at most once. -/
theorem countP_rank_le {post : ℕ → α → Prop} (hp : p.Follows actionProtocol post k) (s : Sys)
    (r : ℕ) : (p.trace (exec ω) s).countP (fun x ↦ x.1.rank = some r) ≤ if k ≤ r then 1 else 0 := by
  induction p generalizing k s with
  | pure a => exact Nat.zero_le _
  | op o next ih =>
    have hanswer := (answers_exec (c := s.plat.connected) rfl ω o).idle
    have hrest := ih _ (hp.2 _ hanswer) (exec ω o s).2
    rw [trace_op, List.countP_cons]
    cases hrank : o.rank with
    | none =>
      have hsame : actionProtocol.next k o (exec ω o s).1 = k := by
        change o.rank.elim k (· + 1) = k
        rw [hrank]
        rfl
      rw [hsame] at hrest
      simpa [hrank] using hrest
    | some r' =>
      have hle : k ≤ r' := hp.1 r' hrank
      have hnext : actionProtocol.next k o (exec ω o s).1 = r' + 1 := by
        change o.rank.elim k (· + 1) = r' + 1
        rw [hrank]
        rfl
      rw [hnext] at hrest
      by_cases hr : r' = r
      · subst hr
        rw [if_neg (by omega)] at hrest
        rw [decide_eq_true rfl, if_pos rfl, if_pos hle]
        exact Nat.succ_le_succ hrest
      · have hother : ¬some r' = some r := fun h ↦ hr (Option.some.inj h)
        have hlater : (if r' + 1 ≤ r then 1 else 0) ≤ if k ≤ r then 1 else 0 := by
          split <;> split <;> omega
        rw [decide_eq_false hother, if_neg Bool.false_ne_true]
        exact hrest.trans hlater

theorem follows_callAction {origin : Origin} {c : Call} {r : ℕ} (hrank : (Op.call origin c).rank = some r)
    (hle : k ≤ r) :
    (Firmware.call origin c).Follows actionProtocol (fun st _ ↦ st ≤ r + 1) k := by
  refine ⟨fun r' hr' ↦ ?_, fun answer _ ↦ ?_⟩
  · obtain rfl := Option.some.inj (hrank.symm.trans hr')
    exact hle
  · change (Op.call origin c).rank.elim k (· + 1) ≤ r + 1
    rw [hrank]
    rfl

/-- An edge action at its place in the order. -/
theorem follows_edgeAction {pressed prev : Bool} {lastMs debounce nowMs : ℤ} {action : Firmware Unit}
    {r : ℕ} (hle : k ≤ r) (haction : action.Follows actionProtocol (fun st _ ↦ st ≤ r + 1) k) :
    (edgeAction pressed prev lastMs debounce nowMs action).Follows actionProtocol
      (fun st _ ↦ st ≤ r + 1) k := by
  refine follows_ite (fun _ ↦ ?_) fun _ ↦ hle.trans (Nat.le_succ r)
  exact haction.bind fun st _ hst ↦ hst

/-- Locals with which no sample shows an edge. -/
def InputTask.allPressed (t : InputTask) : InputTask :=
  { t with
    prevButtons := { y := true, a := true, b := true }
    prevMiscButtons := { select := true } }

theorem rank_of_report {t : InputTask} {evt pad : InputEvent} {o : Op}
    (ho : ReportOp t.allPressed evt pad o) : o.rank = none := by
  cases o with
  | call origin c =>
    cases origin with
    | pad d =>
      cases c with
      | radarToggle => cases ho.2.2
      | laserGatling => cases ho.2.2
      | headlightToggle => cases ho.2.2
      | laserFire => cases ho.2.2
      | _ => rfl
    | _ => cases c <;> rfl
  | _ => rfl

theorem rank_of_start {o : Op} (ho : StartOp o) : o.rank = none := by
  cases o with
  | call origin c => cases ho
  | _ => rfl

theorem rank_of_abort {o : Op} (ho : AbortOp o) : o.rank = none := by
  cases o with
  | call origin c =>
    obtain ⟨rfl, -⟩ := ho
    cases c <;> rfl
  | _ => rfl

theorem rank_of_exhibit {o : Op} (ho : ExhibitOp o) : o.rank = none := by
  cases o with
  | call origin c =>
    obtain ⟨rfl, -⟩ := ho
    cases c <;> rfl
  | _ => rfl

theorem rank_of_failsafe {o : Op} (ho : FailsafeOp o) : o.rank = none := by
  cases o with
  | call origin c =>
    obtain ⟨rfl, -⟩ := ho
    cases c <;> rfl
  | _ => rfl

variable (t : InputTask) (evt pad : InputEvent) (nowMs : ℤ)

/-- A part of a round that acts on no edge whatever the locals are. -/
theorem follows_of_report {β : Type} {q : Firmware β} {post : β → Prop}
    (hq : q.Sat IdleAnswer (ReportOp t.allPressed evt pad) post) :
    q.Follows actionProtocol (fun st _ ↦ st = k) k :=
  (follows_of_sat hq (fun _ _ h ↦ h) fun _ ↦ rank_of_report).post_mono fun _ _ h ↦ h.1

theorem follows_wheelTestHold :
    (wheelTestHold t pad nowMs).Follows actionProtocol (fun st _ ↦ st = k) k := by
  have hreport : ∀ durationMs weak strong, (requestRumble pad.device durationMs weak strong).Follows
      actionProtocol (fun st _ ↦ st = k) k := fun durationMs weak strong ↦
    follows_of_report t pad pad (sat_requestRumble t.allPressed pad pad durationMs weak strong)
  have hstart := follows_of_sat (k := k) (@sat_rccarMotorWheelTestStart IdleAnswer)
    (fun _ _ h ↦ h) fun _ ↦ rank_of_start
  unfold wheelTestHold
  refine follows_ite (fun _ ↦ follows_ite (fun _ ↦ rfl) fun _ ↦ ?_) fun _ ↦ rfl
  refine Follows.perform_bind nofun fun running _ ↦ follows_ite (fun _ ↦ ?_) fun _ ↦ rfl
  refine hstart.bind fun st _ hst ↦ ?_
  obtain ⟨rfl, -⟩ := hst
  exact (hreport 300 200 200).bind fun st _ hst ↦ hst

theorem follows_factoryResetHold :
    (factoryResetHold t pad nowMs).Follows actionProtocol (fun st _ ↦ st = k) k := by
  refine (follows_of_sat (@sat_factoryResetHold IdleAnswer t.allPressed pad pad nowMs t)
    (fun _ _ h ↦ h) fun o ho ↦ ?_).post_mono fun _ _ h ↦ h.1
  rcases ho with ho | ⟨ho, -⟩
  · exact rank_of_report ho
  · cases o with
    | call origin c => cases ho
    | _ => rfl

theorem follows_handleAButtonGatling (d : Option HidDevice) (hk : k ≤ 1) :
    (handleAButtonGatling d).Follows actionProtocol (fun st _ ↦ st ≤ 2) k := by
  let pad : InputEvent := { device := d }
  refine Follows.perform_bind nofun fun _ _ ↦ (follows_callAction rfl hk).bind fun st _ hst ↦ ?_
  exact (follows_of_report {} pad pad (sat_requestRumble _ pad pad _ _ _)).post_mono
    fun st' _ hst' ↦ hst'.le.trans hst

theorem follows_handleBButtonFire (d : Option HidDevice) (hk : k ≤ 3) :
    (handleBButtonFire d).Follows actionProtocol (fun st _ ↦ st ≤ 4) k := by
  refine (follows_callAction rfl hk).bind fun st _ hst ↦ ?_
  exact ⟨nofun, fun _ _ ↦ ⟨nofun, fun _ _ ↦ ⟨nofun, fun _ _ ↦ hst⟩⟩⟩

/-- The actions of a sample. -/
theorem follows_padActions (padLive : Bool) :
    (padActions t evt pad padLive nowMs).Follows actionProtocol (fun st _ ↦ st ≤ 4) 0 := by
  refine (follows_of_report t evt pad (sat_driveOutput t.allPressed evt pad nowMs padLive)).bind ?_
  rintro _ _ rfl
  refine (follows_of_report t evt pad (sat_turretOutput t.allPressed evt pad padLive)).bind ?_
  rintro _ _ rfl
  refine Follows.bind (Q := fun st _ ↦ st ≤ 1) ?_ fun st₁ t₁ h₁ ↦ ?_
  · exact (follows_edgeAction le_rfl (follows_callAction rfl le_rfl)).bind fun _ _ h ↦ h
  refine Follows.bind (Q := fun st _ ↦ st ≤ 2) ?_ fun st₂ t₂ h₂ ↦ ?_
  · exact (follows_edgeAction h₁ (follows_handleAButtonGatling _ h₁)).bind fun _ _ h ↦ h
  refine Follows.bind (Q := fun st _ ↦ st ≤ 3) ?_ fun st₃ t₃ h₃ ↦ ?_
  · exact (follows_edgeAction h₂ (follows_callAction rfl h₂)).bind fun _ _ h ↦ h
  refine Follows.bind (Q := fun st _ ↦ st ≤ 4) ?_ fun st₄ t₄ h₄ ↦ ?_
  · exact (follows_edgeAction h₃ (follows_handleBButtonFire _ h₃)).bind fun _ _ h ↦ h
  exact (follows_of_report t evt pad (sat_volumeKeys t.allPressed evt pad nowMs t₄)).post_mono
    fun _ _ h ↦ h.le.trans h₄

theorem follows_processPad (padLive : Bool) :
    (processPad t evt pad padLive nowMs).Follows actionProtocol (fun _ _ ↦ True) 0 := by
  rw [processPad_eq]
  refine (follows_wheelTestHold t pad nowMs).bind ?_
  rintro _ t₁ rfl
  refine (follows_padActions t₁ evt pad nowMs padLive).bind fun st₂ t₂ _ ↦ ?_
  exact (follows_factoryResetHold t₂ pad nowMs).bind fun _ _ _ ↦ trivial

theorem follows_processReport :
    (processReport t evt nowMs).Follows actionProtocol (fun _ _ ↦ True) 0 := by
  have hread : ∀ {β : Type} {q : Firmware β}, (∀ {ok : Op → Prop}, (∀ v, ok (.get v)) →
      q.Sat IdleAnswer ok fun _ ↦ True) → q.Follows actionProtocol (fun st _ ↦ st = 0) 0 := by
    intro β q hq
    have hget := @hq (fun o ↦ ∃ v, o = .get v) fun v ↦ ⟨v, rfl⟩
    refine (follows_of_sat hget (fun _ _ h ↦ h) ?_).post_mono fun _ _ h ↦ h.1
    rintro _ ⟨v, rfl⟩
    rfl
  refine (hread fun h ↦ sat_controlActivity h evt).bind ?_
  rintro _ active rfl
  refine Follows.bind (Q := fun st _ ↦ st = 0) (follows_when (fun _ ↦ ?_) fun _ ↦ rfl) ?_
  · exact follows_of_report t evt evt (sat_connectedIdleBgmReset t.allPressed evt evt)
  rintro _ _ rfl
  refine (hread fun h ↦ sat_padIsLive h nowMs).bind ?_
  rintro _ padLive rfl
  refine Follows.bind (Q := fun st _ ↦ st = 0) (follows_ite (fun _ ↦ ?_) fun _ ↦ rfl) ?_
  · exact ⟨nofun, fun _ _ ↦ rfl⟩
  rintro _ pad rfl
  exact follows_processPad t evt pad nowMs padLive

theorem follows_enterFailsafe :
    (enterFailsafe t).Follows actionProtocol (fun _ _ ↦ True) k :=
  (follows_of_sat (sat_enterFailsafe t) (fun _ _ h ↦ h) fun _ ↦ rank_of_failsafe).post_mono
    fun _ _ _ ↦ trivial

theorem follows_connectedRound (got : Option InputEvent) :
    (connectedRound t got nowMs).Follows actionProtocol (fun _ _ ↦ True) 0 := by
  refine (follows_of_sat (@sat_stopExhibit IdleAnswer t) (fun _ _ h ↦ h)
    fun _ ↦ rank_of_abort).bind ?_
  rintro _ t₁ ⟨rfl, -⟩
  refine follows_ite (fun _ ↦ follows_enterFailsafe _) fun _ ↦ ?_
  cases got with
  | none => exact trivial
  | some evt =>
    refine Follows.perform_bind nofun fun connected _ ↦ follows_ite (fun _ ↦ ?_) fun _ ↦ ?_
    · exact follows_processReport _ evt nowMs
    · exact follows_enterFailsafe _

theorem follows_inputProcessRound :
    (inputProcessRound t).Follows actionProtocol (fun _ _ ↦ True) 0 := by
  refine Follows.perform_bind nofun fun got _ ↦ Follows.perform_bind nofun fun now _ ↦
    Follows.perform_bind nofun fun connected _ ↦ follows_ite (fun _ ↦ ?_) fun _ ↦ ?_
  · exact follows_connectedRound t now got
  · refine (follows_of_sat (@sat_exhibitRound IdleAnswer t now) (fun _ _ h ↦ h)
      fun _ ↦ rank_of_exhibit).bind ?_
    rintro _ t₁ ⟨rfl, -⟩
    refine Follows.perform_bind nofun fun again _ ↦ follows_ite (fun _ ↦ ?_) fun _ ↦ trivial
    exact follows_connectedRound t₁ now got

end Order

/-! ## The actions of an event -/

section Actors

variable {k : EdgeButton} {d : HidDevice}

def EdgeButton.rank : EdgeButton → ℕ
  | .y => 0
  | .a => 1
  | .select => 2
  | .b => 3
  | .x => 4

theorem actor_call (k : EdgeButton) (d : Option HidDevice) (c : Call) :
    k.actor (.call (.pad d) c) = if k.action = some c then some d else none := rfl

theorem rank_of_actor {o : Op} (h : (k.actor o).isSome = true) : o.rank = some k.rank := by
  cases o with
  | call origin c =>
    cases origin with
    | pad d =>
      rw [actor_call] at h
      by_cases hc : k.action = some c
      · cases k <;> cases hc <;> rfl
      · rw [if_neg hc] at h
        cases h
    | _ => cases h
  | _ => cases h

/-- A round acts at most once on a button. -/
theorem length_actors_le : (w.actors bp k (.iterate ω)).length ≤ 1 := by
  change ((w.roundTrace ω).filterMap fun x ↦ k.actor x.1).length ≤ 1
  rw [List.length_filterMap_eq_countP]
  calc
    (w.roundTrace ω).countP (fun x ↦ (k.actor x.1).isSome)
      ≤ (w.roundTrace ω).countP fun x ↦ x.1.rank = some k.rank :=
        List.countP_mono_left fun x _ hx ↦ decide_eq_true (rank_of_actor hx)
    _ ≤ 1 := countP_rank_le (follows_inputProcessRound w.task) w.sys k.rank

/-- Acting takes an edge of the sample. -/
theorem edge_of_hold {t : InputTask} {evt pad : InputEvent} {nowMs : ℤ} {o : Op}
    {d : Option HidDevice} (ho : HoldOp t evt pad nowMs o) (hactor : k.actor o = some d) :
    k ≠ .x ∧ d = pad.device ∧ k.shown pad = true ∧
      k.pressed t.prevButtons t.prevMiscButtons = false := by
  cases o with
  | call origin c =>
    cases origin with
    | pad d' =>
      rw [actor_call] at hactor
      by_cases hc : k.action = some c
      · rw [if_pos hc] at hactor
        obtain rfl := Option.some.inj hactor
        rcases ho with ho | ⟨ho, -⟩ | ⟨ho, -⟩
        · cases k <;> cases hc <;> exact ⟨nofun, ho.1, ho.2.1, ho.2.2⟩
        · cases ho
        · cases ho
      · rw [if_neg hc] at hactor
        cases hactor
    | _ => cases hactor
  | _ => cases hactor

theorem actor_eq_none {o : Op} (ho : World.QuietOp o) : k.actor o = none := by
  have hrank : o.rank = none := by
    rcases ho with rfl | rfl | rfl | h | h | h
    · rfl
    · rfl
    · rfl
    · exact rank_of_exhibit h
    · exact rank_of_abort h
    · exact rank_of_failsafe h
  by_contra h
  have hsome := rank_of_actor (Option.isSome_iff_ne_none.mpr h)
  cases hrank.symm.trans hsome

/-- A round that acts looks at a sample with an edge, and acts for its device. -/
theorem actors_round (k : EdgeButton) (w : World) (ω : Oracle) :
    w.actors bp k (.iterate ω) = [] ∨ ∃ evt, w.processed = some evt ∧ k ≠ .x ∧
      w.actors bp k (.iterate ω) = [(w.sample evt).device] ∧ k.shown (w.sample evt) = true ∧
      k.word w = false := by
  have hlength := @length_actors_le bp w ω k
  cases hactors : w.actors bp k (.iterate ω) with
  | nil => exact .inl rfl
  | cons d rest =>
    rw [hactors] at hlength
    obtain rfl : rest = [] := List.eq_nil_of_length_eq_zero (by simpa using hlength)
    have hmem : d ∈ (w.roundTrace ω).filterMap fun x ↦ k.actor x.1 := by
      change d ∈ w.actors bp k (.iterate ω)
      rw [hactors]
      exact List.mem_singleton_self d
    obtain ⟨x, hx, hactor⟩ := List.mem_filterMap.mp hmem
    refine .inr ?_
    rcases World.op_of_round bp hx with hquiet | ⟨evt, hprocessed, hop⟩
    · cases (actor_eq_none hquiet).symm.trans hactor
    · obtain ⟨hk, rfl, hshown, hprev⟩ := edge_of_hold hop.1 hactor
      refine ⟨evt, hprocessed, hk, rfl, hshown, ?_⟩
      cases k with
      | x => exact absurd rfl hk
      | _ => exact hprev

/-- Y, A, B and Select are not for callbacks. -/
theorem actors_callback (hk : k ≠ .x) (ctl : Controller) :
    w.actors bp k (.controllerData d ctl) = [] := by
  refine List.filterMap_eq_nil_iff.mpr fun x _ ↦ ?_
  unfold EdgeButton.reacts
  split
  · exact if_neg hk
  · rfl

/-- X acts on an edge of the report. -/
theorem actors_gamepad (g : Gamepad) : w.actors bp .x (.controllerData d (.gamepad g)) =
    if w.sys.plat.connected && (g.buttons.x && !w.sys.plat.gamepadPrevButtons.x) then [some d]
    else [] := by
  unfold World.actors onControllerData
  cases hconnected : w.sys.plat.connected with
  | false => simp [Sys.get, hconnected, EdgeButton.reacts]
  | true =>
    have hnow : Firmware.nowMs.trace (exec {}) w.sys = [⟨.nowMs, w.sys.nowMs⟩] := rfl
    unfold onGamepadData handleXButtonPress
    simp only [get_eq, op_bind, pure_bind', trace_op, exec_get, Sys.get, hconnected, Bool.not_true,
      Bool.false_eq_true, if_false, trace_bind, trace_when, run_nowMs, hnow, Bool.true_and]
    cases g.buttons.x && !w.sys.plat.gamepadPrevButtons.x <;> cases devicePlaysRumble d <;> rfl

theorem controller_board_ne (bb : BalanceBoard) (g : Gamepad) :
    Controller.balanceBoard bb ≠ .gamepad g := Controller.noConfusion

theorem controller_other_ne (g : Gamepad) : Controller.other ≠ .gamepad g := Controller.noConfusion

/-- Only a gamepad has buttons. -/
theorem actors_eq_nil (k : EdgeButton) {ctl : Controller} (hpad : ∀ g, ctl ≠ .gamepad g) :
    w.actors bp k (.controllerData d ctl) = [] := by
  refine List.filterMap_eq_nil_iff.mpr fun x hx ↦ ?_
  have hop := (@sat_onControllerData (fun _ _ ↦ True) bp d ctl).trace
    (I := fun _ ↦ True) (fun _ _ _ _ ↦ ⟨trivial, trivial⟩) trivial x hx
  unfold EdgeButton.reacts
  split
  · rename_i us heq
    rw [heq] at hop
    cases ctl with
    | gamepad g => exact absurd rfl (hpad g)
    | balanceBoard | other => exact hop.elim
  · rfl

end Actors

/-! ## Every run -/

/-- What a sample shows of the button is what the latest report of its device showed. -/
def EdgeButton.Known (k : EdgeButton) (s : Watch HidDevice) (pad : InputEvent) : Prop :=
  k.shown pad = pad.source.elim false s.last

/-- The books agree with the words, and the samples to come with the books. -/
structure PressInv (bp : Bluepad32) (k : EdgeButton) (log : Log) (w : World) : Prop where
  fair : (watch bp k log).Fair
  word : (watch bp k log).word = k.word w
  pad : k.Known (watch bp k log) w.sys.plat.lastGpEvt
  queue : ∀ evt ∈ w.sys.plat.inputQueue, k.Known (watch bp k log) evt
  actions : actionsOf bp k log = (watch bp k log).actions.map some

section Invariant

variable {k : EdgeButton}

theorem known_empty (k : EdgeButton) (s : Watch HidDevice) : k.Known s {} := by
  cases k <;> rfl

theorem known_board (k : EdgeButton) (s : Watch HidDevice) (d : HidDevice) (bbX bbY nowMs : ℤ) :
    k.Known s (boardEvent d bbX bbY nowMs) := by
  cases k <;> rfl

theorem word_of_ne (hk : k ≠ .x) (w : World) :
    k.word w = k.pressed w.task.prevButtons w.task.prevMiscButtons := by
  cases k with
  | x => exact absurd rfl hk
  | _ => rfl

theorem pressInv_boot (k : EdgeButton) (us : ℕ) : PressInv bp k [] (World.boot us) where
  fair := Watch.fair_start
  word := by cases k <;> rfl
  pad := known_empty k _
  queue evt hevt := absurd hevt (Option.not_mem_none evt)
  actions := rfl

theorem PressInv.sample {evt : InputEvent} (h : PressInv bp k log w)
    (hprocessed : w.processed = some evt) : k.Known (watch bp k log) (w.sample evt) := by
  unfold World.sample Platform.padSample
  split
  · exact h.pad
  · exact h.queue evt (World.processed_eq_some.mp hprocessed).2.1

/-- An event that is nothing to the button. -/
theorem PressInv.same (h : PressInv bp k log w) (hmoves : w.moves bp k e = [])
    (hactors : w.actors bp k e = []) (hword : k.word (w.next bp e) = k.word w)
    (hpad : (w.next bp e).sys.plat.lastGpEvt = w.sys.plat.lastGpEvt)
    (hqueue : ∀ evt ∈ (w.next bp e).sys.plat.inputQueue, k.Known (watch bp k log) evt) :
    PressInv bp k (⟨w, e⟩ :: log) (w.next bp e) := by
  have hwatch : watch bp k (⟨w, e⟩ :: log) = watch bp k log := by
    change (watch bp k log).afterAll (w.moves bp k e) = _
    rw [hmoves]
    rfl
  have hactions : actionsOf bp k (⟨w, e⟩ :: log) = actionsOf bp k log := by
    change w.actors bp k e ++ actionsOf bp k log = _
    rw [hactors]
    rfl
  refine ⟨?_, ?_, ?_, ?_, ?_⟩
  · rw [hwatch]
    exact h.fair
  · rw [hwatch, hword]
    exact h.word
  · rw [hwatch, hpad]
    exact h.pad
  · rw [hwatch]
    exact hqueue
  · rw [hwatch, hactions]
    exact h.actions

/-- The locals after a round. -/
theorem word_round (hk : k ≠ .x) : k.word (w.next bp (.iterate ω)) =
    w.processed.elim (w.sys.plat.connected && k.word w) fun evt ↦ k.shown (w.sample evt) := by
  rw [word_of_ne hk, word_of_ne hk]
  cases w.roundCase bp ω with
  | unconnected hconnected _ hlocals =>
    obtain ⟨e, heq, -⟩ := hlocals
    rw [heq, World.processed_of_unconnected hconnected, hconnected]
    cases k <;> rfl
  | silent hconnected hsilent _ hlocals _ =>
    rw [World.processed_of_silent hsilent, hlocals, hconnected]
    cases w.sys.plat.inputQueue <;> rfl
  | idle hconnected hqueue _ _ hlocals _ =>
    rw [World.processed_of_empty hqueue, hlocals, hconnected]
    rfl
  | report evt hprocessed _ _ _ hlocals _ _ =>
    rw [hprocessed, hlocals.prevButtons, hlocals.prevMiscButtons]
    rfl

theorem resumesAny_singleton {s : Watch HidDevice} {m : Move HidDevice}
    (h : s.resumesAny [m] = false) : s.resumes m = false :=
  (Bool.or_eq_false_iff.mp h).1

theorem sameReports_round (w : World) (ω : Oracle) :
    SameReports w.sys.plat (w.next bp (.iterate ω)).sys.plat :=
  sameReports_next bp w rfl fun _ _ h ↦ by cases h

/-- A round that looks at a sample. -/
theorem PressInv.look {evt : InputEvent} (h : PressInv bp k log w) (hk : k ≠ .x)
    (hprocessed : w.processed = some evt)
    (hfirst : NoResumedPress bp k log w (.iterate ω)) :
    PressInv bp k (⟨w, .iterate ω⟩ :: log) (w.next bp (.iterate ω)) := by
  have hknown := h.sample hprocessed
  have hpad := (@sameReports_round bp w ω).lastGpEvt
  have hword := @word_round bp w ω k hk
  rw [hprocessed] at hword
  change k.word (w.next bp (.iterate ω)) = k.shown (w.sample evt) at hword
  have hqueue : ∀ s : Watch HidDevice, ∀ evt ∈ (w.next bp (.iterate ω)).sys.plat.inputQueue,
      k.Known s evt := by
    intro s evt hevt
    rw [queue_round] at hevt
    exact absurd hevt (Option.not_mem_none evt)
  have hmoves : w.moves bp k (.iterate ω) =
      [World.sampleMove k (w.sample evt) (!(w.actors bp k (.iterate ω)).isEmpty)] := by
    change (if k = .x then [] else w.roundMoves k _) = _
    rw [if_neg hk]
    unfold World.roundMoves
    rw [hprocessed]
    rfl
  have hwatch : watch bp k (⟨w, .iterate ω⟩ :: log) = (watch bp k log).after
      (World.sampleMove k (w.sample evt) (!(w.actors bp k (.iterate ω)).isEmpty)) := by
    change (watch bp k log).afterAll (w.moves bp k (.iterate ω)) = _
    rw [hmoves]
    rfl
  unfold NoResumedPress at hfirst
  rw [hmoves] at hfirst
  have hfirst := resumesAny_singleton hfirst
  have hactions : actionsOf bp k (⟨w, .iterate ω⟩ :: log) =
      w.actors bp k (.iterate ω) ++ actionsOf bp k log := rfl
  have hround := @actors_round bp k w ω
  unfold World.sampleMove at hwatch hfirst
  unfold EdgeButton.Known at hknown
  cases hsource : (w.sample evt).source with
  | none =>
    rw [hsource] at hwatch hknown
    have hnone : w.actors bp k (.iterate ω) = [] := by
      rcases hround with hnone | ⟨evt', hprocessed', -, -, hshown, -⟩
      · exact hnone
      · obtain rfl := Option.some.inj (hprocessed.symm.trans hprocessed')
        exact Bool.noConfusion (hknown.symm.trans hshown)
    refine ⟨?_, ?_, ?_, ?_, ?_⟩
    · rw [hwatch]
      exact h.fair.blank
    · rw [hwatch, hword, hknown]
      rfl
    · rw [hwatch, hpad]
      exact h.pad
    · rw [hwatch]
      exact hqueue _
    · rw [hactions, hnone, hwatch]
      exact h.actions
  | some d =>
    rw [hsource] at hwatch hknown hfirst
    have hdevice : (w.sample evt).device = some d := by
      unfold InputEvent.source at hsource
      split at hsource
      · cases hsource
      · exact hsource
    refine ⟨?_, ?_, ?_, ?_, ?_⟩
    · rw [hwatch]
      refine h.fair.look ⟨hknown, fun hacts ↦ ?_⟩ hfirst
      rcases hround with hnone | ⟨evt', hprocessed', -, -, hshown, hprev⟩
      · rw [hnone] at hacts
        cases hacts
      · obtain rfl := Option.some.inj (hprocessed.symm.trans hprocessed')
        exact ⟨hshown, h.word.trans hprev⟩
    · rw [hwatch, hword]
      rfl
    · rw [hwatch, hpad]
      exact h.pad
    · rw [hwatch]
      exact hqueue _
    · rw [hactions, h.actions, hwatch]
      rcases hround with hnone | ⟨evt', hprocessed', -, hone, -, -⟩
      · rw [hnone]
        rfl
      · obtain rfl := Option.some.inj (hprocessed.symm.trans hprocessed')
        rw [hone, hdevice]
        rfl

/-- A round without a device forgets the last sample. -/
theorem PressInv.alone (h : PressInv bp k log w) (hk : k ≠ .x)
    (hconnected : w.sys.plat.connected = false) :
    PressInv bp k (⟨w, .iterate ω⟩ :: log) (w.next bp (.iterate ω)) := by
  have hprocessed := World.processed_of_unconnected hconnected
  have hnone : w.actors bp k (.iterate ω) = [] := by
    rcases @actors_round bp k w ω with hnone | ⟨evt, hsome, -⟩
    · exact hnone
    · cases hprocessed.symm.trans hsome
  have hwatch : watch bp k (⟨w, .iterate ω⟩ :: log) = (watch bp k log).after .blank := by
    change (watch bp k log).afterAll (if k = .x then [] else w.roundMoves k _) = _
    unfold World.roundMoves
    rw [if_neg hk, hprocessed, hconnected]
    rfl
  refine ⟨?_, ?_, ?_, ?_, ?_⟩
  · rw [hwatch]
    exact h.fair.blank
  · rw [hwatch, word_round hk, hprocessed, hconnected]
    rfl
  · rw [hwatch, (@sameReports_round bp w ω).lastGpEvt]
    exact h.pad
  · intro evt hevt
    rw [queue_round] at hevt
    exact absurd hevt (Option.not_mem_none evt)
  · change w.actors bp k (.iterate ω) ++ actionsOf bp k log = _
    rw [hnone, hwatch]
    exact h.actions

theorem PressInv.round (h : PressInv bp k log w)
    (hfirst : NoResumedPress bp k log w (.iterate ω)) :
    PressInv bp k (⟨w, .iterate ω⟩ :: log) (w.next bp (.iterate ω)) := by
  have hsame := @sameReports_round bp w ω
  have hqueue : ∀ evt ∈ (w.next bp (.iterate ω)).sys.plat.inputQueue,
      k.Known (watch bp k log) evt := by
    intro evt hevt
    rw [queue_round] at hevt
    exact absurd hevt (Option.not_mem_none evt)
  by_cases hk : k = .x
  · subst hk
    refine h.same rfl ?_ ?_ hsame.lastGpEvt hqueue
    · rcases @actors_round bp .x w ω with hnone | ⟨_, _, hne, _⟩
      · exact hnone
      · exact absurd rfl hne
    · exact congrArg Buttons.x hsame.gamepadPrevButtons
  cases hprocessed : w.processed with
  | some evt => exact h.look hk hprocessed hfirst
  | none =>
    cases hconnected : w.sys.plat.connected with
    | false => exact h.alone hk hconnected
    | true =>
      refine h.same ?_ ?_ ?_ hsame.lastGpEvt hqueue
      · change (if k = .x then [] else w.roundMoves k _) = _
        unfold World.roundMoves
        rw [if_neg hk, hprocessed, hconnected]
        rfl
      · rcases @actors_round bp k w ω with hnone | ⟨_, hsome, _⟩
        · exact hnone
        · cases hprocessed.symm.trans hsome
      · rw [word_round hk, hprocessed, hconnected]
        rfl

variable {d : HidDevice}

/-- A gamepad report that is taken. -/
theorem PressInv.gamepad {g : Gamepad} (h : PressInv bp k log w)
    (hconnected : w.sys.plat.connected = true)
    (hfirst : NoResumedPress bp k log w (.controllerData d (.gamepad g))) :
    PressInv bp k (⟨w, .controllerData d (.gamepad g)⟩ :: log)
      (w.next bp (.controllerData d (.gamepad g))) := by
  have hplat := @gamepad_next bp w d g
  rw [if_pos hconnected] at hplat
  let down := k.pressed g.buttons g.miscButtons
  let acts := !(w.actors bp k (.controllerData d (.gamepad g))).isEmpty
  let s := (watch bp k log).after (.report d down)
  have hfair : s.Fair := h.fair.report d down
  have hlast : s.last d = down := (watch bp k log).after_report_last d down
  have hactions : actionsOf bp k (⟨w, .controllerData d (.gamepad g)⟩ :: log) =
      w.actors bp k (.controllerData d (.gamepad g)) ++ actionsOf bp k log := rfl
  have hknown : ∀ s' : Watch HidDevice, s'.last = s.last →
      k.Known s' (g.event d w.sys.nowMs) := fun s' hs' ↦
    hlast.symm.trans (congrFun hs' d).symm
  have hqueue : ∀ s' : Watch HidDevice, s'.last = s.last →
      ∀ evt ∈ (w.next bp (.controllerData d (.gamepad g))).sys.plat.inputQueue,
        k.Known s' evt := by
    intro s' hs' evt hevt
    rw [hplat] at hevt
    obtain rfl := Option.some.inj hevt
    exact hknown s' hs'
  have hmoves : w.moves bp k (.controllerData d (.gamepad g)) =
      .report d down :: if k = .x then [.look d down acts] else [] := by
    change (if w.sys.plat.connected then _ else []) = _
    rw [if_pos hconnected]
  by_cases hk : k = .x
  · subst hk
    have hwatch : watch bp .x (⟨w, .controllerData d (.gamepad g)⟩ :: log) =
        s.after (.look d down acts) := by
      change (watch bp .x log).afterAll (w.moves bp .x _) = _
      rw [hmoves]
      rfl
    unfold NoResumedPress at hfirst
    rw [hmoves] at hfirst
    have hfirst := resumesAny_singleton (Bool.or_eq_false_iff.mp hfirst).2
    have hactors := @actors_gamepad bp w d g
    rw [hconnected, Bool.true_and] at hactors
    have hword : (watch bp .x log).word = w.sys.plat.gamepadPrevButtons.x := h.word
    refine ⟨?_, ?_, ?_, ?_, ?_⟩
    · rw [hwatch]
      refine hfair.look ⟨hlast.symm, fun hacts ↦ ?_⟩ hfirst
      have hedge : (g.buttons.x && !w.sys.plat.gamepadPrevButtons.x) = true := by
        by_contra hedge
        rw [if_neg hedge] at hactors
        have hnone : acts = false := by
          change (!(w.actors bp .x (.controllerData d (.gamepad g))).isEmpty) = false
          rw [hactors]
          rfl
        exact Bool.noConfusion (hnone.symm.trans hacts)
      obtain ⟨hpressed, hreleased⟩ := Bool.and_eq_true_iff.mp hedge
      exact ⟨hpressed, hword.trans (by simpa using hreleased)⟩
    · rw [hwatch]
      change down = (w.next bp (.controllerData d (.gamepad g))).sys.plat.gamepadPrevButtons.x
      rw [hplat]
      rfl
    · rw [hwatch, hplat]
      exact hknown _ rfl
    · rw [hwatch]
      exact hqueue _ rfl
    · rw [hactions, h.actions, hwatch]
      change _ = (if acts then d :: s.actions else s.actions).map some
      have hacts : acts = !(w.actors bp .x (.controllerData d (.gamepad g))).isEmpty := rfl
      rw [hacts, hactors]
      split <;> rfl
  · have hwatch : watch bp k (⟨w, .controllerData d (.gamepad g)⟩ :: log) = s := by
      change (watch bp k log).afterAll (w.moves bp k _) = _
      rw [hmoves, if_neg hk]
      rfl
    have htask : (w.next bp (.controllerData d (.gamepad g))).task = w.task := rfl
    refine ⟨?_, ?_, ?_, ?_, ?_⟩
    · rw [hwatch]
      exact hfair
    · rw [hwatch, word_of_ne hk, htask, ← word_of_ne hk]
      exact h.word
    · rw [hwatch, hplat]
      exact hknown _ rfl
    · rw [hwatch]
      exact hqueue _ rfl
    · rw [hactions, actors_callback hk, hwatch]
      exact h.actions

/-- A device callback leaves the word alone or empties it. -/
theorem PressInv.forget {s : Watch HidDevice} (h : PressInv bp k log w) (hplain : e.plain = false)
    (hwatch : watch bp k (⟨w, e⟩ :: log) = s.afterAll (w.forgetMoves bp k e)) (hfair : s.Fair)
    (hlast : s.last = (watch bp k log).last) (hword : s.word = (watch bp k log).word)
    (hactions : s.actions = (watch bp k log).actions) (hactors : w.actors bp k e = []) :
    PressInv bp k (⟨w, e⟩ :: log) (w.next bp e) := by
  have hless := lessReports_next bp w hplain
  have hsteps : ∀ s' : Watch HidDevice, s'.Fair → s'.last = s.last → s'.actions = s.actions →
      s'.word = k.word (w.next bp e) → watch bp k (⟨w, e⟩ :: log) = s' →
      PressInv bp k (⟨w, e⟩ :: log) (w.next bp e) := by
    intro s' hfair' hlast' hactions' hword' hs'
    have hkept : ∀ pad, k.Known (watch bp k log) pad → k.Known s' pad := by
      unfold EdgeButton.Known
      rw [hlast', hlast]
      exact fun _ h ↦ h
    refine ⟨?_, ?_, ?_, ?_, ?_⟩
    · rw [hs']
      exact hfair'
    · rw [hs']
      exact hword'
    · rw [hs']
      rcases hless.lastGpEvt with hsame | hempty
      · rw [hsame]
        exact hkept _ h.pad
      · rw [hempty]
        exact known_empty k s'
    · intro evt hevt
      rw [hs']
      rcases hless.inputQueue with hsame | hempty
      · rw [hsame] at hevt
        exact hkept _ (h.queue evt hevt)
      · rw [hempty] at hevt
        exact absurd hevt (Option.not_mem_none evt)
    · change w.actors bp k e ++ actionsOf bp k log = _
      rw [hactors, hs', hactions', hactions]
      exact h.actions
  unfold World.forgetMoves at hwatch
  split at hwatch
  · rename_i hforgets
    obtain ⟨rfl, hempty⟩ := hforgets
    refine hsteps (s.after .blank) hfair.blank rfl rfl ?_ hwatch
    change false = (w.next bp e).sys.plat.gamepadPrevButtons.x
    rw [hempty]
  · rename_i hkeeps
    refine hsteps s hfair rfl rfl ?_ hwatch
    rw [hword, h.word]
    by_cases hk : k = .x
    · subst hk
      rcases hless.gamepadPrevButtons with hsame | hempty
      · exact congrArg Buttons.x hsame.symm
      · exact absurd ⟨rfl, hempty⟩ hkeeps
    · have htask : (w.next bp e).task = w.task := by
        cases e <;> first | rfl | cases hplain
      rw [word_of_ne hk, word_of_ne hk, htask]

theorem PressInv.device (h : PressInv bp k log w) (hplain : e.plain = false) :
    PressInv bp k (⟨w, e⟩ :: log) (w.next bp e) := by
  cases e with
  | deviceDisconnected d =>
    exact h.forget (s := (watch bp k log).after (.restart d)) rfl rfl (h.fair.restart d) rfl rfl rfl
      rfl
  | deviceConnected d | deviceReady d => exact h.forget rfl rfl h.fair rfl rfl rfl rfl
  | _ => cases hplain

/-- An event in which nothing is reported. -/
theorem PressInv.quiet (h : PressInv bp k log w) (hplain : e.plain = true)
    (hround : ∀ ω, e ≠ .iterate ω) (hreport : ∀ d ctl, e ≠ .controllerData d ctl) :
    PressInv bp k (⟨w, e⟩ :: log) (w.next bp e) := by
  have hsame := sameReports_next bp w hplain hreport
  have hqueue := queue_next bp w hplain hreport hround
  have hnothing : w.moves bp k e = [] ∧ w.actors bp k e = [] := by
    cases e with
    | iterate ω => exact absurd rfl (hround ω)
    | controllerData d ctl => exact absurd rfl (hreport d ctl)
    | deviceConnected | deviceReady | deviceDisconnected => cases hplain
    | _ => exact ⟨rfl, rfl⟩
  refine h.same hnothing.1 hnothing.2 ?_ hsame.lastGpEvt fun evt hevt ↦ ?_
  · by_cases hk : k = .x
    · subst hk
      exact congrArg Buttons.x hsame.gamepadPrevButtons
    · rw [word_of_ne hk, word_of_ne hk, task_next hround]
  · rw [hqueue] at hevt
    exact h.queue evt hevt

/-- A report without buttons, or one that is not taken. -/
theorem PressInv.unpressed {ctl : Controller} (h : PressInv bp k log w)
    (hctl : w.sys.plat.connected = false ∨ ∀ g, ctl ≠ .gamepad g) :
    PressInv bp k (⟨w, .controllerData d ctl⟩ :: log) (w.next bp (.controllerData d ctl)) := by
  have hword : ∀ (w' : World), w'.task = w.task →
      w'.sys.plat.gamepadPrevButtons = w.sys.plat.gamepadPrevButtons → k.word w' = k.word w := by
    intro w' htask hprev
    by_cases hk : k = .x
    · subst hk
      exact congrArg Buttons.x hprev
    · rw [word_of_ne hk, word_of_ne hk, htask]
  cases ctl with
  | gamepad g =>
    have hconnected : w.sys.plat.connected = false := hctl.resolve_right fun h ↦ h g rfl
    have hplat := @gamepad_next bp w d g
    rw [hconnected, if_neg Bool.false_ne_true] at hplat
    refine h.same ?_ ?_ (hword _ rfl ?_) ?_ ?_
    · change (if w.sys.plat.connected then _ else []) = _
      rw [hconnected]
      rfl
    · by_cases hk : k = .x
      · subst hk
        rw [actors_gamepad, hconnected]
        rfl
      · exact actors_callback hk _
    · rw [hplat]
    · rw [hplat]
    · rw [hplat]
      exact h.queue
  | balanceBoard bb =>
    have hsys := @board_next bp w d bb
    have hactors := @actors_eq_nil bp w d k _ (controller_board_ne bb)
    cases hconnected : w.sys.plat.connected with
    | false =>
      rw [hconnected, if_neg Bool.false_ne_true] at hsys
      refine h.same rfl hactors (hword _ rfl ?_) ?_ ?_
      · rw [hsys]
      · rw [hsys]
      · rw [hsys]
        exact h.queue
    | true =>
      rw [hconnected, if_pos rfl] at hsys
      refine h.same rfl hactors (hword _ rfl ?_) ?_ fun evt hevt ↦ ?_
      · rw [hsys]
        rfl
      · rw [hsys]
        rfl
      · rw [hsys] at hevt
        obtain rfl := Option.some.inj hevt
        exact known_board k _ d _ _ _
  | other =>
    have hsys := @other_next bp w d
    refine h.same rfl (actors_eq_nil k controller_other_ne) (hword _ rfl ?_) ?_ ?_
    · rw [hsys]
    · rw [hsys]
    · rw [hsys]
      exact h.queue

theorem PressInv.step (h : PressInv bp k log w) (hfirst : NoResumedPress bp k log w e) :
    PressInv bp k (⟨w, e⟩ :: log) (w.next bp e) := by
  cases e with
  | iterate ω => exact h.round hfirst
  | deviceConnected | deviceReady | deviceDisconnected => exact h.device rfl
  | controllerData d ctl =>
    cases hconnected : w.sys.plat.connected with
    | false => exact h.unpressed (.inl hconnected)
    | true =>
      cases ctl with
      | gamepad g => exact h.gamepad hconnected hfirst
      | balanceBoard bb => exact h.unpressed (.inr fun _ h ↦ by cases h)
      | other => exact h.unpressed (.inr fun _ h ↦ by cases h)
  | systemButton | timer | deliver | wheelTest | elapse =>
    exact h.quiet rfl (fun _ h ↦ by cases h) fun _ _ h ↦ by cases h

theorem pressInv_of_run (hrun : RunFromBoot bp (NoResumedPress bp k) log w) :
    PressInv bp k log w := by
  refine hrun.invariant (I := PressInv bp k) ?_ fun log w e _ h hok ↦ h.step hok.2
  rintro w ⟨us, rfl⟩
  exact pressInv_boot k us

end Invariant

/-! ## Actions and presses -/

/-- As long as no press that was looked at before is looked at again after another source, every
action can be matched with a press of its own by the same device. -/
theorem one_action_per_press {k : EdgeButton} (hrun : RunFromBoot bp (NoResumedPress bp k) log w) :
    (actionsOf bp k log).Subperm (pressesOf bp k log) := by
  have hinv := pressInv_of_run hrun
  rw [hinv.actions]
  exact hinv.fair.subperm.map (Option.some_injective _)

/-- Reports with Y, with X and without buttons. -/
def reportY : Controller := .gamepad { buttons := { y := true } }

def reportX : Controller := .gamepad { buttons := { x := true } }

def reportNothing : Controller := .gamepad {}

/-- A board with nobody on it. -/
def reportEmptyBoard : Controller := .balanceBoard ⟨0, 0, 0, 0⟩

/-- A pad and a board: Y is pressed, released and pressed again while the board reports too. -/
theorem one_action_per_press_twice : ∃ log w, RunFromBoot bluepad32 (NoResumedPress bluepad32 .y) log w ∧
    (actionsOf bluepad32 .y log).length = 2 ∧
    (actionsOf bluepad32 .y log).Subperm (pressesOf bluepad32 .y log) := by
  let pad := samplePad 1
  let board := sampleBoard 2
  obtain ⟨log, w, hrun, hend⟩ := exists_runFromBoot bluepad32 (NoResumedPress bluepad32 .y) 0
    [.deviceConnected pad, .deviceReady pad, .deviceConnected board, .deviceReady board,
      .elapse 500000, .controllerData pad reportY, .iterate {},
      .controllerData board reportEmptyBoard, .iterate {}, .elapse 500000,
      .controllerData pad reportNothing, .iterate {}, .controllerData pad reportY, .iterate {}]
    (fun r ↦ decide ((actionsOf bluepad32 .y r.1).length = 2)) (by decide +kernel)
  exact ⟨log, w, hrun, of_decide_eq_true hend, one_action_per_press hrun⟩

/-- Reports of connected devices. -/
def FromReady (log : Log) : Event → Prop
  | .controllerData d _ => lifeOf d log = .ready
  | _ => True

instance (log : Log) : (e : Event) → Decidable (FromReady log e)
  | .controllerData _ _ => inferInstanceAs (Decidable (_ = _))
  | .deviceConnected _ | .deviceReady _ | .deviceDisconnected _ | .systemButton _ | .timer _ _
  | .deliver _ | .iterate _ | .wheelTest | .elapse _ => .isTrue trivial

/-- Two actions for one press.  A pad that holds Y is silent for 1.2 s while the board goes on
reporting, and Y acts again when the pad is back; or two pads report in turns, and X acts again
whenever the one that holds it reports. -/
theorem one_press_two_actions :
    (∃ log w, RunFromBoot bluepad32 (fun log _ e ↦ DeviceOrder log e ∧ FromReady log e) log w ∧
      (actionsOf bluepad32 .y log).length = 2 ∧ (pressesOf bluepad32 .y log).length = 1) ∧
    ∃ log w, RunFromBoot bluepad32 (fun log _ e ↦ DeviceOrder log e ∧ FromReady log e) log w ∧
      (actionsOf bluepad32 .x log).length = 2 ∧ (pressesOf bluepad32 .x log).length = 1 := by
  let pad := samplePad 1
  let board := sampleBoard 2
  obtain ⟨log, w, hrun, hend⟩ := exists_runFromBoot bluepad32
    (fun log _ e ↦ DeviceOrder log e ∧ FromReady log e) 0
    [.deviceConnected pad, .deviceReady pad, .deviceConnected board, .deviceReady board,
      .elapse 500000, .controllerData pad reportY, .iterate {},
      .elapse 600000, .controllerData board reportEmptyBoard, .iterate {},
      .elapse 600000, .controllerData board reportEmptyBoard, .iterate {},
      .controllerData pad reportY, .iterate {}]
    (fun r ↦ decide ((actionsOf bluepad32 .y r.1).length = 2 ∧
      (pressesOf bluepad32 .y r.1).length = 1))
    (by decide +kernel)
  let other := samplePad 3
  obtain ⟨log', w', hrun', hend'⟩ := exists_runFromBoot bluepad32
    (fun log _ e ↦ DeviceOrder log e ∧ FromReady log e) 0
    [.deviceConnected pad, .deviceReady pad, .deviceConnected other, .deviceReady other,
      .controllerData pad reportX, .controllerData other reportNothing,
      .controllerData pad reportX]
    (fun r ↦ decide ((actionsOf bluepad32 .x r.1).length = 2 ∧
      (pressesOf bluepad32 .x r.1).length = 1))
    (by decide +kernel)
  exact ⟨⟨log, w, hrun, of_decide_eq_true hend⟩, log', w', hrun', of_decide_eq_true hend'⟩

end Nutcracker
