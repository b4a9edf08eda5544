import Nutcracker.Platform.Footprint
import Nutcracker.Platform.Outputs
import Nutcracker.Program.Run

/-!
# From the exhibit to manual control

Rounds of the input task while other tasks change everything but the outputs between any two
operations; in particular the connection may come up anywhere in a round.  Whenever it does, the
exhibit falls silent, and the first round that goes on as connected aborts it before anything else.
-/

namespace Nutcracker

open Firmware Prog Sys

/-! ## A disturbed round -/

/-- One operation, before which the others may have changed everything but the outputs. -/
def Disturbed (o : Op) (s : Sys) (answer : o.Ans) (s' : Sys) : Prop :=
  ∃ (s₀ : Sys) (ω : Oracle), s₀.outputs = s.outputs ∧ exec ω o s₀ = (answer, s')

theorem Disturbed.idleAnswer {o : Op} {s s' : Sys} {answer : o.Ans}
    (h : Disturbed o s answer s') : IdleAnswer o answer := by
  obtain ⟨s₀, ω, -, hexec⟩ := h
  have hanswer := (answers_exec rfl ω o : Answers s₀.plat.connected o (exec ω o s₀).1).idle
  rwa [hexec] at hanswer

/-- The outputs are those of the calls of the round. -/
theorem outputs_of_exec {α : Type} {p q : Firmware α} {s s' : Sys}
    {tr : List (Prog.Step Op Op.Ans)} (h : Exec Disturbed p s tr q s') :
    s'.outputs = (callsOf tr).foldl (fun out c ↦ out.after c.2) s.outputs := by
  induction h with
  | refl => rfl
  | @step o next answer s s₁ s' tr q hop hrest ih =>
    obtain ⟨s₀, ω, houtputs, hexec⟩ := hop
    have hone : s₁.outputs =
        (callsOf [⟨o, answer⟩]).foldl (fun out c ↦ out.after c.2) s.outputs := by
      rw [← houtputs]
      have := outputs_exec ω o s₀
      rwa [hexec] at this
    calc
      s'.outputs = (callsOf tr).foldl (fun out c ↦ out.after c.2) s₁.outputs := ih
      _ = (callsOf [⟨o, answer⟩] ++ callsOf tr).foldl (fun out c ↦ out.after c.2) s.outputs := by
        rw [hone, List.foldl_append]
      _ = (callsOf (⟨o, answer⟩ :: tr)).foldl (fun out c ↦ out.after c.2) s.outputs := by
        rw [callsOf, callsOf, ← List.filterMap_append]
        rfl

/-- What every permitted call satisfies, the calls of a trace satisfy. -/
theorem calls_of_ok {ok : Op → Prop} {P : Origin × Call → Prop}
    (hok : ∀ origin c, ok (.call origin c) → P (origin, c)) {tr : List (Prog.Step Op Op.Ans)}
    (htr : ∀ step ∈ tr, ok step.1) : ∀ call ∈ callsOf tr, P call := by
  intro call hcall
  obtain ⟨⟨o, answer⟩, hmem, hstep⟩ := List.mem_filterMap.mp hcall
  cases o with
  | call origin c =>
    obtain rfl := Option.some.inj hstep
    exact hok origin c (htr _ hmem)
  | _ => cases hstep

/-! ## The parts of a round -/

/-- What a round has found out when it goes on as connected, or ends. -/
structure RoundHead where
  task : InputTask
  got : Option InputEvent
  nowMs : ℤ
  connected : Bool

/-- A round up to the last look at the connection of the exhibit branch. -/
def roundHead (t : InputTask) : Firmware RoundHead := do
  let got ← Prog.perform Op.queueReceive
  let now ← nowMs
  let connected ← get .connected
  if connected then
    return ⟨t, got, now, true⟩
  else do
    let t ← exhibitRound t now
    let connected ← get .connected
    return ⟨t, got, now, connected⟩

/-- The rest of a round. -/
def roundRest (h : RoundHead) : Firmware InputTask :=
  if h.connected then connectedRound h.task h.got h.nowMs else .pure h.task

theorem inputProcessRound_eq (t : InputTask) :
    inputProcessRound t = roundHead t >>= roundRest := by
  refine congrArg (Prog.op _) (funext fun got ↦ congrArg (Prog.op _) (funext fun now ↦
    congrArg (Prog.op _) (funext fun connected ↦ ?_)))
  cases connected with
  | true => rfl
  | false =>
    change (exhibitRound t now >>= _) = ((exhibitRound t now >>= _) >>= roundRest)
    rw [bind_assoc']
    rfl

/-- A round that goes on as connected, after the exhibit has been stopped. -/
def manualRound (t : InputTask) (got : Option InputEvent) (nowMs : ℤ) : Firmware InputTask :=
  if (t.received got).silent nowMs then
    enterFailsafe (t.received got)
  else
    handleReport (t.received got) got nowMs

theorem connectedRound_eq (t : InputTask) (got : Option InputEvent) (nowMs : ℤ) :
    connectedRound t got nowMs = stopExhibit t >>= fun t ↦ manualRound t got nowMs := rfl

/-- Operations of a round after the exhibit has been stopped. -/
def ManualOp (o : Op) : Prop := o = .get .connected ∨ FailsafeOp o ∨ SomeReportOp o

theorem sat_manualRound (t : InputTask) (got : Option InputEvent) (nowMs : ℤ) :
    (manualRound t got nowMs).Sat IdleAnswer ManualOp fun t' ↦
      t'.exhibit = t.exhibit ∧ t'.exhibitRunning = t.exhibitRunning := by
  have hreceived : (t.received got).exhibit = t.exhibit ∧
      (t.received got).exhibitRunning = t.exhibitRunning := by
    cases got <;> exact ⟨rfl, rfl⟩
  have hfailsafe : ∀ t₁ : InputTask,
      t₁.exhibit = t.exhibit ∧ t₁.exhibitRunning = t.exhibitRunning →
      (enterFailsafe t₁).Sat IdleAnswer ManualOp fun t' ↦
        t'.exhibit = t.exhibit ∧ t'.exhibitRunning = t.exhibitRunning := by
    intro t₁ h₁
    refine (sat_enterFailsafe t₁).mono (fun _ _ h ↦ h) (fun _ h ↦ .inr (.inl h)) ?_
    rintro _ rfl
    exact h₁
  refine sat_ite (fun _ ↦ hfailsafe _ hreceived) fun _ ↦ ?_
  cases got with
  | none => exact (sat_pure _).mpr hreceived
  | some evt =>
    refine ⟨.inl rfl, fun connected _ ↦ sat_ite (fun _ ↦ ?_) fun _ ↦ hfailsafe _ hreceived⟩
    refine (sat_processReport _ evt nowMs).mono (fun _ _ h ↦ h) (fun _ h ↦ .inr (.inr h)) ?_
    rintro t' ⟨pad, hlocals⟩
    exact ⟨hlocals.exhibit, hlocals.exhibitRunning⟩

/-- Who issues the calls of a round that goes on as connected. -/
theorem origin_of_manual {origin : Origin} {c : Call} (h : ManualOp (.call origin c)) :
    origin ≠ .exhibit ∧ origin ≠ .abort := by
  rcases h with h | ⟨rfl, -⟩ | ⟨t, evt, pad, nowMs, h | ⟨h, -⟩ | ⟨h, -⟩⟩
  · cases h
  · exact ⟨Origin.noConfusion, Origin.noConfusion⟩
  · cases origin with
    | exhibit | abort => cases h
    | _ => exact ⟨Origin.noConfusion, Origin.noConfusion⟩
  · cases h
  · cases h

/-! ## Silence after the connection has been seen -/

/-- The flag was read and is up. -/
def SawConnected (step : Prog.Step Op Op.Ans) : Prop := step = ⟨.get .connected, true⟩

/-- Not an output of the exhibit. -/
def NotExhibit (o : Op) : Prop := ∀ c, o ≠ .call .exhibit c

abbrev FallsSilent {α : Type} (p : Firmware α) : Prop :=
  p.Afterwards IdleAnswer SawConnected NotExhibit

section Silence

variable {α : Type}

theorem fallsSilent_call (origin : Origin) (c : Call) {f : Unit → Firmware α}
    (hf : FallsSilent (f ())) : FallsSilent (.op (.call origin c) f) :=
  fun _ _ ↦ ⟨fun h ↦ (nomatch h), hf⟩

/-- A read of the flag: the branch taken when it is up makes no output. -/
theorem fallsSilent_get {f : Bool → Firmware α}
    (htrue : (f true).Sat IdleAnswer NotExhibit fun _ ↦ True) (hfalse : FallsSilent (f false)) :
    FallsSilent (.op (.get .connected) f) := by
  intro connected _
  cases connected with
  | true => exact ⟨fun _ ↦ htrue, htrue.afterwards⟩
  | false => exact ⟨fun h ↦ (nomatch h), hfalse⟩

theorem fallsSilent_advance (e : Exhibit) (nowMs : ℤ) : FallsSilent (exhibitAdvance e nowMs) := by
  unfold exhibitAdvance
  cases e.phase with
  | turretA | turretRev | turretB | laserHold => trivial
  | start | afterHeadlight | afterHeadlight2 | afterSfx | headlightDelay | headlightDelay2
  | headlight | headlight2 | laserArm | laserGap | afterGatling | mist | sfx =>
    exact fallsSilent_call _ _ trivial
  | gatlingArm | gatlingGap => exact fallsSilent_call _ _ (fallsSilent_call _ _ trivial)
  | afterMist =>
    intro random _
    refine ⟨fun h ↦ (nomatch h), fallsSilent_call _ _ (fallsSilent_call _ _ ?_)⟩
    trivial

theorem fallsSilent_phaseTick (e : Exhibit) (nowMs : ℤ) :
    FallsSilent (exhibitPhaseTick e nowMs) := by
  unfold exhibitPhaseTick
  split
  · split
    · refine fallsSilent_get ?_ (fallsSilent_call _ _ ?_) <;> trivial
    · refine fallsSilent_get ?_ (fallsSilent_call _ _ ?_) <;> trivial
  · split
    · trivial
    · refine fallsSilent_get ?_ (fallsSilent_advance e nowMs)
      trivial

theorem fallsSilent_tick (e : Exhibit) (nowMs : ℤ) : FallsSilent (rccarExhibitTick e nowMs) := by
  unfold rccarExhibitTick
  split
  · refine fallsSilent_get ?_ (fallsSilent_call _ _ ?_)
    · trivial
    split
    · refine fallsSilent_get ?_ (fallsSilent_call _ _ (fallsSilent_phaseTick _ nowMs))
      trivial
    · exact fallsSilent_phaseTick e nowMs
  · trivial

theorem fallsSilent_exhibitRound (t : InputTask) (nowMs : ℤ) :
    FallsSilent (exhibitRound t nowMs) := by
  have htick : ∀ t₁ : InputTask, FallsSilent (rccarExhibitTick t₁.exhibit nowMs >>= fun e ↦
      (.pure { t₁ with exhibit := e } : Firmware InputTask)) := fun t₁ ↦
    (fallsSilent_tick t₁.exhibit nowMs).bind fun _ ↦ trivial
  unfold exhibitRound beginExhibit
  split
  · exact htick _
  · exact fallsSilent_call _ _ (htick _)

theorem notExhibit_of_origin {o : Op} (h : ∀ origin c, o = .call origin c → origin ≠ .exhibit) :
    NotExhibit o := fun c hc ↦ h .exhibit c hc rfl

theorem sat_connectedRound_silent (t : InputTask) (got : Option InputEvent) (nowMs : ℤ) :
    (connectedRound t got nowMs).Sat IdleAnswer NotExhibit fun _ ↦ True := by
  have hstop : (stopExhibit t).Sat IdleAnswer NotExhibit fun _ ↦ True := by
    refine (sat_stopExhibit t).mono (fun _ _ h ↦ h) (fun o ho ↦ ?_) fun _ _ ↦ trivial
    apply notExhibit_of_origin
    rintro origin c rfl
    rw [ho.1]
    exact Origin.noConfusion
  rw [connectedRound_eq]
  refine hstop.bind fun t₁ _ ↦ ?_
  refine (sat_manualRound t₁ got nowMs).mono (fun _ _ h ↦ h) (fun o ho ↦ ?_) fun _ _ ↦ trivial
  apply notExhibit_of_origin
  rintro origin c rfl
  exact (origin_of_manual ho).1

theorem fallsSilent_round (t : InputTask) : FallsSilent (inputProcessRound t) := by
  intro got _
  refine ⟨fun h ↦ (nomatch h), fun nowMs _ ↦ ⟨fun h ↦ (nomatch h), ?_⟩⟩
  refine fallsSilent_get (sat_connectedRound_silent t got nowMs) ?_
  refine (fallsSilent_exhibitRound t nowMs).bind fun t₁ ↦ ?_
  refine Sat.perform_bind (fun c h ↦ nomatch h) fun connected _ ↦ ?_
  exact sat_ite (fun _ ↦ sat_connectedRound_silent t₁ got nowMs) fun _ ↦ trivial

end Silence

/-! ## The abort -/

/-- The calls of `rccar_exhibit_abort`. -/
def abortCalls : List Call :=
  [.turretSet 0, .headlightSet false, .radarSetEnabled false, .humidifierSet false, .laserStop,
    .wheelSet .zero]

/-- Everything that the exhibit drives is off. -/
structure Dark (o : Outputs) : Prop where
  turret : o.turret = 0
  wheels : o.wheels = .zero
  headlight : o.headlight.on = false
  radar : o.radar = false
  humidifier : o.humidifier.on = false
  led : o.led = false
  gatlingLed : o.gatlingLed = false

theorem dark_abort (o : Outputs) : Dark (abortCalls.foldl Outputs.after o) where
  turret := rfl
  wheels := rfl
  headlight := by
    change (if o.headlight.on = false then o.headlight else ⟨false, false⟩).on = false
    split <;> first | assumption | rfl
  radar := rfl
  humidifier := by
    change (if o.humidifier.on = false then o.humidifier else ⟨false, false⟩).on = false
    split <;> first | assumption | rfl
  led := rfl
  gatlingLed := rfl

theorem exec_call {α : Type} {origin : Origin} {c : Call} {f : Unit → Firmware α} {s s' : Sys}
    {tr : List (Prog.Step Op Op.Ans)} {a : α}
    (h : Exec Disturbed (.op (.call origin c) f) s tr (.pure a) s') :
    ∃ tr' s₁, Exec Disturbed (f ()) s₁ tr' (.pure a) s' ∧
      callsOf tr = (origin, c) :: callsOf tr' := by
  cases h with
  | step hop hrest => exact ⟨_, _, hrest, rfl⟩

/-- The abort of a running exhibit switches everything off, in six calls and nothing else. -/
theorem exec_stopExhibit {t t' : InputTask} {s s' : Sys} {tr : List (Prog.Step Op Op.Ans)}
    (hrunning : t.exhibitRunning = true) (hactive : t.exhibit.active = true)
    (h : Exec Disturbed (stopExhibit t) s tr (.pure t') s') :
    callsOf tr = abortCalls.map (fun c ↦ (.abort, c)) ∧ t'.exhibitRunning = false ∧
      t'.exhibit.active = false ∧ t'.exhibit.gunPending = false := by
  unfold stopExhibit rccarExhibitAbort at h
  rw [if_pos hrunning, if_pos hactive] at h
  obtain ⟨tr₁, s₁, h₁, hcalls₁⟩ := exec_call h
  obtain ⟨tr₂, s₂, h₂, hcalls₂⟩ := exec_call h₁
  obtain ⟨tr₃, s₃, h₃, hcalls₃⟩ := exec_call h₂
  obtain ⟨tr₄, s₄, h₄, hcalls₄⟩ := exec_call h₃
  obtain ⟨tr₅, s₅, h₅, hcalls₅⟩ := exec_call h₄
  obtain ⟨tr₆, s₆, h₆, hcalls₆⟩ := exec_call h₅
  cases h₆ with
  | refl =>
    refine ⟨?_, rfl, rfl, rfl⟩
    rw [hcalls₁, hcalls₂, hcalls₃, hcalls₄, hcalls₅, hcalls₆]
    rfl

/-! ## Rounds one after another -/

/-- A round with what it did, and the state in which the next one starts. -/
structure Iteration where
  tr : List (Prog.Step Op Op.Ans)
  task : InputTask
  sys : Sys
  later : Sys

/-- Rounds of the input task; between two rounds anything may happen. -/
abbrev Rounds : List (Entry (InputTask × Sys) Iteration) → InputTask × Sys → Prop :=
  Run (fun _ it ↦ (it.task, it.later))
    (fun _ w it ↦ Exec Disturbed (inputProcessRound w.1) w.2 it.tr (.pure it.task) it.sys)
    fun w ↦ w.1 = {}

/-- No call is one of the exhibit or of its abort. -/
def Manual (tr : List (Prog.Step Op Op.Ans)) : Prop :=
  ∀ call ∈ callsOf tr, call.1 ≠ .exhibit ∧ call.1 ≠ .abort

/-- A round that goes on as connected stops a running exhibit first, and otherwise neither shows nor
aborts anything; `head` is what the round was up to then. -/
def GoesOn (w : InputTask × Sys) (it : Iteration) : Prop :=
  ∃ head s₁ tr₁ tr₂, it.tr = tr₁ ++ tr₂ ∧ head.connected = true ∧
    Exec Disturbed (roundHead w.1) w.2 tr₁ (.pure head) s₁ ∧
    (∀ call ∈ callsOf tr₁, call.1 = .exhibit) ∧
    Exec Disturbed (connectedRound head.task head.got head.nowMs) s₁ tr₂ (.pure it.task) it.sys ∧
    it.task.exhibitRunning = false ∧ it.task.exhibit.gunPending = false ∧
    (head.task.exhibitRunning = false → Manual it.tr) ∧
    (head.task.exhibitRunning = true → ∃ t s₂ tr₃ tr₄, tr₂ = tr₃ ++ tr₄ ∧
      Exec Disturbed (stopExhibit head.task) s₁ tr₃ (.pure t) s₂ ∧
      callsOf tr₃ = abortCalls.map (fun c ↦ (.abort, c)) ∧ Dark s₂.outputs ∧ Manual tr₄)

/-- A round that ends unconnected: all its outputs are those of the exhibit, which is running. -/
def ShowsOn (it : Iteration) : Prop :=
  it.task.exhibitRunning = true ∧ ∀ call ∈ callsOf it.tr, call.1 = .exhibit

/-- The round starts by finding the connection up. -/
def StartsConnected (it : Iteration) : Prop := it.tr[2]? = some ⟨.get .connected, true⟩

/-- The locals at the end of a round. -/
structure ExhibitFlags (t : InputTask) : Prop where
  running : t.exhibitRunning = t.exhibit.active
  quiet : t.exhibit.active = false → t.exhibit.gunPending = false

section Round

variable {t : InputTask} {s s' : Sys} {tr : List (Prog.Step Op Op.Ans)}

theorem idle_and_trivial (o : Op) (s : Sys) (answer : o.Ans) (s' : Sys)
    (h : Disturbed o s answer s') : IdleAnswer o answer ∧ True :=
  ⟨h.idleAnswer, trivial⟩

/-- The head of a round either finds the connection up at once, or shows the exhibit. -/
theorem exec_roundHead {E : (o : Op) → Sys → o.Ans → Sys → Prop} {head : RoundHead}
    (h : Exec E (roundHead t) s tr (.pure head) s') :
    (tr[2]? = some ⟨.get .connected, true⟩ ∧ callsOf tr = [] ∧ head.task = t ∧
        head.connected = true) ∨
      (tr[2]? = some ⟨.get .connected, false⟩ ∧ (∀ call ∈ callsOf tr, call.1 = .exhibit) ∧
        ExhibitLocals t head.task) := by
  change Exec E (.op .queueReceive fun got ↦ .op .nowMs fun now ↦ .op (.get .connected)
    fun connected ↦ if connected then .pure ⟨t, got, now, true⟩ else
      (exhibitRound t now >>= fun t₁ ↦ .op (.get .connected) fun c ↦ .pure ⟨t₁, got, now, c⟩)) s tr
    (.pure head) s' at h
  cases h with
  | @step _ _ got _ s₁ _ _ _ _ h₁ =>
    cases h₁ with
    | @step _ _ now _ s₂ _ _ _ _ h₂ =>
      cases h₂ with
      | @step _ _ connected _ s₃ _ tr₃ _ _ h₃ =>
        cases connected with
        | true =>
          change Exec E (.pure ⟨t, got, now, true⟩) s₃ tr₃ (.pure head) s' at h₃
          cases h₃ with
          | refl => exact .inl ⟨rfl, rfl, rfl, rfl⟩
        | false =>
          change Exec E (exhibitRound t now >>= fun t₁ ↦ .op (.get .connected) fun c ↦
            .pure ⟨t₁, got, now, c⟩) s₃ tr₃ (.pure head) s' at h₃
          have hsat : (exhibitRound t now >>= fun t₁ ↦ .op (.get .connected) fun c ↦
              (.pure ⟨t₁, got, now, c⟩ : Firmware RoundHead)).Sat (fun _ _ ↦ True) ExhibitOp
              fun head ↦ ExhibitLocals t head.task := by
            apply (sat_exhibitRound t now).bind
            intro t₁ h₁
            exact ⟨rfl, fun _ _ ↦ h₁⟩
          obtain ⟨hpost, -, hok⟩ := hsat.exec (I := fun _ ↦ True)
            (fun _ _ _ _ _ _ _ ↦ ⟨trivial, trivial⟩) trivial h₃
          have hcalls : ∀ call ∈ callsOf tr₃, call.1 = .exhibit :=
            calls_of_ok (P := fun call ↦ call.1 = .exhibit) (fun _ _ h ↦ h.1) hok
          exact .inr ⟨rfl, hcalls, hpost⟩

theorem exec_manualRound {got : Option InputEvent} {nowMs : ℤ} {t' : InputTask}
    (h : Exec Disturbed (manualRound t got nowMs) s tr (.pure t') s') :
    Manual tr ∧ t'.exhibit = t.exhibit ∧ t'.exhibitRunning = t.exhibitRunning := by
  obtain ⟨hpost, -, hok⟩ := (sat_manualRound t got nowMs).exec
    (fun o s a s' _ _ h ↦ idle_and_trivial o s a s' h) trivial h
  exact ⟨calls_of_ok (P := fun call ↦ call.1 ≠ .exhibit ∧ call.1 ≠ .abort)
    (fun _ _ h ↦ origin_of_manual h) hok, hpost⟩

theorem Manual.append {tr tr' : List (Prog.Step Op Op.Ans)} (h : Manual tr) (h' : Manual tr') :
    Manual (tr ++ tr') := by
  intro call hcall
  rw [callsOf_append, List.mem_append] at hcall
  exact hcall.elim (h call) (h' call)

/-- A round without a running exhibit that finds the connection up is manual. -/
theorem exec_connectedRound_manual {got : Option InputEvent} {nowMs : ℤ} {t' : InputTask}
    (hrunning : t.exhibitRunning = false)
    (h : Exec Disturbed (connectedRound t got nowMs) s tr (.pure t') s') :
    Manual tr ∧ t'.exhibit = t.exhibit ∧ t'.exhibitRunning = false := by
  rw [connectedRound_eq, stopExhibit, if_neg (by simp [hrunning])] at h
  obtain ⟨hmanual, hexhibit, hrunning'⟩ := exec_manualRound h
  exact ⟨hmanual, hexhibit, hrunning'.trans hrunning⟩

end Round

section Rounds

variable {w : InputTask × Sys} {it : Iteration}

/-- Every round keeps the flags in step, and either goes on as connected or shows the exhibit. -/
theorem round_outcome (hflags : ExhibitFlags w.1)
    (h : Exec Disturbed (inputProcessRound w.1) w.2 it.tr (.pure it.task) it.sys) :
    ExhibitFlags it.task ∧ (GoesOn w it ∨ ShowsOn it) := by
  rw [inputProcessRound_eq] at h
  obtain ⟨head, s₁, tr₁, tr₂, htr, hhead, hrest⟩ := exec_bind_pure h
  have hflags' : ExhibitFlags head.task ∧ (∀ call ∈ callsOf tr₁, call.1 = .exhibit) ∧
      (head.connected = false → head.task.exhibitRunning = true) ∧
      (head.task.exhibitRunning = false → callsOf tr₁ = []) := by
    rcases exec_roundHead hhead with ⟨-, hcalls, htask, hconnected⟩ | ⟨-, hcalls, e, htask, hactive⟩
    · rw [htask, hcalls, hconnected]
      exact ⟨hflags, by simp, fun h ↦ (nomatch h), fun _ ↦ rfl⟩
    · have hactive' : e.active = true := hactive (by
        rw [hflags.running]
        exact Bool.eq_false_or_eq_true _ |>.symm)
      rw [htask]
      refine ⟨⟨hactive'.symm, fun h ↦ ?_⟩, hcalls, fun _ ↦ rfl, fun h ↦ (nomatch h)⟩
      rw [show ({ w.1.disconnected with exhibit := e, exhibitRunning := true } : InputTask).exhibit =
        e from rfl, hactive'] at h
      cases h
  obtain ⟨hheadFlags, hcalls, hshown, hnone⟩ := hflags'
  unfold roundRest at hrest
  cases hconnected : head.connected with
  | false =>
    rw [hconnected, if_neg Bool.false_ne_true] at hrest
    obtain ⟨htask, htr₂⟩ : it.task = head.task ∧ tr₂ = [] := by
      generalize hq : (Prog.pure it.task : Firmware InputTask) = q at hrest
      cases hrest with
      | refl => exact ⟨by injection hq, rfl⟩
    rw [htask]
    refine ⟨hheadFlags, .inr ⟨htask ▸ hshown hconnected, ?_⟩⟩
    rw [htr, htr₂, List.append_nil]
    exact hcalls
  | true =>
    rw [hconnected, if_pos rfl] at hrest
    cases hrunning : head.task.exhibitRunning with
    | false =>
      obtain ⟨hmanual, hexhibit, hstopped⟩ := exec_connectedRound_manual hrunning hrest
      have hinactive : head.task.exhibit.active = false := hheadFlags.running.symm.trans hrunning
      have hquiet : it.task.exhibit.gunPending = false := by
        rw [hexhibit]
        exact hheadFlags.quiet hinactive
      refine ⟨⟨?_, fun _ ↦ hquiet⟩, .inl ⟨head, s₁, tr₁, tr₂, htr, hconnected, hhead, hcalls, hrest,
        hstopped, hquiet, fun _ ↦ ?_, fun h ↦ ?_⟩⟩
      · rw [hstopped, hexhibit, hinactive]
      · rw [htr]
        refine Manual.append (fun call hcall ↦ ?_) hmanual
        rw [hnone hrunning] at hcall
        cases hcall
      · rw [hrunning] at h
        cases h
    | true =>
      have hactive : head.task.exhibit.active = true := hheadFlags.running.symm.trans hrunning
      rw [connectedRound_eq] at hrest
      obtain ⟨t, s₂, tr₃, tr₄, htr₂, hstop, hmanual⟩ := exec_bind_pure hrest
      obtain ⟨habort, hstopped, hinactive, hquiet⟩ := exec_stopExhibit hrunning hactive hstop
      obtain ⟨hmanual, hexhibit, hrunning'⟩ := exec_manualRound hmanual
      have hdark : Dark s₂.outputs := by
        rw [outputs_of_exec hstop, habort, List.foldl_map]
        exact dark_abort _
      rw [← hexhibit] at hinactive hquiet
      refine ⟨⟨?_, fun _ ↦ hquiet⟩, .inl ⟨head, s₁, tr₁, tr₂, htr, hconnected, hhead, hcalls,
        connectedRound_eq .. ▸ hrest, hrunning'.trans hstopped, hquiet, fun h ↦ ?_, fun _ ↦
        ⟨t, s₂, tr₃, tr₄, htr₂, hstop, habort, hdark, hmanual⟩⟩⟩
      · rw [hrunning', hstopped, hinactive]
      · rw [hrunning] at h
        cases h

/-- Once stopped, the exhibit stays stopped while rounds find the connection up. -/
theorem round_manual (hrunning : w.1.exhibitRunning = false) (hstarts : StartsConnected it)
    (h : Exec Disturbed (inputProcessRound w.1) w.2 it.tr (.pure it.task) it.sys) :
    Manual it.tr ∧ it.task.exhibitRunning = false := by
  rw [inputProcessRound_eq] at h
  obtain ⟨head, s₁, tr₁, tr₂, htr, hhead, hrest⟩ := exec_bind_pure h
  unfold StartsConnected at hstarts
  rcases exec_roundHead hhead with ⟨-, hcalls, htask, hconnected⟩ | ⟨hread, -, -⟩
  · unfold roundRest at hrest
    rw [hconnected, if_pos rfl, htask] at hrest
    obtain ⟨hmanual, -, hstopped⟩ := exec_connectedRound_manual hrunning hrest
    refine ⟨?_, hstopped⟩
    rw [htr]
    refine Manual.append (fun call hcall ↦ ?_) hmanual
    rw [hcalls] at hcall
    cases hcall
  · have hlength : 2 < tr₁.length := (List.getElem?_eq_some_iff.mp hread).1
    rw [htr, List.getElem?_append_left hlength, hread] at hstarts
    cases hstarts

end Rounds

/-! ## Every sequence of rounds -/

/-- What holds of the rounds performed so far. -/
structure HandedOver (log : List (Entry (InputTask × Sys) Iteration)) (w : InputTask × Sys) :
    Prop where
  boundary : w.1.exhibitRunning = w.1.exhibit.active
  /-- After the connection has been seen up, the exhibit makes no further output in a round. -/
  silent : ∀ entry ∈ log, ∀ pre post, entry.event.tr = pre ++ ⟨.get .connected, true⟩ :: post →
    ∀ call ∈ callsOf post, call.1 ≠ .exhibit
  rounds : ∀ entry ∈ log, GoesOn entry.before entry.event ∨ ShowsOn entry.event
  /-- After a round that went on as connected, nothing is shown or aborted until a round finds the
  connection down. -/
  manual : ∀ later entry earlier, log = later ++ entry :: earlier →
    GoesOn entry.before entry.event → (∀ e ∈ later, StartsConnected e.event) →
    ∀ e ∈ later, Manual e.event.tr

theorem exhibitFlags_of_rounds {log : List (Entry (InputTask × Sys) Iteration)}
    {w : InputTask × Sys} (hrun : Rounds log w) : ExhibitFlags w.1 := by
  refine hrun.invariant (I := fun _ w ↦ ExhibitFlags w.1) ?_ ?_
  · intro w hw
    rw [hw]
    exact ⟨rfl, fun _ ↦ rfl⟩
  · intro log w it _ hflags hexec
    exact (round_outcome hflags hexec).1

theorem stopped_of_rounds {log : List (Entry (InputTask × Sys) Iteration)} {w : InputTask × Sys}
    (hrun : Rounds log w) : ∀ later entry earlier, log = later ++ entry :: earlier →
      GoesOn entry.before entry.event → (∀ e ∈ later, StartsConnected e.event) →
      w.1.exhibitRunning = false ∧ ∀ e ∈ later, Manual e.event.tr := by
  induction hrun with
  | start =>
    intro later entry earlier hlog
    simp at hlog
  | @step log w it hrun hexec ih =>
    intro later entry earlier hlog hgoes hstarts
    cases later with
    | nil =>
      obtain ⟨rfl, rfl⟩ := List.cons.inj hlog
      obtain ⟨head, s₁, tr₁, tr₂, -, -, -, -, -, hstopped, -⟩ := hgoes
      exact ⟨hstopped, by simp⟩
    | cons e later =>
      obtain ⟨rfl, hlog'⟩ := List.cons.inj hlog
      rw [List.forall_mem_cons] at hstarts ⊢
      obtain ⟨hstopped, hmanual⟩ := ih later entry earlier hlog' hgoes hstarts.2
      obtain ⟨hnow, hstopped'⟩ := round_manual hstopped hstarts.1 hexec
      exact ⟨hstopped', hnow, hmanual⟩

/-- The exhibit hands over to manual control, wherever in a round the connection comes up. -/
theorem exhibit_hands_over {log : List (Entry (InputTask × Sys) Iteration)} {w : InputTask × Sys}
    (hrun : Rounds log w) : HandedOver log w := by
  have hentries : ∀ entry ∈ log, ExhibitFlags entry.before.1 ∧
      Exec Disturbed (inputProcessRound entry.before.1) entry.before.2 entry.event.tr
        (.pure entry.event.task) entry.event.sys := by
    refine hrun.invariant (I := fun log _ ↦ ∀ entry ∈ log, ExhibitFlags entry.before.1 ∧
      Exec Disturbed (inputProcessRound entry.before.1) entry.before.2 entry.event.tr
        (.pure entry.event.task) entry.event.sys) (by simp) ?_
    intro log w it hprev ih hexec
    exact List.forall_mem_cons.mpr ⟨⟨exhibitFlags_of_rounds hprev, hexec⟩, ih⟩
  exact
    { boundary := (exhibitFlags_of_rounds hrun).running
      silent := fun entry hentry pre post htr call hcall ↦ by
        obtain ⟨-, hexec⟩ := hentries entry hentry
        have hok := (fallsSilent_round entry.before.1).exec
          (fun _ _ _ _ h ↦ h.idleAnswer) hexec htr rfl
        exact calls_of_ok (P := fun call ↦ call.1 ≠ .exhibit)
          (fun origin c h horigin ↦ h c (horigin ▸ rfl)) hok call hcall
      rounds := fun entry hentry ↦ by
        obtain ⟨hflags, hexec⟩ := hentries entry hentry
        exact (round_outcome hflags hexec).2
      manual := fun later entry earlier hlog hgoes hstarts ↦
        (stopped_of_rounds hrun later entry earlier hlog hgoes hstarts).2 }

/-- An undisturbed round, after which the state is `later`. -/
def undisturbed (w : InputTask × Sys) (later : Sys → Sys) : Iteration where
  tr := (inputProcessRound w.1).trace (exec {}) w.2
  task := ((inputProcessRound w.1).run (exec {}) w.2).1
  sys := ((inputProcessRound w.1).run (exec {}) w.2).2
  later := later ((inputProcessRound w.1).run (exec {}) w.2).2

theorem exec_undisturbed (w : InputTask × Sys) (later : Sys → Sys) :
    Exec Disturbed (inputProcessRound w.1) w.2 (undisturbed w later).tr
      (.pure (undisturbed w later).task) (undisturbed w later).sys :=
  exec_trace (fun _ s ↦ ⟨s, {}, rfl, rfl⟩) _ _

/-- The exhibit starts at boot, the connection comes up after the first round, and the second round
aborts. -/
theorem exhibit_hands_over_once : ∃ log w, Rounds log w ∧
    ((∃ entry ∈ log, entry.event.task.exhibitRunning = true) ∧ w.1.exhibitRunning = false) ∧
    HandedOver log w := by
  let w₀ : InputTask × Sys := ({}, { clock := 1000 })
  let it₀ := undisturbed w₀ fun s ↦ s.set .connected true
  let w₁ : InputTask × Sys := (it₀.task, it₀.later)
  let it₁ := undisturbed w₁ id
  have hrun : Rounds [⟨w₁, it₁⟩, ⟨w₀, it₀⟩] (it₁.task, it₁.later) :=
    .step it₁ (.step it₀ (.start rfl) (exec_undisturbed w₀ _)) (exec_undisturbed w₁ _)
  have hshown : it₀.task.exhibitRunning = true := by decide +kernel
  have hstopped : it₁.task.exhibitRunning = false := by decide +kernel
  exact ⟨_, _, hrun, ⟨⟨⟨w₀, it₀⟩, by simp, hshown⟩, hstopped⟩, exhibit_hands_over hrun⟩

end Nutcracker
