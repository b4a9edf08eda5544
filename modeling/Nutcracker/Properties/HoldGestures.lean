import Nutcracker.Platform.Rounds

/-!
# Hold gestures

L1 and R1 start the wheel test, Select and Start the factory reset, once both have been held for three
seconds.  A hold is a sequence of pad samples that all show both buttons; a sample without them, the
loss of the connection and a failsafe timeout end it.  The input task forgets when a hold began on
the first two, but not on a failsafe timeout: what it measures is a continuous hold as long as no
timeout is found while one is in progress.
-/

namespace Nutcracker

open Prog

variable {bp : Bluepad32} {g : Gesture} {log : Log} {w : World} {ω : Oracle}

/-! ## The two gestures -/

inductive Gesture
  | wheelTest | factoryReset
  deriving DecidableEq

namespace Gesture

/-- Both buttons are pressed. -/
def held : Gesture → InputEvent → Bool
  | .wheelTest, pad => pad.buttons.shoulderL && pad.buttons.shoulderR
  | .factoryReset, pad => pad.miscButtons.select && pad.miscButtons.start

def holdMs : Gesture → ℤ
  | .wheelTest => wheelTestHoldMs
  | .factoryReset => selectStartHoldMs

def pressedAt : Gesture → InputTask → ℤ
  | .wheelTest, t => t.wheelTestPressedAt
  | .factoryReset, t => t.selectStartPressedAt

def fired : Gesture → InputTask → Bool
  | .wheelTest, t => t.wheelTestFired
  | .factoryReset, t => t.selectStartFired

/-- The operation by which the gesture takes effect. -/
def acts : Gesture → Op → Bool
  | .wheelTest, .createWheelTest => true
  | .factoryReset, .timerStartOnce .restart _ => true
  | _, _ => false

end Gesture

namespace World

/-- The pad sample that an event processes. -/
def sampled (w : World) : Event → Option InputEvent
  | .iterate _ => w.processed.map w.sample
  | _ => none

/-- A round finds no report for `FAILSAFE_MS`. -/
def timesOut (w : World) : Event → Bool
  | .iterate _ => w.sys.plat.connected &&
    (w.task.received w.sys.plat.inputQueue).silent w.sys.nowMs
  | _ => false

/-- A round finds no device connected. -/
def alone (w : World) : Event → Bool
  | .iterate _ => !w.sys.plat.connected
  | _ => false

/-- The gesture takes effect, or its flag goes up. -/
def fires (bp : Bluepad32) (g : Gesture) (w : World) : Event → Bool
  | .iterate ω => (w.roundTrace ω).any (fun x ↦ g.acts x.1) ||
    (!g.fired w.task && g.fired (w.next bp (.iterate ω)).task)
  | _ => false

/-- A hold does not last beyond this event. -/
def endsHold (g : Gesture) (w : World) (e : Event) : Bool :=
  w.timesOut e || w.alone e || (w.sampled e).any fun pad ↦ !g.held pad

end World

/-! ## Histories -/

/-- A report processed at `limitMs` or before, and every sample since then, shows both buttons; no
timeout was found since. -/
def heldFrom (g : Gesture) (limitMs : ℤ) : Log → Bool
  | [] => false
  | entry :: log => !entry.before.endsHold g entry.event &&
    ((entry.before.sampled entry.event).isSome && decide (entry.before.sys.nowMs ≤ limitMs) ||
      heldFrom g limitMs log)

/-- The gesture has fired in the hold that is in progress. -/
def firedInHold (bp : Bluepad32) (g : Gesture) : Log → Bool
  | [] => false
  | entry :: log => !entry.before.endsHold g entry.event &&
    (entry.before.fires bp g entry.event || firedInHold bp g log)

/-- The last sample of the connection shows both buttons. -/
def lastHeld (g : Gesture) : Log → Bool
  | [] => false
  | entry :: log =>
    match entry.before.sampled entry.event with
    | some pad => g.held pad
    | none => !entry.before.alone entry.event && lastHeld g log

/-- No failsafe timeout is found while both buttons are held. -/
def NoTimeoutInHold (g : Gesture) (log : Log) (w : World) (e : Event) : Prop :=
  w.timesOut e = true → lastHeld g log = false

instance (g : Gesture) (log : Log) (w : World) (e : Event) :
    Decidable (NoTimeoutInHold g log w e) :=
  inferInstanceAs (Decidable (_ = true → _ = false))

theorem heldFrom_mono {limitMs limitMs' : ℤ} (hle : limitMs ≤ limitMs')
    (h : heldFrom g limitMs log = true) : heldFrom g limitMs' log = true := by
  induction log with
  | nil => exact h
  | cons entry log ih =>
    unfold heldFrom at h ⊢
    obtain ⟨hgoes, hsince⟩ := Bool.and_eq_true_iff.mp h
    rw [hgoes, Bool.true_and]
    rcases Bool.or_eq_true_iff.mp hsince with hnow | hbefore
    · obtain ⟨hsample, htime⟩ := Bool.and_eq_true_iff.mp hnow
      have htime : entry.before.sys.nowMs ≤ limitMs := of_decide_eq_true htime
      rw [hsample, decide_eq_true (htime.trans hle)]
      rfl
    · rw [ih hbefore, Bool.or_true]

/-! ## What a round does to a gesture -/

/-- Both buttons are held, for long enough, and the gesture has not fired. -/
structure Gesture.Due (g : Gesture) (t : InputTask) (pad : InputEvent) (nowMs : ℤ) : Prop where
  held : g.held pad = true
  fresh : g.fired t = false
  long : nowMs - heldSince (g.pressedAt t) nowMs ≥ g.holdMs

theorem due_of_hold {t : InputTask} {evt pad : InputEvent} {nowMs : ℤ} {o : Op}
    (ho : HoldOp t evt pad nowMs o) (hacts : g.acts o = true) : g.Due t pad nowMs := by
  cases g with
  | wheelTest =>
    cases o with
    | createWheelTest =>
      rcases ho with h | ⟨-, h⟩ | ⟨h, -⟩
      · cases h
      · exact ⟨h.1, h.2.1, h.2.2⟩
      · cases h
    | _ => cases hacts
  | factoryReset =>
    cases o with
    | timerStartOnce timer us =>
      cases timer with
      | restart =>
        rcases ho with h | ⟨h, -⟩ | ⟨-, h⟩
        · rcases h with h | h <;> cases h
        · cases h
        · exact ⟨h.1, h.2.1, h.2.2⟩
      | _ => cases hacts
    | _ => cases hacts

/-- Outside of reports nothing fires. -/
theorem acts_eq_false {o : Op} (ho : o = .queueReceive ∨ o = .nowMs ∨ o = .get .connected ∨
    ExhibitOp o ∨ AbortOp o ∨ FailsafeOp o) : g.acts o = false := by
  cases o with
  | createWheelTest => rcases ho with h | h | h | h | h | h <;> cases h
  | timerStartOnce timer us => rcases ho with h | h | h | h | h | h <;> cases h
  | _ => cases g <;> rfl

section Same

variable {t t' : InputTask}

theorem pressedAt_of_same (h : World.SameInput t t') : g.pressedAt t' = g.pressedAt t := by
  rw [h]
  cases g <;> rfl

theorem fired_of_same (h : World.SameInput t t') : g.fired t' = g.fired t := by
  rw [h]
  cases g <;> rfl

theorem pressedAt_of_received {got : Option InputEvent} {active : Bool}
    (h : World.SameInput { t.received got with failsafeActive := active } t') :
    g.pressedAt t' = g.pressedAt t := by
  rw [pressedAt_of_same h]
  cases got <;> cases g <;> rfl

theorem fired_of_received {got : Option InputEvent} {active : Bool}
    (h : World.SameInput { t.received got with failsafeActive := active } t') :
    g.fired t' = g.fired t := by
  rw [fired_of_same h]
  cases got <;> cases g <;> rfl

end Same

/-- Nothing stands against the gesture: no wheel test is running that a second one would disturb. -/
def Gesture.free : Gesture → Sys → Bool
  | .wheelTest, s => !s.motor.testActive
  | .factoryReset, _ => true

theorem pressedAt_of_pad {t t' : InputTask} {pad : InputEvent} {nowMs : ℤ}
    (h : PadLocals t t' pad nowMs) :
    g.pressedAt t' = if g.held pad then heldSince (g.pressedAt t) nowMs else 0 := by
  cases g with
  | wheelTest => exact h.wheelTestPressedAt
  | factoryReset => exact h.selectStartPressedAt

theorem fired_of_pad {s : Sys} {t t' : InputTask} {pad : InputEvent} {nowMs : ℤ}
    (h : PadLocals t t' pad nowMs)
    (hfired : t'.wheelTestFired = wheelTestFires t pad s.motor.testActive nowMs) :
    g.fired t' = (g.held pad && (g.fired t ||
      (g.free s && decide (nowMs - heldSince (g.pressedAt t) nowMs ≥ g.holdMs)))) := by
  cases g with
  | wheelTest => exact hfired
  | factoryReset => exact h.selectStartFired

theorem free_of_creates {s : Sys} {o : Op} (ho : CreatesIdle s o) (hacts : g.acts o = true) :
    g.free s = true := by
  cases g with
  | wheelTest =>
    cases o with
    | createWheelTest =>
      change (!s.motor.testActive) = true
      rw [ho rfl]
      rfl
    | _ => cases hacts
  | factoryReset => rfl

/-- A round, as far as a gesture is concerned. -/
inductive GestureRound (bp : Bluepad32) (g : Gesture) (w : World) (ω : Oracle) : Prop
  | alone (halone : w.alone (.iterate ω) = true) (hsample : w.sampled (.iterate ω) = none)
      (hpressed : g.pressedAt (w.next bp (.iterate ω)).task = 0)
      (hfires : w.fires bp g (.iterate ω) = false)
  | silent (halone : w.alone (.iterate ω) = false) (hsample : w.sampled (.iterate ω) = none)
      (hpressed : g.pressedAt (w.next bp (.iterate ω)).task = g.pressedAt w.task)
      (hfired : g.fired (w.next bp (.iterate ω)).task = g.fired w.task)
      (hfires : w.fires bp g (.iterate ω) = false)
  | sample (pad : InputEvent) (halone : w.alone (.iterate ω) = false)
      (htimesOut : w.timesOut (.iterate ω) = false) (hsample : w.sampled (.iterate ω) = some pad)
      (hpressed : g.pressedAt (w.next bp (.iterate ω)).task =
        if g.held pad then heldSince (g.pressedAt w.task) w.sys.nowMs else 0)
      (hkept : g.held pad = true → g.fired w.task = true →
        g.fired (w.next bp (.iterate ω)).task = true)
      (hfires : w.fires bp g (.iterate ω) = true → g.Due w.task pad w.sys.nowMs ∧
        g.fired (w.next bp (.iterate ω)).task = true)

theorem fires_eq_false {t' : InputTask} (ht' : (w.next bp (.iterate ω)).task = t')
    (hops : ∀ x ∈ w.roundTrace ω, g.acts x.1 = false)
    (hfired : g.fired t' = true → g.fired w.task = true) : w.fires bp g (.iterate ω) = false := by
  have hnone : (w.roundTrace ω).any (fun x ↦ g.acts x.1) = false := by
    rw [List.any_eq_false]
    exact fun x hx ↦ Bool.eq_false_iff.mp (hops x hx)
  change (_ || (_ && g.fired (w.next bp (.iterate ω)).task)) = false
  rw [hnone, ht', Bool.false_or]
  cases h : g.fired t' with
  | false => exact Bool.and_false _
  | true => rw [hfired h]; rfl

theorem sampled_eq_none (h : w.processed = none) : w.sampled (.iterate ω) = none := by
  change w.processed.map w.sample = none
  rw [h]
  rfl

theorem gestureRound (bp : Bluepad32) (g : Gesture) (w : World) (ω : Oracle) :
    GestureRound bp g w ω := by
  cases w.roundCase bp ω with
  | unconnected hconnected hops hlocals =>
    obtain ⟨e, heq, -⟩ := hlocals
    have hnone := World.processed_of_unconnected hconnected
    refine .alone ?_ (sampled_eq_none hnone) ?_ (fires_eq_false heq ?_ ?_)
    · change (!w.sys.plat.connected) = true
      rw [hconnected]
      rfl
    · rw [heq]
      cases g <;> rfl
    · intro x hx
      apply acts_eq_false
      rcases hops x hx with h | h | h
      · exact .inl h
      · exact .inr (.inl h)
      · exact .inr (.inr (.inr (.inl h)))
    · cases g <;> exact fun h ↦ Bool.noConfusion h
  | silent hconnected hsilent hops hlocals =>
    have hnone := World.processed_of_silent hsilent
    have hfired := fired_of_received hlocals (g := g)
    refine .silent ?_ (sampled_eq_none hnone) (pressedAt_of_received hlocals) hfired
      (fires_eq_false rfl ?_ fun h ↦ hfired.symm.trans h)
    · change (!w.sys.plat.connected) = false
      rw [hconnected]
      rfl
    · intro x hx
      apply acts_eq_false
      rcases hops x hx with h | h | h | h | h
      · exact .inl h
      · exact .inr (.inl h)
      · exact .inr (.inr (.inl h))
      · exact .inr (.inr (.inr (.inr (.inl h))))
      · exact .inr (.inr (.inr (.inr (.inr h))))
  | idle hconnected hqueue hsilent hops hlocals =>
    have hnone := World.processed_of_empty hqueue
    have hfired := fired_of_same hlocals (g := g)
    refine .silent ?_ (sampled_eq_none hnone) (pressedAt_of_same hlocals) hfired
      (fires_eq_false rfl ?_ fun h ↦ hfired.symm.trans h)
    · change (!w.sys.plat.connected) = false
      rw [hconnected]
      rfl
    · intro x hx
      apply acts_eq_false
      rcases hops x hx with h | h | h | h
      · exact .inl h
      · exact .inr (.inl h)
      · exact .inr (.inr (.inl h))
      · exact .inr (.inr (.inr (.inr (.inl h))))
  | report evt hprocessed hops t₀ hstart hlocals hfired =>
    obtain ⟨hconnected, hqueue, hloud⟩ := World.processed_eq_some.mp hprocessed
    have hpressed₀ : g.pressedAt t₀ = g.pressedAt w.task := pressedAt_of_received hstart
    have hfired₀ : g.fired t₀ = g.fired w.task := fired_of_received hstart
    have hfired' := fired_of_pad hlocals hfired (g := g)
    rw [hpressed₀, hfired₀] at hfired'
    refine .sample (w.sample evt) ?_ ?_ ?_ ?_ ?_ fun hfires ↦ ?_
    · change (!w.sys.plat.connected) = false
      rw [hconnected]
      rfl
    · change (w.sys.plat.connected && (w.task.received w.sys.plat.inputQueue).silent _) = false
      rw [hqueue, hloud, Bool.and_false]
    · change w.processed.map w.sample = some (w.sample evt)
      rw [hprocessed]
      rfl
    · rw [pressedAt_of_pad hlocals, hpressed₀]
    · intro hheld hbefore
      rw [hfired', hheld, hbefore]
      rfl
    · rcases Bool.or_eq_true_iff.mp hfires with hacts | hflag
      · obtain ⟨x, hx, hacts⟩ := List.any_eq_true.mp hacts
        have hquiet : ∀ hother, g.acts x.1 = false := fun hother ↦ acts_eq_false hother
        rcases hops x hx with h | h | h | h | h
        · exact Bool.noConfusion ((hquiet (.inl h)).symm.trans hacts)
        · exact Bool.noConfusion ((hquiet (.inr (.inl h))).symm.trans hacts)
        · exact Bool.noConfusion ((hquiet (.inr (.inr (.inl h)))).symm.trans hacts)
        · exact Bool.noConfusion
            ((hquiet (.inr (.inr (.inr (.inr (.inl h)))))).symm.trans hacts)
        · obtain ⟨hheld, hfresh, hlong⟩ := due_of_hold h.1 hacts
          have hsame : World.SameInput (w.processing evt) (w.processing evt) := rfl
          have hpressed : g.pressedAt (w.processing evt) = g.pressedAt w.task :=
            pressedAt_of_received hsame
          have hfired₁ : g.fired (w.processing evt) = g.fired w.task := fired_of_received hsame
          rw [hpressed] at hlong
          rw [hfired₁] at hfresh
          refine ⟨⟨hheld, hfresh, hlong⟩, ?_⟩
          have hheld : g.held (w.sample evt) = true := hheld
          rw [hfired', hheld, free_of_creates h.2 hacts, decide_eq_true hlong, Bool.true_and,
            Bool.true_and, Bool.or_true]
      · obtain ⟨hbefore, hafter⟩ := Bool.and_eq_true_iff.mp hflag
        have hfresh : g.fired w.task = false := by simpa using hbefore
        refine ⟨?_, hafter⟩
        rw [hfired', hfresh, Bool.false_or] at hafter
        obtain ⟨hheld, hdue⟩ := Bool.and_eq_true_iff.mp hafter
        exact ⟨hheld, hfresh, of_decide_eq_true (Bool.and_eq_true_iff.mp hdue).2⟩

/-! ## Every run -/

/-- What the locals say about the history. -/
structure HoldInv (bp : Bluepad32) (g : Gesture) (log : Log) (w : World) : Prop where
  clock : 1000 ≤ w.sys.clock
  last : g.pressedAt w.task ≠ 0 → lastHeld g log = true
  since : g.pressedAt w.task ≠ 0 → heldFrom g (g.pressedAt w.task) log = true
  fired : firedInHold bp g log = true → g.fired w.task = true

theorem holdInv_boot (us : ℕ) : HoldInv bp g [] (World.boot us) where
  clock := Nat.le_add_right 1000 us
  last h := absurd (by cases g <;> rfl) h
  since h := absurd (by cases g <;> rfl) h
  fired h := Bool.noConfusion h

theorem endsHold_eq {e : Event} : w.endsHold g e =
    (w.timesOut e || w.alone e || (w.sampled e).any fun pad ↦ !g.held pad) := rfl

theorem heldFrom_cons {e : Event} {limitMs : ℤ} : heldFrom g limitMs (⟨w, e⟩ :: log) =
    (!w.endsHold g e && ((w.sampled e).isSome && decide (w.sys.nowMs ≤ limitMs) ||
      heldFrom g limitMs log)) := rfl

theorem firedInHold_cons {e : Event} : firedInHold bp g (⟨w, e⟩ :: log) =
    (!w.endsHold g e && (w.fires bp g e || firedInHold bp g log)) := rfl

theorem lastHeld_of_none {e : Event} (halone : w.alone e = false) (hsample : w.sampled e = none) :
    lastHeld g (⟨w, e⟩ :: log) = lastHeld g log := by
  change (match w.sampled e with | some pad => g.held pad | none => _) = _
  rw [hsample, halone]
  rfl

theorem lastHeld_of_some {e : Event} {pad : InputEvent} (hsample : w.sampled e = some pad) :
    lastHeld g (⟨w, e⟩ :: log) = g.held pad := by
  change (match w.sampled e with | some pad => g.held pad | none => _) = _
  rw [hsample]

/-- A step that processes no sample. -/
theorem HoldInv.silent {e : Event} (h : HoldInv bp g log w) (hok : NoTimeoutInHold g log w e)
    (halone : w.alone e = false) (hsample : w.sampled e = none)
    (hpressed : g.pressedAt (w.next bp e).task = g.pressedAt w.task)
    (hfired : g.fired (w.next bp e).task = g.fired w.task) (hfires : w.fires bp g e = false) :
    HoldInv bp g (⟨w, e⟩ :: log) (w.next bp e) := by
  have hclock := h.clock.trans (World.clock_le_next bp w e)
  have hends : w.endsHold g e = w.timesOut e := by
    rw [endsHold_eq, halone, hsample, Bool.or_false]
    exact Bool.or_false _
  refine ⟨hclock, fun hne ↦ ?_, fun hne ↦ ?_, fun hbefore ↦ ?_⟩
  · rw [hpressed] at hne
    rw [lastHeld_of_none halone hsample]
    exact h.last hne
  · rw [hpressed] at hne ⊢
    rw [heldFrom_cons, hends, h.since hne, Bool.or_true, Bool.and_true]
    cases htimesOut : w.timesOut e with
    | false => rfl
    | true => exact absurd (h.last hne) (Bool.eq_false_iff.mp (hok htimesOut))
  · rw [hfired]
    rw [firedInHold_cons, hfires, Bool.false_or] at hbefore
    exact h.fired (Bool.and_eq_true_iff.mp hbefore).2

/-- A round that processes a sample. -/
theorem HoldInv.sample {pad : InputEvent} (h : HoldInv bp g log w)
    (halone : w.alone (.iterate ω) = false) (htimesOut : w.timesOut (.iterate ω) = false)
    (hsample : w.sampled (.iterate ω) = some pad)
    (hpressed : g.pressedAt (w.next bp (.iterate ω)).task =
      if g.held pad then heldSince (g.pressedAt w.task) w.sys.nowMs else 0)
    (hkept : g.held pad = true → g.fired w.task = true →
      g.fired (w.next bp (.iterate ω)).task = true)
    (hfires : w.fires bp g (.iterate ω) = true → g.fired (w.next bp (.iterate ω)).task = true) :
    HoldInv bp g (⟨w, .iterate ω⟩ :: log) (w.next bp (.iterate ω)) := by
  have hclock := h.clock.trans (World.clock_le_next bp w (.iterate ω))
  have hends : w.endsHold g (.iterate ω) = !g.held pad := by
    rw [endsHold_eq, halone, htimesOut, hsample]
    rfl
  refine ⟨hclock, fun hne ↦ ?_, fun hne ↦ ?_, fun hbefore ↦ ?_⟩
  · rw [lastHeld_of_some hsample]
    by_contra hheld
    rw [if_neg hheld] at hpressed
    exact hne hpressed
  · cases hheld : g.held pad with
    | false =>
      rw [hheld] at hpressed
      exact absurd hpressed hne
    | true =>
      rw [if_pos hheld] at hpressed
      rw [heldFrom_cons, hends, hheld, hsample, hpressed]
      by_cases hzero : g.pressedAt w.task = 0
      · -- the hold begins with this sample
        have hsince : heldSince (g.pressedAt w.task) w.sys.nowMs = w.sys.nowMs := if_pos hzero
        rw [hsince, decide_eq_true le_rfl]
        rfl
      · have hsince : heldSince (g.pressedAt w.task) w.sys.nowMs = g.pressedAt w.task := if_neg hzero
        rw [hsince, h.since hzero, Bool.or_true]
        rfl
  · rw [firedInHold_cons, hends, Bool.not_not] at hbefore
    obtain ⟨hheld, hor⟩ := Bool.and_eq_true_iff.mp hbefore
    rcases Bool.or_eq_true_iff.mp hor with hnow | hearlier
    · exact hfires hnow
    · exact hkept hheld (h.fired hearlier)

theorem HoldInv.round (h : HoldInv bp g log w) (hok : NoTimeoutInHold g log w (.iterate ω)) :
    HoldInv bp g (⟨w, .iterate ω⟩ :: log) (w.next bp (.iterate ω)) := by
  cases gestureRound bp g w ω with
  | alone halone hsample hpressed hfires =>
    have hclock := h.clock.trans (World.clock_le_next bp w (.iterate ω))
    have hends : w.endsHold g (.iterate ω) = true := by
      rw [endsHold_eq, halone, Bool.or_true, Bool.true_or]
    refine ⟨hclock, fun hne ↦ absurd hpressed hne, fun hne ↦ absurd hpressed hne, fun hbefore ↦ ?_⟩
    rw [firedInHold_cons, hends] at hbefore
    exact Bool.noConfusion hbefore
  | silent halone hsample hpressed hfired hfires =>
    exact h.silent hok halone hsample hpressed hfired hfires
  | sample pad halone htimesOut hsample hpressed hkept hfires =>
    exact h.sample halone htimesOut hsample hpressed hkept fun hfire ↦ (hfires hfire).2

theorem HoldInv.step {e : Event} (h : HoldInv bp g log w) (hok : NoTimeoutInHold g log w e) :
    HoldInv bp g (⟨w, e⟩ :: log) (w.next bp e) := by
  cases e with
  | iterate ω => exact h.round hok
  | _ => exact h.silent hok rfl rfl rfl rfl rfl

theorem holdInv_of_run (hrun : RunFromBoot bp (NoTimeoutInHold g) log w) : HoldInv bp g log w := by
  refine hrun.invariant (I := HoldInv bp g) ?_ fun log w e _ h hok ↦ h.step hok.2
  rintro w ⟨us, rfl⟩
  exact holdInv_boot us

/-! ## Holds that fire -/

/-- If no failsafe timeout is found while both buttons of a gesture are held, then a gesture that
fires has been held without interruption since a report processed at least `holdMs` ago, and has not
fired before in this hold. -/
theorem gesture_needs_hold (hrun : RunFromBoot bp (NoTimeoutInHold g) log w)
    (hfires : w.fires bp g (.iterate ω) = true) :
    (w.sampled (.iterate ω)).any g.held = true ∧
      heldFrom g (w.sys.nowMs - g.holdMs) log = true ∧ firedInHold bp g log = false := by
  have hinv := holdInv_of_run hrun
  cases gestureRound bp g w ω with
  | alone _ _ _ hnot => exact Bool.noConfusion (hnot.symm.trans hfires)
  | silent _ _ _ _ hnot => exact Bool.noConfusion (hnot.symm.trans hfires)
  | sample pad _ _ hsample _ _ hdue =>
    obtain ⟨⟨hheld, hfresh, hlong⟩, -⟩ := hdue hfires
    have hpressed : g.pressedAt w.task ≠ 0 := by
      intro hzero
      have hsince : heldSince (g.pressedAt w.task) w.sys.nowMs = w.sys.nowMs := if_pos hzero
      have hms : 0 < g.holdMs := by cases g <;> decide
      omega
    have hsince : heldSince (g.pressedAt w.task) w.sys.nowMs = g.pressedAt w.task := if_neg hpressed
    refine ⟨?_, heldFrom_mono (by omega) (hinv.since hpressed), ?_⟩
    · rw [hsample]
      exact hheld
    · apply Bool.eq_false_iff.mpr
      intro hbefore
      exact Bool.noConfusion (hfresh.symm.trans (hinv.fired hbefore))

/-- A report with all four buttons of the two gestures pressed. -/
def heldBoth : Controller :=
  .gamepad
    { buttons := { shoulderL := true, shoulderR := true }
      miscButtons := { select := true, start := true } }

/-- A hold of 3.2 s with a report every 800 ms. -/
theorem gesture_needs_hold_steady : ∃ log w,
    RunFromBoot bluepad32 (NoTimeoutInHold .wheelTest) log w ∧
      w.fires bluepad32 .wheelTest (.iterate {}) = true ∧
      heldFrom .wheelTest (w.sys.nowMs - Gesture.holdMs .wheelTest) log = true ∧
      firedInHold bluepad32 .wheelTest log = false := by
  let report : List Event := [.elapse 800000, .controllerData (samplePad 1) heldBoth, .iterate {}]
  obtain ⟨log, w, hrun, hend⟩ := exists_runFromBoot bluepad32 (NoTimeoutInHold .wheelTest) 0
    ([.deviceConnected (samplePad 1), .deviceReady (samplePad 1), .iterate {},
      .controllerData (samplePad 1) heldBoth, .iterate {}] ++ report ++ report ++ report ++
      [.elapse 800000, .controllerData (samplePad 1) heldBoth])
    (fun r ↦ r.2.fires bluepad32 .wheelTest (.iterate {})) (by decide +kernel)
  exact ⟨log, w, hrun, hend, (gesture_needs_hold hrun hend).2⟩

/-- Two reports with both buttons, three seconds apart, and nothing between them but a failsafe
timeout: both gestures fire at the second one. -/
theorem gesture_survives_silence : ∃ log w,
    RunFromBoot bluepad32 (fun log _ e ↦ DeviceOrder log e) log w ∧
      (w.fires bluepad32 .wheelTest (.iterate {}) = true ∧
        heldFrom .wheelTest (w.sys.nowMs - Gesture.holdMs .wheelTest) log = false) ∧
      w.fires bluepad32 .factoryReset (.iterate {}) = true ∧
        heldFrom .factoryReset (w.sys.nowMs - Gesture.holdMs .factoryReset) log = false := by
  obtain ⟨log, w, hrun, hend⟩ := exists_runFromBoot bluepad32 (fun log _ e ↦ DeviceOrder log e) 0
    [.deviceConnected (samplePad 1), .deviceReady (samplePad 1), .iterate {},
      .controllerData (samplePad 1) heldBoth, .iterate {}, .elapse 1100000, .iterate {},
      .elapse 1900000, .controllerData (samplePad 1) heldBoth]
    (fun r ↦ decide ((r.2.fires bluepad32 .wheelTest (.iterate {}) = true ∧
        heldFrom .wheelTest (r.2.sys.nowMs - Gesture.holdMs .wheelTest) r.1 = false) ∧
      r.2.fires bluepad32 .factoryReset (.iterate {}) = true ∧
        heldFrom .factoryReset (r.2.sys.nowMs - Gesture.holdMs .factoryReset) r.1 = false))
    (by decide +kernel)
  exact ⟨log, w, hrun, of_decide_eq_true hend⟩

end Nutcracker
