import Nutcracker.Program.Protocol
import Nutcracker.Rccar.Motor

/-!
# The protocols of the wheel test

The input task, the tasks that stop a wheel test and the test itself share a handle and a cancel flag
without a lock.  What each of them does with these is stated here once, for its program alone: a
start touches the flags only after it has read a null handle, a stop only raises the cancel flag, and
a test clears the handle with its very last operation, ends with the wheels stopped, and winds down
once the cancel flag is raised.
-/

namespace Nutcracker

open Prog

/-! ## Starting and stopping -/

/-- The stage is whether the handle is known to be null.  Only then the cancel flag may be cleared
and a test created. -/
def startProtocol : Protocol Op Op.Ans Bool where
  ok null
    | .set .wheelTestCancel cancel => cancel = false → null = true
    | .set .wheelTestTask task => task = false ∧ null = true
    | .set .wheelTestActive _ => False
    | .createWheelTest => null = true
    | _ => True
  allows null
    | .get .wheelTestTask, task => null = true → task = false
    | _, _ => True
  next null
    | .get .wheelTestTask, task => !task
    | .createWheelTest, created => null && !created
    | _, _ => null

theorem follows_start (null : Bool) :
    rccarMotorWheelTestStart.Follows startProtocol (fun _ _ ↦ True) null := by
  refine ⟨trivial, fun task _ ↦ ?_⟩
  cases task
  · refine ⟨fun _ ↦ rfl, fun _ _ ↦ ⟨rfl, fun created _ ↦ ?_⟩⟩
    cases created
    · exact ⟨⟨rfl, rfl⟩, fun _ _ ↦ trivial⟩
    · exact trivial
  · exact trivial

/-- Operations of a stop. -/
def StopOp : Op → Prop
  | .set .wheelTestCancel cancel => cancel = true
  | .call _ (.wheelSet speeds) => speeds = .zero
  | .call _ (.turretSet speed) => speed = 0
  | _ => False

theorem sat_stop (origin : Origin) :
    (rccarMotorWheelTestStop origin).Sat (fun _ _ ↦ True) StopOp fun _ ↦ True :=
  ⟨rfl, fun _ _ ↦ ⟨rfl, fun _ _ ↦ ⟨rfl, fun _ _ ↦ trivial⟩⟩⟩

theorem follows_of_stop {null : Bool} {o : Op} (ho : StopOp o) :
    startProtocol.ok null o ∧ ∀ answer, startProtocol.next null o answer = null := by
  cases o with
  | set v x =>
    cases v with
    | wheelTestCancel =>
      refine ⟨fun hfalse ↦ ?_, fun _ ↦ rfl⟩
      exact Bool.noConfusion (hfalse.symm.trans (ho : x = true))
    | _ => exact ho.elim
  | call origin c => exact ⟨trivial, fun _ ↦ rfl⟩
  | _ => exact ho.elim

theorem follows_stop (null : Bool) (origin : Origin) :
    (rccarMotorWheelTestStop origin).Follows startProtocol (fun _ _ ↦ True) null := by
  refine ((sat_stop origin).follows_stage null fun o ho ↦ ?_).post_mono fun _ _ _ ↦ trivial
  obtain ⟨hok, hnext⟩ := @follows_of_stop null o ho
  exact ⟨hok, fun answer _ ↦ ⟨trivial, hnext answer⟩⟩

/-! ## The life of a test -/

/-- The stage is whether the test still holds the handle; once it has cleared it, it is over. -/
def lifeProtocol : Protocol Op Op.Ans Bool where
  ok alive o := alive = true ∧ WheelTestOp o
  allows _ _ _ := True
  next alive
    | .set .wheelTestTask task, _ => task
    | _, _ => alive

/-- What remains of a test that holds the handle or not. -/
def Lives (q : Firmware Unit) (alive : Bool) : Prop :=
  q.Follows lifeProtocol (fun alive _ ↦ alive = false) alive

theorem lives_pass {o : Op} (ho : PassOp o) :
    lifeProtocol.ok true o ∧ ∀ answer, lifeProtocol.next true o answer = true := by
  refine ⟨⟨rfl, ho.wheelTestOp⟩, fun answer ↦ ?_⟩
  rcases ho with h | ⟨speeds, rfl⟩
  · cases o with
    | get | vTaskDelay => rfl
    | _ => exact h.elim
  · rfl

theorem lives_task : Lives wheelTestTask true := by
  refine Follows.perform_bind ⟨rfl, trivial⟩ fun _ _ ↦ ?_
  have hpasses : (wheelTestPasses [wheelTestSpeed, -wheelTestSpeed]).Follows lifeProtocol
      (fun alive _ ↦ alive = true ∧ True) true := by
    refine (sat_passes _).follows_stage true fun o ho ↦ ?_
    obtain ⟨hok, hnext⟩ := lives_pass ho
    exact ⟨hok, fun answer _ ↦ ⟨trivial, hnext answer⟩⟩
  refine Follows.bind hpasses ?_
  rintro _ _ ⟨rfl, -⟩
  exact ⟨⟨rfl, rfl, _, rfl⟩, fun _ _ ↦ ⟨⟨rfl, rfl⟩, fun _ _ ↦ ⟨⟨rfl, trivial⟩, fun _ _ ↦
    ⟨⟨rfl, trivial⟩, fun _ _ ↦ rfl⟩⟩⟩⟩

theorem Lives.finished {q : Firmware Unit} {alive : Bool} (h : Lives q alive) :
    q.finished = !alive := by
  cases q with
  | pure a =>
    rw [(h : alive = false)]
    rfl
  | op o next =>
    rw [h.1.1]
    rfl

/-! ## The last command -/

/-- The last wheel command after an operation. -/
def commandAfter (last : Option WheelSpeeds) : Op → Option WheelSpeeds
  | .call _ (.wheelSet speeds) => some speeds
  | _ => last

/-- The stage is the last wheel command. -/
def commandProtocol : Protocol Op Op.Ans (Option WheelSpeeds) where
  ok _ _ := True
  allows _ _ _ := True
  next last o _ := commandAfter last o

/-- What remains of a test whose last wheel command was `last` ends with a command that stops the
wheels. -/
def EndsStopped (q : Firmware Unit) (last : Option WheelSpeeds) : Prop :=
  q.Follows commandProtocol (fun last _ ↦ last = some .zero) last

theorem endsStopped_task : EndsStopped wheelTestTask none := by
  refine Follows.perform_bind trivial fun _ _ ↦ ?_
  have hpasses : (wheelTestPasses [wheelTestSpeed, -wheelTestSpeed]).Follows commandProtocol
      (fun _ _ ↦ True ∧ True) none :=
    (sat_passes _).follows (fun _ ↦ True) (fun _ _ _ _ ↦ ⟨trivial, fun _ _ ↦ ⟨trivial, trivial⟩⟩)
      trivial
  refine Follows.bind hpasses fun last _ _ ↦ ?_
  exact ⟨trivial, fun _ _ ↦ ⟨trivial, fun _ _ ↦ ⟨trivial, fun _ _ ↦ ⟨trivial, fun _ _ ↦ rfl⟩⟩⟩⟩

theorem commandAfter_cases (o : Op) :
    (∃ speeds, ∀ last, commandAfter last o = some speeds) ∨ ∀ last, commandAfter last o = last := by
  cases o with
  | call origin c =>
    cases c with
    | wheelSet speeds => exact .inl ⟨speeds, fun _ ↦ rfl⟩
    | _ => exact .inr fun _ ↦ rfl
  | _ => exact .inr fun _ ↦ rfl

/-- What ends stopped ends stopped from a standstill as well. -/
theorem EndsStopped.zero {q : Firmware Unit} {last : Option WheelSpeeds} (h : EndsStopped q last) :
    EndsStopped q (some .zero) := by
  induction q generalizing last with
  | pure a => exact rfl
  | op o next ih =>
    refine ⟨trivial, fun answer _ ↦ ?_⟩
    have hnext : EndsStopped (next answer) (commandAfter last o) := h.2 answer trivial
    change EndsStopped (next answer) (commandAfter (some .zero) o)
    rcases commandAfter_cases o with ⟨speeds, hset⟩ | hkeep
    · rw [hset] at hnext ⊢
      exact hnext
    · rw [hkeep]
      exact ih answer hnext

theorem EndsStopped.rest {p q : Firmware Unit} {last : Option WheelSpeeds} (h : EndsStopped p last)
    (hrest : Rest p q) : EndsStopped q (some .zero) := by
  induction hrest generalizing last with
  | refl p => exact h.zero
  | step answer _ ih => exact ih (h.2 answer trivial)

/-- Wherever a test is suspended, it ends stopped from a standstill. -/
theorem WheelTestRest.endsStopped (test : WheelTestRest) : EndsStopped test.prog (some .zero) :=
  endsStopped_task.rest test.rest

theorem EndsStopped.finished {q : Firmware Unit} {speeds : WheelSpeeds}
    (h : EndsStopped q (some speeds)) (hfinished : q.finished = true) : speeds = .zero := by
  cases q with
  | pure a => exact Option.some.inj h
  | op o next => cases hfinished

/-! ## Winding down -/

/-- What a test has done since the cancel flag was raised: how often it turned a wheel, and whether
its last such command is not stopped yet. -/
structure WindDown where
  spins : ℕ := 0
  spinning : Bool := false
  deriving DecidableEq

def WindDown.after (st : WindDown) : Op → WindDown
  | .call _ (.wheelSet speeds) =>
    if speeds = .zero then { st with spinning := false } else ⟨st.spins + 1, true⟩
  | _ => st

/-- With the cancel flag raised, a test turns at most one wheel, and does not wait while it turns. -/
def windDownProtocol : Protocol Op Op.Ans WindDown where
  ok st o := (st.after o).spins ≤ 1 ∧ (st.spinning = true → ∀ ticks, o ≠ .vTaskDelay ticks)
  allows _
    | .get .wheelTestCancel, cancel => cancel = true
    | _, _ => True
  next st o _ := st.after o

def WindsDownFrom (q : Firmware Unit) (st : WindDown) : Prop :=
  q.Follows windDownProtocol (fun st _ ↦ st.spinning = false) st

/-- What remains of a test when the cancel flag is raised now. -/
def WindsDown (q : Firmware Unit) : Prop := WindsDownFrom q {}

theorem follows_of_wait {o : Op} (ho : WaitOp o) :
    windDownProtocol.ok {} o ∧ ∀ answer, windDownProtocol.next {} o answer = {} := by
  cases o with
  | get v => exact ⟨⟨Nat.zero_le 1, nofun⟩, fun _ ↦ rfl⟩
  | vTaskDelay ticks => exact ⟨⟨Nat.zero_le 1, nofun⟩, fun _ ↦ rfl⟩
  | _ => exact ho.elim

/-- A wait that finds the flag raised ends at once. -/
theorem follows_wait_cancelled (ms : ℕ) (st : WindDown) (hst : st.spins ≤ 1) :
    (wheelTestWaitOrCancel ms).Follows windDownProtocol
      (fun st' cancelled ↦ st' = st ∧ cancelled = true) st := by
  have hread : windDownProtocol.ok st (.get .wheelTestCancel) := ⟨hst, fun _ _ ↦ nofun⟩
  unfold wheelTestWaitOrCancel
  cases ms with
  | zero => exact ⟨hread, fun cancel hcancel ↦ ⟨rfl, hcancel⟩⟩
  | succ ms =>
    unfold wheelTestWaitLoop
    refine follows_ite (fun _ ↦ Follows.perform_bind hread fun cancel hcancel ↦ ?_) fun _ ↦
      ⟨hread, fun cancel hcancel ↦ ⟨rfl, hcancel⟩⟩
    have hcancel : cancel = true := hcancel
    rw [if_pos hcancel]
    exact ⟨rfl, rfl⟩

/-- A wait, wherever it is suspended, does not get in the way of what winds down after it. -/
theorem everywhere_wait_bind (ms : ℕ) {f : Bool → Firmware Unit}
    (hf : ∀ cancelled, (f cancelled).Everywhere WindsDown) :
    (wheelTestWaitOrCancel ms >>= f).Everywhere WindsDown := by
  refine everywhere_bind ?_ hf
  refine (sat_waitLoop ms ms).everywhere.mono fun q hq ↦ ?_
  have hwait : q.Follows windDownProtocol (fun st _ ↦ st = {} ∧ True) {} := by
    refine hq.follows_stage ({} : WindDown) fun o ho ↦ ?_
    obtain ⟨hok, hnext⟩ := follows_of_wait ho
    exact ⟨hok, fun answer _ ↦ ⟨trivial, hnext answer⟩⟩
  refine Follows.bind hwait ?_
  rintro _ cancelled ⟨rfl, -⟩
  exact (hf cancelled).here

/-- What follows the passes: it winds down wherever it is suspended, and also right after a wheel was
turned. -/
structure Closes (k : Firmware Unit) : Prop where
  everywhere : k.Everywhere WindsDown
  spun : ∀ st : WindDown, st.spins ≤ 1 → WindsDownFrom k st

theorem WindDown.after_wheelSet (st : WindDown) (origin : Origin) (speeds : WheelSpeeds) :
    st.after (.call origin (.wheelSet speeds)) =
      if speeds = .zero then { st with spinning := false } else ⟨st.spins + 1, true⟩ := rfl

theorem spins_after_wheelSet (origin : Origin) (speeds : WheelSpeeds) :
    (({} : WindDown).after (.call origin (.wheelSet speeds))).spins ≤ 1 := by
  rw [WindDown.after_wheelSet]
  split
  · exact Nat.zero_le 1
  · exact le_rfl

/-- A wheel is turned, and the flag is raised before or after. -/
theorem WindsDown.spin {k : Firmware Unit} (hk : Closes k) (speeds : WheelSpeeds) (ms : ℕ)
    {f : Bool → Firmware Unit} (hf : f true = k)
    (heverywhere : ∀ cancelled, (f cancelled).Everywhere WindsDown) :
    (rccarMotorWheelSet .wheelTest speeds >>= fun _ ↦
      wheelTestWaitOrCancel ms >>= f).Everywhere WindsDown := by
  refine ⟨?_, fun _ ↦ everywhere_wait_bind ms heverywhere⟩
  have hspins := spins_after_wheelSet .wheelTest speeds
  refine Follows.perform_bind ⟨hspins, nofun⟩ fun _ _ ↦ ?_
  refine Follows.bind (follows_wait_cancelled ms _ hspins) ?_
  rintro _ _ ⟨rfl, rfl⟩
  rw [hf]
  exact hk.spun _ hspins

/-- The inner loop and what follows it, from one wheel on. -/
theorem wheels_cons_bind (speed : ℤ) (wheel : Wheel) (rest : List Wheel) (k : Firmware Unit) :
    (wheelTestWheels speed (wheel :: rest) >>= fun _ ↦ k) =
      (Firmware.get .wheelTestCancel >>= fun cancel ↦ if cancel then k else
        rccarMotorWheelSet .wheelTest (wheelTestCommand wheel speed) >>= fun _ ↦
          wheelTestWaitOrCancel wheelTestRunMs >>= fun cancelled ↦ if cancelled then k else
            rccarMotorWheelSet .wheelTest .zero >>= fun _ ↦
              wheelTestWaitOrCancel wheelTestGapMs >>= fun cancelled ↦ if cancelled then k else
                wheelTestWheels speed rest >>= fun _ ↦ k) := by
  rw [wheelTestWheels]
  simp only [bind_assoc', ite_bind]
  rfl

theorem everywhere_wheels {k : Firmware Unit} (hk : Closes k) (speed : ℤ) (wheels : List Wheel) :
    (wheelTestWheels speed wheels >>= fun _ ↦ k).Everywhere WindsDown := by
  induction wheels with
  | nil => exact hk.everywhere
  | cons wheel rest ih =>
    rw [wheels_cons_bind]
    have hgap : ∀ cancelled : Bool, (if cancelled then k else
        wheelTestWheels speed rest >>= fun _ ↦ k).Everywhere WindsDown := fun cancelled ↦ by
      cases cancelled
      · exact ih
      · exact hk.everywhere
    have hrun : ∀ cancelled : Bool, (if cancelled then k else
        rccarMotorWheelSet .wheelTest .zero >>= fun _ ↦
          wheelTestWaitOrCancel wheelTestGapMs >>= fun cancelled ↦ if cancelled then k else
            wheelTestWheels speed rest >>= fun _ ↦ k).Everywhere WindsDown := fun cancelled ↦ by
      cases cancelled
      · exact WindsDown.spin hk _ _ rfl hgap
      · exact hk.everywhere
    refine ⟨⟨⟨Nat.zero_le 1, nofun⟩, fun cancel hcancel ↦ ?_⟩, fun cancel ↦ ?_⟩
    · obtain rfl : cancel = true := hcancel
      exact hk.everywhere.here
    · cases cancel
      · exact WindsDown.spin hk _ _ rfl hrun
      · exact hk.everywhere

theorem Closes.passes {k : Firmware Unit} (hk : Closes k) (speeds : List ℤ) :
    Closes (wheelTestPasses speeds >>= fun _ ↦ k) := by
  induction speeds with
  | nil => exact hk
  | cons speed rest ih =>
    have hpass : (wheelTestPasses (speed :: rest) >>= fun _ ↦ k) =
        (Firmware.get .wheelTestCancel >>= fun cancel ↦ if cancel then k else
          wheelTestWheels speed [.fl, .fr, .rl, .rr] >>= fun _ ↦
            wheelTestPasses rest >>= fun _ ↦ k) := by
      rw [wheelTestPasses]
      simp only [bind_assoc', ite_bind]
      rfl
    rw [hpass]
    have hcancelled : ∀ st : WindDown, st.spins ≤ 1 → WindsDownFrom (Firmware.get .wheelTestCancel >>=
        fun cancel ↦ if cancel then k else wheelTestWheels speed [.fl, .fr, .rl, .rr] >>= fun _ ↦
          wheelTestPasses rest >>= fun _ ↦ k) st := fun st hst ↦ by
      refine Follows.perform_bind ⟨hst, fun _ _ ↦ nofun⟩ fun cancel hcancel ↦ ?_
      obtain rfl : cancel = true := hcancel
      exact hk.spun st hst
    refine ⟨⟨hcancelled {} (Nat.zero_le 1), fun cancel ↦ ?_⟩, hcancelled⟩
    cases cancel
    · exact everywhere_wheels ih speed _
    · exact hk.everywhere

/-- The end of a test. -/
def wheelTestEnd : Firmware Unit := do
  rccarMotorWheelSet .wheelTest .zero
  let _ ← Firmware.get .wheelTestCancel
  Firmware.set .wheelTestActive false
  Firmware.set .wheelTestTask false

theorem windsDownFrom_end (st : WindDown) (hst : st.spins ≤ 1) : WindsDownFrom wheelTestEnd st := by
  refine ⟨⟨hst, fun _ _ ↦ nofun⟩, fun _ _ ↦ ⟨⟨hst, fun _ _ ↦ nofun⟩, fun _ _ ↦ ?_⟩⟩
  exact ⟨⟨hst, fun _ _ ↦ nofun⟩, fun _ _ ↦ ⟨⟨hst, fun _ _ ↦ nofun⟩, fun _ _ ↦ rfl⟩⟩

theorem closes_end : Closes wheelTestEnd where
  everywhere := by
    have hend := windsDownFrom_end {} (Nat.zero_le 1)
    have hread := hend.2 () trivial
    have hactive := hread.2 true rfl
    have htask := hactive.2 () trivial
    exact ⟨hend, fun _ ↦ ⟨hread, fun _ ↦ ⟨hactive, fun _ ↦ ⟨htask, fun _ ↦ rfl⟩⟩⟩⟩
  spun := windsDownFrom_end

/-- Whenever the cancel flag is raised, a test winds down. -/
theorem windsDown_task : wheelTestTask.Everywhere WindsDown := by
  have hpasses := closes_end.passes [wheelTestSpeed, -wheelTestSpeed]
  refine ⟨⟨⟨Nat.zero_le 1, nofun⟩, fun _ _ ↦ ?_⟩, fun _ ↦ hpasses.everywhere⟩
  exact hpasses.everywhere.here

/-- A fresh test under a raised flag winds down like one that has done something already. -/
theorem windsDownFrom_task {st : WindDown} (hst : st.spins ≤ 1) :
    WindsDownFrom wheelTestTask st :=
  Follows.perform_bind ⟨hst, fun _ _ ↦ nofun⟩ fun _ _ ↦
    (closes_end.passes [wheelTestSpeed, -wheelTestSpeed]).spun st hst

/-! ## Ending soon -/

/-- How many operations a test has left, and whether it has looked at the cancel flag since that was
raised. -/
structure Quit where
  left : ℕ
  looked : Bool

/-- A test looks at the cancel flag. -/
def looksAtCancel : Op → Bool
  | .get .wheelTestCancel => true
  | _ => false

/-- Neither a delay nor a command that turns a wheel. -/
def RestOp : Op → Prop
  | .vTaskDelay _ => False
  | .call _ (.wheelSet speeds) => speeds = .zero
  | _ => True

/-- With the cancel flag raised, a test has few operations left, and neither waits nor turns a wheel
after it has looked at the flag. -/
def quitProtocol : Protocol Op Op.Ans Quit where
  ok st o := 0 < st.left ∧ (st.looked = true → RestOp o)
  allows _
    | .get .wheelTestCancel, cancel => cancel = true
    | _, _ => True
  next st o _ := ⟨st.left - 1, st.looked || looksAtCancel o⟩

def QuitsFrom (q : Firmware Unit) (left : ℕ) (looked : Bool) : Prop :=
  q.Follows quitProtocol (fun _ _ ↦ True) ⟨left, looked⟩

abbrev wheelTestQuitOps : ℕ := 7

/-- What remains of a test when the cancel flag is raised now. -/
def Quits (q : Firmware Unit) : Prop := QuitsFrom q wheelTestQuitOps false

theorem QuitsFrom.mono {q : Firmware Unit} {left left' : ℕ} {looked : Bool}
    (h : QuitsFrom q left looked) (hleft : left ≤ left') : QuitsFrom q left' looked := by
  induction q generalizing left left' looked with
  | pure a => exact trivial
  | op o next ih =>
    exact ⟨⟨h.1.1.trans_le hleft, h.1.2⟩, fun answer hanswer ↦
      ih answer (h.2 answer hanswer) (Nat.sub_le_sub_right hleft 1)⟩

theorem quitsFrom_op {o : Op} {next : o.Ans → Firmware Unit} {left : ℕ} {looked : Bool}
    (ho : RestOp o) (hnext : ∀ answer, QuitsFrom (next answer) left (looked || looksAtCancel o)) :
    QuitsFrom (.op o next) (left + 1) looked :=
  ⟨⟨Nat.succ_pos left, fun _ ↦ ho⟩, fun answer _ ↦ hnext answer⟩

/-- A look at the raised flag. -/
theorem quitsFrom_look {f : Bool → Firmware Unit} {left : ℕ} (hf : QuitsFrom (f true) left true)
    (looked : Bool) :
    QuitsFrom (Firmware.get .wheelTestCancel >>= f) (left + 1) looked := by
  refine Follows.perform_bind ⟨Nat.succ_pos left, fun _ ↦ trivial⟩ fun cancel hcancel ↦ ?_
  obtain rfl : cancel = true := hcancel
  change QuitsFrom (f true) left (looked || true)
  rw [Bool.or_true]
  exact hf

/-- A wait that finds the flag raised ends at once. -/
theorem quitsFrom_wait {f : Bool → Firmware Unit} {left : ℕ} (hf : QuitsFrom (f true) left true)
    (fuel ms : ℕ) (looked : Bool) :
    QuitsFrom (wheelTestWaitLoop fuel ms >>= f) (left + 1) looked := by
  cases fuel with
  | zero => exact quitsFrom_look hf looked
  | succ fuel =>
    unfold wheelTestWaitLoop
    split
    · refine ⟨⟨Nat.succ_pos left, fun _ ↦ trivial⟩, fun cancel hcancel ↦ ?_⟩
      obtain rfl : cancel = true := hcancel
      change QuitsFrom (f true) left (looked || true)
      rw [Bool.or_true]
      exact hf
    · exact quitsFrom_look hf looked

/-- A wait, wherever it is suspended, is followed by at most one delay. -/
theorem everywhere_quits_wait {f : Bool → Firmware Unit} (hf : QuitsFrom (f true) 5 true)
    (heverywhere : ∀ cancelled, (f cancelled).Everywhere Quits) (fuel ms : ℕ) :
    (wheelTestWaitLoop fuel ms >>= f).Everywhere Quits := by
  have hlook : QuitsFrom (Firmware.get .wheelTestCancel >>= f) wheelTestQuitOps false :=
    (quitsFrom_look hf false).mono (by decide)
  induction fuel generalizing ms with
  | zero => exact ⟨hlook, heverywhere⟩
  | succ fuel ih =>
    have hwait := (quitsFrom_wait hf (fuel + 1) ms false).mono (by decide : 5 + 1 ≤ wheelTestQuitOps)
    unfold wheelTestWaitLoop at hwait ⊢
    split
    · rename_i hms
      rw [if_pos hms] at hwait
      refine ⟨hwait, fun cancel ↦ ?_⟩
      cases cancel with
      | true => exact heverywhere true
      | false =>
        refine ⟨⟨⟨by decide, fun h ↦ Bool.noConfusion h⟩, fun _ _ ↦ ?_⟩, fun _ ↦ ih _⟩
        exact quitsFrom_wait hf fuel _ false
    · exact ⟨hlook, heverywhere⟩

/-- A wheel is turned, and the flag is raised before or after. -/
theorem Quits.spin {f : Bool → Firmware Unit} (hf : QuitsFrom (f true) 5 true)
    (heverywhere : ∀ cancelled, (f cancelled).Everywhere Quits) (speeds : WheelSpeeds) (ms : ℕ) :
    (rccarMotorWheelSet .wheelTest speeds >>= fun _ ↦
      wheelTestWaitOrCancel ms >>= f).Everywhere Quits := by
  refine ⟨?_, fun _ ↦ everywhere_quits_wait hf heverywhere ms ms⟩
  exact Follows.perform_bind ⟨by decide, fun h ↦ Bool.noConfusion h⟩ fun _ _ ↦
    quitsFrom_wait hf ms ms false

/-- The inner loop and what follows it. -/
theorem everywhere_quits_wheels {k : Firmware Unit} (hk : QuitsFrom k 5 true)
    (heverywhere : k.Everywhere Quits) (speed : ℤ) (wheels : List Wheel) :
    (wheelTestWheels speed wheels >>= fun _ ↦ k).Everywhere Quits := by
  induction wheels with
  | nil => exact heverywhere
  | cons wheel rest ih =>
    rw [wheels_cons_bind]
    have hgap : ∀ cancelled : Bool, (if cancelled then k else
        wheelTestWheels speed rest >>= fun _ ↦ k).Everywhere Quits := fun cancelled ↦ by
      cases cancelled
      · exact ih
      · exact heverywhere
    have hrun : ∀ cancelled : Bool, (if cancelled then k else
        rccarMotorWheelSet .wheelTest .zero >>= fun _ ↦
          wheelTestWaitOrCancel wheelTestGapMs >>= fun cancelled ↦ if cancelled then k else
            wheelTestWheels speed rest >>= fun _ ↦ k).Everywhere Quits := fun cancelled ↦ by
      cases cancelled
      · exact Quits.spin hk hgap _ _
      · exact heverywhere
    refine ⟨(quitsFrom_look hk false).mono (by decide), fun cancel ↦ ?_⟩
    cases cancel
    · exact Quits.spin hk hrun _ _
    · exact heverywhere

/-- The outer loop and what follows it. -/
theorem quits_passes {k : Firmware Unit} (hk : ∀ looked, QuitsFrom k 4 looked)
    (heverywhere : k.Everywhere Quits) (speeds : List ℤ) :
    (wheelTestPasses speeds >>= fun _ ↦ k).Everywhere Quits ∧
      ∀ looked, QuitsFrom (wheelTestPasses speeds >>= fun _ ↦ k) 5 looked := by
  induction speeds with
  | nil => exact ⟨heverywhere, fun looked ↦ (hk looked).mono (by decide)⟩
  | cons speed rest ih =>
    have hpass : (wheelTestPasses (speed :: rest) >>= fun _ ↦ k) =
        (Firmware.get .wheelTestCancel >>= fun cancel ↦ if cancel then k else
          wheelTestWheels speed [.fl, .fr, .rl, .rr] >>= fun _ ↦
            wheelTestPasses rest >>= fun _ ↦ k) := by
      rw [wheelTestPasses]
      simp only [bind_assoc', ite_bind]
      rfl
    have hcancelled : ∀ looked, QuitsFrom (wheelTestPasses (speed :: rest) >>= fun _ ↦ k) 5 looked :=
      fun looked ↦ by
        rw [hpass]
        exact quitsFrom_look (hk true) looked
    refine ⟨?_, hcancelled⟩
    have hhere := (hcancelled false).mono (by decide : 5 ≤ wheelTestQuitOps)
    rw [hpass] at hhere ⊢
    refine ⟨hhere, fun cancel ↦ ?_⟩
    cases cancel
    · exact everywhere_quits_wheels (ih.2 true) ih.1 speed _
    · exact heverywhere

theorem quitsFrom_end (looked : Bool) : QuitsFrom wheelTestEnd 4 looked :=
  quitsFrom_op rfl fun _ ↦ quitsFrom_op trivial fun _ ↦ quitsFrom_op trivial fun _ ↦
    quitsFrom_op trivial fun _ ↦ trivial

theorem everywhere_quits_end : wheelTestEnd.Everywhere Quits := by
  have hset : Quits (Firmware.set .wheelTestTask false) := quitsFrom_op trivial fun _ ↦ trivial
  have hactive : Quits (Firmware.set .wheelTestActive false >>= fun _ ↦
      Firmware.set .wheelTestTask false) :=
    quitsFrom_op trivial fun _ ↦ quitsFrom_op trivial fun _ ↦ trivial
  have hread : Quits (Firmware.get .wheelTestCancel >>= fun _ ↦
      Firmware.set .wheelTestActive false >>= fun _ ↦ Firmware.set .wheelTestTask false) :=
    quitsFrom_op trivial fun _ ↦ quitsFrom_op trivial fun _ ↦ quitsFrom_op trivial fun _ ↦ trivial
  exact ⟨(quitsFrom_end false).mono (by decide), fun _ ↦ ⟨hread, fun _ ↦ ⟨hactive, fun _ ↦
    ⟨hset, fun _ ↦ trivial⟩⟩⟩⟩

/-- A fresh test under a raised flag ends soon. -/
theorem quitsFrom_task (looked : Bool) : QuitsFrom wheelTestTask wheelTestQuitOps looked := by
  have hpasses := (quits_passes quitsFrom_end everywhere_quits_end
    [wheelTestSpeed, -wheelTestSpeed]).2 looked
  refine Follows.perform_bind ⟨Nat.succ_pos _, fun _ ↦ trivial⟩ fun _ _ ↦ ?_
  change QuitsFrom _ (wheelTestQuitOps - 1) (looked || false)
  rw [Bool.or_false]
  exact hpasses.mono (by decide)

/-- Whenever the cancel flag is raised, a test ends soon. -/
theorem quits_task : wheelTestTask.Everywhere Quits :=
  ⟨quitsFrom_task false, fun _ ↦ (quits_passes quitsFrom_end everywhere_quits_end
    [wheelTestSpeed, -wheelTestSpeed]).1⟩

end Nutcracker
