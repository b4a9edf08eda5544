import Nutcracker.Platform.Vocabulary

/-!
# No timer is early

Three threads arm and stop the timers of the platform.  In whatever order they do, an expiry answers
one arming that nobody has taken back, and comes no earlier than that arming has asked for.
-/

namespace Nutcracker

open Prog Sys

variable {bp : Bluepad32} {volume : ℕ} {log earlier : CoreLog} {s : Cores} {e : CoreEvent}
  {entry : Entry Cores CoreEvent} {t : Timer} {alarm : Alarm}

/-! ## Arming -/

/-- The operation that arms a timer, for once or again and again. -/
def startOp (t : Timer) (us : ℕ) (periodic : Bool) : Op :=
  if periodic then .timerStartPeriodic t us else .timerStartOnce t us

/-- The alarm was armed by a step, nobody has stopped the timer since then, and one that is to expire
once has not. -/
def ArmedBy (t : Timer) (alarm : Alarm) (log : CoreLog) : Prop :=
  ∃ between arm before us, log = between ++ arm :: before ∧
    arm.before.performs arm.event = some (startOp t us alarm.period.isSome) ∧
    arm.before.sys.clock + us ≤ alarm.due ∧
    (∀ entry ∈ between, entry.before.performs entry.event ≠ some (.timerStop t)) ∧
    (alarm.period = none → ∀ entry ∈ between, entry.event ≠ .expires t)

theorem armedBy_start {us : ℕ} {period : Option ℕ}
    (h : s.performs e = some (startOp t us period.isSome)) :
    ArmedBy t ⟨s.sys.clock + us, period⟩ (⟨s, e⟩ :: log) :=
  ⟨[], ⟨s, e⟩, log, us, rfl, h, le_rfl, List.forall_mem_nil _, fun _ ↦ List.forall_mem_nil _⟩

/-- A step that neither stops the timer nor is its expiry. -/
theorem ArmedBy.step (h : ArmedBy t alarm log) (due : ℕ) (hdue : alarm.due ≤ due)
    (hstop : s.performs e ≠ some (.timerStop t)) (hexpires : alarm.period = none → e ≠ .expires t) :
    ArmedBy t ⟨due, alarm.period⟩ (⟨s, e⟩ :: log) := by
  obtain ⟨between, arm, before, us, rfl, harm, hclock, hstops, honce⟩ := h
  refine ⟨⟨s, e⟩ :: between, arm, before, us, rfl, harm, hclock.trans hdue, ?_, ?_⟩
  · exact List.forall_mem_cons.mpr ⟨hstop, hstops⟩
  · exact fun hperiod ↦ List.forall_mem_cons.mpr ⟨hexpires hperiod, honce hperiod⟩

/-- Every armed timer of the platform answers an arming. -/
def AllArmed (log : CoreLog) (s : Cores) : Prop :=
  ∀ t, actuatorTimer t = false → ∀ alarm ∈ s.sys.timers t, ArmedBy t alarm log

/-- A timer that the step leaves alone. -/
theorem AllArmed.same (h : AllArmed log s) (ht : actuatorTimer t = false)
    (hstop : s.performs e ≠ some (.timerStop t)) (hexpires : e ≠ .expires t)
    (halarm : alarm ∈ s.sys.timers t) : ArmedBy t alarm (⟨s, e⟩ :: log) :=
  (h t ht alarm halarm).step _ le_rfl hstop fun _ ↦ hexpires

/-- An operation that starts timers. -/
theorem AllArmed.start (h : AllArmed log s) (ht : actuatorTimer t = false) {t' : Timer} {us : ℕ}
    (period : Option ℕ) (hstart : s.performs e = some (startOp t' us period.isSome))
    (halarm : alarm ∈ (s.sys.timerStart t' us period).timers t) :
    ArmedBy t alarm (⟨s, e⟩ :: log) := by
  have hstop : s.performs e ≠ some (.timerStop t) := by
    rw [hstart]
    unfold startOp
    split <;> simp
  have hexpires : e ≠ .expires t := by
    rintro rfl
    cases hstart
  rw [Sys.timerStart_timers] at halarm
  split at halarm
  · rename_i heq
    subst heq
    cases harmed : s.sys.timers t with
    | none =>
      rw [harmed] at halarm
      obtain rfl := Option.some.inj halarm
      exact armedBy_start hstart
    | some alarm' =>
      rw [harmed] at halarm
      obtain rfl := Option.some.inj halarm
      exact h.same ht hstop hexpires harmed
  · exact h.same ht hstop hexpires halarm

theorem AllArmed.performs (h : AllArmed log s) {o : Op} (hperforms : s.performs e = some o) :
    AllArmed (⟨s, e⟩ :: log) (s.next bp e) := by
  intro t ht alarm halarm
  obtain ⟨ω, test, hnext⟩ := Cores.next_of_performs bp hperforms
  have hexpires : e ≠ .expires t := by
    rintro rfl
    cases hperforms
  have hsame : o ≠ .timerStop t → alarm ∈ s.sys.timers t → ArmedBy t alarm (⟨s, e⟩ :: log) := by
    intro ho halarm
    refine h.same ht ?_ hexpires halarm
    rw [hperforms]
    exact fun heq ↦ ho (Option.some.inj heq)
  rw [hnext] at halarm
  change alarm ∈ (exec ω o s.sys).2.timers t at halarm
  cases o with
  | timerStop t' =>
    change alarm ∈ (s.sys.timerStop t').timers t at halarm
    rw [Sys.timerStop_timers] at halarm
    split at halarm
    · cases halarm
    · rename_i hne
      exact hsame (fun heq ↦ hne (Op.timerStop.inj heq).symm) halarm
  | timerStartOnce t' us => exact h.start ht none hperforms halarm
  | timerStartPeriodic t' us => exact h.start ht (some us) hperforms halarm
  | call origin c =>
    change alarm ∈ (s.sys.call origin c).timers t at halarm
    rw [s.sys.call_timers origin c ht] at halarm
    exact hsame (by simp) halarm
  | createWheelTest =>
    refine hsame (by simp) ?_
    change alarm ∈ (if ω.taskCreated then s.sys.startTest else s.sys).timers t at halarm
    split at halarm <;> exact halarm
  | _ => exact hsame (by simp) halarm

theorem AllArmed.expires (h : AllArmed log s) (t' : Timer) :
    AllArmed (⟨s, .expires t'⟩ :: log) (s.next bp (.expires t')) := by
  intro t ht alarm halarm
  change alarm ∈ (actuatorCallback (s.sys.timerExpire t') t').timers t at halarm
  rw [(Sys.sameOutside_actuatorCallback _ t').2.2 t ht] at halarm
  have hstop : s.performs (.expires t') ≠ some (.timerStop t) := fun heq ↦ by cases heq
  by_cases heq : t = t'
  · subst heq
    -- a periodic timer is armed for its next period
    change alarm ∈ Function.update s.sys.timers t _ t at halarm
    rw [Function.update_self] at halarm
    obtain ⟨alarm', harmed, hnext⟩ := Option.bind_eq_some_iff.mp halarm
    obtain ⟨us, hperiod, rfl⟩ := Option.map_eq_some_iff.mp hnext
    have harmed' := (h t ht alarm' harmed).step (alarm'.due + us) (Nat.le_add_right _ _)
      hstop fun hnone ↦ by
        rw [hnone] at hperiod
        cases hperiod
    rwa [hperiod] at harmed'
  · rw [s.sys.timerExpire_timers t' t heq] at halarm
    exact h.same ht hstop (fun h ↦ heq (CoreEvent.expires.inj h).symm) halarm

theorem AllArmed.next (h : AllArmed log s) (he : s.Enabled e) :
    AllArmed (⟨s, e⟩ :: log) (s.next bp e) := by
  cases hperforms : s.performs e with
  | some o => exact h.performs hperforms
  | none =>
    have hstop : ∀ t, s.performs e ≠ some (.timerStop t) := by
      intro t heq
      rw [hperforms] at heq
      cases heq
    cases e with
    | expires t' => exact h.expires t'
    | enters e =>
      intro t ht alarm halarm
      have htimers : (World.prepared s.sys e).timers t = s.sys.timers t := by
        cases e with
        | timer => cases he.2.1
        | _ => rfl
      change alarm ∈ (World.prepared s.sys e).timers t at halarm
      rw [htimers] at halarm
      exact h.same ht (hstop t) (fun heq ↦ by cases heq) halarm
    | begins | elapse us =>
      intro t ht alarm halarm
      exact h.same ht (hstop t) (fun heq ↦ by cases heq) halarm
    | input ω | btstack | espTimer ω | wheelTest => exact absurd hperforms (nextOp_ne_none he)

/-! ## The clock -/

/-- The clock never goes back. -/
theorem clock_le_next (bp : Bluepad32) (he : s.Enabled e) :
    s.sys.clock ≤ (s.next bp e).sys.clock := by
  cases hperforms : s.performs e with
  | some o =>
    obtain ⟨ω, test, hnext⟩ := Cores.next_of_performs bp hperforms
    rw [hnext]
    exact (exec_clock o s.sys).ge
  | none =>
    cases e with
    | enters e => cases e <;> exact le_rfl
    | expires t => exact ((Sys.sameOutside_actuatorCallback (s.sys.timerExpire t) t).1).ge
    | begins => exact le_rfl
    | elapse us => exact Nat.le_add_right _ us
    | input ω | btstack | espTimer ω | wheelTest => exact absurd hperforms (nextOp_ne_none he)

/-- A step of a run happened no later than its end. -/
theorem clock_le_of_mem (hrun : ColdRun bp volume log s) (hmem : entry ∈ log) :
    entry.before.sys.clock ≤ s.sys.clock := by
  induction hrun with
  | start hs => cases hmem
  | step e hrun hok ih =>
    rcases List.mem_cons.mp hmem with rfl | hearlier
    · exact clock_le_next bp hok.1
    · exact (ih hearlier).trans (clock_le_next bp hok.1)

/-! ## Every interleaving -/

theorem allArmed_of_run (hrun : ColdRun bp volume log s) : AllArmed log s := by
  refine Run.invariant (I := AllArmed) ?_ (fun _ _ _ _ h hok ↦ h.next hok.1) hrun
  rintro s ⟨us, initialised, rfl⟩ t - alarm halarm
  cases halarm

/-- **No timer is early**: every expiry of a timer of the platform answers an arming with at least the
delay of that timer, which nobody has taken back and, for a timer that expires once, no other expiry
has answered.  So no such timer expires within its delay of a stop, nor, but for the periodic
keep-alive, of its last expiry. -/
theorem timers_never_early (hvolume : VolumeOk volume) (hrun : ColdRun bp volume log s)
    (hsuffix : entry :: earlier <:+ log) (hexpires : entry.event = .expires t)
    (ht : actuatorTimer t = false) :
    (∃ between arm before us periodic, earlier = between ++ arm :: before ∧
      arm.before.performs arm.event = some (startOp t us periodic) ∧ t.delay ≤ us ∧
      arm.before.sys.clock + us ≤ entry.before.sys.clock ∧
      (∀ entry ∈ between, entry.before.performs entry.event ≠ some (.timerStop t)) ∧
      (periodic = false → ∀ entry ∈ between, entry.event ≠ .expires t)) ∧
    ∀ entry' ∈ earlier, (entry'.before.performs entry'.event = some (.timerStop t) ∨
      (t ≠ .gamepadKeepalive ∧ entry'.event = .expires t)) →
        entry'.before.sys.clock + t.delay ≤ entry.before.sys.clock := by
  have hbefore : ColdRun bp volume earlier entry.before := hrun.of_suffix hsuffix
  obtain ⟨⟨-, -, alarm, halarm, hdue⟩, -⟩ : (entry.before.Enabled (.expires t) ∧ True) :=
    hexpires ▸ hrun.ok_of_suffix hsuffix
  change alarm.due ≤ entry.before.sys.clock at hdue
  obtain ⟨between, arm, before, us, rfl, harm, hclock, hstops, honce⟩ :=
    allArmed_of_run hbefore t ht alarm halarm
  have hmem : arm ∈ between ++ arm :: before := List.mem_append_right _ List.mem_cons_self
  obtain ⟨thread, -, hop⟩ := soundOp_of_mem hvolume hbefore hmem harm
  have hdelay : t.delay ≤ us := by
    unfold startOp at hop
    split at hop <;> exact hop.2
  refine ⟨⟨between, arm, before, us, _, rfl, harm, hdelay, hclock.trans hdue, hstops, ?_⟩, ?_⟩
  · intro hperiodic
    exact honce (Option.not_isSome_iff_eq_none.mp (Bool.eq_false_iff.mp hperiodic))
  · intro entry' hmem' htouches
    rcases List.mem_append.mp hmem' with hbetween | harm'
    · rcases htouches with hstop | ⟨hne, hexpires'⟩
      · exact absurd hstop (hstops entry' hbetween)
      · cases hperiod : alarm.period with
        | none => exact absurd hexpires' (honce hperiod entry' hbetween)
        | some period =>
          rw [hperiod] at hop
          exact absurd hop.1 hne
    · have hle : entry'.before.sys.clock ≤ arm.before.sys.clock := by
        rcases List.mem_cons.mp harm' with rfl | hearlier
        · exact le_rfl
        · exact clock_le_of_mem (hbefore.of_suffix ⟨between, rfl⟩) hearlier
      omega

/-- The timer that a step lets expire. -/
def CoreEvent.expiry : CoreEvent → Option Timer
  | .expires t => some t
  | _ => none

/-- The greeting of a pad comes when its delay is over. -/
theorem timers_never_early_greeting : ∃ log s entry earlier, ColdRun bluepad32 25 log s ∧
    (entry :: earlier <:+ log ∧ entry.event = .expires .connectSound) ∧
      ∃ arm ∈ earlier, arm.before.sys.clock + 100000 ≤ entry.before.sys.clock := by
  obtain ⟨log, s, hrun, hend⟩ := exists_coldRun bluepad32 0 25
    (List.replicate 6 .btstack ++ .enters (.deviceReady (samplePad 1)) :: List.replicate 28 .btstack ++
      [.elapse 100000, .expires .connectSound])
    (fun r ↦ decide ((r.1.head?.bind fun entry ↦ entry.event.expiry) = some .connectSound))
    (by decide +kernel)
  have hhead := of_decide_eq_true hend
  cases log with
  | nil => cases hhead
  | cons entry earlier =>
    obtain ⟨before, event⟩ := entry
    change event.expiry = some .connectSound at hhead
    cases event with
    | expires t =>
      obtain rfl := Option.some.inj hhead
      obtain ⟨⟨between, arm, earliest, us, periodic, rfl, -, hdelay, hclock, -⟩, -⟩ :=
        timers_never_early (by decide) hrun (List.suffix_refl _) rfl rfl
      refine ⟨_, s, _, _, hrun, ⟨List.suffix_refl _, rfl⟩, arm, ?_, ?_⟩
      · exact List.mem_append_right _ List.mem_cons_self
      · exact (Nat.add_le_add_left hdelay _).trans hclock
    | _ => cases hhead

end Nutcracker
