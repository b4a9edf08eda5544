import Nutcracker.Program.Run
import Nutcracker.Properties.TimedActuators

/-!
# Mist pulses

All pulses of the humidifier share one restore timer, which every request restarts with its own
length.  So the humidifier is on exactly as long as the latest request asks for: a later pulse may
extend an earlier one, and a shorter one cuts it.
-/

namespace Nutcracker

inductive MistEvent
  | pulse (onMs : ℕ)
  | expire
  | elapse (us : ℕ)

namespace Sys

/-- One event at the humidifier. -/
def nextMist (s : Sys) : MistEvent → Sys
  | .pulse onMs => s.rccarHumidifierPulseOnMs onMs
  | .expire => actuatorCallback (s.timerExpire .humidifierRestore) .humidifierRestore
  | .elapse us => { s with clock := s.clock + us }

/-- Requests have a length, and the timer expires when it is due or later. -/
def EnabledMist (s : Sys) : MistEvent → Prop
  | .pulse onMs => 0 < onMs
  | .expire => ∃ alarm ∈ s.timers .humidifierRestore, alarm.due ≤ s.clock
  | .elapse _ => True

instance (s : Sys) : (e : MistEvent) → Decidable (s.EnabledMist e)
  | .pulse _ => inferInstanceAs (Decidable (_ < _))
  | .expire => inferInstanceAs (Decidable (∃ alarm ∈ s.timers .humidifierRestore, _))
  | .elapse _ => .isTrue trivial

/-- The humidifier is off, and its timer is not armed. -/
def MistOff (s : Sys) : Prop :=
  s.humidifier = { on := false, pin := false } ∧ s.timers .humidifierRestore = none

end Sys

/-- Runs of requests and expiries. -/
abbrev MistRun : List (Entry Sys MistEvent) → Sys → Prop :=
  Run Sys.nextMist (fun _ s e ↦ s.EnabledMist e) Sys.MistOff

/-- A requested pulse. -/
structure Pulse where
  atUs : ℕ
  onMs : ℕ

/-- When it ends. -/
def Pulse.endUs (p : Pulse) : ℕ := p.atUs + p.onMs * 1000

/-- The requests of a history, latest first. -/
def pulses : List (Entry Sys MistEvent) → List Pulse
  | [] => []
  | ⟨s, .pulse onMs⟩ :: log => ⟨s.clock, onMs⟩ :: pulses log
  | _ :: log => pulses log

/-! ## One event -/

section Step

variable {s : Sys} {onMs : ℕ}

theorem humidifier_set {on on' : Bool} (h : s.humidifier = ⟨on', on'⟩) :
    (s.rccarHumidifierSet on).humidifier = ⟨on, on⟩ := by
  unfold Sys.rccarHumidifierSet
  by_cases hon : s.humidifier.on = on
  · rw [if_pos hon]
    change s.humidifier = _
    rw [h] at hon ⊢
    rw [← hon]
  · rw [if_neg hon]
    rfl

theorem humidifier_set_clock (s : Sys) (on : Bool) : (s.rccarHumidifierSet on).clock = s.clock :=
  s.call_clock .input (.humidifierSet on)

theorem pulse_timer (hon : 0 < onMs) :
    (s.rccarHumidifierPulseOnMs onMs).timers .humidifierRestore =
      some ⟨s.clock + onMs * 1000, none⟩ := by
  unfold Sys.rccarHumidifierPulseOnMs
  rw [if_neg hon.ne']
  simp [Sys.timerStartOnce, Sys.timerStart, Sys.timerStop, humidifier_set_clock]

theorem pulse_humidifier {on : Bool} (h : s.humidifier = ⟨on, on⟩) (hon : 0 < onMs) :
    (s.rccarHumidifierPulseOnMs onMs).humidifier = ⟨true, true⟩ := by
  unfold Sys.rccarHumidifierPulseOnMs
  rw [if_neg hon.ne', Sys.timerStartOnce_humidifier]
  exact humidifier_set h

end Step

/-! ## Whole runs -/

/-- What the humidifier and its timer are after the latest request `last`. -/
inductive MistFollows (s : Sys) : Option Pulse → Prop
  | unused (hoff : s.MistOff) : MistFollows s none
  | running (p : Pulse) (hon : s.humidifier = ⟨true, true⟩)
      (htimer : s.timers .humidifierRestore = some ⟨p.endUs, none⟩) : MistFollows s (some p)
  | finished (p : Pulse) (hoff : s.MistOff) (hclock : p.endUs ≤ s.clock) : MistFollows s (some p)

section Runs

variable {log : List (Entry Sys MistEvent)} {s : Sys} {last : Option Pulse}

theorem MistFollows.equal (h : MistFollows s last) : ∃ on, s.humidifier = ⟨on, on⟩ := by
  cases h with
  | unused hoff | finished p hoff => exact ⟨false, hoff.1⟩
  | running p hon => exact ⟨true, hon⟩

theorem MistFollows.pulse {onMs : ℕ} (h : MistFollows s last) (hon : 0 < onMs) :
    MistFollows (s.rccarHumidifierPulseOnMs onMs) (some ⟨s.clock, onMs⟩) := by
  obtain ⟨on, hequal⟩ := h.equal
  exact .running _ (pulse_humidifier hequal hon) (pulse_timer hon)

theorem MistFollows.expire (h : MistFollows s last) (hdue : s.EnabledMist .expire) :
    MistFollows (s.nextMist .expire) last := by
  obtain ⟨alarm, halarm, hdue⟩ := hdue
  cases h with
  | unused hoff | finished p hoff =>
    rw [hoff.2] at halarm
    cases halarm
  | running p hon htimer =>
    rw [htimer] at halarm
    obtain rfl := Option.some.inj halarm
    refine .finished p ⟨humidifier_set hon, ?_⟩ ?_
    · change ((s.timerExpire .humidifierRestore).rccarHumidifierSet false).timers _ = none
      rw [Sys.rccarHumidifierSet_timers]
      simp [Sys.timerExpire, htimer]
    · change p.endUs ≤ ((s.timerExpire .humidifierRestore).rccarHumidifierSet false).clock
      rw [humidifier_set_clock]
      exact hdue

theorem MistFollows.elapse (us : ℕ) (h : MistFollows s last) :
    MistFollows (s.nextMist (.elapse us)) last := by
  cases h with
  | unused hoff => exact .unused hoff
  | running p hon htimer => exact .running p hon htimer
  | finished p hoff hclock => exact .finished p hoff (hclock.trans (Nat.le_add_right _ _))

theorem mistFollows_of_run (hrun : MistRun log s) : MistFollows s (pulses log).head? := by
  refine Run.invariant (I := fun log s ↦ MistFollows s (pulses log).head?) ?_ ?_ hrun
  · exact fun s hoff ↦ .unused hoff
  · intro log s e _ h he
    cases e with
    | pulse onMs => exact h.pulse he
    | expire => exact h.expire he
    | elapse us => exact h.elapse us

/-- The restore timer is not due, so that no expiry is waiting. -/
def Sys.MistSettled (s : Sys) : Prop := ∀ alarm ∈ s.timers .humidifierRestore, s.clock < alarm.due

/-- The humidifier is on, in state and at its pin, just as long as the latest request asks for. -/
theorem mist_iff_latest (hrun : MistRun log s) (hsettled : s.MistSettled) :
    (s.humidifier.on = true ↔ ∃ p ∈ (pulses log).head?, s.clock < p.endUs) ∧
      s.humidifier.pin = s.humidifier.on := by
  have h := mistFollows_of_run hrun
  obtain ⟨on, hequal⟩ := h.equal
  refine ⟨?_, by rw [hequal]⟩
  generalize (pulses log).head? = last at h
  cases h with
  | unused hoff =>
    rw [hoff.1]
    simp
  | running p hon htimer =>
    rw [hon]
    exact iff_of_true rfl ⟨p, rfl, hsettled _ htimer⟩
  | finished p hoff hclock =>
    rw [hoff.1]
    refine iff_of_false Bool.false_ne_true ?_
    rintro ⟨p', hp', hlt⟩
    obtain rfl := Option.some.inj hp'
    omega

/-- A request is honoured to its end if no later one ends earlier. -/
theorem mist_on_of_kept {p : Pulse} {newer older : List Pulse} (hrun : MistRun log s)
    (hlog : pulses log = newer ++ p :: older) (hnewer : ∀ q ∈ newer, p.endUs ≤ q.endUs)
    (hclock : s.clock < p.endUs) : s.humidifier.on = true := by
  have h := mistFollows_of_run hrun
  have hlast : ∃ q, (pulses log).head? = some q ∧ p.endUs ≤ q.endUs := by
    rw [hlog]
    cases newer with
    | nil => exact ⟨p, rfl, le_rfl⟩
    | cons q rest => exact ⟨q, rfl, hnewer q List.mem_cons_self⟩
  obtain ⟨q, hq, hle⟩ := hlast
  rw [hq] at h
  cases h with
  | running _ hon => rw [hon]
  | finished _ _ hover => omega

/-- Nothing keeps the humidifier on once every request is over. -/
theorem mist_off_of_uncovered (hrun : MistRun log s) (hsettled : s.MistSettled)
    (huncovered : ∀ p ∈ pulses log, p.endUs ≤ s.clock) : s.humidifier.on = false := by
  rw [← Bool.not_eq_true, (mist_iff_latest hrun hsettled).1]
  rintro ⟨p, hp, hlt⟩
  have hle := huncovered p (List.mem_of_mem_head? hp)
  omega

theorem mist_pulses (hrun : MistRun log s) :
    (∀ p newer older, pulses log = newer ++ p :: older → (∀ q ∈ newer, p.endUs ≤ q.endUs) →
      s.clock < p.endUs → s.humidifier.on = true) ∧
    (s.MistSettled →
      (s.humidifier.on = true ↔ ∃ p ∈ (pulses log).head?, s.clock < p.endUs) ∧
      s.humidifier.pin = s.humidifier.on ∧
      ((∀ p ∈ pulses log, p.endUs ≤ s.clock) → s.humidifier.on = false)) := by
  constructor
  · exact fun p newer older hlog hnewer hclock ↦ mist_on_of_kept hrun hlog hnewer hclock
  · intro hsettled
    obtain ⟨hiff, hpin⟩ := mist_iff_latest hrun hsettled
    exact ⟨hiff, hpin, mist_off_of_uncovered hrun hsettled⟩

end Runs

/-- Events performed one after another, as long as they are enabled, are a run. -/
theorem exists_mistRun {s₀ : Sys} (h₀ : s₀.MistOff) (events : List MistEvent)
    (p : List (Entry Sys MistEvent) × Sys → Bool)
    (h : (Run.replay Sys.nextMist (fun _ s e ↦ s.EnabledMist e) [] s₀ events).any p = true) :
    ∃ log s, MistRun log s ∧ p (log, s) = true :=
  Run.exists_of_replay events p h₀ h

/-- Two pulses of which the second ends later. -/
theorem mist_pulses_extended :
    ∃ log s, MistRun log s ∧ s.humidifier.on = true ∧
      (∀ p newer older, pulses log = newer ++ p :: older → (∀ q ∈ newer, p.endUs ≤ q.endUs) →
        s.clock < p.endUs → s.humidifier.on = true) ∧
      (s.MistSettled →
        (s.humidifier.on = true ↔ ∃ p ∈ (pulses log).head?, s.clock < p.endUs) ∧
        s.humidifier.pin = s.humidifier.on ∧
        ((∀ p ∈ pulses log, p.endUs ≤ s.clock) → s.humidifier.on = false)) := by
  have hoff : ({ clock := 1000 } : Sys).MistOff := ⟨rfl, rfl⟩
  obtain ⟨log, s, hrun, hon⟩ := exists_mistRun hoff
    [.pulse 1000, .elapse 500000, .pulse 2000, .elapse 900000] (fun r ↦ r.2.humidifier.on)
    (by decide +kernel)
  exact ⟨log, s, hrun, hon, mist_pulses hrun⟩

/-- A pulse of two seconds is cut after one and a half by one of a single second. -/
theorem mist_pulse_cut :
    ¬∀ log s, MistRun log s → (∀ p ∈ pulses log, s.clock < p.endUs → s.humidifier.on = true) ∧
      (s.MistSettled → (∀ p ∈ pulses log, p.endUs ≤ s.clock) → s.humidifier.on = false) := by
  intro h
  have hstart : ({ clock := 1000 } : Sys).MistOff := ⟨rfl, rfl⟩
  obtain ⟨log, s, hrun, hcut⟩ := exists_mistRun hstart
    [.pulse 2000, .elapse 500000, .pulse 1000, .elapse 1000000, .expire, .elapse 1]
    (fun r ↦ !r.2.humidifier.on && (pulses r.1).any fun p ↦ decide (r.2.clock < p.endUs))
    (by decide +kernel)
  simp only [Bool.and_eq_true, Bool.not_eq_true', List.any_eq_true, decide_eq_true_eq] at hcut
  obtain ⟨hoff, p, hp, hclock⟩ := hcut
  exact absurd ((h log s hrun).1 p hp hclock) (by rw [hoff]; decide)

end Nutcracker
