import Nutcracker.Program.Run
import Nutcracker.Platform.Semantics
import Nutcracker.Rccar.Neopixel

/-!
# The light strip goes dark

The animation timer runs exactly while something is wanted.  Switching the last wish off stops the
timer and sends one black frame; when the transmitter is busy at that moment the frame is skipped
and nothing sends it again.
-/

namespace Nutcracker

variable {env : StripEnv} {s : Strip}

/-- The animation timer runs iff something is wanted. -/
def Strip.Timed (s : Strip) : Prop := s.animating = (s.mist || s.engineWanted)

/-- Whenever nothing is wanted, the last frame taken is black. -/
def Strip.Dark (s : Strip) : Prop :=
  s.mist = false → s.engineWanted = false → s.accepted = blackFrame

/-- The event switches off the last wish. -/
def Strip.GoesDark (s : Strip) : StripEvent → Bool
  | .mistSet on => !on && s.mist && !s.engineWanted
  | .setEnabled enabled => !enabled && s.engineWanted && !s.mist
  | .toggle => s.engineWanted && !s.mist
  | .tick => false

/-- The transmitter is idle when the last wish is switched off, or has nothing to switch off. -/
def Strip.BlackoutLands (env : StripEnv) (s : Strip) (e : StripEvent) : Prop :=
  s.GoesDark e = true → env.busy s.attempts = false ∨ s.accepted = blackFrame

instance (s : Strip) (e : StripEvent) : Decidable (s.BlackoutLands env e) :=
  inferInstanceAs (Decidable (_ → _ ∨ _))

abbrev StripRun (env : StripEnv) : List (Entry Strip StripEvent) → Strip → Prop :=
  Run (Strip.next env) (fun _ _ _ ↦ True) fun s ↦ s = Strip.init

/-- Operations performed one after another are a run. -/
theorem exists_stripRun (env : StripEnv) (events : List StripEvent)
    (p : List (Entry Strip StripEvent) × Strip → Bool)
    (h : (Run.replay (Strip.next env) (fun _ _ _ ↦ True) [] Strip.init events).any p = true) :
    ∃ log s, StripRun env log s ∧ p (log, s) = true :=
  Run.exists_of_replay events p rfl h

/-! ## One operation -/

namespace Strip

@[simp] theorem flushPixels_mist : (s.flushPixels env).mist = s.mist := rfl
@[simp] theorem flushPixels_engineWanted : (s.flushPixels env).engineWanted = s.engineWanted := rfl
@[simp] theorem flushPixels_animating : (s.flushPixels env).animating = s.animating := rfl
@[simp] theorem renderMistFrame_mist : (s.renderMistFrame env).mist = s.mist := rfl
@[simp] theorem renderMistFrame_animating : (s.renderMistFrame env).animating = s.animating := rfl
@[simp] theorem renderMistFrame_engineWanted :
    (s.renderMistFrame env).engineWanted = s.engineWanted := rfl
@[simp] theorem renderEngineFrame_mist : (s.renderEngineFrame env).mist = s.mist := rfl
@[simp] theorem renderEngineFrame_animating :
    (s.renderEngineFrame env).animating = s.animating := rfl
@[simp] theorem renderEngineFrame_engineWanted :
    (s.renderEngineFrame env).engineWanted = s.engineWanted := rfl

@[simp]
theorem ensureAnimLocked_mist : (s.ensureAnimLocked env).mist = s.mist := by
  unfold ensureAnimLocked blackoutLocked
  cases hmist : s.mist <;> cases s.engineWanted <;> cases s.animating <;> simp [hmist]

@[simp]
theorem ensureAnimLocked_engineWanted :
    (s.ensureAnimLocked env).engineWanted = s.engineWanted := by
  unfold ensureAnimLocked blackoutLocked
  cases s.mist <;> cases hwanted : s.engineWanted <;> cases s.animating <;> simp [hwanted]

@[simp]
theorem ensureAnimLocked_animating :
    (s.ensureAnimLocked env).animating = (s.mist || s.engineWanted) := by
  unfold ensureAnimLocked blackoutLocked
  cases s.mist <;> cases s.engineWanted <;> cases hrunning : s.animating <;> simp [hrunning]

/-- Without a wish, a running animation ends with one attempt at a black frame. -/
theorem ensureAnimLocked_dark (hmist : s.mist = false) (hwanted : s.engineWanted = false)
    (hrunning : s.animating = true) :
    (s.ensureAnimLocked env).accepted =
      if env.busy s.attempts then s.accepted else blackFrame := by
  unfold ensureAnimLocked blackoutLocked
  simp [hmist, hwanted, hrunning, flushPixels]

theorem setEngineWantedLocked_flags (enabled : Bool) :
    (s.setEngineWantedLocked env enabled).mist = s.mist ∧
      (s.setEngineWantedLocked env enabled).engineWanted = enabled := by
  unfold setEngineWantedLocked
  by_cases h : s.engineWanted = enabled
  · simp [h]
  · rw [if_neg h]
    cases s.mist <;> simp

theorem mistSet_flags (on : Bool) :
    (s.mistSet env on).mist = on ∧ (s.mistSet env on).engineWanted = s.engineWanted := by
  unfold mistSet
  cases on
  · cases hmist : s.mist <;> cases hwanted : s.engineWanted <;> simp [hmist, hwanted]
  · simp

theorem animTimerCb_flags : (s.animTimerCb env).mist = s.mist ∧
    (s.animTimerCb env).engineWanted = s.engineWanted := by
  unfold animTimerCb
  cases hmist : s.mist <;> cases hwanted : s.engineWanted <;> simp [hmist, hwanted]

/-- The two wishes, as the shared state of the firmware keeps them. -/
def flags (s : Strip) : Neopixel := ⟨s.engineWanted, s.mist⟩

theorem flags_mistSet {sys : Sys} (hsys : sys.neopixel = s.flags) (on : Bool) :
    (sys.rccarNeopixelMistSet on).neopixel = (s.mistSet env on).flags := by
  obtain ⟨hmist, hwanted⟩ := @mistSet_flags env s on
  unfold Sys.rccarNeopixelMistSet flags
  rw [hmist, hwanted, hsys]
  rfl

theorem flags_setEnabled {sys : Sys} (hsys : sys.neopixel = s.flags) (enabled : Bool) :
    (sys.rccarNeopixelSetEnabled enabled).neopixel = (s.setEnabled env enabled).flags := by
  obtain ⟨hmist, hwanted⟩ := @setEngineWantedLocked_flags env s enabled
  unfold Sys.rccarNeopixelSetEnabled flags setEnabled
  rw [hmist, hwanted, hsys]
  rfl

theorem Timed.setEngineWantedLocked (hs : s.Timed) (enabled : Bool) :
    (s.setEngineWantedLocked env enabled).Timed := by
  unfold Timed at hs ⊢
  unfold Strip.setEngineWantedLocked
  by_cases h : s.engineWanted = enabled
  · rwa [if_pos h]
  · cases hmist : s.mist <;> simp_all

theorem Timed.next (hs : s.Timed) (e : StripEvent) : (s.next env e).Timed := by
  cases e with
  | setEnabled enabled => exact hs.setEngineWantedLocked enabled
  | toggle => exact hs.setEngineWantedLocked _
  | mistSet on =>
    unfold Timed at hs ⊢
    change (s.mistSet env on).animating = _
    cases on
    · cases hmist : s.mist <;> cases hwanted : s.engineWanted <;>
        simp_all [Strip.next, Strip.mistSet]
    · simp [Strip.next, Strip.mistSet]
  | tick =>
    unfold Timed at hs ⊢
    cases hmist : s.mist <;> cases hwanted : s.engineWanted <;>
      simp_all [Strip.next, Strip.animTimerCb]

/-- Switching the last wish off darkens the strip iff the black frame lands. -/
theorem setEngineWantedLocked_accepted (hs : s.Timed) (hmist : s.mist = false)
    (hwanted : s.engineWanted = true) : (s.setEngineWantedLocked env false).accepted =
      if env.busy s.attempts then s.accepted else blackFrame := by
  have hrunning : s.animating = true := by
    rw [hs, hwanted]
    exact Bool.or_true _
  have hdark := @ensureAnimLocked_dark env { s with engineWanted := false } hmist rfl hrunning
  simpa [setEngineWantedLocked, hmist, hwanted] using hdark

theorem mistSet_accepted (hs : s.Timed) (hmist : s.mist = true) (hwanted : s.engineWanted = false) :
    (s.mistSet env false).accepted =
      if env.busy s.attempts then s.accepted else blackFrame := by
  have hrunning : s.animating = true := by
    rw [hs, hmist]
    rfl
  have hdark := @ensureAnimLocked_dark env { s with mist := false } rfl hwanted hrunning
  simpa [mistSet, hmist, hwanted] using hdark

/-- From a dark state, an operation leaves a dark state iff its blackout lands. -/
theorem dark_next_iff (hs : s.Timed) (hdark : s.Dark) (e : StripEvent) :
    (s.next env e).Dark ↔ s.BlackoutLands env e := by
  have hlands : ∀ {s' : Strip} {e : StripEvent}, s.GoesDark e = true → s'.mist = false →
      s'.engineWanted = false →
      s'.accepted = (if env.busy s.attempts then s.accepted else blackFrame) →
      (s'.Dark ↔ s.BlackoutLands env e) := by
    intro s' e hgoes hmist hwanted haccepted
    unfold Dark BlackoutLands
    rw [haccepted]
    cases hbusy : env.busy s.attempts <;> simp [hgoes, hmist, hwanted]
  have hstays : ∀ {s' : Strip} {e : StripEvent}, s.GoesDark e = false → s'.Dark →
      (s'.Dark ↔ s.BlackoutLands env e) := by
    intro s' e hgoes hs'
    exact iff_of_true hs' fun h ↦ by rw [hgoes] at h; cases h
  have hengine : ∀ (enabled : Bool) (e : StripEvent),
      s.GoesDark e = (!enabled && s.engineWanted && !s.mist) →
      ((s.setEngineWantedLocked env enabled).Dark ↔ s.BlackoutLands env e) := by
    intro enabled e hgoes
    obtain ⟨hflag, hset⟩ := @setEngineWantedLocked_flags env s enabled
    cases enabled with
    | true =>
      apply hstays hgoes
      intro _ hoff
      rw [hset] at hoff
      cases hoff
    | false =>
      cases hmist : s.mist with
      | true =>
        rw [hmist] at hgoes hflag
        apply hstays (hgoes.trans (by simp))
        intro hoff
        rw [hflag] at hoff
        cases hoff
      | false =>
        cases hwanted : s.engineWanted with
        | true =>
          rw [hmist, hwanted] at hgoes
          exact hlands hgoes (hflag.trans hmist) hset (setEngineWantedLocked_accepted hs hmist hwanted)
        | false =>
          rw [hmist, hwanted] at hgoes
          apply hstays hgoes
          unfold setEngineWantedLocked
          rwa [if_pos hwanted]
  cases e with
  | setEnabled enabled => exact hengine enabled _ rfl
  | toggle =>
    refine hengine _ _ ?_
    cases hwanted : s.engineWanted <;> simp [GoesDark, hwanted]
  | tick =>
    apply hstays rfl
    intro hmist hwanted
    obtain ⟨hmist', hwanted'⟩ := @animTimerCb_flags env s
    change (s.animTimerCb env).mist = false at hmist
    change (s.animTimerCb env).engineWanted = false at hwanted
    rw [hmist'] at hmist
    rw [hwanted'] at hwanted
    change (s.animTimerCb env).accepted = blackFrame
    unfold animTimerCb
    rw [hmist, hwanted]
    exact hdark hmist hwanted
  | mistSet on =>
    obtain ⟨hset, hflag⟩ := @mistSet_flags env s on
    cases on with
    | true =>
      apply hstays rfl
      intro hoff
      change (s.mistSet env true).mist = false at hoff
      rw [hset] at hoff
      cases hoff
    | false =>
      cases hmist : s.mist with
      | false =>
        apply hstays (by simp [GoesDark, hmist])
        change (s.mistSet env false).Dark
        unfold mistSet
        rw [hmist]
        exact hdark
      | true =>
        cases hwanted : s.engineWanted with
        | true =>
          apply hstays (by simp [GoesDark, hwanted])
          intro _ hoff
          change (s.mistSet env false).engineWanted = false at hoff
          rw [hflag, hwanted] at hoff
          cases hoff
        | false =>
          exact hlands (by simp [GoesDark, hmist, hwanted]) hset (hflag.trans hwanted)
            (mistSet_accepted hs hmist hwanted)

end Strip

/-! ## Every sequence of operations -/

/-- The timer always runs iff something is wanted.  The strip is dark in every state without a wish
iff every blackout lands. -/
theorem strip_goes_dark {log : List (Entry Strip StripEvent)} (hrun : StripRun env log s) :
    s.animating = (s.mist || s.engineWanted) ∧
      ((s.Dark ∧ ∀ entry ∈ log, entry.before.Dark) ↔
        ∀ entry ∈ log, entry.before.BlackoutLands env entry.event) := by
  have hinv : s.Timed ∧ ((s.Dark ∧ ∀ entry ∈ log, entry.before.Dark) ↔
      ∀ entry ∈ log, entry.before.BlackoutLands env entry.event) := by
    refine hrun.invariant (I := fun log s ↦ s.Timed ∧ ((s.Dark ∧ ∀ entry ∈ log, entry.before.Dark) ↔
      ∀ entry ∈ log, entry.before.BlackoutLands env entry.event)) ?_ ?_
    · rintro s rfl
      refine ⟨rfl, iff_of_true ⟨fun _ _ ↦ rfl, by simp⟩ (by simp)⟩
    · rintro log s e _ ⟨htimed, hiff⟩ _
      refine ⟨htimed.next e, ?_⟩
      rw [List.forall_mem_cons, List.forall_mem_cons, ← hiff]
      constructor
      · rintro ⟨hnext, hdark, hall⟩
        exact ⟨(Strip.dark_next_iff htimed hdark e).mp hnext, hdark, hall⟩
      · rintro ⟨hlands, hdark, hall⟩
        exact ⟨(Strip.dark_next_iff htimed hdark e).mpr hlands, hdark, hall⟩
  exact hinv

/-- An idle transmitter: the mist comes and goes, and the strip is dark. -/
theorem strip_goes_dark_idle : ∃ log s, StripRun ⟨fun _ ↦ false, fun _ ↦ 0⟩ log s ∧
    log.length = 3 ∧ s.mist = false ∧ s.engineWanted = false ∧ s.accepted = blackFrame := by
  obtain ⟨log, s, hrun, hend⟩ := exists_stripRun ⟨fun _ ↦ false, fun _ ↦ 0⟩
    [.mistSet true, .tick, .mistSet false]
    (fun r ↦ decide (r.1.length = 3 ∧ r.2.mist = false ∧ r.2.engineWanted = false ∧
      ∀ entry ∈ r.1, entry.before.BlackoutLands ⟨fun _ ↦ false, fun _ ↦ 0⟩ entry.event))
    (by decide +kernel)
  obtain ⟨hlength, hmist, hwanted, hlands⟩ := of_decide_eq_true hend
  exact ⟨log, s, hrun, hlength, hmist, hwanted,
    ((strip_goes_dark hrun).2.mpr hlands).1 hmist hwanted⟩

/-- The mist is switched off while its last frame is still being sent. -/
theorem strip_stays_lit : ∃ env log s, StripRun env log s ∧
    s.mist = false ∧ s.engineWanted = false ∧ s.accepted ≠ blackFrame := by
  obtain ⟨log, s, hrun, hend⟩ := exists_stripRun ⟨fun n ↦ decide (n = 2), fun _ ↦ 0⟩
    [.mistSet true, .mistSet false]
    (fun r ↦ decide (r.2.mist = false ∧ r.2.engineWanted = false ∧ r.2.accepted ≠ blackFrame))
    (by decide +kernel)
  exact ⟨_, log, s, hrun, of_decide_eq_true hend⟩

end Nutcracker
