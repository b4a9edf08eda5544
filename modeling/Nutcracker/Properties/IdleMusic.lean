import Nutcracker.Properties.CoreThreads
import Nutcracker.Platform.Vocabulary

/-!
# The music of an idle car

While a connected car is not controlled, a timer plays one piece of music after another.  The callback
remembers which piece it has played in a variable that no other thread writes.
-/

namespace Nutcracker

open Prog

/-! ## The callback -/

/-- What the callback knows of the piece it has played last. -/
inductive MusicStage
  | quiet
  /-- The variable has been read. -/
  | read (lastTrack : ℕ)
  /-- A piece has been chosen, and is to be played. -/
  | chosen (track : ℕ)

/-- No piece has been chosen. -/
def MusicStage.Open : MusicStage → Prop
  | .quiet | .read _ => True
  | .chosen _ => False

/-- A piece is chosen after a look at the last one, and is played next. -/
def musicProtocol : Protocol Op Op.Ans MusicStage where
  ok
    | .quiet, o => SoundOp {} o
    | .read lastTrack, o => SoundOp {} o ∨
      ∃ track, o = .set .bgmLastTrack track ∧ Musical track ∧ track ≠ lastTrack
    | .chosen track, o => ∃ origin, o = .call origin (.dfplayerPlay track)
  allows _ := SoundAnswer
  next
    | .chosen _, _, _ => .quiet
    | _, .get .bgmLastTrack, lastTrack => .read lastTrack
    | _, .set .bgmLastTrack track, _ => .chosen track
    | stage, _, _ => stage

abbrev FollowsMusic {α : Type} (p : Firmware α) (stage : MusicStage) : Prop :=
  p.Follows musicProtocol (fun stage' _ ↦ stage'.Open) stage

/-- The random piece gives way to the next one if it was the last. -/
theorem bgmTrack_ne (random lastTrack : ℕ) : bgmTrack random lastTrack ≠ lastTrack := by
  unfold bgmTrack trackBgmMax trackBgmMin
  dsimp only
  split <;> omega

section Callback

variable {α : Type} {stage : MusicStage}

theorem followsMusic_of_sounds {p : Firmware α} (hp : Sounds {} p) (hstage : stage.Open) :
    FollowsMusic p stage := by
  refine (hp.follows MusicStage.Open (fun st o hst ho ↦ ?_) hstage).post_mono fun _ _ h ↦ h.1
  constructor
  · cases st with
    | quiet => exact ho
    | read lastTrack => exact .inl ho
    | chosen => exact hst.elim
  · intro answer hanswer
    refine ⟨hanswer, ?_⟩
    cases st with
    | chosen => exact hst.elim
    | quiet | read lastTrack =>
      cases o with
      | get v => cases v <;> exact trivial
      | set v x =>
        cases v with
        | bgmLastTrack => cases ho
        | _ => exact trivial
      | _ => exact trivial

/-- From the look at the last piece to the start of the timer for the next one. -/
theorem followsMusic_choose (random : ℕ) (hstage : stage.Open) :
    FollowsMusic (Firmware.get .bgmLastTrack >>= fun lastTrack ↦
      Firmware.set .bgmLastTrack (bgmTrack random lastTrack) >>= fun _ ↦
      Firmware.call .callback (.dfplayerPlay (bgmTrack random lastTrack)) >>= fun _ ↦
      Firmware.timerStartOnce .connectedIdleBgm connectedIdleBgmRepeatUs) stage := by
  have hrest : ∀ lastTrack, FollowsMusic (Firmware.set .bgmLastTrack (bgmTrack random lastTrack) >>=
      fun _ ↦ Firmware.call .callback (.dfplayerPlay (bgmTrack random lastTrack)) >>= fun _ ↦
      Firmware.timerStartOnce .connectedIdleBgm connectedIdleBgmRepeatUs) (.read lastTrack) := by
    intro lastTrack
    refine ⟨.inr ⟨_, rfl, musical_bgmTrack _ _, bgmTrack_ne _ _⟩, fun _ _ ↦ ⟨⟨_, rfl⟩, fun _ _ ↦ ?_⟩⟩
    have hstart : SoundOp {} (.timerStartOnce .connectedIdleBgm connectedIdleBgmRepeatUs) := by
      constructor <;> decide
    exact ⟨hstart, fun _ _ ↦ trivial⟩
  cases stage with
  | quiet => exact ⟨trivial, fun lastTrack _ ↦ hrest lastTrack⟩
  | read => exact ⟨.inl trivial, fun lastTrack _ ↦ hrest lastTrack⟩
  | chosen => exact hstage.elim

/-- Every callback of the `esp_timer` task. -/
theorem followsMusic_timerCallback (bp : Bluepad32) {t : Timer} (ht : t ≠ .waitingIdle)
    (hstage : stage.Open) : FollowsMusic (timerCallback bp t) stage := by
  by_cases hmusic : t = .connectedIdleBgm
  · subst hmusic
    have hget : ∀ v, Sounds {} (Firmware.get v) := fun v ↦ ⟨trivial, fun _ _ ↦ trivial⟩
    have hrandom : Sounds {} (perform Op.espRandom) := ⟨trivial, fun _ _ ↦ trivial⟩
    refine (followsMusic_of_sounds (hget .connected) hstage).bind fun stage connected hstage ↦ ?_
    refine follows_ite (fun _ ↦ hstage) fun _ ↦ ?_
    refine (followsMusic_of_sounds hrandom hstage).bind fun stage random hstage ↦ ?_
    exact followsMusic_choose random hstage
  · exact followsMusic_of_sounds (sounds_timerCallback bp ht fun h ↦ absurd h hmusic) hstage

end Callback

/-! ## Every interleaving -/

/-- The piece of music that an operation plays. -/
def musicOf : Op → Option ℕ
  | .call _ (.dfplayerPlay track) => if Musical track then some track else none
  | _ => none

/-- The piece that a step of the `esp_timer` task plays. -/
def Cores.playsMusic (s : Cores) : CoreEvent → Option ℕ
  | .espTimer _ => s.espTimer.nextOp.bind musicOf
  | _ => none

/-- The pieces that were played, latest first. -/
def music (log : CoreLog) : List ℕ := log.filterMap fun entry ↦ entry.before.playsMusic entry.event

/-- What the stage says about the pieces that were played and the one that is remembered. -/
def MusicStage.Agrees (played : List ℕ) (remembered : ℕ) : MusicStage → Prop
  | .quiet => remembered = played.headD 0
  | .read lastTrack => remembered = played.headD 0 ∧ lastTrack = remembered
  | .chosen track => remembered = track ∧ Musical track ∧ track ≠ played.headD 0

section Runs

variable {bp : Bluepad32} {volume : ℕ} {log : CoreLog} {s : Cores} {e : CoreEvent} {ω : Oracle}
  {voice : Voice} {stage : MusicStage} {o : Op} {sys : Sys} {played : List ℕ}

theorem bgmLastTrack_exec (ho : ∀ x, o ≠ .set .bgmLastTrack x) :
    (exec ω o sys).2.plat.bgmLastTrack = sys.plat.bgmLastTrack := by
  cases o with
  | set v x => cases v <;> first | rfl | exact absurd rfl (ho x)
  | createWheelTest => cases htask : ω.taskCreated <;> simp [exec, htask, Sys.startTest]
  | call origin c => exact congrArg Platform.bgmLastTrack (sys.call_plat origin c)
  | timerStartOnce t us => exact congrArg Platform.bgmLastTrack (sys.timerStartOnce_plat t us)
  | timerStartPeriodic t us =>
    exact congrArg Platform.bgmLastTrack (sys.timerStartPeriodic_plat t us)
  | _ => rfl

theorem not_set_of_sound (hvoice : voice.chooses = false) (ho : SoundOp voice o) (x : ℕ) :
    o ≠ .set .bgmLastTrack x := by
  rintro rfl
  exact Bool.noConfusion (hvoice.symm.trans ho)

theorem musicOf_of_sound (ho : SoundOp {} o) : musicOf o = none := by
  cases o with
  | call origin c =>
    cases c with
    | dfplayerPlay track =>
      apply if_neg
      intro hmusical
      cases ho.2 hmusical
    | _ => rfl
  | _ => rfl

theorem isChain_cons_of_ne {track : ℕ} (h : track ≠ played.headD 0)
    (hplayed : played.IsChain (· ≠ ·)) : (track :: played).IsChain (· ≠ ·) := by
  cases played with
  | nil => exact .singleton track
  | cons track' played => exact .cons_cons h hplayed

/-- An operation of the `esp_timer` task that plays no music. -/
theorem agreesMusic_sound (ho : SoundOp {} o) (hstage : stage.Open)
    (h : stage.Agrees played sys.plat.bgmLastTrack) :
    (musicProtocol.next stage o (exec ω o sys).1).Agrees played
      (exec ω o sys).2.plat.bgmLastTrack := by
  rw [bgmLastTrack_exec (not_set_of_sound rfl ho)]
  cases stage with
  | chosen => exact hstage.elim
  | quiet | read lastTrack =>
    have hlast : sys.plat.bgmLastTrack = played.headD 0 := by
      first | exact h | exact h.1
    cases o with
    | get v =>
      cases v with
      | bgmLastTrack => exact ⟨hlast, rfl⟩
      | _ => exact h
    | set v x =>
      cases v with
      | bgmLastTrack => cases ho
      | _ => exact h
    | _ => exact h

/-- An operation of the `esp_timer` task: a piece that is played is not the one before it. -/
theorem agreesMusic_exec (ho : musicProtocol.ok stage o)
    (h : stage.Agrees played sys.plat.bgmLastTrack) (hplayed : played.IsChain (· ≠ ·)) :
    (musicProtocol.next stage o (exec ω o sys).1).Agrees ((musicOf o).toList ++ played)
        (exec ω o sys).2.plat.bgmLastTrack ∧ ((musicOf o).toList ++ played).IsChain (· ≠ ·) := by
  cases stage with
  | quiet =>
    rw [musicOf_of_sound ho]
    exact ⟨agreesMusic_sound ho trivial h, hplayed⟩
  | read lastTrack =>
    rcases ho with ho | ⟨track, rfl, hmusical, hne⟩
    · rw [musicOf_of_sound ho]
      exact ⟨agreesMusic_sound ho trivial h, hplayed⟩
    · obtain ⟨hlast, rfl⟩ := h
      exact ⟨⟨rfl, hmusical, hlast ▸ hne⟩, hplayed⟩
  | chosen track =>
    obtain ⟨origin, rfl⟩ := ho
    obtain ⟨hlast, hmusical, hne⟩ := h
    have hmusic : musicOf (.call origin (.dfplayerPlay track)) = some track := if_pos hmusical
    rw [hmusic, bgmLastTrack_exec (fun x hx ↦ by cases hx)]
    exact ⟨hlast, isChain_cons_of_ne hne hplayed⟩

theorem music_cons (s : Cores) (e : CoreEvent) (log : CoreLog) :
    music (⟨s, e⟩ :: log) = (s.playsMusic e).toList ++ music log := by
  unfold music
  rw [List.filterMap_cons]
  cases s.playsMusic e <;> rfl

/-- The `esp_timer` task knows which piece was the last. -/
def MusicInv (log : CoreLog) (s : Cores) : Prop :=
  (∃ stage, FollowsMusic s.espTimer stage ∧ stage.Agrees (music log) s.sys.plat.bgmLastTrack) ∧
    (music log).IsChain (· ≠ ·)

/-- A step of another thread, or one that performs no operation. -/
theorem MusicInv.other (h : MusicInv log s) (hmusic : s.playsMusic e = none)
    (hlast : (s.next bp e).sys.plat.bgmLastTrack = s.sys.plat.bgmLastTrack)
    (hprog : (s.next bp e).espTimer = s.espTimer) :
    MusicInv (⟨s, e⟩ :: log) (s.next bp e) := by
  unfold MusicInv
  rw [music_cons, hmusic, hlast, hprog]
  exact h

theorem MusicInv.next (h : MusicInv log s) (hvolume : VolumeOk volume)
    (hrun : LoadedRun bp volume log s) (he : s.Enabled e) :
    MusicInv (⟨s, e⟩ :: log) (s.next bp e) := by
  have hholds := soundHolds_of_run hvolume hrun
  cases hperforms : s.performs e with
  | none =>
    cases e with
    | enters e =>
      have hlast : (World.prepared s.sys e).plat.bgmLastTrack = s.sys.plat.bgmLastTrack := by
        cases e <;> rfl
      exact h.other rfl hlast rfl
    | begins | elapse us => exact h.other rfl rfl rfl
    | expires t =>
      obtain ⟨hfinished, -, alarm, halarm, -⟩ := he
      have ht : t ≠ .waitingIdle := by
        rintro rfl
        rw [hholds.state.idle] at halarm
        cases halarm
      obtain ⟨⟨stage, hfollows, hagrees⟩, hplayed⟩ := h
      obtain ⟨a, hprog⟩ := exists_pure_of_finished hfinished
      rw [hprog] at hfollows
      have hlast : (s.next bp (.expires t)).sys.plat.bgmLastTrack = s.sys.plat.bgmLastTrack :=
        congrArg Platform.bgmLastTrack (Sys.sameOutside_actuatorCallback _ t).2.1
      unfold MusicInv
      rw [music_cons, hlast]
      exact ⟨⟨stage, followsMusic_timerCallback bp ht hfollows, hagrees⟩, hplayed⟩
    | input ω | btstack | espTimer ω | wheelTest => exact absurd hperforms (nextOp_ne_none he)
  | some o =>
    obtain ⟨thread, hthread, ho⟩ := hholds.ok_of_performs (soundRule bp {}) hperforms
    cases e with
    | enters | expires | begins | elapse => cases hperforms
    | espTimer ω =>
      obtain ⟨rest, hprog⟩ := exists_op_of_nextOp hperforms
      obtain ⟨⟨stage, hfollows, hagrees⟩, hplayed⟩ := h
      rw [hprog] at hfollows
      have hanswer := soundAnswer_exec ω o hholds.state.volume
      obtain ⟨hagrees', hplayed'⟩ := agreesMusic_exec (ω := ω) hfollows.1 hagrees hplayed
      have hmusic : s.playsMusic (.espTimer ω) = musicOf o := congrArg (·.bind musicOf) hperforms
      unfold MusicInv
      rw [music_cons, hmusic, next_espTimer hprog]
      exact ⟨⟨_, hfollows.2 _ hanswer, hagrees'⟩, hplayed'⟩
    | btstack | input ω | wheelTest =>
      obtain rfl := Option.some.inj hthread
      obtain ⟨ω, test, hnext⟩ := Cores.next_of_performs bp hperforms
      refine h.other rfl ?_ rfl
      rw [hnext]
      exact bgmLastTrack_exec (not_set_of_sound rfl ho)

theorem musicInv_of_run (hvolume : VolumeOk volume) (hrun : LoadedRun bp volume log s) :
    MusicInv log s := by
  refine Run.invariant (I := MusicInv) ?_ ?_ hrun
  · rintro s ⟨us, rfl⟩
    have hquiet : MusicStage.quiet.Agrees [] 0 := rfl
    exact ⟨⟨.quiet, trivial, hquiet⟩, .nil⟩
  · exact fun log s e hrun h hok ↦ h.next hvolume hrun hok.1

/-- **No piece of music is played twice in a row**: in whatever order the threads interleave and
whatever the random numbers are, no piece that the timer plays is the one before it.  Between two
callbacks the last piece is the one that is remembered. -/
theorem music_never_repeats (hvolume : VolumeOk volume) (hrun : LoadedRun bp volume log s) :
    (music log).IsChain (· ≠ ·) ∧
      (s.espTimer.finished = true → s.sys.plat.bgmLastTrack = (music log).headD 0) := by
  obtain ⟨⟨stage, hfollows, hagrees⟩, hplayed⟩ := musicInv_of_run hvolume hrun
  refine ⟨hplayed, fun hfinished ↦ ?_⟩
  obtain ⟨a, hprog⟩ := exists_pure_of_finished hfinished
  rw [hprog] at hfollows
  cases stage with
  | quiet => exact hagrees
  | read lastTrack => exact hagrees.1
  | chosen => exact hfollows.elim

/-- The random numbers ask for the same piece twice; the second time the next one is played. -/
theorem music_never_repeats_twice : ∃ log s, LoadedRun bluepad32 25 log s ∧
    (music log = [7, 6] ∧ s.espTimer.finished = true) ∧ s.sys.plat.bgmLastTrack = 7 := by
  let piece (us : ℕ) : List CoreEvent :=
    .elapse us :: .expires .connectedIdleBgm :: List.replicate 6 (.espTimer {})
  obtain ⟨log, s, hrun, hend⟩ := exists_loadedRun bluepad32 0 25
    (.enters (.deviceReady (samplePad 1)) :: List.replicate 28 .btstack ++
      piece 30000000 ++ piece 60000000)
    (fun r ↦ decide (music r.1 = [7, 6] ∧ r.2.espTimer.finished = true)) (by decide +kernel)
  obtain ⟨hmusic, hfinished⟩ := of_decide_eq_true hend
  have hlast := (music_never_repeats (by decide) hrun).2 hfinished
  rw [hmusic] at hlast
  exact ⟨log, s, hrun, ⟨hmusic, hfinished⟩, hlast⟩

end Runs

end Nutcracker
