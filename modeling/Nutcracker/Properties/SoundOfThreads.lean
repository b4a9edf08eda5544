import Nutcracker.Platform.Vocabulary
import Nutcracker.Properties.SoundModule

/-!
# What the car says to the player

The calls of all threads, in whatever order they interleave, as uses of the sound module.  The idle
loop is wanted until `on_init_complete` turns it off; from then on, whatever the threads say, the
player never returns to it.
-/

namespace Nutcracker

open Firmware Prog

/-! ## Every interleaving -/

/-- How a call uses the sound module; the humidifier sounds when it is switched on. -/
def Call.soundOps (s : Sys) : Call → List DfplayerOp
  | .dfplayerPlay track => [.play (UInt8.ofNat track)]
  | .dfplayerPlayLoop track => [.playLoop (UInt8.ofNat track)]
  | .dfplayerStop => [.stop]
  | .dfplayerSetVolume volume => [.setVolume (UInt8.ofNat volume)]
  | .dfplayerSetWaitingIdle enabled => [.setWaitingIdle enabled]
  | .humidifierSet on =>
    if on && !s.humidifier.on then [.play (UInt8.ofNat trackNitro)] else []
  | .humidifierPulseOnMs onMs =>
    if onMs = 0 || s.humidifier.on then [] else [.play (UInt8.ofNat trackNitro)]
  | _ => []

def Cores.soundOps (s : Cores) (e : CoreEvent) : List DfplayerOp :=
  match s.performs e with
  | some (.call _ c) => c.soundOps s.sys
  | _ => []

/-- The sound module after the steps of the threads, each call being one step. -/
def dfplayerAfter (uart : ℕ → Bool) (d : Dfplayer) : CoreLog → Dfplayer
  | [] => d
  | ⟨s, e⟩ :: log =>
    (s.soundOps e).foldl (fun d op ↦ d.perform uart s.sys.clock op) (dfplayerAfter uart d log)

/-- The sound module after an `on_init_complete` that was not interrupted. -/
def Dfplayer.onInitComplete (uart : ℕ → Bool) (volume : ℕ) : Dfplayer :=
  (({} : Dfplayer).setVolume uart 0 (UInt8.ofNat volume)).2.setWaitingIdle false

/-- The sound module in a run that begins after it. -/
def dfplayerOf (uart : ℕ → Bool) (volume : ℕ) (log : CoreLog) : Dfplayer :=
  dfplayerAfter uart (.onInitComplete uart volume) log

/-- The driver takes every packet. -/
def everyWrite : ℕ → Bool := fun _ ↦ true

/-- A command that the car gives. -/
def DfplayerCmd.Given (c : DfplayerCmd) : Prop :=
  (∃ track, Audible track ∧ c = .play (UInt8.ofNat track)) ∨
    (∃ volume, VolumeOk volume ∧ c = .volume (UInt8.ofNat volume)) ∨ c = .stop

/-- A use of the sound module by the car. -/
def DfplayerOp.Given : DfplayerOp → Prop
  | .play track => ∃ n, Audible n ∧ track = UInt8.ofNat n
  | .setVolume vol => ∃ n, VolumeOk n ∧ vol = UInt8.ofNat n
  | .stop => True
  | .setWaitingIdle enabled => enabled = false
  | .playLoop _ | .resumeIdle => False

/-- Nothing leads back to the idle loop, and since `start` only commands of the car were sent. -/
structure Dfplayer.NoIdle (start d : Dfplayer) : Prop where
  waitingIdle : d.waitingIdle = false
  resumeIdle : d.resumeIdle = none
  sent : ∃ cmds : List DfplayerCmd,
    d.sent.map Prod.snd = cmds.map (fun c ↦ c.stack.buf) ++ start.sent.map Prod.snd ∧
      ∀ c ∈ cmds, c.Given

section Given

variable {uart : ℕ → Bool} {now : ℕ} {start d : Dfplayer} {op : DfplayerOp}

theorem given_of_soundOps {s : Sys} {c : Call} (hc : c.Spoken everyVoice) (hop : op ∈ c.soundOps s) :
    op.Given := by
  have hnitro : DfplayerOp.Given (.play (UInt8.ofNat trackNitro)) := ⟨trackNitro, by decide, rfl⟩
  cases c with
  | dfplayerPlay track =>
    obtain rfl := List.mem_singleton.mp hop
    exact ⟨track, hc.1, rfl⟩
  | dfplayerPlayLoop track => exact hc.elim
  | dfplayerStop =>
    obtain rfl := List.mem_singleton.mp hop
    exact trivial
  | dfplayerSetVolume volume =>
    obtain rfl := List.mem_singleton.mp hop
    exact ⟨volume, hc.2, rfl⟩
  | dfplayerSetWaitingIdle enabled =>
    obtain rfl := List.mem_singleton.mp hop
    exact hc
  | humidifierSet on =>
    change op ∈ (if on && !s.humidifier.on then [.play (UInt8.ofNat trackNitro)] else []) at hop
    split at hop
    · obtain rfl := List.mem_singleton.mp hop
      exact hnitro
    · cases hop
  | humidifierPulseOnMs onMs =>
    change op ∈ (if onMs = 0 || s.humidifier.on then []
      else [.play (UInt8.ofNat trackNitro)]) at hop
    split at hop
    · cases hop
    · obtain rfl := List.mem_singleton.mp hop
      exact hnitro
  | _ => cases hop

/-- The volume of the car is never beyond the player's. -/
theorem clamp_volume {volume : ℕ} (h : VolumeOk volume) :
    (if UInt8.ofNat volume > 30 then 30 else UInt8.ofNat volume) = UInt8.ofNat volume := by
  obtain ⟨hmin, hmax⟩ := h
  interval_cases volume <;> rfl

theorem cmd_given {c : DfplayerCmd} (hop : op.Given) (hcmd : op.cmd d = some c) : c.Given := by
  cases op with
  | play track =>
    obtain ⟨n, hn, rfl⟩ := hop
    obtain ⟨-, hc⟩ := Option.ite_none_left_eq_some.mp hcmd
    exact .inl ⟨n, hn, (Option.some.inj hc).symm⟩
  | setVolume vol =>
    obtain ⟨n, hn, rfl⟩ := hop
    have hc := Option.some.inj hcmd
    rw [clamp_volume hn] at hc
    exact .inr (.inl ⟨n, hn, hc.symm⟩)
  | stop => exact .inr (.inr (Option.some.inj hcmd).symm)
  | setWaitingIdle enabled => cases hcmd
  | playLoop | resumeIdle => exact hop.elim

/-- A use of the module by the car. -/
theorem Dfplayer.NoIdle.perform (h : start.NoIdle d) (hop : op.Given) (uart : ℕ → Bool) (now : ℕ) :
    start.NoIdle (d.perform uart now op) := by
  have hquiet : (d.perform uart now op).waitingIdle = false ∧
      (d.perform uart now op).resumeIdle = none := by
    cases op with
    | play track =>
      change (d.play uart now track).2.waitingIdle = false ∧
        (d.play uart now track).2.resumeIdle = none
      by_cases htrack : track < 1
      · unfold Dfplayer.play
        rw [if_pos htrack]
        exact ⟨h.waitingIdle, h.resumeIdle⟩
      · rw [play_eq track htrack]
        split
        · rw [scheduleResumeIdle_waitingIdle, scheduleResumeIdle_resumeIdle]
          refine ⟨h.waitingIdle, if_pos ?_⟩
          change (!d.waitingIdle || _) = true
          rw [h.waitingIdle]
          rfl
        · exact ⟨h.waitingIdle, h.resumeIdle⟩
    | setVolume vol =>
      exact ⟨(sendCmd_waitingIdle _).trans h.waitingIdle, (sendCmd_resumeIdle _).trans h.resumeIdle⟩
    | stop => exact ⟨(sendCmd_waitingIdle _).trans h.waitingIdle, sendCmd_resumeIdle _⟩
    | setWaitingIdle enabled =>
      obtain rfl : enabled = false := hop
      exact ⟨rfl, rfl⟩
    | playLoop | resumeIdle => exact hop.elim
  refine ⟨hquiet.1, hquiet.2, ?_⟩
  obtain ⟨cmds, hsent, hgiven⟩ := h.sent
  rw [perform_sent]
  unfold Dfplayer.spoken
  split
  · cases hcmd : op.cmd d with
    | none => exact ⟨cmds, hsent, hgiven⟩
    | some c =>
      refine ⟨c :: cmds, congrArg _ hsent, ?_⟩
      exact List.forall_mem_cons.mpr ⟨cmd_given hop hcmd, hgiven⟩
  · exact ⟨cmds, hsent, hgiven⟩

theorem Dfplayer.NoIdle.foldl {ops : List DfplayerOp} (h : start.NoIdle d)
    (hops : ∀ op ∈ ops, op.Given) (uart : ℕ → Bool) (now : ℕ) :
    start.NoIdle (ops.foldl (fun d op ↦ d.perform uart now op) d) := by
  induction ops generalizing d with
  | nil => exact h
  | cons op ops ih =>
    obtain ⟨hop, hrest⟩ := List.forall_mem_cons.mp hops
    exact ih (h.perform hop uart now) hrest

theorem noIdle_setWaitingIdle (d : Dfplayer) : d.NoIdle (d.setWaitingIdle false) where
  waitingIdle := rfl
  resumeIdle := rfl
  sent := ⟨[], rfl, fun _ hc ↦ absurd hc List.not_mem_nil⟩

/-- What has been written to the line since. -/
theorem Dfplayer.NoIdle.line (h : start.NoIdle d) : ∃ bytes cmds,
    d.line = start.line ++ bytes ∧ dfplayerCode.decodeAll bytes = some cmds ∧
      ∀ c ∈ cmds, DfplayerCmd.Given c := by
  obtain ⟨cmds, hsent, hgiven⟩ := h.sent
  refine ⟨dfplayerCode.encodeAll cmds.reverse, cmds.reverse, ?_, dfplayerCode.decodeAll_encodeAll _,
    fun c hc ↦ hgiven c (List.mem_reverse.mp hc)⟩
  calc
    d.line = (d.sent.map Prod.snd).reverse.flatten := line_eq_flatten d
    _ = (start.sent.map Prod.snd).reverse.flatten ++
        (cmds.map fun c ↦ c.stack.buf).reverse.flatten := by
      rw [hsent, List.reverse_append, List.flatten_append]
    _ = start.line ++ dfplayerCode.encodeAll cmds.reverse := by
      rw [← line_eq_flatten, ← List.map_reverse]
      exact congrArg _ List.flatMap_def.symm

end Given

/-- **The idle loop never sounds**: once `on_init_complete` has turned the idle loop off, in whatever
order the threads interleave, whichever packets are refused and whatever the sound module did before,
the return to the idle loop stays off and its timer is never armed.  What is written to the line from
then on reads back as effects and music, volumes of the car and stops. -/
theorem idle_loop_never_sounds {bp : Bluepad32} {volume : ℕ} {later earlier : CoreLog}
    {entry : Entry Cores CoreEvent} {s : Cores} (uart : ℕ → Bool) (d : Dfplayer)
    (hvolume : VolumeOk volume) (hrun : ColdRun bp volume (later ++ entry :: earlier) s)
    (hoff : entry.before.soundOps entry.event = [.setWaitingIdle false]) :
    let d' := dfplayerAfter uart d (later ++ [entry])
    d'.waitingIdle = false ∧ d'.resumeIdle = none ∧ s.sys.timers .waitingIdle = none ∧
      ∃ bytes cmds, d'.line = d.line ++ bytes ∧ dfplayerCode.decodeAll bytes = some cmds ∧
        ∀ c ∈ cmds, DfplayerCmd.Given c := by
  have hidle : ∀ part, (∀ entry ∈ part, entry ∈ later) →
      d.NoIdle (dfplayerAfter uart d (part ++ [entry])) := by
    intro part hpart
    induction part with
    | nil =>
      change d.NoIdle ((entry.before.soundOps entry.event).foldl _ d)
      rw [hoff]
      exact noIdle_setWaitingIdle d
    | cons entry' part ih =>
      obtain ⟨hentry, hrest⟩ := List.forall_mem_cons.mp hpart
      apply (ih hrest).foldl
      intro op hop
      unfold Cores.soundOps at hop
      split at hop
      · rename_i origin c hperforms
        have hmem : entry' ∈ later ++ entry :: earlier := List.mem_append_left _ hentry
        obtain ⟨thread, -, hc⟩ := soundOp_of_mem hvolume hrun hmem hperforms
        exact given_of_soundOps hc.of_every hop
      · cases hop
  have hnoIdle := hidle later fun _ h ↦ h
  exact ⟨hnoIdle.waitingIdle, hnoIdle.resumeIdle,
    (soundHolds_of_coldRun hvolume hrun).state.idle, hnoIdle.line⟩

/-- The exhibit fires its laser while `on_init_complete` has still to run. -/
def earlyShot : List CoreEvent :=
  let round (us ops : ℕ) : List CoreEvent := .elapse us :: .begins :: List.replicate ops (.input {})
  round 0 9 ++ round 3100000 8 ++ round 3100000 8 ++ round 1000000 8

/-- A pad connects, and is greeted. -/
def greeting : List CoreEvent :=
  let btstack (ops : ℕ) : List CoreEvent := List.replicate ops .btstack
  let espTimer (ops : ℕ) : List CoreEvent := List.replicate ops (.espTimer {})
  ((.enters (.deviceReady (samplePad 1)) :: btstack 27) ++
    (.elapse 100000 :: .expires .connectSound :: espTimer 3)) ++
      (.elapse 100000 :: .expires .connectSoundPlay :: espTimer 1)

/-- The shot has armed the return to the idle loop, until `on_init_complete` turns it off. -/
theorem idle_loop_never_sounds_shot : ∃ later entry earlier s,
    ColdRun bluepad32 25 (later ++ entry :: earlier) s ∧ later.length = greeting.length ∧
      (dfplayerAfter everyWrite {} earlier).resumeIdle.isSome = true ∧
      (dfplayerAfter everyWrite (dfplayerAfter everyWrite {} earlier)
        (later ++ [entry])).resumeIdle = none := by
  obtain ⟨log, s, hrun, hend⟩ := exists_coldRun bluepad32 0 25
    (earlyShot ++ List.replicate 6 .btstack ++ greeting)
    (fun r ↦ match r.1.drop greeting.length with
      | entry :: earlier => decide ((r.1.take greeting.length).length = greeting.length ∧
          entry.before.soundOps entry.event = [.setWaitingIdle false]) &&
        (dfplayerAfter everyWrite {} earlier).resumeIdle.isSome
      | [] => false) (by decide +kernel)
  split at hend
  · rename_i entry earlier hdrop
    obtain ⟨hend, harmed⟩ := Bool.and_eq_true_iff.mp hend
    obtain ⟨hlength, hoff⟩ := of_decide_eq_true hend
    rw [← List.take_append_drop greeting.length log, hdrop] at hrun
    exact ⟨_, entry, earlier, s, hrun, hlength, harmed,
      (idle_loop_never_sounds everyWrite _ (by decide) hrun hoff).2.1⟩
  · cases hend

end Nutcracker
