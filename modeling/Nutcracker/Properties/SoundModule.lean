import Nutcracker.Program.Run
import Nutcracker.Rccar.Dfplayer

/-!
# What the player is told

Runs of the sound module on its own: its functions are called in any order and at any time, the
driver of the serial line refuses whichever packets it likes, and the resume timer is served when it
is due or later.
-/

namespace Nutcracker

/-! ## Runs of the module -/

structure SoundBoard where
  clock : ℕ
  dfplayer : Dfplayer := {}

inductive SoundEvent
  | use (op : DfplayerOp)
  | elapse (us : ℕ)
  deriving DecidableEq

namespace SoundBoard

def next (uart : ℕ → Bool) (s : SoundBoard) : SoundEvent → SoundBoard
  | .use op => { s with dfplayer := s.dfplayer.perform uart s.clock op }
  | .elapse us => { s with clock := s.clock + us }

/-- The callback of the resume timer is called when the timer has expired. -/
def Enabled (s : SoundBoard) : SoundEvent → Prop
  | .use .resumeIdle => (s.dfplayer.resumeIdle.any fun due ↦ due ≤ s.clock) = true
  | _ => True

instance (s : SoundBoard) (e : SoundEvent) : Decidable (s.Enabled e) := by
  unfold Enabled
  split <;> infer_instance

/-- After `rccar_dfplayer_init`. -/
def Boot (s : SoundBoard) : Prop := s.dfplayer = {}

end SoundBoard

abbrev SoundLog : Type := List (Entry SoundBoard SoundEvent)

abbrev SoundRun (uart : ℕ → Bool) : SoundLog → SoundBoard → Prop :=
  Run (SoundBoard.next uart) (fun _ s e ↦ s.Enabled e) SoundBoard.Boot

theorem exists_soundRun (uart : ℕ → Bool) (clock : ℕ) (events : List SoundEvent)
    (p : SoundLog × SoundBoard → Bool)
    (h : (Run.replay (SoundBoard.next uart) (fun _ s e ↦ s.Enabled e) [] ⟨clock, {}⟩ events).any p =
      true) : ∃ log s, SoundRun uart log s ∧ p (log, s) = true :=
  have hboot : SoundBoard.Boot ⟨clock, {}⟩ := rfl
  Run.exists_of_replay events p hboot h

/-! ## Commands -/

/-- The command that a use of the module gives to the player. -/
def DfplayerOp.cmd (d : Dfplayer) : DfplayerOp → Option DfplayerCmd
  | .play track => if track < 1 then none else some (.play track)
  | .playLoop track => if track < 1 then none else some (.playLoop track)
  | .setVolume vol => some (.volume (if vol > 30 then 30 else vol))
  | .stop => some .stop
  | .setWaitingIdle _ => none
  | .resumeIdle => if d.waitingIdle then some (.playLoop (UInt8.ofNat trackIdle)) else none

/-- The command that reaches the line. -/
def Dfplayer.spoken (uart : ℕ → Bool) (d : Dfplayer) (op : DfplayerOp) : Option DfplayerCmd :=
  if uart d.writes then op.cmd d else none

/-- Commands that make sense to the player: tracks are counted from one, and the volume is at most
thirty. -/
def DfplayerCmd.Legal (c : DfplayerCmd) : Prop :=
  (∃ track : UInt8, 1 ≤ track ∧ (c = .play track ∨ c = .playLoop track)) ∨
    (∃ vol : UInt8, vol ≤ 30 ∧ c = .volume vol) ∨ c = .stop

section Spec

variable {uart : ℕ → Bool} {now : ℕ} {d : Dfplayer}

theorem cmd_legal {op : DfplayerOp} {c : DfplayerCmd} (h : op.cmd d = some c) : c.Legal := by
  cases op with
  | play track =>
    obtain ⟨htrack, hc⟩ := Option.ite_none_left_eq_some.mp h
    exact .inl ⟨track, UInt8.not_lt.mp htrack, .inl (Option.some.inj hc).symm⟩
  | playLoop track =>
    obtain ⟨htrack, hc⟩ := Option.ite_none_left_eq_some.mp h
    exact .inl ⟨track, UInt8.not_lt.mp htrack, .inr (Option.some.inj hc).symm⟩
  | setVolume vol =>
    refine .inr (.inl ⟨_, ?_, (Option.some.inj h).symm⟩)
    split
    · exact UInt8.le_refl _
    · exact UInt8.not_lt.mp ‹_›
  | stop => exact .inr (.inr (Option.some.inj h).symm)
  | setWaitingIdle enabled => cases h
  | resumeIdle =>
    obtain ⟨-, hc⟩ := Option.ite_none_right_eq_some.mp h
    exact .inl ⟨_, by decide, .inr (Option.some.inj hc).symm⟩

/-- A command either reaches the line with its time or leaves no trace but the attempt. -/
theorem sendCmd_eq (c : DfplayerCmd) :
    d.sendCmd uart now c =
      if uart d.writes then
        (.ok, { d with sent := (now, c.stack.buf) :: d.sent, writes := d.writes + 1 })
      else (.fail, { d with writes := d.writes + 1 }) := rfl

theorem sendCmd_sent (c : DfplayerCmd) :
    (d.sendCmd uart now c).2.sent =
      if uart d.writes then (now, c.stack.buf) :: d.sent else d.sent := by
  rw [sendCmd_eq]
  split <;> rfl

theorem sendCmd_resumeIdle (c : DfplayerCmd) :
    (d.sendCmd uart now c).2.resumeIdle = d.resumeIdle := by
  rw [sendCmd_eq]
  split <;> rfl

theorem sendCmd_waitingIdle (c : DfplayerCmd) :
    (d.sendCmd uart now c).2.waitingIdle = d.waitingIdle := by
  rw [sendCmd_eq]
  split <;> rfl

theorem scheduleResumeIdle_sent (track : UInt8) :
    (d.scheduleResumeIdle now track).sent = d.sent := by
  unfold Dfplayer.scheduleResumeIdle
  dsimp only
  split <;> rfl

theorem scheduleResumeIdle_waitingIdle (track : UInt8) :
    (d.scheduleResumeIdle now track).waitingIdle = d.waitingIdle := by
  unfold Dfplayer.scheduleResumeIdle
  dsimp only
  split <;> rfl

/-- A track that is played is on the line, and its end is scheduled, or nothing but the attempt
happened. -/
theorem play_eq (track : UInt8) (htrack : ¬track < 1) :
    (d.play uart now track).2 =
      if uart d.writes then
        ({ d with
          sent := (now, (DfplayerCmd.play track).stack.buf) :: d.sent
          writes := d.writes + 1 } : Dfplayer).scheduleResumeIdle now track
      else { d with writes := d.writes + 1 } := by
  unfold Dfplayer.play
  rw [if_neg htrack, sendCmd_eq]
  split <;> rfl

/-- The packet of the command that is spoken is added to those that were sent. -/
theorem perform_sent (op : DfplayerOp) :
    (d.perform uart now op).sent =
      ((d.spoken uart op).map fun c ↦ (now, c.stack.buf)).toList ++ d.sent := by
  unfold Dfplayer.spoken
  cases op with
  | play track =>
    change (d.play uart now track).2.sent = _
    by_cases htrack : track < 1
    · simp [Dfplayer.play, DfplayerOp.cmd, htrack]
    · rw [play_eq track htrack]
      split
      · rw [scheduleResumeIdle_sent]
        simp [DfplayerOp.cmd, htrack]
      · rfl
  | playLoop track =>
    change (d.playLoop uart now track).2.sent = _
    by_cases htrack : track < 1
    · simp [Dfplayer.playLoop, DfplayerOp.cmd, htrack]
    · simp only [Dfplayer.playLoop, DfplayerOp.cmd, htrack, if_false, sendCmd_sent]
      cases huart : uart d.writes <;> simp [Dfplayer.cancelResumeIdle, huart]
  | setVolume vol =>
    change (d.sendCmd uart now _).2.sent = _
    rw [sendCmd_sent]
    cases huart : uart d.writes <;> rfl
  | stop =>
    change (d.cancelResumeIdle.sendCmd uart now _).2.sent = _
    rw [sendCmd_sent]
    cases huart : uart d.writes <;> simp [Dfplayer.cancelResumeIdle, huart, DfplayerOp.cmd]
  | setWaitingIdle enabled => cases enabled <;> cases huart : uart d.writes <;> rfl
  | resumeIdle =>
    change (d.resumeIdleCb uart now).sent = _
    unfold Dfplayer.resumeIdleCb
    cases hwaiting : d.waitingIdle with
    | false => cases huart : uart d.writes <;> simp [DfplayerOp.cmd, hwaiting]
    | true =>
      simp only [Dfplayer.playLoop, DfplayerOp.cmd, hwaiting, if_true]
      rw [if_neg (by decide), sendCmd_sent]
      cases huart : uart d.writes <;> simp [Dfplayer.cancelResumeIdle, huart]

end Spec

/-! ## The line -/

/-- The commands that reached the line, latest first. -/
def spokenLog (uart : ℕ → Bool) : SoundLog → List DfplayerCmd
  | [] => []
  | ⟨s, .use op⟩ :: log => (s.dfplayer.spoken uart op).toList ++ spokenLog uart log
  | ⟨_, .elapse _⟩ :: log => spokenLog uart log

theorem sent_of_run {uart : ℕ → Bool} {log : SoundLog} {s : SoundBoard} (hrun : SoundRun uart log s) :
    s.dfplayer.sent.map Prod.snd = (spokenLog uart log).map fun c ↦ c.stack.buf := by
  refine Run.invariant (I := fun log s ↦
    s.dfplayer.sent.map Prod.snd = (spokenLog uart log).map fun c ↦ c.stack.buf) ?_ ?_ hrun
  · intro s hboot
    rw [hboot]
    rfl
  · intro log s e _ ih _
    cases e with
    | elapse us => exact ih
    | use op =>
      change (s.dfplayer.perform uart s.clock op).sent.map Prod.snd = _
      rw [perform_sent, List.map_append, ih]
      cases hspoken : s.dfplayer.spoken uart op with
      | none => simp [spokenLog, hspoken]
      | some c => simp [spokenLog, hspoken]

theorem line_eq_flatten (d : Dfplayer) : d.line = (d.sent.map Prod.snd).reverse.flatten := by
  rw [← List.map_reverse]
  exact List.flatMap_def

/-- The line carries the packets in the order in which they were sent. -/
theorem line_of_sent {d : Dfplayer} {cmds : List DfplayerCmd}
    (h : d.sent.map Prod.snd = cmds.map fun c ↦ c.stack.buf) :
    d.line = dfplayerCode.encodeAll cmds.reverse :=
  calc
    d.line = (d.sent.map Prod.snd).reverse.flatten := line_eq_flatten d
    _ = (cmds.reverse.map fun c ↦ c.stack.buf).flatten := by rw [h, List.map_reverse]
    _ = dfplayerCode.encodeAll cmds.reverse := List.flatMap_def.symm

theorem legal_of_mem_spokenLog {uart : ℕ → Bool} {log : SoundLog} {c : DfplayerCmd}
    (h : c ∈ spokenLog uart log) : c.Legal := by
  induction log with
  | nil => cases h
  | cons entry log ih =>
    obtain ⟨s, e⟩ := entry
    cases e with
    | elapse us => exact ih h
    | use op =>
      rcases List.mem_append.mp h with hop | hlog
      · obtain ⟨-, hcmd⟩ := Option.ite_none_right_eq_some.mp (Option.mem_toList.mp hop)
        exact cmd_legal hcmd
      · exact ih hlog

/-- **The line reads back**: after every run the bytes on the serial line are packets, which read
back as the commands that were given and not refused, in order; all of them make sense to the player;
and with any one byte altered the line is not read. -/
theorem line_reads_back {uart : ℕ → Bool} {log : SoundLog} {s : SoundBoard}
    (hrun : SoundRun uart log s) :
    dfplayerCode.decodeAll s.dfplayer.line = some (spokenLog uart log).reverse ∧
      (∀ c ∈ spokenLog uart log, c.Legal) ∧
      ∀ i b, i < s.dfplayer.line.length → s.dfplayer.line[i]? ≠ some b →
        dfplayerCode.decodeAll (s.dfplayer.line.set i b) = none := by
  have hline := line_of_sent (sent_of_run hrun)
  rw [hline]
  exact ⟨dfplayerCode.decodeAll_encodeAll _, fun c ↦ legal_of_mem_spokenLog,
    fun i b ↦ dfplayerCode_detects.decodeAll_set⟩

/-- A volume, a refused effect and the same effect again. -/
theorem line_reads_back_refused : ∃ log s, SoundRun (· ≠ 1) log s ∧
    dfplayerCode.decodeAll s.dfplayer.line =
      some [.volume 20, .play (UInt8.ofNat trackGun)] := by
  obtain ⟨log, s, hrun, hend⟩ := exists_soundRun (· ≠ 1) 0
    [.use (.setVolume 20), .use (.play 2), .use (.play 2)]
    (fun r ↦ decide (spokenLog (· ≠ 1) r.1 = [.play (UInt8.ofNat trackGun), .volume 20])) (by decide)
  refine ⟨log, s, hrun, (line_reads_back hrun).1.trans ?_⟩
  rw [of_decide_eq_true hend]
  rfl

/-! ## The speaker -/

/-- What the player does: nothing, a track once since some time, or a track over and over. -/
inductive Speaker
  | silent
  | once (track : UInt8) (since : ℕ)
  | loop (track : UInt8)
  deriving DecidableEq

def Speaker.hear (now : ℕ) (speaker : Speaker) (c : DfplayerCmd) : Speaker :=
  if c.cmd = dfplayerCmdPlay then .once c.paramLsb now
  else if c.cmd = dfplayerCmdPlaybackMode then .loop c.paramLsb
  else if c.cmd = dfplayerCmdStop then .silent
  else speaker

/-- The player after the packets that were sent. -/
def speakerOf : List (ℕ × List UInt8) → Speaker
  | [] => .silent
  | (now, packet) :: earlier =>
    match DfplayerCmd.read packet with
    | some c => (speakerOf earlier).hear now c
    | none => speakerOf earlier

theorem speakerOf_cons (now : ℕ) (c : DfplayerCmd) (sent : List (ℕ × List UInt8)) :
    speakerOf ((now, c.stack.buf) :: sent) = (speakerOf sent).hear now c := by
  change (match DfplayerCmd.read c.stack.buf with
    | some c => (speakerOf sent).hear now c
    | none => speakerOf sent) = _
  rw [read_eq_some.mpr rfl]

theorem hear_play (now : ℕ) (speaker : Speaker) (track : UInt8) :
    speaker.hear now (.play track) = .once track now := by
  have htrack : track &&& 0xFF = track := UInt8.and_neg_one
  change Speaker.once (track &&& 0xFF) now = _
  rw [htrack]

theorem hear_playLoop (now : ℕ) (speaker : Speaker) (track : UInt8) :
    speaker.hear now (.playLoop track) = .loop track := by
  have htrack : track &&& 0xFF = track := UInt8.and_neg_one
  change Speaker.loop (track &&& 0xFF) = _
  rw [htrack]

/-- The player plays a track of known length, which ends at `due`. -/
def Dfplayer.EffectEnds (d : Dfplayer) (due : ℕ) : Prop :=
  ∃ track since, speakerOf d.sent = .once track since ∧
    rccarDfplayerResumeIdleMs track.toNat ≠ 0 ∧
      due = since + (rccarDfplayerResumeIdleMs track.toNat).toNat * 1000

section Resume

variable {uart : ℕ → Bool} {now due : ℕ} {d d' : Dfplayer}

theorem effectEnds_congr (h : speakerOf d'.sent = speakerOf d.sent) :
    d'.EffectEnds due ↔ d.EffectEnds due := by
  unfold Dfplayer.EffectEnds
  rw [h]

/-- A track ends when its playing time is over. -/
theorem effectEnds_once {track : UInt8} {since : ℕ} (h : speakerOf d.sent = .once track since) :
    d.EffectEnds due ↔ rccarDfplayerResumeIdleMs track.toNat ≠ 0 ∧
      due = since + (rccarDfplayerResumeIdleMs track.toNat).toNat * 1000 := by
  constructor
  · rintro ⟨track', since', h', hms, hdue⟩
    obtain ⟨rfl, rfl⟩ := Speaker.once.inj (h.symm.trans h')
    exact ⟨hms, hdue⟩
  · rintro ⟨hms, hdue⟩
    exact ⟨track, since, h, hms, hdue⟩

theorem not_effectEnds_loop {track : UInt8} (h : speakerOf d.sent = .loop track) :
    ¬d.EffectEnds due := by
  rintro ⟨track', since', h', -, -⟩
  cases h.symm.trans h'

theorem not_effectEnds_silent (h : speakerOf d.sent = .silent) : ¬d.EffectEnds due := by
  rintro ⟨track', since', h', -, -⟩
  cases h.symm.trans h'

/-- The resume timer is armed for the end of what is being played, and only while the idle loop is
wanted. -/
def Dfplayer.ArmedForEnd (d : Dfplayer) : Prop :=
  ∀ due, d.resumeIdle = some due → d.waitingIdle = true ∧ d.EffectEnds due

/-- Whatever ends has the resume timer armed for its end. -/
def Dfplayer.EndArmed (d : Dfplayer) : Prop :=
  d.waitingIdle = true ∧ ∀ due, d.EffectEnds due → d.resumeIdle = some due

theorem armedForEnd_of_none (h : d.resumeIdle = none) : d.ArmedForEnd := by
  intro due hdue
  rw [h] at hdue
  cases hdue

/-- Scheduling arms the timer for the end of the track that has just been started. -/
theorem scheduleResumeIdle_resumeIdle (track : UInt8) :
    (d.scheduleResumeIdle now track).resumeIdle =
      if !d.waitingIdle || rccarDfplayerResumeIdleMs track.toNat = 0 then none
      else some (now + (rccarDfplayerResumeIdleMs track.toNat).toNat * 1000) :=
  apply_ite Dfplayer.resumeIdle _ _ _

theorem speaker_perform (op : DfplayerOp) :
    speakerOf (d.perform uart now op).sent =
      (d.spoken uart op).elim (speakerOf d.sent) ((speakerOf d.sent).hear now) := by
  rw [perform_sent]
  cases d.spoken uart op with
  | none => rfl
  | some c => exact speakerOf_cons now c d.sent

/-- The volume does not change what is being played. -/
theorem speaker_setVolume (vol : UInt8) :
    speakerOf (d.perform uart now (.setVolume vol)).sent = speakerOf d.sent := by
  rw [speaker_perform]
  unfold Dfplayer.spoken
  cases uart d.writes <;> rfl

theorem perform_armedForEnd (h : d.ArmedForEnd) (op : DfplayerOp) :
    (d.perform uart now op).ArmedForEnd := by
  cases op with
  | play track =>
    change (d.play uart now track).2.ArmedForEnd
    by_cases htrack : track < 1
    · unfold Dfplayer.play
      rwa [if_pos htrack]
    · rw [play_eq track htrack]
      split
      · intro due hdue
        rw [scheduleResumeIdle_resumeIdle] at hdue
        obtain ⟨hcond, hdue⟩ := Option.ite_none_left_eq_some.mp hdue
        rw [Bool.not_eq_true, Bool.or_eq_false_iff, Bool.not_eq_false', decide_eq_false_iff_not]
          at hcond
        rw [scheduleResumeIdle_waitingIdle]
        have hspeaker : speakerOf (({ d with
            sent := (now, (DfplayerCmd.play track).stack.buf) :: d.sent
            writes := d.writes + 1 } : Dfplayer).scheduleResumeIdle now track).sent =
            .once track now := by
          rw [scheduleResumeIdle_sent, speakerOf_cons, hear_play]
        exact ⟨hcond.1, (effectEnds_once hspeaker).mpr ⟨hcond.2, (Option.some.inj hdue).symm⟩⟩
      · exact h
  | playLoop track =>
    change (d.playLoop uart now track).2.ArmedForEnd
    unfold Dfplayer.playLoop
    split
    · exact h
    · exact armedForEnd_of_none (sendCmd_resumeIdle _)
  | setVolume vol =>
    intro due hdue
    have hsame : (d.perform uart now (.setVolume vol)).resumeIdle = d.resumeIdle :=
      sendCmd_resumeIdle _
    obtain ⟨hwaiting, hends⟩ := h due (hsame.symm.trans hdue)
    exact ⟨(sendCmd_waitingIdle _).trans hwaiting,
      (effectEnds_congr (speaker_setVolume vol)).mpr hends⟩
  | stop => exact armedForEnd_of_none (sendCmd_resumeIdle _)
  | setWaitingIdle enabled =>
    cases enabled with
    | false => exact armedForEnd_of_none rfl
    | true => exact fun due hdue ↦ ⟨rfl, (h due hdue).2⟩
  | resumeIdle =>
    apply armedForEnd_of_none
    change (d.resumeIdleCb uart now).resumeIdle = none
    unfold Dfplayer.resumeIdleCb
    dsimp only
    split
    · exact sendCmd_resumeIdle _
    · rfl

/-- While the idle loop is wanted and no packet is refused, an effect never goes on unnoticed. -/
theorem perform_endArmed (huart : uart d.writes = true) (h : d.EndArmed) {op : DfplayerOp}
    (hop : op ≠ .setWaitingIdle false) : (d.perform uart now op).EndArmed := by
  cases op with
  | play track =>
    change (d.play uart now track).2.EndArmed
    by_cases htrack : track < 1
    · unfold Dfplayer.play
      rwa [if_pos htrack]
    · rw [play_eq track htrack, if_pos huart]
      refine ⟨(scheduleResumeIdle_waitingIdle _).trans h.1, fun due hends ↦ ?_⟩
      have hspeaker : speakerOf (({ d with
          sent := (now, (DfplayerCmd.play track).stack.buf) :: d.sent
          writes := d.writes + 1 } : Dfplayer).scheduleResumeIdle now track).sent =
          .once track now := by
        rw [scheduleResumeIdle_sent, speakerOf_cons, hear_play]
      obtain ⟨hms, rfl⟩ := (effectEnds_once hspeaker).mp hends
      rw [scheduleResumeIdle_resumeIdle]
      apply if_neg
      change ¬((!d.waitingIdle || decide _) = true)
      rw [h.1, decide_eq_false hms]
      exact Bool.false_ne_true
  | playLoop track =>
    by_cases htrack : track < 1
    · change (d.playLoop uart now track).2.EndArmed
      unfold Dfplayer.playLoop
      rwa [if_pos htrack]
    · have hspeaker : speakerOf (d.perform uart now (.playLoop track)).sent = .loop track := by
        rw [speaker_perform]
        simp only [Dfplayer.spoken, huart, DfplayerOp.cmd, htrack, if_true, if_false, Option.elim_some]
        exact hear_playLoop _ _ _
      refine ⟨?_, fun due hends ↦ absurd hends (not_effectEnds_loop hspeaker)⟩
      change (d.playLoop uart now track).2.waitingIdle = true
      unfold Dfplayer.playLoop
      rw [if_neg htrack]
      exact (sendCmd_waitingIdle _).trans h.1
  | setVolume vol =>
    refine ⟨(sendCmd_waitingIdle _).trans h.1, fun due hends ↦ (sendCmd_resumeIdle _).trans ?_⟩
    exact h.2 due ((effectEnds_congr (speaker_setVolume vol)).mp hends)
  | stop =>
    have hspeaker : speakerOf (d.perform uart now .stop).sent = .silent := by
      rw [speaker_perform]
      simp only [Dfplayer.spoken, huart, DfplayerOp.cmd, if_true, Option.elim_some]
      rfl
    exact ⟨(sendCmd_waitingIdle _).trans h.1,
      fun due hends ↦ absurd hends (not_effectEnds_silent hspeaker)⟩
  | setWaitingIdle enabled =>
    cases enabled with
    | false => exact absurd rfl hop
    | true => exact ⟨rfl, h.2⟩
  | resumeIdle =>
    have hspeaker : speakerOf (d.perform uart now .resumeIdle).sent =
        .loop (UInt8.ofNat trackIdle) := by
      rw [speaker_perform]
      simp only [Dfplayer.spoken, huart, DfplayerOp.cmd, h.1, if_true, Option.elim_some]
      exact hear_playLoop _ _ _
    refine ⟨?_, fun due hends ↦ absurd hends (not_effectEnds_loop hspeaker)⟩
    change (d.resumeIdleCb uart now).waitingIdle = true
    unfold Dfplayer.resumeIdleCb
    rw [if_pos h.1]
    exact (sendCmd_waitingIdle _).trans h.1

end Resume

/-- The idle loop stays wanted, and the resume timer is served when it is due. -/
def SoundBoard.Attentive (s : SoundBoard) : SoundEvent → Prop
  | .use op => op ≠ .setWaitingIdle false
  | .elapse us => ∀ due ∈ s.dfplayer.resumeIdle, s.clock + us ≤ due

instance (s : SoundBoard) (e : SoundEvent) : Decidable (s.Attentive e) := by
  unfold SoundBoard.Attentive
  split <;> infer_instance

section Runs

variable {uart : ℕ → Bool} {log : SoundLog} {s : SoundBoard}

theorem armedForEnd_of_run (hrun : SoundRun uart log s) : s.dfplayer.ArmedForEnd := by
  refine Run.invariant (I := fun _ s ↦ s.dfplayer.ArmedForEnd) ?_ ?_ hrun
  · intro s hboot
    rw [hboot]
    exact armedForEnd_of_none rfl
  · intro log s e _ ih _
    cases e with
    | elapse us => exact ih
    | use op => exact perform_armedForEnd ih op

/-- An effect is still being played when its end is due. -/
structure EndsOnTime (s : SoundBoard) : Prop where
  armed : s.dfplayer.EndArmed
  onTime : ∀ due, s.dfplayer.resumeIdle = some due → s.clock ≤ due

/-- A timer that is armed by a use of the module is armed for a later time. -/
theorem perform_onTime {now due : ℕ} {d : Dfplayer}
    (h : ∀ due, d.resumeIdle = some due → now ≤ due) (op : DfplayerOp)
    (hdue : (d.perform uart now op).resumeIdle = some due) : now ≤ due := by
  cases op with
  | play track =>
    change (d.play uart now track).2.resumeIdle = some due at hdue
    by_cases htrack : track < 1
    · unfold Dfplayer.play at hdue
      rw [if_pos htrack] at hdue
      exact h due hdue
    · rw [play_eq track htrack] at hdue
      split at hdue
      · rw [scheduleResumeIdle_resumeIdle] at hdue
        obtain ⟨-, hdue⟩ := Option.ite_none_left_eq_some.mp hdue
        rw [← Option.some.inj hdue]
        exact Nat.le_add_right _ _
      · exact h due hdue
  | playLoop track =>
    change (d.playLoop uart now track).2.resumeIdle = some due at hdue
    unfold Dfplayer.playLoop at hdue
    split at hdue
    · exact h due hdue
    · rw [sendCmd_resumeIdle] at hdue
      cases hdue
  | setVolume vol => exact h due ((sendCmd_resumeIdle _).symm.trans hdue)
  | stop => cases (sendCmd_resumeIdle _).symm.trans hdue
  | setWaitingIdle enabled =>
    cases enabled with
    | false => cases hdue
    | true => exact h due hdue
  | resumeIdle =>
    change (d.resumeIdleCb uart now).resumeIdle = some due at hdue
    unfold Dfplayer.resumeIdleCb at hdue
    dsimp only at hdue
    split at hdue
    · cases (sendCmd_resumeIdle _).symm.trans hdue
    · cases hdue

theorem endsOnTime_of_run (huart : ∀ n, uart n = true) (hrun : SoundRun uart log s)
    (hattentive : ∀ entry ∈ log, entry.before.Attentive entry.event) : EndsOnTime s := by
  refine Run.invariant (I := fun log s ↦
    (∀ entry ∈ log, entry.before.Attentive entry.event) → EndsOnTime s) ?_ ?_ hrun hattentive
  · intro s hboot _
    constructor
    · rw [hboot]
      exact ⟨rfl, fun due hends ↦ absurd hends (not_effectEnds_silent rfl)⟩
    · rw [hboot]
      intro due hdue
      cases hdue
  · intro log s e _ ih _ hattentive
    obtain ⟨hnow, hbefore⟩ := List.forall_mem_cons.mp hattentive
    obtain ⟨harmed, honTime⟩ := ih hbefore
    cases e with
    | elapse us => exact ⟨harmed, hnow⟩
    | use op =>
      exact ⟨perform_endArmed (huart _) harmed hnow, fun due ↦ perform_onTime honTime op⟩

/-- **The idle loop follows the effects**: the resume timer never cuts an effect off, since its
callback comes only when a track of known length has been played to its end while the idle loop was
wanted, and then the idle loop starts.  And as long as the idle loop stays wanted, no packet is
refused and timers are served in time, no such track goes on beyond its end. -/
theorem idle_loop_follows_effects (hrun : SoundRun uart log s) :
    (∀ entry ∈ log, entry.event = .use .resumeIdle →
      entry.before.dfplayer.waitingIdle = true ∧
      (∃ due, entry.before.dfplayer.EffectEnds due ∧ due ≤ entry.before.clock) ∧
      (uart entry.before.dfplayer.writes = true →
        speakerOf (entry.before.next uart entry.event).dfplayer.sent =
          .loop (UInt8.ofNat trackIdle))) ∧
    ((∀ n, uart n = true) → (∀ entry ∈ log, entry.before.Attentive entry.event) →
      ∀ due, s.dfplayer.EffectEnds due → s.dfplayer.resumeIdle = some due ∧ s.clock ≤ due) := by
  constructor
  · intro entry hmem hevent
    obtain ⟨earlier, hbefore, henabled⟩ := hrun.exists_of_mem hmem
    rw [hevent] at henabled ⊢
    obtain ⟨due, hdue, hle⟩ := (Option.any_eq_true _ _).mp henabled
    obtain ⟨hwaiting, hends⟩ := armedForEnd_of_run hbefore due hdue
    refine ⟨hwaiting, ⟨due, hends, of_decide_eq_true hle⟩, fun huart ↦ ?_⟩
    change speakerOf (entry.before.dfplayer.perform uart entry.before.clock .resumeIdle).sent = _
    rw [speaker_perform]
    simp only [Dfplayer.spoken, huart, DfplayerOp.cmd, hwaiting, if_true, Option.elim_some]
    exact hear_playLoop _ _ _
  · intro huart hattentive due hends
    obtain ⟨harmed, honTime⟩ := endsOnTime_of_run huart hrun hattentive
    have hdue := harmed.2 due hends
    exact ⟨hdue, honTime due hdue⟩

/-- The gun sounds until the idle loop follows, and then the machine gun. -/
theorem idle_loop_follows_effects_gun : ∃ log s, SoundRun (fun _ ↦ true) log s ∧
    (log.any fun entry ↦ entry.event = .use .resumeIdle) = true ∧
    s.dfplayer.EffectEnds 2591000 ∧ s.dfplayer.resumeIdle = some 2591000 ∧ s.clock ≤ 2591000 := by
  obtain ⟨log, s, hrun, hend⟩ := exists_soundRun (fun _ ↦ true) 0
    [.use (.play 2), .elapse 1907000, .use .resumeIdle, .use (.play 3)]
    (fun r ↦ (r.1.any fun entry ↦ entry.event = .use .resumeIdle) &&
      decide (speakerOf r.2.dfplayer.sent = .once 3 1907000) &&
      r.1.all fun entry ↦ decide (entry.before.Attentive entry.event)) (by decide)
  rw [Bool.and_eq_true, Bool.and_eq_true, decide_eq_true_iff, List.all_eq_true] at hend
  obtain ⟨⟨hresume, hspeaker⟩, hattentive⟩ := hend
  have hends : s.dfplayer.EffectEnds 2591000 := ⟨3, 1907000, hspeaker, by decide, rfl⟩
  refine ⟨log, s, hrun, hresume, hends, ?_⟩
  exact (idle_loop_follows_effects hrun).2 (fun _ ↦ rfl)
    (fun entry hmem ↦ of_decide_eq_true (hattentive entry hmem)) _ hends

end Runs

end Nutcracker
