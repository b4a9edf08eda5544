import Nutcracker.Properties.CoreThreads
import Nutcracker.Properties.SoundOfThreads

/-!
# The volume of the player

Whoever changes the stored volume tells the player before anything else, and nobody else changes
either.  Between two rounds of the input task the player has been told the volume that is stored.
-/

namespace Nutcracker

open Prog

/-! ## What the player has been told -/

/-- The volume that a command sets. -/
def DfplayerCmd.setsVolume (c : DfplayerCmd) : Option ℕ :=
  if c.cmd = dfplayerCmdVolume then some c.paramLsb.toNat else none

/-- The volume that the commands on the line set last. -/
def lastVolume (cmds : List DfplayerCmd) : Option ℕ := (cmds.filterMap DfplayerCmd.setsVolume).getLast?

/-- The last volume command that was sent. -/
def Dfplayer.Told (d : Dfplayer) (volume : ℕ) : Prop :=
  ∃ cmds : List DfplayerCmd, d.sent.map Prod.snd = cmds.map (fun c ↦ c.stack.buf) ∧
    cmds.findSome? DfplayerCmd.setsVolume = some volume

/-- The volume that the player has been told after an operation. -/
def toldAfter (told : ℕ) : Op → ℕ
  | .call _ (.dfplayerSetVolume volume) => volume
  | _ => told

section Told

variable {d : Dfplayer} {told volume now : ℕ}

theorem Dfplayer.Told.line (h : d.Told told) :
    ∃ cmds, dfplayerCode.decodeAll d.line = some cmds ∧ lastVolume cmds = some told := by
  obtain ⟨cmds, hsent, hlast⟩ := h
  refine ⟨cmds.reverse, ?_, ?_⟩
  · rw [line_of_sent hsent]
    exact dfplayerCode.decodeAll_encodeAll _
  · unfold lastVolume
    rw [List.filterMap_reverse, List.getLast?_reverse, List.head?_filterMap]
    exact hlast

/-- A command on the line tells the player the volume that it sets. -/
theorem Dfplayer.Told.sent (h : d.Told told) {d' : Dfplayer} {c : DfplayerCmd}
    (hsent : d'.sent = (now, c.stack.buf) :: d.sent) : d'.Told (c.setsVolume.getD told) := by
  obtain ⟨cmds, hcmds, hlast⟩ := h
  refine ⟨c :: cmds, ?_, ?_⟩
  · rw [hsent, List.map_cons, hcmds]
    rfl
  · rw [List.findSome?_cons, hlast]
    cases c.setsVolume <;> rfl

theorem Dfplayer.Told.perform (h : d.Told told) (now : ℕ) (op : DfplayerOp) :
    (d.perform everyWrite now op).Told (((op.cmd d).bind DfplayerCmd.setsVolume).getD told) := by
  have hspoken : d.spoken everyWrite op = op.cmd d := rfl
  have hsent := @perform_sent everyWrite now d op
  rw [hspoken] at hsent
  cases hcmd : op.cmd d with
  | none =>
    obtain ⟨cmds, hcmds, hlast⟩ := h
    rw [hcmd] at hsent
    exact ⟨cmds, (congrArg _ hsent).trans hcmds, hlast⟩
  | some c =>
    rw [hcmd] at hsent
    exact h.sent hsent

/-- No other use of the module sets a volume. -/
theorem setsVolume_cmd (op : DfplayerOp) (hop : ∀ vol, op ≠ .setVolume vol) :
    (op.cmd d).bind DfplayerCmd.setsVolume = none := by
  cases op with
  | play track | playLoop track =>
    unfold DfplayerOp.cmd
    dsimp only
    split <;> rfl
  | setVolume vol => exact absurd rfl (hop vol)
  | stop | setWaitingIdle => rfl
  | resumeIdle =>
    unfold DfplayerOp.cmd
    dsimp only
    split <;> rfl

theorem toNat_volume (h : VolumeOk volume) : (UInt8.ofNat volume).toNat = volume := by
  unfold VolumeOk Sys.rccarVolumeMin Sys.rccarVolumeMax at h
  rw [UInt8.toNat_ofNat']
  exact Nat.mod_eq_of_lt (by omega)

theorem setsVolume_setVolume (h : VolumeOk volume) :
    ((DfplayerOp.setVolume (UInt8.ofNat volume)).cmd d).bind DfplayerCmd.setsVolume = some volume := by
  change DfplayerCmd.setsVolume (.volume (if _ then _ else _)) = some volume
  rw [clamp_volume h]
  exact congrArg some (toNat_volume h)

/-- Among the calls of the threads only one sets a volume. -/
theorem not_setVolume_of_soundOps {s : Sys} {c : Call} (hc : ∀ volume, c ≠ .dfplayerSetVolume volume)
    {op : DfplayerOp} (hop : op ∈ c.soundOps s) (vol : UInt8) : op ≠ .setVolume vol := by
  rintro rfl
  cases c with
  | dfplayerSetVolume volume => exact hc volume rfl
  | dfplayerPlay | dfplayerPlayLoop | dfplayerStop | dfplayerSetWaitingIdle =>
    cases List.mem_singleton.mp hop
  | humidifierSet on =>
    obtain ⟨-, hplay⟩ := List.mem_ite_nil_right.mp hop
    cases List.mem_singleton.mp hplay
  | humidifierPulseOnMs onMs =>
    obtain ⟨-, hplay⟩ := List.mem_ite_nil_left.mp hop
    cases List.mem_singleton.mp hplay
  | _ => cases hop

theorem Dfplayer.Told.foldl {ops : List DfplayerOp} (h : d.Told told)
    (hops : ∀ op ∈ ops, ∀ vol, op ≠ .setVolume vol) :
    (ops.foldl (fun d op ↦ d.perform everyWrite now op) d).Told told := by
  induction ops generalizing d with
  | nil => exact h
  | cons op ops ih =>
    obtain ⟨hop, hrest⟩ := List.forall_mem_cons.mp hops
    have hnext := h.perform now op
    rw [setsVolume_cmd op hop] at hnext
    exact ih hnext hrest

/-- An operation of a thread tells the player what it says. -/
theorem told_performs {s : Cores} {e : CoreEvent} {log : CoreLog} {boot : ℕ} {o : Op}
    (h : (dfplayerOf everyWrite boot log).Told told) (hperforms : s.performs e = some o)
    (ho : SoundOp everyVoice o) :
    (dfplayerOf everyWrite boot (⟨s, e⟩ :: log)).Told (toldAfter told o) := by
  unfold dfplayerOf dfplayerAfter Cores.soundOps
  rw [hperforms]
  cases o with
  | call origin c =>
    by_cases hc : ∃ volume, c = .dfplayerSetVolume volume
    · obtain ⟨volume, rfl⟩ := hc
      have hnext := h.perform s.sys.clock (.setVolume (UInt8.ofNat volume))
      rw [setsVolume_setVolume ho.2] at hnext
      exact hnext
    · have hsame : toldAfter told (.call origin c) = told := by
        cases c <;> first | rfl | exact absurd ⟨_, rfl⟩ hc
      rw [hsame]
      apply h.foldl
      intro op hop
      exact not_setVolume_of_soundOps (fun volume hv ↦ hc ⟨volume, hv⟩) hop
  | _ => exact h

theorem told_idle {s : Cores} {e : CoreEvent} {log : CoreLog} {boot : ℕ}
    (h : (dfplayerOf everyWrite boot log).Told told) (hperforms : s.performs e = none) :
    (dfplayerOf everyWrite boot (⟨s, e⟩ :: log)).Told told := by
  unfold dfplayerOf dfplayerAfter Cores.soundOps
  rw [hperforms]
  exact h

theorem told_onInitComplete (h : VolumeOk volume) :
    (Dfplayer.onInitComplete everyWrite volume).Told volume := by
  have hsent : (Dfplayer.onInitComplete everyWrite volume).sent =
      [(0, (DfplayerCmd.volume (UInt8.ofNat volume)).stack.buf)] := by
    change [(0, (DfplayerCmd.volume (if _ then _ else _)).stack.buf)] = _
    rw [clamp_volume h]
  refine ⟨[.volume (UInt8.ofNat volume)], congrArg _ hsent, ?_⟩
  exact congrArg some (toNat_volume h)

end Told

/-! ## The stored volume -/

/-- Everything but the volume keys. -/
abbrev otherVoice : Voice := { music := true, chooses := true }

/-- What the stage of the input task says about the volume that the player has been told and the
volume that is stored. -/
def VolumeStage.Agrees (told stored : ℕ) : VolumeStage → Prop
  | .settled => told = stored
  | .read volume => told = stored ∧ volume = stored
  | .stored volume => volume = stored ∧ VolumeStep told stored

section Stage

variable {ω : Oracle} {stage : VolumeStage} {told : ℕ} {o : Op} {sys : Sys}

theorem VolumeStage.Agrees.eq (h : stage.Agrees told sys.volume) (hstage : stage.Told) :
    told = sys.volume := by
  cases stage with
  | settled => exact h
  | read volume => exact h.1
  | stored => exact hstage.elim

theorem not_storageVolumeSet_of_sound (ho : SoundOp otherVoice o) (origin : Origin) (volume : ℕ) :
    o ≠ .call origin (.storageVolumeSet volume) := by
  rintro rfl
  cases ho.1

theorem toldAfter_of_sound (ho : SoundOp otherVoice o) : toldAfter told o = told := by
  cases o with
  | call origin c =>
    cases c with
    | dfplayerSetVolume => cases ho.1
    | _ => rfl
  | _ => rfl

/-- An operation of a thread that leaves the volume alone. -/
theorem agrees_sound (ho : SoundOp otherVoice o) (h : stage.Agrees told sys.volume) :
    stage.Agrees (toldAfter told o) (exec ω o sys).2.volume := by
  rw [toldAfter_of_sound ho, exec_volume (not_storageVolumeSet_of_sound ho)]
  exact h

/-- An operation of the input task. -/
theorem agrees_exec (ho : volumeProtocol.ok stage o)
    (h : stage.Agrees told sys.volume) :
    (volumeProtocol.next stage o (exec ω o sys).1).Agrees (toldAfter told o)
      (exec ω o sys).2.volume := by
  have hsound : SoundOp { music := true } o → stage.Told →
      (volumeProtocol.next stage o (exec ω o sys).1).Agrees (toldAfter told o)
        (exec ω o sys).2.volume := by
    intro ho hstage
    have hother : SoundOp otherVoice o := ho.mono id (fun _ ↦ rfl) fun _ ↦ rfl
    have hsame := agrees_sound (ω := ω) hother h
    cases o with
    | call origin c =>
      cases c with
      | dfplayerSetVolume | storageVolumeSet => cases hother.1
      | _ => exact hsame
    | storageVolumeGet => exact ⟨h.eq hstage, rfl⟩
    | _ => exact hsame
  cases stage with
  | settled => exact hsound ho trivial
  | read volume =>
    rcases ho with ho | ⟨origin, volume', rfl, hstep⟩
    · exact hsound ho trivial
    · obtain ⟨rfl, rfl⟩ := h
      change volume' = min (max volume' _) _ ∧ VolumeStep sys.volume (min (max volume' _) _)
      obtain ⟨hmin, hmax⟩ := hstep.1
      rw [max_eq_left hmin, min_eq_left hmax]
      exact ⟨rfl, hstep⟩
  | stored volume =>
    obtain ⟨origin, rfl, -⟩ := ho
    exact h.1

end Stage

/-! ## Every interleaving -/

section Runs

variable {bp : Bluepad32} {boot : ℕ} {log : CoreLog} {s : Cores} {e : CoreEvent}

/-- Where the change of a volume is. -/
def VolumeInv (boot : ℕ) (log : CoreLog) (s : Cores) : Prop :=
  ∃ stage told, FollowsVolume s.input stage ∧ stage.Agrees told s.sys.volume ∧
    (dfplayerOf everyWrite boot log).Told told

/-- A step of another thread. -/
theorem VolumeInv.other (h : VolumeInv boot log s) {o : Op} (hperforms : s.performs e = some o)
    (ho : SoundOp otherVoice o) (hinput : (s.next bp e).input = s.input) :
    VolumeInv boot (⟨s, e⟩ :: log) (s.next bp e) := by
  obtain ⟨stage, told, hfollows, hagrees, htold⟩ := h
  obtain ⟨ω, test, hnext⟩ := Cores.next_of_performs bp hperforms
  refine ⟨stage, _, hinput ▸ hfollows, ?_, told_performs htold hperforms ho.of_every⟩
  rw [hnext]
  exact agrees_sound ho hagrees

/-- A step that performs no operation. -/
theorem VolumeInv.idle (h : VolumeInv boot log s) (hperforms : s.performs e = none)
    (hvolume : (s.next bp e).sys.volume = s.sys.volume) (hinput : (s.next bp e).input = s.input) :
    VolumeInv boot (⟨s, e⟩ :: log) (s.next bp e) := by
  obtain ⟨stage, told, hfollows, hagrees, htold⟩ := h
  exact ⟨stage, told, hinput ▸ hfollows, hvolume ▸ hagrees, told_idle htold hperforms⟩

theorem VolumeInv.next (h : VolumeInv boot log s) (hboot : VolumeOk boot)
    (hrun : LoadedRun bp boot log s) (he : s.Enabled e) :
    VolumeInv boot (⟨s, e⟩ :: log) (s.next bp e) := by
  have hholds := soundHolds_of_run hboot hrun
  cases hperforms : s.performs e with
  | none =>
    cases e with
    | enters e =>
      have hvolume : (s.next bp (.enters e)).sys.volume = s.sys.volume := by
        cases e with
        | timer => cases he.2.1
        | _ => rfl
      exact h.idle rfl hvolume rfl
    | expires t => exact h.idle rfl (Sys.actuatorCallback_volume _ t) rfl
    | elapse us => exact h.idle rfl rfl rfl
    | begins =>
      obtain ⟨stage, told, hfollows, hagrees, htold⟩ := h
      refine ⟨stage, told, ?_, hagrees, told_idle htold rfl⟩
      obtain ⟨t, hprog⟩ := exists_pure_of_finished he
      rw [hprog] at hfollows
      rw [next_begins hprog]
      exact followsVolume_inputProcessRound t hfollows
    | input ω | btstack | espTimer ω | wheelTest => exact absurd hperforms (nextOp_ne_none he)
  | some o =>
    obtain ⟨thread, hthread, ho⟩ := hholds.ok_of_performs (soundRule bp {}) hperforms
    cases e with
    | enters | expires | begins | elapse => cases hperforms
    | input ω =>
      obtain ⟨rest, hprog⟩ := exists_op_of_nextOp hperforms
      obtain ⟨stage, told, hfollows, hagrees, htold⟩ := h
      rw [hprog] at hfollows
      have hanswer := soundAnswer_exec ω o hholds.state.volume
      refine ⟨volumeProtocol.next stage o (exec ω o s.sys).1, _, ?_, ?_,
        told_performs htold hperforms ho.of_every⟩
      · rw [next_input hprog]
        exact hfollows.2 _ hanswer
      · rw [next_input hprog]
        exact agrees_exec hfollows.1 hagrees
    | btstack | espTimer ω | wheelTest =>
      obtain rfl := Option.some.inj hthread
      exact h.other hperforms (ho.mono id (fun _ ↦ rfl) fun _ ↦ rfl) rfl

theorem volumeInv_of_run (hboot : VolumeOk boot) (hrun : LoadedRun bp boot log s) :
    VolumeInv boot log s := by
  refine Run.invariant (I := VolumeInv boot) ?_ ?_ hrun
  · rintro s ⟨us, rfl⟩
    have hsettled : VolumeStage.settled.Agrees boot boot := rfl
    exact ⟨.settled, boot, trivial, hsettled, told_onInitComplete hboot⟩
  · exact fun log s e hrun h hok ↦ h.next hboot hrun hok.1

/-- A volume is stored by the input task only. -/
theorem volumeStep_of_performs (hboot : VolumeOk boot) (hrun : LoadedRun bp boot log s)
    {origin : Origin} {volume : ℕ}
    (hperforms : s.performs e = some (.call origin (.storageVolumeSet volume))) :
    VolumeStep s.sys.volume volume := by
  obtain ⟨thread, hthread, ho⟩ :=
    (soundHolds_of_run hboot hrun).ok_of_performs (soundRule bp {}) hperforms
  cases e with
  | enters | expires | begins | elapse => cases hperforms
  | btstack | espTimer ω | wheelTest =>
    obtain rfl := Option.some.inj hthread
    cases ho.1
  | input ω =>
    obtain ⟨rest, hprog⟩ := exists_op_of_nextOp hperforms
    obtain ⟨stage, told, hfollows, hagrees, -⟩ := volumeInv_of_run hboot hrun
    rw [hprog] at hfollows
    cases stage with
    | settled => cases hfollows.1.1
    | read volume' =>
      obtain ⟨-, rfl⟩ := hagrees
      rcases hfollows.1 with ho | ⟨origin', volume', hcall, hstep⟩
      · cases ho.1
      · cases hcall
        exact hstep
    | stored volume' =>
      obtain ⟨origin', hcall, -⟩ := hfollows.1
      cases hcall

/-- **The player plays at the stored volume**: in whatever order the threads interleave, the last
volume command on the line is the stored volume, or it is one step away and the next operation of the
input task tells the player.  A volume is never stored but one step from the one that is stored. -/
theorem player_has_stored_volume (hboot : VolumeOk boot) (hrun : LoadedRun bp boot log s) :
    VolumeOk s.sys.volume ∧
      (∃ cmds told, dfplayerCode.decodeAll (dfplayerOf everyWrite boot log).line = some cmds ∧
        lastVolume cmds = some told ∧ (told = s.sys.volume ∨ VolumeStep told s.sys.volume ∧
          ∃ origin, s.input.nextOp = some (.call origin (.dfplayerSetVolume s.sys.volume)))) ∧
      ∀ entry ∈ log, ∀ origin volume,
        entry.before.performs entry.event = some (.call origin (.storageVolumeSet volume)) →
          VolumeStep entry.before.sys.volume volume := by
  refine ⟨(soundHolds_of_run hboot hrun).state.volume, ?_, ?_⟩
  · obtain ⟨stage, told, hfollows, hagrees, htold⟩ := volumeInv_of_run hboot hrun
    obtain ⟨cmds, hline, hlast⟩ := htold.line
    refine ⟨cmds, told, hline, hlast, ?_⟩
    cases stage with
    | settled => exact .inl hagrees
    | read volume => exact .inl hagrees.1
    | stored volume =>
      obtain ⟨rfl, hstep⟩ := hagrees
      cases hprog : s.input with
      | pure t =>
        rw [hprog] at hfollows
        exact hfollows.elim
      | op o rest =>
        rw [hprog] at hfollows
        obtain ⟨origin, rfl, -⟩ := hfollows.1
        exact .inr ⟨hstep, origin, rfl⟩
  · intro entry hmem origin volume hperforms
    obtain ⟨earlier, hbefore, -⟩ := hrun.exists_of_mem hmem
    exact volumeStep_of_performs hboot hbefore hperforms

/-- A report with R1 held, up to the operation that stores the next volume. -/
def volumeKeyPress : List CoreEvent :=
  let btstack (e : Event) (ops : ℕ) : List CoreEvent := .enters e :: List.replicate ops .btstack
  .elapse 1000000 :: btstack (.deviceReady (samplePad 1)) 28 ++
    (btstack (.controllerData (samplePad 1) (.gamepad { buttons := { shoulderR := true } })) 7 ++
      .begins :: List.replicate 20 (.input {}))

theorem player_has_stored_volume_key : ∃ log s, LoadedRun bluepad32 25 log s ∧
    (s.sys.volume = 26 ∧
      (dfplayerCode.decodeAll (dfplayerOf everyWrite 25 log).line).bind lastVolume = some 25) ∧
    ∃ origin, s.input.nextOp = some (.call origin (.dfplayerSetVolume s.sys.volume)) := by
  obtain ⟨log, s, hrun, hend⟩ := exists_loadedRun bluepad32 0 25 volumeKeyPress
    (fun r ↦ decide (r.2.sys.volume = 26 ∧
      (dfplayerCode.decodeAll (dfplayerOf everyWrite 25 r.1).line).bind lastVolume = some 25))
    (by decide +kernel)
  have hend := of_decide_eq_true hend
  refine ⟨log, s, hrun, hend, ?_⟩
  obtain ⟨-, ⟨cmds, told, hline, hlast, heq | ⟨-, hnext⟩⟩, -⟩ :=
    player_has_stored_volume (by decide) hrun
  · obtain ⟨hstored, htold⟩ := hend
    rw [hline, Option.bind_some, hlast, heq, hstored] at htold
    cases htold
  · exact hnext

end Runs

end Nutcracker
