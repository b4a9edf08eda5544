import Nutcracker.Program.BlockCode
import Nutcracker.Rccar.Exhibit

/-!
# The sound module

`rccar_dfplayer.c`: packets on a serial line to a player that is never heard back.  The driver of the
line either takes a packet whole or refuses it, and decides so for every write.  An effect of known
length arms a timer that returns to the idle loop, unless the idle loop is not wanted.
-/

namespace Nutcracker

/-! ## Packets -/

abbrev dfplayerSb : UInt8 := 0x7E
abbrev dfplayerVer : UInt8 := 0xFF
abbrev dfplayerLen : UInt8 := 0x06
abbrev dfplayerNoFeedback : UInt8 := 0x00
abbrev dfplayerEb : UInt8 := 0xEF

abbrev dfplayerCmdPlay : UInt8 := 0x03
abbrev dfplayerCmdVolume : UInt8 := 0x06
abbrev dfplayerCmdPlaybackMode : UInt8 := 0x08
abbrev dfplayerCmdStop : UInt8 := 0x16

abbrev dfplayerStackSize : ℕ := 10

/-- `dfplayer_stack_t`. -/
structure DfplayerStack where
  startByte : UInt8
  version : UInt8
  length : UInt8
  commandValue : UInt8
  feedbackValue : UInt8
  paramMsb : UInt8
  paramLsb : UInt8
  checksumMsb : UInt8 := 0
  checksumLsb : UInt8 := 0
  endByte : UInt8

namespace DfplayerStack

/-- The sum that the checksum complements. -/
def sum (stack : DfplayerStack) : UInt16 :=
  stack.version.toUInt16 + stack.length.toUInt16 + stack.commandValue.toUInt16 +
    stack.feedbackValue.toUInt16 + stack.paramMsb.toUInt16 + stack.paramLsb.toUInt16

/-- `dfplayer_find_checksum`. -/
def findChecksum (stack : DfplayerStack) : DfplayerStack :=
  let checksum := ~~~stack.sum + 1
  { stack with
    checksumMsb := (checksum >>> 8).toUInt8
    checksumLsb := (checksum &&& 0xFF).toUInt8 }

/-- The buffer of `dfplayer_send_stack`. -/
def buf (stack : DfplayerStack) : List UInt8 :=
  [stack.startByte, stack.version, stack.length, stack.commandValue, stack.feedbackValue,
    stack.paramMsb, stack.paramLsb, stack.checksumMsb, stack.checksumLsb, stack.endByte]

end DfplayerStack

/-- The arguments of `dfplayer_send_cmd`. -/
@[ext]
structure DfplayerCmd where
  cmd : UInt8
  paramMsb : UInt8
  paramLsb : UInt8
  deriving DecidableEq

/-- The packet of a command. -/
def DfplayerCmd.stack (c : DfplayerCmd) : DfplayerStack :=
  { startByte := dfplayerSb
    version := dfplayerVer
    length := dfplayerLen
    commandValue := c.cmd
    feedbackValue := dfplayerNoFeedback
    paramMsb := c.paramMsb
    paramLsb := c.paramLsb
    endByte := dfplayerEb : DfplayerStack }.findChecksum

def DfplayerCmd.play (track : UInt8) : DfplayerCmd :=
  ⟨dfplayerCmdPlay, (track.toUInt16 >>> 8).toUInt8, track &&& 0xFF⟩

def DfplayerCmd.playLoop (track : UInt8) : DfplayerCmd :=
  ⟨dfplayerCmdPlaybackMode, (track.toUInt16 >>> 8).toUInt8, track &&& 0xFF⟩

def DfplayerCmd.volume (vol : UInt8) : DfplayerCmd := ⟨dfplayerCmdVolume, 0x00, vol⟩

def DfplayerCmd.stop : DfplayerCmd := ⟨dfplayerCmdStop, 0x00, 0x00⟩

/-! ## State -/

inductive EspErr
  | ok | fail | invalidArg
  deriving DecidableEq

/-- The static variables of the module.  `resumeIdle` is the time at which `s_resume_idle_timer`
expires; `sent` are the packets that the driver took, latest first and with their time. -/
structure Dfplayer where
  waitingIdle : Bool := true
  resumeIdle : Option ℕ := none
  sent : List (ℕ × List UInt8) := []
  writes : ℕ := 0

namespace Dfplayer

/-- The bytes on the serial line. -/
def line (d : Dfplayer) : List UInt8 := d.sent.reverse.flatMap Prod.snd

section Functions

/- Whether the driver takes the bytes of its `n`-th write, and the time. -/
variable (uart : ℕ → Bool) (now : ℕ) (d : Dfplayer)

def sendStack (stack : DfplayerStack) : EspErr × Dfplayer :=
  if uart d.writes then
    (.ok, { d with sent := (now, stack.buf) :: d.sent, writes := d.writes + 1 })
  else
    (.fail, { d with writes := d.writes + 1 })

def sendCmd (c : DfplayerCmd) : EspErr × Dfplayer := d.sendStack uart now c.stack

def cancelResumeIdle : Dfplayer := { d with resumeIdle := none }

def scheduleResumeIdle (track : UInt8) : Dfplayer :=
  let ms := rccarDfplayerResumeIdleMs track.toNat
  let d := d.cancelResumeIdle
  if !d.waitingIdle || ms = 0 then d else { d with resumeIdle := some (now + ms.toNat * 1000) }

def play (track : UInt8) : EspErr × Dfplayer :=
  if track < 1 then (.invalidArg, d)
  else
    let r := d.sendCmd uart now (.play track)
    if r.1 = .ok then (r.1, r.2.scheduleResumeIdle now track) else r

def playLoop (track : UInt8) : EspErr × Dfplayer :=
  if track < 1 then (.invalidArg, d) else d.cancelResumeIdle.sendCmd uart now (.playLoop track)

def setVolume (vol : UInt8) : EspErr × Dfplayer :=
  d.sendCmd uart now (.volume (if vol > 30 then 30 else vol))

def stop : EspErr × Dfplayer := d.cancelResumeIdle.sendCmd uart now .stop

def setWaitingIdle (enabled : Bool) : Dfplayer :=
  let d := { d with waitingIdle := enabled }
  if enabled then d else d.cancelResumeIdle

/-- `resume_idle_cb`, the callback of the one-shot timer. -/
def resumeIdleCb : Dfplayer :=
  let d := { d with resumeIdle := none }
  if d.waitingIdle then (d.playLoop uart now (UInt8.ofNat trackIdle)).2 else d

end Functions

end Dfplayer

/-- A use of the module. -/
inductive DfplayerOp
  | play (track : UInt8)
  | playLoop (track : UInt8)
  | setVolume (vol : UInt8)
  | stop
  | setWaitingIdle (enabled : Bool)
  | resumeIdle
  deriving DecidableEq

def Dfplayer.perform (uart : ℕ → Bool) (now : ℕ) (d : Dfplayer) : DfplayerOp → Dfplayer
  | .play track => (d.play uart now track).2
  | .playLoop track => (d.playLoop uart now track).2
  | .setVolume vol => (d.setVolume uart now vol).2
  | .stop => (d.stop uart now).2
  | .setWaitingIdle enabled => d.setWaitingIdle enabled
  | .resumeIdle => d.resumeIdleCb uart now

/-! ## The packet format -/

/-- A packet as the player reads it: the bytes between start and checksum and the checksum add up to
zero. -/
def DfplayerCmd.read : List UInt8 → Option DfplayerCmd
  | [start, version, length, cmd, feedback, msb, lsb, sumMsb, sumLsb, stop] =>
    if start = dfplayerSb ∧ version = dfplayerVer ∧ length = dfplayerLen ∧
        feedback = dfplayerNoFeedback ∧ stop = dfplayerEb ∧
        version.toUInt16 + length.toUInt16 + cmd.toUInt16 + feedback.toUInt16 + msb.toUInt16 +
          lsb.toUInt16 + (sumMsb.toUInt16 * 256 + sumLsb.toUInt16) = 0 then
      some ⟨cmd, msb, lsb⟩
    else none
  | _ => none

theorem toNat_highByte (w : UInt16) : (w >>> 8).toUInt8.toNat = w.toNat / 256 := by
  have hw : w.toNat < 65536 := w.toNat_lt
  rw [UInt16.toNat_toUInt8, UInt16.toNat_shiftRight]
  change w.toNat >>> 8 % 2 ^ 8 = w.toNat / 256
  rw [Nat.shiftRight_eq_div_pow]
  omega

theorem toNat_lowByte (w : UInt16) : (w &&& 0xFF).toUInt8.toNat = w.toNat % 256 := by
  rw [UInt16.toNat_toUInt8, UInt16.toNat_and]
  change (w.toNat &&& (2 ^ 8 - 1)) % 2 ^ 8 = w.toNat % 256
  rw [Nat.and_two_pow_sub_one_eq_mod, Nat.mod_mod]

theorem toNat_bytes (high low : UInt8) :
    (high.toUInt16 * 256 + low.toUInt16).toNat = high.toNat * 256 + low.toNat := by
  have hhigh : high.toNat < 256 := high.toNat_lt
  have hlow : low.toNat < 256 := low.toNat_lt
  rw [UInt16.toNat_add, UInt16.toNat_mul, UInt8.toNat_toUInt16, UInt8.toNat_toUInt16]
  change (high.toNat * 256 % 65536 + low.toNat) % 65536 = high.toNat * 256 + low.toNat
  omega

/-- Two bytes complement a sum exactly when they are those of its checksum. -/
theorem add_bytes_eq_zero_iff (sum : UInt16) (high low : UInt8) :
    sum + (high.toUInt16 * 256 + low.toUInt16) = 0 ↔
      high = ((~~~sum + 1) >>> 8).toUInt8 ∧ low = ((~~~sum + 1) &&& 0xFF).toUInt8 := by
  have hlow : low.toNat < 256 := low.toNat_lt
  rw [← UInt16.neg_eq_not_add, add_comm, add_eq_zero_iff_eq_neg, ← UInt16.toNat_inj,
    ← UInt8.toNat_inj, ← UInt8.toNat_inj, toNat_highByte, toNat_lowByte, toNat_bytes]
  omega

/-- The player reads exactly the packets of the module. -/
theorem read_eq_some {block : List UInt8} {c : DfplayerCmd} :
    DfplayerCmd.read block = some c ↔ block = c.stack.buf := by
  constructor
  · intro h
    unfold DfplayerCmd.read at h
    split at h
    · obtain ⟨⟨rfl, rfl, rfl, rfl, rfl, hsum⟩, hc⟩ := Option.ite_none_right_eq_some.mp h
      obtain rfl := Option.some.inj hc
      obtain ⟨rfl, rfl⟩ := (add_bytes_eq_zero_iff _ _ _).mp hsum
      rfl
    · cases h
  · rintro rfl
    apply if_pos
    exact ⟨rfl, rfl, rfl, rfl, rfl, (add_bytes_eq_zero_iff _ _ _).mpr ⟨rfl, rfl⟩⟩

/-- Commands as packets of ten bytes. -/
def dfplayerCode : BlockCode DfplayerCmd UInt8 where
  size := dfplayerStackSize
  size_pos := by decide
  encode c := c.stack.buf
  decode := DfplayerCmd.read
  length_encode _ := rfl
  decode_eq_some := read_eq_some

theorem toUInt16_inj {a b : UInt8} (h : a.toUInt16 = b.toUInt16) : a = b := by
  have hnat := congrArg UInt16.toNat h
  rw [UInt8.toNat_toUInt16, UInt8.toNat_toUInt16] at hnat
  exact UInt8.toNat_inj.mp hnat

/-- The checksum determines the sum of the bytes before it. -/
theorem sum_eq_of_checksum {c c' : DfplayerCmd}
    (hmsb : c.stack.checksumMsb = c'.stack.checksumMsb)
    (hlsb : c.stack.checksumLsb = c'.stack.checksumLsb) : c.stack.sum = c'.stack.sum := by
  have hsum := (add_bytes_eq_zero_iff c.stack.sum _ _).mpr ⟨rfl, rfl⟩
  have hsum' := (add_bytes_eq_zero_iff c'.stack.sum _ _).mpr ⟨rfl, rfl⟩
  change c.stack.sum + (c.stack.checksumMsb.toUInt16 * 256 + c.stack.checksumLsb.toUInt16) = 0 at hsum
  change c'.stack.sum + (c'.stack.checksumMsb.toUInt16 * 256 + c'.stack.checksumLsb.toUInt16) = 0
    at hsum'
  rw [hmsb, hlsb] at hsum
  exact add_right_cancel (hsum.trans hsum'.symm)

theorem sum_stack (c : DfplayerCmd) :
    c.stack.sum = (dfplayerVer.toUInt16 + dfplayerLen.toUInt16 + dfplayerNoFeedback.toUInt16) +
      (c.cmd.toUInt16 + c.paramMsb.toUInt16 + c.paramLsb.toUInt16) := by
  change dfplayerVer.toUInt16 + dfplayerLen.toUInt16 + c.cmd.toUInt16 + dfplayerNoFeedback.toUInt16 +
    c.paramMsb.toUInt16 + c.paramLsb.toUInt16 = _
  abel

/-- The checksum and two of the three arguments determine the third. -/
theorem eq_of_checksum {c c' : DfplayerCmd}
    (hmsb : c.stack.checksumMsb = c'.stack.checksumMsb)
    (hlsb : c.stack.checksumLsb = c'.stack.checksumLsb)
    (htwo : (c.paramMsb = c'.paramMsb ∧ c.paramLsb = c'.paramLsb) ∨
      (c.cmd = c'.cmd ∧ c.paramLsb = c'.paramLsb) ∨ (c.cmd = c'.cmd ∧ c.paramMsb = c'.paramMsb)) :
    c = c' := by
  have hsum := sum_eq_of_checksum hmsb hlsb
  rw [sum_stack, sum_stack, add_right_inj] at hsum
  cases c
  cases c'
  rcases htwo with ⟨rfl, rfl⟩ | ⟨rfl, rfl⟩ | ⟨rfl, rfl⟩
  · obtain rfl := toUInt16_inj (add_right_cancel (add_right_cancel hsum))
    rfl
  · obtain rfl := toUInt16_inj (add_left_cancel (add_right_cancel hsum))
    rfl
  · obtain rfl := toUInt16_inj (add_left_cancel hsum)
    rfl

/-- No packet is read in which a single byte has been altered. -/
theorem dfplayerCode_detects : dfplayerCode.Detects := by
  intro c i b hi hb
  change DfplayerCmd.read (c.stack.buf.set i b) = none
  by_contra hread
  obtain ⟨c', hc'⟩ := Option.ne_none_iff_exists'.mp hread
  have hset : c.stack.buf.set i b = c'.stack.buf := read_eq_some.mp hc'
  have hother : ∀ j, i ≠ j → c.stack.buf[j]? = c'.stack.buf[j]? := fun j hj ↦ by
    rw [← hset, List.getElem?_set_ne hj]
  have hcmd : i ≠ 3 → c.cmd = c'.cmd := fun h ↦ Option.some.inj (hother 3 h)
  have hparamMsb : i ≠ 5 → c.paramMsb = c'.paramMsb := fun h ↦ Option.some.inj (hother 5 h)
  have hparamLsb : i ≠ 6 → c.paramLsb = c'.paramLsb := fun h ↦ Option.some.inj (hother 6 h)
  have hmsb : i ≠ 7 → c.stack.checksumMsb = c'.stack.checksumMsb :=
    fun h ↦ Option.some.inj (hother 7 h)
  have hlsb : i ≠ 8 → c.stack.checksumLsb = c'.stack.checksumLsb :=
    fun h ↦ Option.some.inj (hother 8 h)
  have hsame : c = c' := by
    by_cases hchecksum : i = 7 ∨ i = 8
    · ext1
      · exact hcmd (by omega)
      · exact hparamMsb (by omega)
      · exact hparamLsb (by omega)
    · apply eq_of_checksum (hmsb (by omega)) (hlsb (by omega))
      by_cases h3 : i = 3
      · exact .inl ⟨hparamMsb (by omega), hparamLsb (by omega)⟩
      · by_cases h5 : i = 5
        · exact .inr (.inl ⟨hcmd h3, hparamLsb (by omega)⟩)
        · exact .inr (.inr ⟨hcmd h3, hparamMsb h5⟩)
  apply hb
  change c.stack.buf[i]? = some b
  rw [hsame, ← hset]
  exact List.getElem?_set_self hi

end Nutcracker
