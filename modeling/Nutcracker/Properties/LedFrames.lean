import Nutcracker.Properties.LightStrip
import Nutcracker.Rccar.Ws2812

/-!
# What the pixels show

A frame of the light strip reaches the pixels through the encoder, whose memory is refilled while it
is being sent, and the pixels read the frames that were sent.  Every frame of the module is, when the
transmitter takes it, dark or all of its pixels glow in a warm colour.
-/

namespace Nutcracker

/-! ## The line -/

section Line

variable {bytesEncoder : Resumable (List UInt8) RmtSymbol}
  {copyEncoder : Resumable RmtSymbol RmtSymbol}

theorem length_frame (pixels : List Rgb) :
    (ledCode.encodeAll pixels ++ [ws2812ResetCode]).length = 24 * pixels.length + 1 := by
  rw [List.length_append, ledCode.length_encodeAll, List.length_singleton, mul_comm]
  rfl

section Transmit

variable (hbytes : ∀ data, bytesEncoder.symbols data = byteCode.encodeAll data)
  (hcopy : ∀ symbol, copyEncoder.symbols symbol = [symbol])

include hbytes

theorem symbols_frame (pixels : List Rgb) :
    (ws2812Encoder bytesEncoder copyEncoder (hcopy _)).symbols (pixelCode.encodeAll pixels) =
      ledCode.encodeAll pixels ++ [ws2812ResetCode] := by
  rw [ws2812Encoder_symbols, hbytes, ledCode_encodeAll]

/-- A frame is completed with the portion of memory that takes its reset code. -/
theorem transmit_frame (pixels : List Rgb) (frees : List ℕ) :
    let encoder := ws2812Encoder bytesEncoder copyEncoder (hcopy _)
    let r := encoder.transmit (pixelCode.encodeAll pixels) frees encoder.init
    r.symbols = (ledCode.encodeAll pixels ++ [ws2812ResetCode]).take frees.sum ∧
      (r.complete = true ↔ 24 * pixels.length < frees.sum) := by
  intro encoder r
  have hrest : encoder.rest encoder.init (pixelCode.encodeAll pixels) = _ :=
    symbols_frame hbytes hcopy pixels
  constructor
  · rw [encoder.transmit_symbols, hrest]
  · rw [encoder.transmit_complete_iff, hrest, length_frame]
    constructor
    · exact fun h ↦ h.2
    · intro h
      refine ⟨?_, h⟩
      rintro rfl
      exact absurd h (Nat.not_lt_zero _)

end Transmit

/-- **Frames are read as they were sent**: in whatever portions the memory of the transmitter becomes
free, a frame is written symbol by symbol and completed with the portion that takes its reset code.
Frames that are given enough memory are read back one by one, and leave the encoder as new. -/
theorem line_carries_frames (hbytes : ∀ data, bytesEncoder.symbols data = byteCode.encodeAll data)
    (hcopy : ∀ symbol, copyEncoder.symbols symbol = [symbol]) :
    (∀ pixels frees,
      let encoder := ws2812Encoder bytesEncoder copyEncoder (hcopy _)
      let r := encoder.transmit (pixelCode.encodeAll pixels) frees encoder.init
      r.symbols = (ledCode.encodeAll pixels ++ [ws2812ResetCode]).take frees.sum ∧
        (r.complete = true ↔ 24 * pixels.length < frees.sum)) ∧
    ∀ frames : List (List Rgb × List ℕ), (∀ frame ∈ frames, 24 * frame.1.length < frame.2.sum) →
      let encoder := ws2812Encoder bytesEncoder copyEncoder (hcopy _)
      let r := encoder.transmitAll
        (frames.map fun frame ↦ (pixelCode.encodeAll frame.1, frame.2)) encoder.init
      readFrames [] r.1 = some (frames.map Prod.fst) ∧ r.2 = encoder.init := by
  refine ⟨transmit_frame hbytes hcopy, ?_⟩
  intro frames henough encoder r
  have hsessions : ∀ session ∈ frames.map fun frame ↦ (pixelCode.encodeAll frame.1, frame.2),
      session.2 ≠ [] ∧ (encoder.symbols session.1).length ≤ session.2.sum := by
    intro session hsession
    obtain ⟨frame, hframe, rfl⟩ := List.mem_map.mp hsession
    have hlt := henough frame hframe
    constructor
    · rintro hnil
      rw [hnil] at hlt
      exact absurd hlt (Nat.not_lt_zero _)
    · rw [symbols_frame hbytes hcopy, length_frame]
      exact hlt
  have hall := encoder.transmitAll_eq hsessions
  refine ⟨?_, congrArg Prod.snd hall⟩
  calc
    readFrames [] r.1 = readFrames [] ((frames.map Prod.fst).flatMap fun pixels ↦
        ledCode.encodeAll pixels ++ [ws2812ResetCode]) := by
      apply congrArg (readFrames [])
      rw [congrArg Prod.fst hall, List.flatMap_map, List.flatMap_map]
      exact List.flatMap_congr fun frame _ ↦ symbols_frame hbytes hcopy frame.1
    _ = some (frames.map Prod.fst) := readFrames_frames _

/-- The memory of 64 symbols is filled and then refilled by halves. -/
theorem line_carries_frames_refilled : ∃ symbols,
    symbols.length = 386 ∧ readFrames [] symbols =
      some [List.replicate 8 ⟨255, 12, 0⟩, List.replicate 8 ⟨0, 0, 0⟩] := by
  have hlt : ∀ frame ∈ [(List.replicate 8 (⟨255, 12, 0⟩ : Rgb), [64, 32, 32, 32, 32, 32]),
      (List.replicate 8 ⟨0, 0, 0⟩, [64, 32, 32, 32, 32, 32])],
      24 * frame.1.length < frame.2.sum := by decide
  have hframes := (@line_carries_frames (.counting byteCode.encodeAll)
    (.counting fun symbol ↦ [symbol]) (fun _ ↦ rfl) (fun _ ↦ rfl)).2 _ hlt
  exact ⟨_, by decide +kernel, hframes.1⟩

end Line

/-! ## The frames -/

/-- A warm colour: red outshines green, and green outshines blue. -/
def Rgb.Warm (p : Rgb) : Prop := p.b < p.g ∧ p.g < p.r ∧ 90 ≤ p.r

def Rgb.black : Rgb := ⟨0, 0, 0⟩

/-- The bytes of the pixels in `s_pixels`. -/
def frameOf (pixels : List Rgb) : List ℕ :=
  pixels.flatMap fun p ↦ pixelRgb p.r.toNat p.g.toNat p.b.toNat

/-- A frame that is dark or warm all over. -/
def ShowsWarm (frame : List ℕ) : Prop :=
  ∃ pixels : List Rgb, pixels.length = neopixelCount ∧ frame = frameOf pixels ∧
    (pixels = List.replicate neopixelCount .black ∨ ∀ p ∈ pixels, p.Warm)

/-- The animations never overflow, and their floor of brightness is never needed. -/
theorem engineBright_eq (base flicker : ℕ) :
    engineBright base flicker = 90 + base % 90 + flicker % 70 := by
  unfold engineBright
  dsimp only
  rw [Nat.mod_eq_of_lt (by omega), if_neg (by omega)]

theorem lerpU8_eq {a b mix : ℕ} (ha : a ≤ 255) (hb : b ≤ 255) (hmix : mix ≤ 255) :
    lerpU8 a b mix 255 = (a * (255 - mix) + b * mix) / 255 := by
  have hmul := Nat.mul_le_mul_right (255 - mix) ha
  have hmul' := Nat.mul_le_mul_right mix hb
  unfold lerpU8
  split
  · obtain rfl : mix = 255 := by omega
    omega
  · exact Nat.mod_eq_of_lt (by omega)

theorem warm_of_lt {r g b : ℕ} (hbg : b < g) (hgr : g < r) (hr : 90 ≤ r) (hr' : r < 256) :
    ∃ p : Rgb, p.Warm ∧ pixelRgb p.r.toNat p.g.toNat p.b.toNat = pixelRgb r g b := by
  have hmod : ∀ n < 256, (UInt8.ofNat n).toNat = n := by
    intro n hn
    rw [UInt8.toNat_ofNat', Nat.mod_eq_of_lt hn]
  refine ⟨⟨UInt8.ofNat r, UInt8.ofNat g, UInt8.ofNat b⟩, ⟨?_, ?_, ?_⟩, ?_⟩
  · rw [UInt8.lt_iff_toNat_lt, hmod b (by omega), hmod g (by omega)]
    exact hbg
  · rw [UInt8.lt_iff_toNat_lt, hmod g (by omega), hmod r hr']
    exact hgr
  · rw [UInt8.le_iff_toNat_le, hmod r hr']
    exact hr
  · rw [hmod r hr', hmod g (by omega), hmod b (by omega)]

theorem warm_enginePixel (x y z : ℕ) :
    ∃ p : Rgb, p.Warm ∧ pixelRgb p.r.toNat p.g.toNat p.b.toNat = enginePixel x y z := by
  have hbright := engineBright_eq x y
  have hmin : 90 ≤ engineBright x y := by omega
  have hmax : engineBright x y ≤ 248 := by omega
  have hgreen : engineBright x y * 28 / 100 % 256 = engineBright x y * 28 / 100 :=
    Nat.mod_eq_of_lt (by omega)
  unfold enginePixel
  dsimp only
  rw [hgreen]
  apply warm_of_lt
  all_goals omega

/-- The colours between red and orange, at any brightness. -/
theorem warm_scaled {g b bright : ℕ} (hbright : 90 ≤ bright) (hbright' : bright ≤ 248)
    (hg : g ≤ 120) (hb : b + 4 ≤ g) :
    ∃ p : Rgb, p.Warm ∧ pixelRgb p.r.toNat p.g.toNat p.b.toNat =
      pixelRgb (scaleBright 255 bright) (scaleBright g bright) (scaleBright b bright) := by
  have hgmul : g * bright ≤ 120 * bright := Nat.mul_le_mul_right bright hg
  have hbmul : b * bright + 4 * bright ≤ g * bright := by
    rw [← Nat.add_mul]
    exact Nat.mul_le_mul_right bright hb
  unfold scaleBright
  dsimp only
  rw [if_neg (by omega : ¬g * bright / 180 > 255), if_neg (by omega : ¬b * bright / 180 > 255)]
  apply warm_of_lt
  · omega
  all_goals split <;> omega

theorem warm_mistPixel (x y z : ℕ) :
    ∃ p : Rgb, p.Warm ∧ pixelRgb p.r.toNat p.g.toNat p.b.toNat = mistPixel x y z := by
  have hbright := engineBright_eq y z
  have hmix : x % 256 ≤ 255 := by omega
  unfold mistPixel
  dsimp only
  have hred : lerpU8 255 255 (x % 256) 255 = 255 := by
    rw [lerpU8_eq le_rfl le_rfl hmix]
    omega
  have hgreen := lerpU8_eq (by decide : 12 ≤ 255) (by decide : 120 ≤ 255) hmix
  have hblue := lerpU8_eq (by decide : 0 ≤ 255) (by decide : 8 ≤ 255) hmix
  rw [hred]
  apply warm_scaled
  all_goals omega

/-! ## Every sequence of operations -/

theorem showsWarm_black : ShowsWarm blackFrame :=
  ⟨List.replicate neopixelCount .black, rfl, rfl, .inl rfl⟩

/-- A rendered frame glows. -/
theorem showsWarm_renderFrame {pixel : ℕ → ℕ → ℕ → List ℕ}
    (hpixel : ∀ x y z, ∃ p : Rgb, p.Warm ∧ pixelRgb p.r.toNat p.g.toNat p.b.toNat = pixel x y z)
    (random : ℕ → ℕ) (draws : ℕ) : ShowsWarm (renderFrame pixel random draws) := by
  choose color hwarm hcolor using hpixel
  let colorAt (i : ℕ) : Rgb :=
    color (random (draws + 3 * i)) (random (draws + 3 * i + 1)) (random (draws + 3 * i + 2))
  refine ⟨(List.range neopixelCount).map colorAt, ?_, ?_, .inr ?_⟩
  · rw [List.length_map, List.length_range]
  · unfold frameOf
    rw [List.flatMap_map]
    exact List.flatMap_congr fun i _ ↦ (hcolor _ _ _).symm
  · intro p hp
    obtain ⟨i, -, rfl⟩ := List.mem_map.mp hp
    exact hwarm _ _ _

/-- Everything that the module has prepared or sent. -/
structure Strip.Warm (s : Strip) : Prop where
  pixels : ShowsWarm s.pixels
  accepted : ShowsWarm s.accepted

namespace Strip.Warm

variable {env : StripEnv} {s : Strip}

theorem flushPixels (h : s.Warm) : (s.flushPixels env).Warm := by
  refine ⟨h.pixels, ?_⟩
  change ShowsWarm (if env.busy s.attempts then s.accepted else s.pixels)
  split
  · exact h.accepted
  · exact h.pixels

theorem renderEngineFrame (h : s.Warm) : (s.renderEngineFrame env).Warm :=
  ⟨showsWarm_renderFrame warm_enginePixel env.random s.draws, h.accepted⟩

theorem renderMistFrame (h : s.Warm) : (s.renderMistFrame env).Warm :=
  ⟨showsWarm_renderFrame warm_mistPixel env.random s.draws, h.accepted⟩

theorem ensureAnimLocked (h : s.Warm) : (s.ensureAnimLocked env).Warm := by
  unfold Strip.ensureAnimLocked
  dsimp only
  split
  · have hrendered : (if s.mist then s.renderMistFrame env else s.renderEngineFrame env).Warm := by
      split
      · exact h.renderMistFrame
      · exact h.renderEngineFrame
    have hflushed : (Strip.flushPixels env _).Warm := hrendered.flushPixels
    exact ⟨hflushed.pixels, hflushed.accepted⟩
  · split
    · apply flushPixels
      exact ⟨showsWarm_black, h.accepted⟩
    · exact h

theorem setEngineWantedLocked (h : s.Warm) (enabled : Bool) :
    (s.setEngineWantedLocked env enabled).Warm := by
  have hwanted : ({ s with engineWanted := enabled } : Strip).Warm := ⟨h.pixels, h.accepted⟩
  unfold Strip.setEngineWantedLocked
  dsimp only
  split
  · exact h
  · split
    · exact hwanted
    · exact hwanted.ensureAnimLocked

theorem mistSet (h : s.Warm) (on : Bool) : (s.mistSet env on).Warm := by
  have hset : ({ s with mist := on } : Strip).Warm := ⟨h.pixels, h.accepted⟩
  unfold Strip.mistSet
  cases on with
  | true => exact hset.ensureAnimLocked.renderMistFrame.flushPixels
  | false =>
    rw [if_neg Bool.false_ne_true]
    split
    · dsimp only
      split
      · exact hset.ensureAnimLocked.renderEngineFrame.flushPixels
      · exact hset.ensureAnimLocked
    · exact h

theorem animTimerCb (h : s.Warm) : (s.animTimerCb env).Warm := by
  unfold Strip.animTimerCb
  split
  · exact h.renderMistFrame.flushPixels
  · split
    · exact h.renderEngineFrame.flushPixels
    · exact h

theorem next (h : s.Warm) (e : StripEvent) : (s.next env e).Warm := by
  cases e with
  | mistSet on => exact h.mistSet on
  | setEnabled enabled => exact h.setEngineWantedLocked enabled
  | toggle => exact h.setEngineWantedLocked _
  | tick => exact h.animTimerCb

end Strip.Warm

/-- The bytes that the transmitter is handed. -/
theorem map_frameOf (pixels : List Rgb) :
    (frameOf pixels).map UInt8.ofNat = pixelCode.encodeAll pixels := by
  unfold frameOf
  rw [List.map_flatMap]
  apply List.flatMap_congr
  intro p _
  change [UInt8.ofNat p.g.toNat, UInt8.ofNat p.r.toNat, UInt8.ofNat p.b.toNat] = [p.g, p.r, p.b]
  rw [UInt8.ofNat_toNat, UInt8.ofNat_toNat, UInt8.ofNat_toNat]

/-- **The strip is dark or glows warm**: after any operations, the frame that the transmitter took last
was, when it was taken, that of eight pixels which are all black or in all of which red outshines
green and green outshines blue. -/
theorem strip_dark_or_warm {env : StripEnv} {log : List (Entry Strip StripEvent)} {s : Strip}
    (hrun : StripRun env log s) :
    ∃ pixels : List Rgb, pixels.length = neopixelCount ∧
      s.accepted.map UInt8.ofNat = pixelCode.encodeAll pixels ∧
      (pixels = List.replicate neopixelCount .black ∨ ∀ p ∈ pixels, p.Warm) := by
  have hwarm : s.Warm := by
    refine hrun.invariant (I := fun _ s ↦ s.Warm) ?_ fun _ _ e _ h _ ↦ h.next e
    rintro s rfl
    exact ⟨showsWarm_black, showsWarm_black⟩
  obtain ⟨pixels, hlength, hframe, hcolors⟩ := hwarm.accepted
  exact ⟨pixels, hlength, hframe ▸ map_frameOf pixels, hcolors⟩

/-- The mist is on. -/
theorem strip_dark_or_warm_mist : ∃ log s, StripRun ⟨fun _ ↦ false, fun n ↦ n⟩ log s ∧
    s.mist = true ∧ ∃ pixels : List Rgb, pixels.length = neopixelCount ∧
      s.accepted.map UInt8.ofNat = pixelCode.encodeAll pixels ∧ ∀ p ∈ pixels, p.Warm := by
  obtain ⟨log, s, hrun, hend⟩ := exists_stripRun ⟨fun _ ↦ false, fun n ↦ n⟩ [.mistSet true, .tick]
    (fun r ↦ r.2.mist && decide (r.2.accepted.map UInt8.ofNat ≠
      pixelCode.encodeAll (List.replicate neopixelCount .black))) (by decide +kernel)
  obtain ⟨hmist, hlit⟩ := Bool.and_eq_true_iff.mp hend
  obtain ⟨pixels, hlength, hframe, rfl | hwarm⟩ := strip_dark_or_warm hrun
  · exact absurd hframe (of_decide_eq_true hlit)
  · exact ⟨log, s, hrun, hmist, pixels, hlength, hframe, hwarm⟩

end Nutcracker
