import Nutcracker.Program.BlockCode
import Nutcracker.Program.Resumable

/-!
# The encoder of the light strip

`rccar_ws2812_encoder.c`: the bytes of a frame and then the reset code, written by two encoders of the
RMT driver into whatever memory the transmitter has free.
-/

namespace Nutcracker

/-! ## Symbols -/

/-- `rmt_symbol_word_t`. -/
@[ext]
structure RmtSymbol where
  level0 : Bool
  duration0 : ℕ
  level1 : Bool
  duration1 : ℕ
  deriving DecidableEq

abbrev rmtResolutionHz : ℕ := 10000000

/-- Ticks of so many tenths of a microsecond. -/
def rmtTicks (tenths : ℕ) : ℕ := tenths * rmtResolutionHz / 10000000

abbrev ws2812Bit0 : RmtSymbol := ⟨true, rmtTicks 3, false, rmtTicks 9⟩
abbrev ws2812Bit1 : RmtSymbol := ⟨true, rmtTicks 9, false, rmtTicks 3⟩

/-- `reset_ticks`. -/
abbrev ws2812ResetTicks : ℕ := rmtResolutionHz / 1000000 * 50 / 2

abbrev ws2812ResetCode : RmtSymbol := ⟨false, ws2812ResetTicks, false, ws2812ResetTicks⟩

/-! ## The encoder -/

section Encoder

/- The bytes encoder and the copy encoder of the driver. -/
variable (bytesEncoder : Resumable (List UInt8) RmtSymbol)
  (copyEncoder : Resumable RmtSymbol RmtSymbol)

/-- `rccar_ws2812_encoder_t`, with the states of the two encoders. -/
structure Ws2812Encoder where
  bytes : bytesEncoder.State
  copy : copyEncoder.State
  state : ℕ

namespace Ws2812Encoder

variable {bytesEncoder copyEncoder}

/-- `rccar_ws2812_reset_encoder`, also the state of a new encoder. -/
def reset : Ws2812Encoder bytesEncoder copyEncoder where
  bytes := bytesEncoder.init
  copy := copyEncoder.init
  state := 0

/-- The second case of the switch, after `symbols`. -/
def encodeReset (symbols : List RmtSymbol) (free : ℕ) (e : Ws2812Encoder bytesEncoder copyEncoder) :
    Encoded (Ws2812Encoder bytesEncoder copyEncoder) RmtSymbol :=
  let r := copyEncoder.encode ws2812ResetCode free e.copy
  { symbols := symbols ++ r.symbols
    complete := r.complete
    memFull := r.memFull
    next := { e with copy := r.next, state := if r.complete then 0 else e.state } }

def encode (data : List UInt8) (free : ℕ) (e : Ws2812Encoder bytesEncoder copyEncoder) :
    Encoded (Ws2812Encoder bytesEncoder copyEncoder) RmtSymbol :=
  if e.state = 0 then
    let r := bytesEncoder.encode data free e.bytes
    let e := { e with bytes := r.next, state := if r.complete then 1 else e.state }
    if r.memFull then ⟨r.symbols, false, true, e⟩
    -- what the bytes have left free
    else e.encodeReset r.symbols (free - r.symbols.length)
  else if e.state = 1 then e.encodeReset [] free
  else ⟨[], false, false, e⟩

/-- One of the two encoders is at the beginning of its session. -/
def Ok (e : Ws2812Encoder bytesEncoder copyEncoder) : Prop :=
  (e.state = 0 ∧ e.copy = copyEncoder.init) ∨ (e.state = 1 ∧ e.bytes = bytesEncoder.init)

/-- What a session has still to write. -/
def rest (e : Ws2812Encoder bytesEncoder copyEncoder) (data : List UInt8) : List RmtSymbol :=
  if e.state = 0 then
    bytesEncoder.rest e.bytes data ++ copyEncoder.rest e.copy ws2812ResetCode
  else copyEncoder.rest e.copy ws2812ResetCode

/-- What a call does to a session. -/
structure Advances (data : List UInt8) (free : ℕ) (rest : List RmtSymbol)
    (r : Encoded (Ws2812Encoder bytesEncoder copyEncoder) RmtSymbol) : Prop where
  ok : r.next.Ok
  symbols : r.symbols = rest.take free
  complete : r.complete = true ↔ rest.length ≤ free
  next : r.complete = true → r.next = reset
  rest_next : r.complete = false → r.next.rest data = rest.drop free
  memFull : r.complete = false → r.memFull = true
  le_of_memFull : r.memFull = true → free ≤ rest.length

/-- With the bytes written, the copy encoder decides. -/
theorem encodeReset_advances {e : Ws2812Encoder bytesEncoder copyEncoder} (hstate : e.state = 1)
    (hbytes : e.bytes = bytesEncoder.init) {data : List UInt8} {written : List RmtSymbol}
    {free : ℕ} (hfree : written.length ≤ free) :
    Advances data free (written ++ copyEncoder.rest e.copy ws2812ResetCode)
      (e.encodeReset written (free - written.length)) := by
  have hsymbols := copyEncoder.symbols_eq ws2812ResetCode (free - written.length) e.copy
  have hcomplete := copyEncoder.complete_iff ws2812ResetCode (free - written.length) e.copy
  constructor
  case symbols =>
    change written ++ (copyEncoder.encode _ _ _).symbols = _
    rw [hsymbols, List.take_append, List.take_of_length_le hfree]
  case complete =>
    change (copyEncoder.encode _ _ _).complete = true ↔ _
    rw [hcomplete, List.length_append]
    omega
  case ok =>
    cases h : (copyEncoder.encode ws2812ResetCode (free - written.length) e.copy).complete with
    | true => exact .inl ⟨if_pos h, copyEncoder.next_of_complete h⟩
    | false => exact .inr ⟨(if_neg (Bool.eq_false_iff.mp h)).trans hstate, hbytes⟩
  case next =>
    intro h
    change (copyEncoder.encode _ _ _).complete = true at h
    change Ws2812Encoder.mk e.bytes (copyEncoder.encode _ _ _).next (if _ then 0 else _) = reset
    rw [hbytes, copyEncoder.next_of_complete h, if_pos h]
    rfl
  case rest_next =>
    intro h
    change (copyEncoder.encode _ _ _).complete = false at h
    have hstate' : (e.encodeReset written (free - written.length)).next.state = 1 :=
      (if_neg (Bool.eq_false_iff.mp h)).trans hstate
    unfold rest
    rw [hstate', if_neg (by decide)]
    change copyEncoder.rest (copyEncoder.encode _ _ _).next _ = _
    rw [copyEncoder.rest_next h, List.drop_append, List.drop_of_length_le hfree, List.nil_append]
  case memFull => exact copyEncoder.memFull_of_incomplete
  case le_of_memFull =>
    intro h
    have hle := copyEncoder.le_of_memFull h
    rw [List.length_append]
    omega

theorem encode_advances (hcopy : copyEncoder.symbols ws2812ResetCode = [ws2812ResetCode])
    {e : Ws2812Encoder bytesEncoder copyEncoder} (he : e.Ok) (data : List UInt8) (free : ℕ) :
    Advances data free (e.rest data) (e.encode data free) := by
  rcases he with ⟨hstate, hinit⟩ | ⟨hstate, hinit⟩
  · have hsymbols := bytesEncoder.symbols_eq data free e.bytes
    have hcomplete_iff := bytesEncoder.complete_iff data free e.bytes
    have hreset : (copyEncoder.rest e.copy ws2812ResetCode).length = 1 := by
      rw [hinit]
      exact congrArg List.length hcopy
    have hrest : e.rest data =
        bytesEncoder.rest e.bytes data ++ copyEncoder.rest e.copy ws2812ResetCode := if_pos hstate
    unfold encode
    rw [if_pos hstate, hrest]
    dsimp only
    cases hcomplete : (bytesEncoder.encode data free e.bytes).complete with
    | false =>
      -- the memory is full before the bytes are written
      have hlength := bytesEncoder.incomplete_iff.mp hcomplete
      rw [if_pos (bytesEncoder.memFull_of_incomplete hcomplete), if_neg Bool.false_ne_true]
      constructor
      case ok => exact .inl ⟨hstate, hinit⟩
      case symbols => exact hsymbols.trans (List.take_append_of_le_length hlength.le).symm
      case complete =>
        rw [List.length_append, iff_false_left Bool.false_ne_true]
        omega
      case next => exact fun h ↦ Bool.noConfusion h
      case rest_next =>
        intro _
        unfold rest
        rw [if_pos hstate, List.drop_append_of_le_length hlength.le]
        exact congrArg (· ++ _) (bytesEncoder.rest_next hcomplete)
      case memFull => exact fun _ ↦ rfl
      case le_of_memFull =>
        intro _
        rw [List.length_append]
        omega
    | true =>
      have hlength := hcomplete_iff.mp hcomplete
      have hnext := bytesEncoder.next_of_complete hcomplete
      rw [List.take_of_length_le hlength] at hsymbols
      rw [if_pos rfl, hsymbols, hnext]
      cases hfull : (bytesEncoder.encode data free e.bytes).memFull with
      | false =>
        rw [if_neg Bool.false_ne_true]
        exact encodeReset_advances (e := ⟨bytesEncoder.init, e.copy, 1⟩) rfl rfl hlength
      | true =>
        -- the bytes fill the memory, and the reset code has to wait
        have hfree : (bytesEncoder.rest e.bytes data).length = free :=
          le_antisymm hlength (bytesEncoder.le_of_memFull hfull)
        rw [if_pos rfl]
        constructor
        case ok => exact .inr ⟨rfl, rfl⟩
        case symbols => exact (List.take_left' hfree).symm
        case complete =>
          rw [List.length_append, iff_false_left Bool.false_ne_true]
          omega
        case next => exact fun h ↦ Bool.noConfusion h
        case rest_next => exact fun _ ↦ (List.drop_left' hfree).symm
        case memFull => exact fun _ ↦ rfl
        case le_of_memFull =>
          intro _
          rw [List.length_append]
          omega
  · have hrest : e.rest data = [] ++ copyEncoder.rest e.copy ws2812ResetCode := by
      unfold rest
      rw [hstate, if_neg (by decide), List.nil_append]
    unfold encode
    rw [hrest, if_neg (by omega), if_pos hstate]
    exact encodeReset_advances hstate hinit (Nat.zero_le free)

end Ws2812Encoder

/-- The encoder as one that can be resumed. -/
def ws2812Encoder (hcopy : copyEncoder.symbols ws2812ResetCode = [ws2812ResetCode]) :
    Resumable (List UInt8) RmtSymbol where
  State := { e : Ws2812Encoder bytesEncoder copyEncoder // e.Ok }
  init := ⟨.reset, .inl ⟨rfl, rfl⟩⟩
  rest e data := e.1.rest data
  encode data free e :=
    let r := e.1.encode data free
    ⟨r.symbols, r.complete, r.memFull, ⟨r.next, (Ws2812Encoder.encode_advances hcopy e.2 data free).ok⟩⟩
  symbols_eq data free e := (Ws2812Encoder.encode_advances hcopy e.2 data free).symbols
  complete_iff data free e := (Ws2812Encoder.encode_advances hcopy e.2 data free).complete
  next_of_complete {data free e} h :=
    Subtype.ext ((Ws2812Encoder.encode_advances hcopy e.2 data free).next h)
  rest_next {data free e} h := (Ws2812Encoder.encode_advances hcopy e.2 data free).rest_next h
  memFull_of_incomplete {data free e} h := (Ws2812Encoder.encode_advances hcopy e.2 data free).memFull h
  le_of_memFull {data free e} h := (Ws2812Encoder.encode_advances hcopy e.2 data free).le_of_memFull h

theorem ws2812Encoder_symbols (hcopy : copyEncoder.symbols ws2812ResetCode = [ws2812ResetCode])
    (data : List UInt8) : (ws2812Encoder bytesEncoder copyEncoder hcopy).symbols data =
      bytesEncoder.symbols data ++ [ws2812ResetCode] := by
  rw [← hcopy]
  rfl

end Encoder

/-! ## What the pixels read -/

/-- A colour. -/
structure Rgb where
  r : UInt8
  g : UInt8
  b : UInt8
  deriving DecidableEq

/-- The bytes of a pixel, green first. -/
def pixelCode : BlockCode Rgb UInt8 where
  size := 3
  size_pos := by decide
  encode p := [p.g, p.r, p.b]
  decode
    | [g, r, b] => some ⟨r, g, b⟩
    | _ => none
  length_encode _ := rfl
  decode_eq_some := by
    intro block p
    constructor
    · intro h
      split at h
      · obtain rfl := Option.some.inj h
        rfl
      · cases h
    · rintro rfl
      rfl

/-- The bits of a byte, most significant first. -/
def byteBits : BlockCode UInt8 Bool where
  size := 8
  size_pos := by decide
  encode b := (List.range 8).map b.toBitVec.getMsbD
  decode bits := if h : bits.length = 8 then some ⟨(BitVec.ofBoolListBE bits).cast h⟩ else none
  length_encode b := by rw [List.length_map, List.length_range]
  decode_eq_some := by
    intro bits b
    constructor
    · intro h
      split at h
      · rename_i hlength
        obtain rfl := Option.some.inj h
        apply List.ext_getElem
        · rw [List.length_map, List.length_range, hlength]
        · intro i hi _
          rw [List.getElem_map, List.getElem_range, BitVec.getMsbD_cast,
            BitVec.getMsbD_ofBoolListBE, List.getD_eq_getElem _ _ hi]
      · cases h
    · rintro rfl
      have hlength : ((List.range 8).map b.toBitVec.getMsbD).length = 8 := by
        rw [List.length_map, List.length_range]
      rw [dif_pos hlength]
      apply congrArg some
      apply UInt8.toBitVec_inj.mp
      apply BitVec.eq_of_getMsbD_eq
      intro i hi
      have hi' : i < ((List.range 8).map b.toBitVec.getMsbD).length := hlength.symm ▸ hi
      rw [BitVec.getMsbD_cast, BitVec.getMsbD_ofBoolListBE, List.getD_eq_getElem _ _ hi',
        List.getElem_map, List.getElem_range]

/-- A bit as a symbol. -/
def bitCode : BlockCode Bool RmtSymbol where
  size := 1
  size_pos := by decide
  encode bit := [if bit then ws2812Bit1 else ws2812Bit0]
  decode
    | [symbol] =>
      if symbol = ws2812Bit1 then some true
      else if symbol = ws2812Bit0 then some false
      else none
    | _ => none
  length_encode _ := rfl
  decode_eq_some := by
    intro block bit
    constructor
    · intro h
      split at h
      · split at h
        · obtain rfl := Option.some.inj h
          rename_i hsymbol
          rw [hsymbol]
          rfl
        · obtain ⟨hsymbol, hbit⟩ := Option.ite_none_right_eq_some.mp h
          obtain rfl := Option.some.inj hbit
          rw [hsymbol]
          rfl
      · cases h
    · rintro rfl
      cases bit <;> rfl

/-- The symbols of a byte, and of a pixel. -/
def byteCode : BlockCode UInt8 RmtSymbol := byteBits.comp bitCode

def ledCode : BlockCode Rgb RmtSymbol := pixelCode.comp byteCode

theorem ledCode_encodeAll (pixels : List Rgb) :
    ledCode.encodeAll pixels = byteCode.encodeAll (pixelCode.encodeAll pixels) :=
  pixelCode.encodeAll_comp byteCode pixels

/-- No pixel takes a symbol of its colour for the reset code. -/
theorem resetCode_not_mem (pixels : List Rgb) : ws2812ResetCode ∉ ledCode.encodeAll pixels := by
  have hbit : ∀ bits : List Bool, ws2812ResetCode ∉ bitCode.encodeAll bits := by
    intro bits hmem
    obtain ⟨bit, -, hbit⟩ := List.mem_flatMap.mp hmem
    obtain hsymbol := List.mem_singleton.mp hbit
    cases bit <;> exact absurd hsymbol (by decide)
  rw [ledCode_encodeAll]
  unfold byteCode
  rw [byteBits.encodeAll_comp bitCode]
  exact hbit _

/-- The frames on a line: what stands between two reset codes, read by the pixels. -/
def readFrames : List RmtSymbol → List RmtSymbol → Option (List (List Rgb))
  | frame, [] => if frame.isEmpty then some [] else none
  | frame, symbol :: symbols =>
    if symbol = ws2812ResetCode then
      (ledCode.decodeAll frame).bind fun pixels ↦ (readFrames [] symbols).map (pixels :: ·)
    else readFrames (frame ++ [symbol]) symbols

theorem readFrames_append (frame symbols more : List RmtSymbol) (h : ws2812ResetCode ∉ symbols) :
    readFrames frame (symbols ++ more) = readFrames (frame ++ symbols) more := by
  induction symbols generalizing frame with
  | nil => rw [List.append_nil, List.nil_append]
  | cons symbol symbols ih =>
    obtain ⟨hsymbol, hrest⟩ := not_or.mp (List.mem_cons.not.mp h)
    rw [List.cons_append, readFrames, if_neg (Ne.symm hsymbol), ih _ hrest, List.append_assoc,
      List.singleton_append]

/-- The frames that were sent are read back. -/
theorem readFrames_frames (frames : List (List Rgb)) :
    readFrames [] (frames.flatMap fun pixels ↦ ledCode.encodeAll pixels ++ [ws2812ResetCode]) =
      some frames := by
  induction frames with
  | nil => rfl
  | cons pixels frames ih =>
    rw [List.flatMap_cons, List.append_assoc, readFrames_append _ _ _ (resetCode_not_mem pixels),
      List.nil_append, List.singleton_append, readFrames, if_pos rfl,
      ledCode.decodeAll_encodeAll, ih]
    rfl

end Nutcracker
