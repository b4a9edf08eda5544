import Mathlib

/-!
# The light strip

`rccar_neopixel.c`: eight WS2812 pixels behind the RMT transmitter.  A frame is skipped when the
transmitter is still busy with the one before.  The environment decides, for every attempt to send
a frame, whether the transmitter is busy, and supplies the random numbers of the animations.  The
mutex is always obtained, so every function of the module is one step.
-/

namespace Nutcracker

/-! ## Frames -/

abbrev neopixelCount : ℕ := 8

def engineBright (base flicker : ℕ) : ℕ :=
  let bright := (90 + base % 90 + flicker % 70) % 256
  if bright < 50 then 50 else bright

def lerpU8 (a b num den : ℕ) : ℕ :=
  if den = 0 ∨ num ≥ den then b else (a * (den - num) + b * num) / den % 256

def scaleBright (color bright : ℕ) : ℕ :=
  let v := color * bright / 180
  if v > 255 then 255 else v

/-- The bytes of a pixel, green first. -/
def pixelRgb (r g b : ℕ) : List ℕ := [g, r, b]

/-- A pixel of the engine animation from three random numbers. -/
def enginePixel (x y z : ℕ) : List ℕ :=
  let bright := engineBright x y
  pixelRgb bright (bright * 28 / 100 % 256) (z % 18)

/-- A pixel of the mist animation, between red and orange. -/
def mistPixel (x y z : ℕ) : List ℕ :=
  let mix := x % 256
  let bright := engineBright y z
  pixelRgb (scaleBright (lerpU8 255 255 mix 255) bright) (scaleBright (lerpU8 12 120 mix 255) bright)
    (scaleBright (lerpU8 0 8 mix 255) bright)

/-- The bytes of all pixels, each from the next three random numbers. -/
def renderFrame (pixel : ℕ → ℕ → ℕ → List ℕ) (random : ℕ → ℕ) (draws : ℕ) : List ℕ :=
  (List.range neopixelCount).flatMap fun i ↦
    pixel (random (draws + 3 * i)) (random (draws + 3 * i + 1)) (random (draws + 3 * i + 2))

def blackFrame : List ℕ := List.replicate (neopixelCount * 3) 0

/-! ## State -/

/-- What the environment decides: at the `n`-th attempt to send, and the `n`-th random number. -/
structure StripEnv where
  busy : ℕ → Bool
  random : ℕ → ℕ

/-- The static variables of the module.  `animating` is the state of `s_anim_timer`, `accepted` the
last frame that the transmitter took, as it was in `s_pixels` then. -/
structure Strip where
  engineWanted : Bool := false
  mist : Bool := false
  animating : Bool := false
  pixels : List ℕ := blackFrame
  accepted : List ℕ := blackFrame
  attempts : ℕ := 0
  draws : ℕ := 0

namespace Strip

variable (env : StripEnv) (s : Strip)

/-- The transmitter takes the frame in `s_pixels`; it goes on reading `s_pixels` while it sends, which
`accepted` does not follow. -/
def flushPixels : Strip where
  engineWanted := s.engineWanted
  mist := s.mist
  animating := s.animating
  pixels := s.pixels
  accepted := if env.busy s.attempts then s.accepted else s.pixels
  attempts := s.attempts + 1
  draws := s.draws

def renderEngineFrame : Strip :=
  { s with
    pixels := renderFrame enginePixel env.random s.draws
    draws := s.draws + 3 * neopixelCount }

def renderMistFrame : Strip :=
  { s with
    pixels := renderFrame mistPixel env.random s.draws
    draws := s.draws + 3 * neopixelCount }

def blackoutLocked : Strip := { s with pixels := blackFrame }.flushPixels env

def ensureAnimLocked : Strip :=
  let want := s.mist || s.engineWanted
  if want && !s.animating then
    let s := if s.mist then s.renderMistFrame env else s.renderEngineFrame env
    { s.flushPixels env with animating := true }
  else if !want && s.animating then
    { s with animating := false }.blackoutLocked env
  else
    s

def animTimerCb : Strip :=
  if s.mist then (s.renderMistFrame env).flushPixels env
  else if s.engineWanted then (s.renderEngineFrame env).flushPixels env
  else s

def setEngineWantedLocked (enabled : Bool) : Strip :=
  if s.engineWanted = enabled then s
  else
    let s := { s with engineWanted := enabled }
    if s.mist then s else s.ensureAnimLocked env

def toggle : Strip := s.setEngineWantedLocked env (!s.engineWanted)

def setEnabled (enabled : Bool) : Strip := s.setEngineWantedLocked env enabled

def mistSet (on : Bool) : Strip :=
  if on then
    (({ s with mist := true }.ensureAnimLocked env).renderMistFrame env).flushPixels env
  else if s.mist then
    let s := { s with mist := false }.ensureAnimLocked env
    if s.engineWanted then (s.renderEngineFrame env).flushPixels env else s
  else
    s

end Strip

/-- After `rccar_neopixel_init`, which blacks the strip out. -/
def Strip.init : Strip := {}

inductive StripEvent
  | mistSet (on : Bool)
  | setEnabled (enabled : Bool)
  | toggle
  | tick
  deriving DecidableEq

/-- One operation of the module. -/
def Strip.next (env : StripEnv) (s : Strip) : StripEvent → Strip
  | .mistSet on => s.mistSet env on
  | .setEnabled enabled => s.setEnabled env enabled
  | .toggle => s.toggle env
  | .tick => s.animTimerCb env

end Nutcracker
