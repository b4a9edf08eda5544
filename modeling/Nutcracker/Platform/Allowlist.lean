import Mathlib

/-!
# The allowlist of gamepads

`sync_allowed_gamepads_from_kconfig` with the address scanner of btstack.  The list itself, its
switch and the stored property belong to Bluepad32: they are the parameter `AllowlistApi`, and
`AllowlistApi.Documented` is what the platform relies on.
-/

namespace Nutcracker

/-- A C string: its characters before the terminating NUL. -/
structure CString where
  chars : List Char
  noNul : '\x00' ∉ chars

/-- `*s`; the string ends with a NUL. -/
def charAt (s : List Char) (i : ℕ) : Char := s.getD i '\x00'

/-! ## Addresses -/

/-- `bd_addr_t`. -/
abbrev BdAddr : Type := List.Vector UInt8 6

def zeroAddr : BdAddr := List.Vector.replicate 6 0

/-- `nibble_for_char`; `none` stands for `-1`. -/
def nibbleForChar (c : Char) : Option ℕ :=
  if '0' ≤ c ∧ c ≤ '9' then some (c.toNat - '0'.toNat)
  else if 'a' ≤ c ∧ c ≤ 'f' then some (c.toNat - 'a'.toNat + 10)
  else if 'A' ≤ c ∧ c ≤ 'F' then some (c.toNat - 'A'.toNat + 10)
  else none

/-- `scan_hex_byte`; a missing first nibble is found before the second character is read. -/
def scanHexByte (s : List Char) : Option ℕ := do
  let upper ← nibbleForChar (charAt s 0)
  let lower ← nibbleForChar (charAt s 1)
  pure (upper <<< 4 ||| lower)

/-- At most one of the supported separators is skipped. -/
def skipSeparator (s : List Char) : List Char :=
  if charAt s 0 = ':' ∨ charAt s 0 = '-' ∨ charAt s 0 = ' ' then s.drop 1 else s

/-- The loop of `sscanf_bd_addr` over the `n` bytes still to be read; the separator is not checked
after the last one, and what follows it is ignored. -/
def scanBytes : (n : ℕ) → List Char → Option (List.Vector UInt8 n)
  | 0, _ => some .nil
  | n + 1, s => do
    let byte ← scanHexByte s
    let rest ← scanBytes n (if n = 0 then s.drop 2 else skipSeparator (s.drop 2))
    pure (UInt8.ofNat byte ::ᵥ rest)

/-- `sscanf_bd_addr`; `none` stands for the result `0`. -/
def sscanfBdAddr (s : List Char) : Option BdAddr := scanBytes 6 s

/-! ## Bluepad32 -/

/-- The functions of Bluepad32 that the platform calls, and what can be observed of its state. -/
structure AllowlistApi where
  State : Type
  /-- `uni_bt_allowlist_remove_all`. -/
  removeAll : State → State
  /-- `uni_bt_allowlist_add_addr`. -/
  addAddr : BdAddr → State → Bool × State
  /-- `uni_bt_allowlist_set_enabled`. -/
  setEnabled : Bool → State → State
  /-- `uni_property_set(UNI_PROPERTY_IDX_ALLOWLIST_ENABLED, ..)`. -/
  propertySet : Bool → State → State
  contents : State → Finset BdAddr
  /-- The number of occupied places. -/
  used : State → ℕ
  enabled : State → Bool
  /-- The stored property. -/
  stored : State → Bool

/-- What Bluepad32 documents.  Switching the list may or may not store the flag again. -/
structure AllowlistApi.Documented (api : AllowlistApi) (capacity : ℕ) : Prop where
  contents_removeAll (s : api.State) : api.contents (api.removeAll s) = ∅
  used_removeAll (s : api.State) : api.used (api.removeAll s) = 0
  contents_addAddr (a : BdAddr) (s : api.State) (hadded : (api.addAddr a s).1 = true) :
    api.contents (api.addAddr a s).2 = insert a (api.contents s)
  used_addAddr (a : BdAddr) (s : api.State) : api.used (api.addAddr a s).2 ≤ api.used s + 1
  full_addAddr (a : BdAddr) (s : api.State) (hfull : (api.addAddr a s).1 = false) :
    capacity ≤ api.used s
  contents_propertySet (b : Bool) (s : api.State) :
    api.contents (api.propertySet b s) = api.contents s
  stored_propertySet (b : Bool) (s : api.State) : api.stored (api.propertySet b s) = b
  contents_setEnabled (b : Bool) (s : api.State) :
    api.contents (api.setEnabled b s) = api.contents s
  enabled_setEnabled (b : Bool) (s : api.State) : api.enabled (api.setEnabled b s) = b
  stored_setEnabled (b : Bool) (s : api.State) :
    api.stored (api.setEnabled b s) = api.stored s ∨ api.stored (api.setEnabled b s) = b

/-! ## The slots -/

/-- `while (*s == ' ' || *s == '\t') s++`. -/
def skipBlanks : List Char → List Char
  | [] => []
  | c :: rest => if c = ' ' ∨ c = '\t' then skipBlanks rest else c :: rest

/-- The body of the loop over the slots, on `added` and the state of Bluepad32. -/
def syncSlot (api : AllowlistApi) (r : ℕ × api.State) (slot : CString) : ℕ × api.State :=
  let s := skipBlanks slot.chars
  if charAt s 0 = '\x00' then r
  else
    match sscanfBdAddr s with
    | none => r
    | some addr =>
      if addr = zeroAddr then r
      else
        let result := api.addAddr addr r.2
        if result.1 then (r.1 + 1, result.2) else (r.1, result.2)

/-- `sync_allowed_gamepads_from_kconfig` with the two configured slots. -/
def syncAllowedGamepadsFromKconfig (api : AllowlistApi) (mac1 mac2 : CString) (s : api.State) :
    api.State :=
  let r := [mac1, mac2].foldl (syncSlot api) (0, api.removeAll s)
  api.setEnabled (decide (r.1 > 0)) (api.propertySet (decide (r.1 > 0)) r.2)

end Nutcracker
