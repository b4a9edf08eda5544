import Nutcracker.Platform.Allowlist

/-!
# When the allowlist fails closed

The list ends with exactly the addresses that the slots spell, but it is switched on by the number
of additions.  Two slots that are filled in and spell no address leave it switched off.
-/

namespace Nutcracker

/-- Empty, or only spaces and tabs. -/
def CString.Blank (slot : CString) : Prop := ∀ c ∈ slot.chars, c = ' ' ∨ c = '\t'

instance (slot : CString) : Decidable slot.Blank :=
  List.decidableBAll (fun c ↦ c = ' ' ∨ c = '\t') slot.chars

/-- The address that a slot spells behind its leading blanks. -/
def CString.address (slot : CString) : Option BdAddr :=
  (sscanfBdAddr (skipBlanks slot.chars)).filter (· ≠ zeroAddr)

theorem CString.address_eq_some {slot : CString} {addr : BdAddr} : slot.address = some addr ↔
    sscanfBdAddr (skipBlanks slot.chars) = some addr ∧ addr ≠ zeroAddr := by
  unfold address
  rw [Option.filter_eq_some_iff, decide_eq_true_iff]

/-- What the allowlist promises: strangers get in only if nothing is filled in, and otherwise
exactly the addresses that are. -/
structure FailsClosed (api : AllowlistApi) (mac1 mac2 : CString) (s : api.State) : Prop where
  acceptsAny : api.enabled s = false ∨ api.stored s = false → mac1.Blank ∧ mac2.Blank
  restricts : ¬(mac1.Blank ∧ mac2.Blank) → api.enabled s = true ∧ api.stored s = true ∧
    ∀ addr, addr ∈ api.contents s ↔
      addr ≠ zeroAddr ∧ ∃ slot ∈ [mac1, mac2], ¬slot.Blank ∧
        sscanfBdAddr (skipBlanks slot.chars) = some addr

/-! ## Blank slots -/

theorem skipBlanks_eq_nil {s : List Char} : skipBlanks s = [] ↔ ∀ c ∈ s, c = ' ' ∨ c = '\t' := by
  induction s with
  | nil => simp [skipBlanks]
  | cons c rest ih =>
    unfold skipBlanks
    by_cases hc : c = ' ' ∨ c = '\t'
    · rw [if_pos hc, ih, List.forall_mem_cons, and_iff_right hc]
    · rw [if_neg hc]
      exact iff_of_false (List.cons_ne_nil _ _) fun h ↦ hc (h c List.mem_cons_self)

theorem skipBlanks_suffix (s : List Char) : skipBlanks s <:+ s := by
  induction s with
  | nil => exact List.suffix_rfl
  | cons c rest ih =>
    unfold skipBlanks
    split
    · exact ih.trans (List.suffix_cons c rest)
    · exact List.suffix_rfl

/-- The loop over the blanks stops at the terminating NUL exactly in a blank slot. -/
theorem charAt_skipBlanks (slot : CString) :
    charAt (skipBlanks slot.chars) 0 = '\x00' ↔ slot.Blank := by
  rw [CString.Blank, ← skipBlanks_eq_nil]
  have hsuffix := skipBlanks_suffix slot.chars
  cases hs : skipBlanks slot.chars with
  | nil => exact iff_of_true rfl rfl
  | cons c rest =>
    refine iff_of_false (fun hc ↦ slot.noNul ?_) (List.cons_ne_nil _ _)
    rw [hs] at hsuffix
    have hmem : c ∈ slot.chars := hsuffix.subset List.mem_cons_self
    exact hc ▸ hmem

/-- A blank slot spells nothing. -/
theorem not_blank_of_address {slot : CString} {addr : BdAddr} (h : slot.address = some addr) :
    ¬slot.Blank := by
  intro hblank
  obtain ⟨hscan, -⟩ := CString.address_eq_some.mp h
  rw [skipBlanks_eq_nil.mpr hblank] at hscan
  cases hscan

/-! ## One slot -/

section Slot

variable {api : AllowlistApi} {capacity : ℕ} (hdoc : api.Documented capacity)

theorem syncSlot_of_none (r : ℕ × api.State) {slot : CString} (h : slot.address = none) :
    syncSlot api r slot = r := by
  unfold syncSlot
  by_cases hnul : charAt (skipBlanks slot.chars) 0 = '\x00'
  · exact if_pos hnul
  · change (if _ then _ else _) = r
    rw [if_neg hnul]
    cases hscan : sscanfBdAddr (skipBlanks slot.chars) with
    | none => rfl
    | some addr =>
      by_cases hzero : addr = zeroAddr
      · exact if_pos hzero
      · cases h.symm.trans (CString.address_eq_some.mpr ⟨hscan, hzero⟩)

theorem syncSlot_of_some (r : ℕ × api.State) {slot : CString} {addr : BdAddr}
    (h : slot.address = some addr) : syncSlot api r slot =
      if (api.addAddr addr r.2).1 then (r.1 + 1, (api.addAddr addr r.2).2)
      else (r.1, (api.addAddr addr r.2).2) := by
  obtain ⟨hscan, hzero⟩ := CString.address_eq_some.mp h
  have hnul : charAt (skipBlanks slot.chars) 0 ≠ '\x00' := fun hnul ↦
    not_blank_of_address h ((charAt_skipBlanks slot).mp hnul)
  unfold syncSlot
  change (if _ then _ else _) = _
  rw [if_neg hnul, hscan]
  exact if_neg hzero

include hdoc

/-- As long as there is room, a slot adds the address that it spells. -/
theorem syncSlot_spec (r : ℕ × api.State) (slot : CString)
    (hroom : api.used r.2 < capacity) :
    (syncSlot api r slot).1 = r.1 + slot.address.toFinset.card ∧
      api.used (syncSlot api r slot).2 ≤ api.used r.2 + 1 ∧
      api.contents (syncSlot api r slot).2 = slot.address.toFinset ∪ api.contents r.2 := by
  cases h : slot.address with
  | none =>
    rw [syncSlot_of_none r h]
    simp
  | some addr =>
    have hadded : (api.addAddr addr r.2).1 = true := by
      by_contra hfull
      have hcapacity := hdoc.full_addAddr addr r.2 (Bool.eq_false_iff.mpr hfull)
      omega
    rw [syncSlot_of_some r h, if_pos hadded]
    refine ⟨by simp, hdoc.used_addAddr addr r.2, ?_⟩
    rw [hdoc.contents_addAddr addr r.2 hadded]
    exact Finset.insert_eq addr _

/-- What is left after both slots: their addresses, and both switches on iff there is one. -/
theorem syncAllowedGamepads_spec (hcapacity : 2 ≤ capacity) (mac1 mac2 : CString) (s : api.State) :
    let s' := syncAllowedGamepadsFromKconfig api mac1 mac2 s
    let addresses := mac2.address.toFinset ∪ mac1.address.toFinset
    api.contents s' = addresses ∧ api.enabled s' = decide addresses.Nonempty ∧
      api.stored s' = decide addresses.Nonempty := by
  intro s' addresses
  let r₁ := syncSlot api (0, api.removeAll s) mac1
  let r₂ := syncSlot api r₁ mac2
  have hempty := hdoc.used_removeAll s
  obtain ⟨hcount₁, hused₁, hcontents₁⟩ := syncSlot_spec hdoc (0, api.removeAll s) mac1 (by
    change api.used (api.removeAll s) < capacity
    omega)
  rw [hdoc.contents_removeAll, Finset.union_empty] at hcontents₁
  obtain ⟨hcount₂, -, hcontents₂⟩ := syncSlot_spec hdoc r₁ mac2 (by
    change api.used r₁.2 ≤ api.used (api.removeAll s) + 1 at hused₁
    omega)
  rw [hcontents₁] at hcontents₂
  have hadded : decide (r₂.1 > 0) = decide addresses.Nonempty := by
    refine decide_eq_decide.mpr ?_
    rw [hcount₂, hcount₁, Finset.union_nonempty, ← Finset.card_pos, ← Finset.card_pos]
    omega
  have hs' : s' = api.setEnabled (decide addresses.Nonempty)
      (api.propertySet (decide addresses.Nonempty) r₂.2) := by
    rw [← hadded]
    rfl
  refine ⟨?_, ?_, ?_⟩
  · rw [hs', hdoc.contents_setEnabled, hdoc.contents_propertySet]
    exact hcontents₂
  · rw [hs', hdoc.enabled_setEnabled]
  · rw [hs']
    rcases hdoc.stored_setEnabled (decide addresses.Nonempty)
      (api.propertySet (decide addresses.Nonempty) r₂.2) with h | h
    · exact h.trans (hdoc.stored_propertySet _ _)
    · exact h

end Slot

/-! ## Both slots -/

/-- The allowlist fails closed iff nothing is filled in or some slot spells an address. -/
theorem allowlist_fails_closed {api : AllowlistApi} {capacity : ℕ} (hdoc : api.Documented capacity)
    (hcapacity : 2 ≤ capacity) (mac1 mac2 : CString) (s : api.State) :
    FailsClosed api mac1 mac2 (syncAllowedGamepadsFromKconfig api mac1 mac2 s) ↔
      mac1.Blank ∧ mac2.Blank ∨
        ∃ slot ∈ [mac1, mac2], ∃ addr, addr ≠ zeroAddr ∧
          sscanfBdAddr (skipBlanks slot.chars) = some addr := by
  obtain ⟨hcontents, henabled, hstored⟩ := syncAllowedGamepads_spec hdoc hcapacity mac1 mac2 s
  have hmem : ∀ addr, addr ∈ mac2.address.toFinset ∪ mac1.address.toFinset ↔
      ∃ slot ∈ [mac1, mac2], slot.address = some addr := by
    intro addr
    simp [Finset.mem_union, or_comm]
  have hspelled : (mac2.address.toFinset ∪ mac1.address.toFinset).Nonempty ↔
      ∃ slot ∈ [mac1, mac2], ∃ addr, addr ≠ zeroAddr ∧
        sscanfBdAddr (skipBlanks slot.chars) = some addr := by
    constructor
    · rintro ⟨addr, haddr⟩
      obtain ⟨slot, hslot, hscan⟩ := (hmem addr).mp haddr
      obtain ⟨hscan, hzero⟩ := CString.address_eq_some.mp hscan
      exact ⟨slot, hslot, addr, hzero, hscan⟩
    · rintro ⟨slot, hslot, addr, hzero, hscan⟩
      exact ⟨addr, (hmem addr).mpr ⟨slot, hslot, CString.address_eq_some.mpr ⟨hscan, hzero⟩⟩⟩
  constructor
  · intro hclosed
    by_cases hblank : mac1.Blank ∧ mac2.Blank
    · exact .inl hblank
    · have hon := (hclosed.restricts hblank).1
      rw [henabled, decide_eq_true_iff] at hon
      exact .inr (hspelled.mp hon)
  · intro h
    have hon : ¬(mac1.Blank ∧ mac2.Blank) →
        (mac2.address.toFinset ∪ mac1.address.toFinset).Nonempty := fun hblank ↦
      hspelled.mpr (h.resolve_left hblank)
    refine ⟨fun hoff ↦ ?_, fun hblank ↦ ?_⟩
    · by_contra hblank
      have htrue := decide_eq_true (hon hblank)
      rw [henabled, hstored, htrue] at hoff
      rcases hoff with hoff | hoff <;> cases hoff
    · refine ⟨henabled.trans (decide_eq_true (hon hblank)),
        hstored.trans (decide_eq_true (hon hblank)), fun addr ↦ ?_⟩
      rw [hcontents, hmem]
      constructor
      · rintro ⟨slot, hslot, haddress⟩
        obtain ⟨hscan, hzero⟩ := CString.address_eq_some.mp haddress
        exact ⟨hzero, slot, hslot, not_blank_of_address haddress, hscan⟩
      · rintro ⟨hzero, slot, hslot, -, hscan⟩
        exact ⟨slot, hslot, CString.address_eq_some.mpr ⟨hscan, hzero⟩⟩

/-! ## A list of four addresses -/

/-- Four places, a switch, and the property, which is written when the switch changes. -/
structure FourPlaces where
  places : List BdAddr := []
  enabled : Bool := false
  stored : Bool := false

namespace FourPlaces

variable (s : FourPlaces) (addr : BdAddr) (b : Bool)

def addAddr : Bool × FourPlaces :=
  if s.places.length < 4 then (true, { s with places := addr :: s.places }) else (false, s)

def setEnabled : FourPlaces :=
  if s.enabled = b then s else { s with enabled := b, stored := b }

theorem addAddr_cases :
    s.places.length < 4 ∧ s.addAddr addr = (true, { s with places := addr :: s.places }) ∨
      4 ≤ s.places.length ∧ s.addAddr addr = (false, s) := by
  by_cases hroom : s.places.length < 4
  · exact .inl ⟨hroom, if_pos hroom⟩
  · exact .inr ⟨Nat.not_lt.mp hroom, if_neg hroom⟩

theorem setEnabled_cases : s.enabled = b ∧ s.setEnabled b = s ∨
    s.setEnabled b = { s with enabled := b, stored := b } := by
  by_cases h : s.enabled = b
  · exact .inl ⟨h, if_pos h⟩
  · exact .inr (if_neg h)

end FourPlaces

def fourPlaces : AllowlistApi where
  State := FourPlaces
  removeAll s := { s with places := [] }
  addAddr addr s := s.addAddr addr
  setEnabled b s := s.setEnabled b
  propertySet b s := { s with stored := b }
  contents s := s.places.toFinset
  used s := s.places.length
  enabled s := s.enabled
  stored s := s.stored

theorem fourPlaces_documented : fourPlaces.Documented 4 where
  contents_removeAll _ := rfl
  used_removeAll _ := rfl
  contents_addAddr addr s hadded := by
    change (s.addAddr addr).1 = true at hadded
    change (s.addAddr addr).2.places.toFinset = _
    rcases s.addAddr_cases addr with ⟨-, h⟩ | ⟨-, h⟩
    · rw [h]
      exact List.toFinset_cons
    · rw [h] at hadded
      cases hadded
  used_addAddr addr s := by
    change (s.addAddr addr).2.places.length ≤ s.places.length + 1
    rcases s.addAddr_cases addr with ⟨-, h⟩ | ⟨-, h⟩
    · rw [h]
      exact le_rfl
    · rw [h]
      exact Nat.le_succ _
  full_addAddr addr s hfull := by
    change (s.addAddr addr).1 = false at hfull
    rcases s.addAddr_cases addr with ⟨-, h⟩ | ⟨hused, -⟩
    · rw [h] at hfull
      cases hfull
    · exact hused
  contents_propertySet _ _ := rfl
  stored_propertySet _ _ := rfl
  contents_setEnabled b s := by
    change (s.setEnabled b).places.toFinset = s.places.toFinset
    rcases s.setEnabled_cases b with ⟨-, h⟩ | h <;> rw [h]
  enabled_setEnabled b s := by
    change (s.setEnabled b).enabled = b
    rcases s.setEnabled_cases b with ⟨henabled, h⟩ | h
    · rw [h, henabled]
    · rw [h]
  stored_setEnabled b s := by
    change (s.setEnabled b).stored = s.stored ∨ (s.setEnabled b).stored = b
    rcases s.setEnabled_cases b with ⟨-, h⟩ | h
    · exact .inl (by rw [h])
    · exact .inr (by rw [h])

/-- The slot ` AA:bb-CC DDEE:FF`. -/
def spelledSlot : CString where
  chars := [' ', 'A', 'A', ':', 'b', 'b', '-', 'C', 'C', ' ', 'D', 'D', 'E', 'E', ':', 'F', 'F']
  noNul := by decide

/-- The slot `AA:BB:CC:DD:EE`, which lacks the last byte. -/
def unfinishedSlot : CString where
  chars := ['A', 'A', ':', 'B', 'B', ':', 'C', 'C', ':', 'D', 'D', ':', 'E', 'E']
  noNul := by decide

/-- The address of `spelledSlot`. -/
def spelledAddr : BdAddr := 0xAA ::ᵥ 0xBB ::ᵥ 0xCC ::ᵥ 0xDD ::ᵥ 0xEE ::ᵥ 0xFF ::ᵥ .nil

def blankSlot : CString := ⟨[], List.not_mem_nil⟩

/-- One slot spells an address: only that one is allowed, whatever was stored before. -/
theorem allowlist_fails_closed_spelled : FailsClosed fourPlaces unfinishedSlot spelledSlot
    (syncAllowedGamepadsFromKconfig fourPlaces unfinishedSlot spelledSlot
      (⟨[zeroAddr], false, true⟩ : FourPlaces)) :=
  (allowlist_fails_closed fourPlaces_documented (by decide) unfinishedSlot spelledSlot _).mpr
    (.inr ⟨spelledSlot, by simp, spelledAddr, by decide, by decide⟩)

/-- A mistyped address lets everyone in. -/
theorem allowlist_fails_open : ¬FailsClosed fourPlaces unfinishedSlot blankSlot
    (syncAllowedGamepadsFromKconfig fourPlaces unfinishedSlot blankSlot ({} : FourPlaces)) :=
  fun h ↦ absurd (h.acceptsAny (.inl (by decide))).1 (by decide)

end Nutcracker
