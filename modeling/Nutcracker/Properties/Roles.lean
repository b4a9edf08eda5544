import Nutcracker.Properties.Registry

/-!
# Who is served

Each role of the platform (pad, board, keep-alive) is one pointer.  It follows the device of its
class that became ready last and is cleared when that device leaves; an older device of the class
that is still ready is not taken back.
-/

namespace Nutcracker

open Firmware Prog Sys

/-! ## A slot that follows the newest device -/

/-- The device of class `P` that became ready last. -/
def lastReady (P : HidDevice → Bool) : Log → Option HidDevice
  | [] => none
  | entry :: log =>
    match entry.event with
    | .deviceReady d => if d.parent = none ∧ P d = true then some d else lastReady P log
    | _ => lastReady P log

/-- The same device while it is still ready. -/
def served (P : HidDevice → Bool) (log : Log) : Option HidDevice :=
  (lastReady P log).filter fun d ↦ decide (lifeOf d log = .ready)

/-- A pointer that is set to the newest device of class `P` and cleared when that device leaves. -/
def slotAfter (P : HidDevice → Bool) (slot : Option HidDevice) : Event → Option HidDevice
  | .deviceReady d => if d.parent = none ∧ P d = true then some d else slot
  | .deviceDisconnected d => if d.parent = none ∧ some d = slot then none else slot
  | _ => slot

section Slot

variable {P : HidDevice → Bool} {log : Log}

theorem lastReady_spec {d : HidDevice} (h : lastReady P log = some d) :
    d.parent = none ∧ P d = true := by
  induction log with
  | nil => cases h
  | cons entry log ih =>
    unfold lastReady at h
    split at h
    · split at h
      · rename_i hd
        cases h
        exact hd
      · exact ih h
    · exact ih h

theorem served_eq_some {d : HidDevice} :
    served P log = some d ↔ lastReady P log = some d ∧ lifeOf d log = .ready := by
  unfold served
  rw [Option.filter_eq_some_iff, decide_eq_true_eq]

/-- The history of the other devices does not matter to a served device. -/
theorem served_of_life {entry : Entry World Event}
    (hlast : lastReady P (entry :: log) = lastReady P log)
    (hlife : ∀ d, lastReady P log = some d →
      (lifeOf d (entry :: log) = .ready ↔ lifeOf d log = .ready)) :
    served P (entry :: log) = served P log := by
  apply Option.ext
  intro d
  rw [served_eq_some, served_eq_some, hlast]
  exact and_congr_right fun h ↦ hlife d h

/-- One event keeps such a pointer on the served device. -/
theorem served_step {slot : Option HidDevice} {w : World} {e : Event}
    (hslot : slot = served P log) (horder : DeviceOrder log e) :
    slotAfter P slot e = served P (⟨w, e⟩ :: log) := by
  subst hslot
  cases e with
  | deviceConnected d =>
    symm
    apply served_of_life rfl
    intro d' hd'
    change (if d = d' then Life.connected else lifeOf d' log) = .ready ↔ _
    split
    · rename_i heq
      subst heq
      rw [show lifeOf d log = .absent from horder (lastReady_spec hd').1]
      decide
    · rfl
  | deviceReady d =>
    by_cases hd : d.parent = none ∧ P d = true
    · have hlast : lastReady P (⟨w, .deviceReady d⟩ :: log) = some d := if_pos hd
      have hlife : lifeOf d (⟨w, .deviceReady d⟩ :: log) = .ready := if_pos rfl
      calc
        slotAfter P (served P log) (.deviceReady d) = some d := if_pos hd
        _ = served P (⟨w, .deviceReady d⟩ :: log) := (served_eq_some.mpr ⟨hlast, hlife⟩).symm
    · have hlast : lastReady P (⟨w, .deviceReady d⟩ :: log) = lastReady P log := if_neg hd
      have hlife : ∀ d', lastReady P log = some d' →
          (lifeOf d' (⟨w, .deviceReady d⟩ :: log) = .ready ↔ lifeOf d' log = .ready) := by
        intro d' hd'
        have hne : d ≠ d' := fun h ↦ hd (h ▸ lastReady_spec hd')
        change (if d = d' then Life.ready else lifeOf d' log) = .ready ↔ _
        rw [if_neg hne]
      exact (if_neg hd).trans (served_of_life hlast hlife).symm
  | deviceDisconnected d =>
    have hlife : ∀ d', lifeOf d' (⟨w, .deviceDisconnected d⟩ :: log) =
        if d = d' then .absent else lifeOf d' log := fun _ ↦ rfl
    apply Option.ext
    intro d'
    rw [served_eq_some, hlife d']
    change (if d.parent = none ∧ some d = served P log then none else served P log) = some d' ↔
      lastReady P log = some d' ∧ _
    by_cases heq : d = d'
    · subst heq
      rw [if_pos rfl]
      constructor
      · intro h
        split at h
        · cases h
        · rename_i hnot
          exact absurd ⟨(lastReady_spec (served_eq_some.mp h).1).1, h.symm⟩ hnot
      · rintro ⟨-, h⟩
        cases h
    · rw [if_neg heq, ← served_eq_some]
      split
      · rename_i h
        rw [← h.2]
        simp [heq]
      · rfl
  | systemButton | controllerData | timer | deliver | iterate | wheelTest | elapse =>
    exact (served_of_life rfl fun _ _ ↦ Iff.rfl).symm

end Slot

/-! ## The roles are such slots -/

/-- The class of the pad role. -/
def isPad (d : HidDevice) : Bool := !deviceIsBalanceBoard (some d)

/-- The class of the board role. -/
def isBoard (d : HidDevice) : Bool := deviceIsBalanceBoard (some d)

section Roles

variable (r : Roster) (e : Event)

theorem after_gpDevice : (r.after e).gpDevice = slotAfter isPad r.gpDevice e := by
  cases e with
  | deviceReady d =>
    by_cases hd : d.parent = none <;> cases hbb : deviceIsBalanceBoard (some d) <;>
      simp [Roster.after, slotAfter, Roster.enter, isPad, hd, hbb]
  | deviceDisconnected d =>
    by_cases hd : d.parent = none <;> simp [Roster.after, slotAfter, Roster.leave, hd]
  | deviceConnected d =>
    by_cases hd : d.parent = none <;> simp [Roster.after, slotAfter, Roster.connect, hd]
  | systemButton | controllerData | timer | deliver | iterate | wheelTest | elapse => rfl

theorem after_bbDevice : (r.after e).bbDevice = slotAfter isBoard r.bbDevice e := by
  cases e with
  | deviceReady d =>
    by_cases hd : d.parent = none <;> cases hbb : deviceIsBalanceBoard (some d) <;>
      simp [Roster.after, slotAfter, Roster.enter, isBoard, hd, hbb]
  | deviceDisconnected d =>
    by_cases hd : d.parent = none <;> simp [Roster.after, slotAfter, Roster.leave, hd]
  | deviceConnected d =>
    by_cases hd : d.parent = none <;> simp [Roster.after, slotAfter, Roster.connect, hd]
  | systemButton | controllerData | timer | deliver | iterate | wheelTest | elapse => rfl

theorem after_keepaliveDevice :
    (r.after e).keepaliveDevice = slotAfter needsKeepalive r.keepaliveDevice e := by
  cases e with
  | deviceReady d =>
    by_cases hd : d.parent = none <;> simp [Roster.after, slotAfter, Roster.enter, hd]
  | deviceDisconnected d =>
    by_cases hd : d.parent = none <;> simp [Roster.after, slotAfter, Roster.leave, hd]
  | deviceConnected d =>
    by_cases hd : d.parent = none <;> simp [Roster.after, slotAfter, Roster.connect, hd]
  | systemButton | controllerData | timer | deliver | iterate | wheelTest | elapse => rfl

end Roles

/-- Every role is held by the device that it serves. -/
structure RoleSlots (log : Log) (r : Roster) : Prop where
  gpDevice : r.gpDevice = served isPad log
  bbDevice : r.bbDevice = served isBoard log
  keepaliveDevice : r.keepaliveDevice = served needsKeepalive log

theorem roleSlots_of_run (bp : Bluepad32) {log : Log} {w : World}
    (hrun : RunFromBoot bp (fun log _ e ↦ DeviceOrder log e) log w) :
    RoleSlots log w.sys.roster := by
  refine hrun.invariant (I := fun log w ↦ RoleSlots log w.sys.roster) ?_ ?_
  · rintro _ ⟨us, rfl⟩
    exact ⟨rfl, rfl, rfl⟩
  · rintro log w e hprev ⟨hgp, hbb, hkeep⟩ ⟨henabled, horder⟩
    rw [roster_next bp (registryInv_of_run bp hprev).session henabled]
    exact
      { gpDevice := (after_gpDevice _ e).trans (served_step hgp horder)
        bbDevice := (after_bbDevice _ e).trans (served_step hbb horder)
        keepaliveDevice := (after_keepaliveDevice _ e).trans (served_step hkeep horder) }

/-! ## Role completeness -/

/-- A physical device of class `P` that is ready. -/
def ReadyOf (P : HidDevice → Bool) (s : Sys) (d : HidDevice) : Prop :=
  d.parent = none ∧ P d = true ∧ (s.plat.inst d).ready = true

def KeepaliveArmed (s : Sys) : Prop :=
  ∃ alarm, s.timers .gamepadKeepalive = some alarm ∧ alarm.period ≠ none

/-- Every role is taken while there is any ready device for it. -/
structure RoleComplete (s : Sys) : Prop where
  pad : (∃ d, ReadyOf isPad s d) →
    s.plat.gpReady = true ∧ ∃ d, s.plat.gpDevice = some d ∧ ReadyOf isPad s d
  board : (∃ d, ReadyOf isBoard s d) → s.plat.bbReady = true
  keepalive : (∃ d, ReadyOf needsKeepalive s d) →
    ∃ d, s.plat.keepaliveDevice = some d ∧ ReadyOf needsKeepalive s d ∧ KeepaliveArmed s

/-- Every role is taken by the device of its class that became ready last, as long as that device
is ready, and free otherwise. -/
structure RolesServed (log : Log) (s : Sys) : Prop where
  pad : s.plat.gpDevice = served isPad log ∧ (s.plat.gpReady = true ↔ served isPad log ≠ none)
  board : s.plat.bbDevice = served isBoard log ∧
    (s.plat.bbReady = true ↔ served isBoard log ≠ none)
  keepalive : s.plat.keepaliveDevice = served needsKeepalive log ∧
    (served needsKeepalive log ≠ none → KeepaliveArmed s)
  ready : ∀ P d, served P log = some d → ReadyOf P s d

/-- The roles follow the newest device of their class. -/
theorem roles_served (bp : Bluepad32) {log : Log} {w : World}
    (hrun : RunFromBoot bp (fun log _ e ↦ DeviceOrder log e) log w) :
    RolesServed log w.sys := by
  obtain ⟨hgp, hbb, hkeep⟩ := roleSlots_of_run bp hrun
  have hinv := registryInv_of_run bp hrun
  exact
    { pad := ⟨hgp, hgp ▸ hinv.valid.gpReady⟩
      board := ⟨hbb, hbb ▸ hinv.valid.bbReady⟩
      keepalive := ⟨hkeep, fun h ↦ hinv.session.kept fun h' ↦ h (hkeep.symm.trans h')⟩
      ready := fun P d h ↦ by
        obtain ⟨hlast, hlife⟩ := served_eq_some.mp h
        obtain ⟨hphysical, hP⟩ := lastReady_spec hlast
        exact ⟨hphysical, hP, (hinv.life d hphysical).mpr hlife⟩ }

/-- The callbacks of two pads and a board, of which the older pad leaves. -/
theorem roles_served_visit : ∃ log w,
    RunFromBoot bluepad32 (fun log _ e ↦ DeviceOrder log e) log w ∧
      served isPad log = some (samplePad 3) ∧ RolesServed log w.sys := by
  obtain ⟨log, w, hrun, hend⟩ := exists_runFromBoot bluepad32 (fun log _ e ↦ DeviceOrder log e) 0
    [.deviceConnected (samplePad 1), .deviceReady (samplePad 1),
      .deviceConnected (sampleBoard 2), .deviceReady (sampleBoard 2),
      .deviceConnected (samplePad 3), .deviceReady (samplePad 3),
      .deviceDisconnected (samplePad 1)]
    (fun r ↦ decide (served isPad r.1 = some (samplePad 3))) (by decide +kernel)
  exact ⟨log, w, hrun, of_decide_eq_true hend, roles_served bluepad32 hrun⟩

/-- Two pads are ready and the newer one leaves: the older one is served by no role. -/
theorem role_abandoned : ∃ log w,
    RunFromBoot bluepad32 (fun log _ e ↦ DeviceOrder log e) log w ∧
      (∀ entry ∈ log, entry.event.plain = false) ∧ ¬RoleComplete w.sys := by
  obtain ⟨log, w, hrun, hend⟩ := exists_runFromBoot bluepad32 (fun log _ e ↦ DeviceOrder log e) 0
    [.deviceConnected (samplePad 1), .deviceReady (samplePad 1),
      .deviceConnected (samplePad 2), .deviceReady (samplePad 2),
      .deviceDisconnected (samplePad 2)]
    (fun r ↦ decide ((∀ entry ∈ r.1, entry.event.plain = false) ∧
      (r.2.sys.plat.inst (samplePad 1)).ready = true ∧ r.2.sys.plat.gpReady = false))
    (by decide +kernel)
  obtain ⟨hplain, hready, hgp⟩ := of_decide_eq_true hend
  refine ⟨log, w, hrun, hplain, fun hcomplete ↦ ?_⟩
  have hserved := (hcomplete.pad ⟨samplePad 1, rfl, rfl, hready⟩).1
  rw [hgp] at hserved
  cases hserved

end Nutcracker
