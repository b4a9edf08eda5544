import Nutcracker.Program.Machine
import Nutcracker.Rccar.Drive

/-!
# Idle-to-move detection

`rccar_drive_idle_to_move` keeps two variables.  Over a whole sequence of samples they say whether
the last sample was moving, and, while it was not, when the current idle run began.
-/

namespace Nutcracker

structure DriveSample where
  moving : Bool
  atMs : ℤ

/-- One call of `rccar_drive_idle_to_move` on `(was_moving, idle_since_ms)`. -/
def idleDetector (needMs : ℤ) (s : Bool × ℤ) (x : DriveSample) : Bool × (Bool × ℤ) :=
  rccarDriveIdleToMove s.1 s.2 x.moving x.atMs needMs

/-- The results on a sequence of samples, from the initial values of the variables. -/
def idleToMoveResults (needMs : ℤ) (samples : List DriveSample) : List Bool :=
  Machine.outputs (idleDetector needMs) (false, -1) samples

section Runs

variable (samples : List DriveSample)

def MovingAt (i : ℕ) : Prop := samples[i]?.map DriveSample.moving = some true

def IdleAt (i : ℕ) : Prop := samples[i]?.map DriveSample.moving = some false

/-- `j` is the first sample of the maximal run of idle samples that ends just before `i`. -/
structure IdleRunFrom (j i : ℕ) : Prop where
  nonempty : j < i
  idle : ∀ k, j ≤ k → k < i → IdleAt samples k
  maximal : j = 0 ∨ MovingAt samples (j - 1)

end Runs

section Detection

variable {samples : List DriveSample} {needMs : ℤ} {i j : ℕ} {x : DriveSample}

theorem MovingAt.not_idle (h : MovingAt samples i) : ¬IdleAt samples i := by
  intro hidle
  exact absurd (h.symm.trans hidle) (by decide)

theorem movingAt_of_getElem? (hx : samples[i]? = some x) : MovingAt samples i ↔ x.moving = true := by
  simp [MovingAt, hx]

theorem idleAt_of_getElem? (hx : samples[i]? = some x) : IdleAt samples i ↔ x.moving = false := by
  simp [IdleAt, hx]

/-- An idle run goes on, or starts after a moving sample. -/
theorem idleRunFrom_succ_iff (hx : IdleAt samples i) : IdleRunFrom samples j (i + 1) ↔
    IdleRunFrom samples j i ∨ (j = i ∧ (i = 0 ∨ MovingAt samples (i - 1))) := by
  constructor
  · intro h
    rcases (Nat.lt_succ_iff_lt_or_eq.mp h.nonempty) with hlt | rfl
    · exact .inl ⟨hlt, fun k hk hki ↦ h.idle k hk (by omega), h.maximal⟩
    · exact .inr ⟨rfl, h.maximal⟩
  · rintro (h | ⟨rfl, hstart⟩)
    · refine ⟨by have := h.nonempty; omega, fun k hk hki ↦ ?_, h.maximal⟩
      rcases (Nat.lt_succ_iff_lt_or_eq.mp hki) with hlt | rfl
      · exact h.idle k hk hlt
      · exact hx
    · refine ⟨Nat.lt_succ_self j, fun k hk hki ↦ ?_, hstart⟩
      obtain rfl : k = j := by omega
      exact hx

/-- Before an index with an idle sample just behind it there is an idle run. -/
theorem exists_idleRunFrom (hidle : IdleAt samples i) : ∃ j, IdleRunFrom samples j (i + 1) := by
  induction i with
  | zero => exact ⟨0, (idleRunFrom_succ_iff hidle).mpr (.inr ⟨rfl, .inl rfl⟩)⟩
  | succ i ih =>
    have hsome : (samples[i]?).isSome := by
      have hlt : i + 1 < samples.length := by
        by_contra hge
        rw [IdleAt, List.getElem?_eq_none (by omega)] at hidle
        cases hidle
      rw [List.getElem?_eq_getElem (by omega)]
      rfl
    obtain ⟨x, hx⟩ := Option.isSome_iff_exists.mp hsome
    cases hmoving : x.moving with
    | true =>
      refine ⟨i + 1, (idleRunFrom_succ_iff hidle).mpr (.inr ⟨rfl, .inr ?_⟩)⟩
      exact (movingAt_of_getElem? hx).mpr hmoving
    | false =>
      obtain ⟨j, hj⟩ := ih ((idleAt_of_getElem? hx).mpr hmoving)
      exact ⟨j, (idleRunFrom_succ_iff hidle).mpr (.inl hj)⟩

/-! ## The two variables -/

/-- What the variables `s` say after the first `i` samples. -/
structure DetectorInv (samples : List DriveSample) (i : ℕ) (s : Bool × ℤ) : Prop where
  start : i = 0 → s = (false, -1)
  wasMoving : 0 < i → (s.1 = true ↔ MovingAt samples (i - 1)) ∧ (s.1 = false ↔ IdleAt samples (i - 1))
  idleSince : ∀ j, IdleRunFrom samples j i → samples[j]?.map DriveSample.atMs = some s.2

theorem detectorInv_start (samples : List DriveSample) : DetectorInv samples 0 (false, -1) where
  start _ := rfl
  wasMoving h := absurd h (lt_irrefl 0)
  idleSince _ h := absurd h.nonempty (Nat.not_lt_zero _)

/-- `idle_since_ms` is set when, and only when, an idle run is known. -/
theorem DetectorInv.since_nonneg_iff {s : Bool × ℤ} (h : DetectorInv samples i s)
    (htimes : ∀ x ∈ samples, 0 ≤ x.atMs) (hwas : s.1 = false) : 0 ≤ s.2 ↔ 0 < i := by
  constructor
  · intro hsince
    by_contra hzero
    rw [h.start (by omega)] at hsince
    exact absurd hsince (by decide)
  · intro hpos
    obtain ⟨i, rfl⟩ := Nat.exists_eq_add_of_lt hpos
    rw [Nat.zero_add] at h
    obtain ⟨j, hj⟩ := exists_idleRunFrom ((h.wasMoving (Nat.succ_pos i)).2.mp hwas)
    obtain ⟨x, hx, hsince⟩ := Option.map_eq_some_iff.mp (h.idleSince j hj)
    rw [← hsince]
    exact htimes x (List.mem_of_getElem? hx)

theorem DetectorInv.step {s : Bool × ℤ} (htimes : ∀ x ∈ samples, 0 ≤ x.atMs)
    (hx : samples[i]? = some x) (h : DetectorInv samples i s) :
    DetectorInv samples (i + 1) (idleDetector needMs s x).2 := by
  have hstart : ∀ s' : Bool × ℤ, i + 1 = 0 → s' = (false, -1) := fun _ hzero ↦ by omega
  cases hmoving : x.moving with
  | true =>
    have hnow : MovingAt samples i := (movingAt_of_getElem? hx).mpr hmoving
    have hstep : (idleDetector needMs s x).2 = (true, s.2) := by
      simp [idleDetector, rccarDriveIdleToMove, hmoving]
    rw [hstep]
    refine ⟨hstart _, fun _ ↦ ⟨iff_of_true rfl hnow, iff_of_false nofun hnow.not_idle⟩, ?_⟩
    intro j hj
    exact absurd (hj.idle i (Nat.lt_succ_iff.mp hj.nonempty) (Nat.lt_succ_self i)) hnow.not_idle
  | false =>
    have hnow : IdleAt samples i := (idleAt_of_getElem? hx).mpr hmoving
    have hstep : (idleDetector needMs s x).2 =
        (false, if s.1 || decide (s.2 < 0) then x.atMs else s.2) := by
      simp [idleDetector, rccarDriveIdleToMove, hmoving]
    rw [hstep]
    refine ⟨hstart _, fun _ ↦ ⟨iff_of_false Bool.false_ne_true fun h ↦ h.not_idle hnow,
      iff_of_true rfl hnow⟩, fun j hj ↦ ?_⟩
    rcases (idleRunFrom_succ_iff hnow).mp hj with hrun | ⟨rfl, hfresh⟩
    · -- the run goes on, and its start is known
      have hpos : 0 < i := (Nat.zero_le j).trans_lt hrun.nonempty
      have hidle : IdleAt samples (i - 1) :=
        hrun.idle (i - 1) (Nat.le_sub_one_of_lt hrun.nonempty) (by omega)
      have hwas : s.1 = false := (h.wasMoving hpos).2.mpr hidle
      have hsince : ¬s.2 < 0 := not_lt.mpr ((h.since_nonneg_iff htimes hwas).mpr hpos)
      rw [hwas, decide_eq_false hsince]
      exact h.idleSince j hrun
    · -- a new run starts here
      have hset : (s.1 || decide (s.2 < 0)) = true := by
        rcases Nat.eq_zero_or_pos j with hzero | hpos
        · rw [h.start hzero]
          rfl
        · have hwas := (h.wasMoving hpos).1.mpr (hfresh.resolve_left hpos.ne')
          rw [hwas]
          rfl
      rw [if_pos hset, hx]
      rfl

theorem detectorInv_take (htimes : ∀ x ∈ samples, 0 ≤ x.atMs) (hi : i ≤ samples.length) :
    DetectorInv samples i (Machine.after (idleDetector needMs) (false, -1) (samples.take i)) :=
  Machine.after_take_induction (detectorInv_start samples)
    (fun _ _ _ hx h ↦ h.step htimes hx) hi

/-! ## What the calls return -/

/-- The sample `i` ends an idle run that lasted `needMs`. -/
def EndsLongIdle (samples : List DriveSample) (needMs : ℤ) (i : ℕ) : Prop :=
  MovingAt samples i ∧ 0 < i ∧ IdleAt samples (i - 1) ∧
    ∃ j, IdleRunFrom samples j i ∧
      ∃ xi xj, samples[i]? = some xi ∧ samples[j]? = some xj ∧ xi.atMs - xj.atMs ≥ needMs

theorem idleToMoveResults_iff (htimes : ∀ x ∈ samples, 0 ≤ x.atMs) :
    (idleToMoveResults needMs samples)[i]? = some true ↔ EndsLongIdle samples needMs i := by
  unfold idleToMoveResults
  rw [Machine.outputs_getElem?, Option.map_eq_some_iff]
  constructor
  · rintro ⟨x, hx, hpulse⟩
    have hlt : i < samples.length := (List.getElem?_eq_some_iff.mp hx).1
    have hinv := @detectorInv_take samples needMs i htimes hlt.le
    generalize Machine.after (idleDetector needMs) (false, -1) (samples.take i) = s at hinv hpulse
    cases hmoving : x.moving with
    | false => simp [idleDetector, rccarDriveIdleToMove, hmoving] at hpulse
    | true =>
      simp only [idleDetector, rccarDriveIdleToMove, hmoving, if_true, Bool.and_eq_true,
        Bool.not_eq_true', decide_eq_true_eq] at hpulse
      obtain ⟨⟨hwas, hsince⟩, hlong⟩ := hpulse
      have hpos : 0 < i := (hinv.since_nonneg_iff htimes hwas).mp hsince
      have hidle : IdleAt samples (i - 1) := (hinv.wasMoving hpos).2.mp hwas
      obtain ⟨j, hj⟩ := exists_idleRunFrom hidle
      rw [Nat.sub_add_cancel hpos] at hj
      obtain ⟨xj, hxj, hat⟩ := Option.map_eq_some_iff.mp (hinv.idleSince j hj)
      rw [← hat] at hlong
      exact ⟨(movingAt_of_getElem? hx).mpr hmoving, hpos, hidle, j, hj, x, xj, hx, hxj, hlong⟩
  · rintro ⟨hmoving, hpos, hidle, j, hj, xi, xj, hxi, hxj, hlong⟩
    have hlt : i < samples.length := (List.getElem?_eq_some_iff.mp hxi).1
    have hinv := @detectorInv_take samples needMs i htimes hlt.le
    refine ⟨xi, hxi, ?_⟩
    generalize Machine.after (idleDetector needMs) (false, -1) (samples.take i) = s at hinv
    have hwas : s.1 = false := (hinv.wasMoving hpos).2.mpr hidle
    have hsince : s.2 ≥ 0 := (hinv.since_nonneg_iff htimes hwas).mpr hpos
    have hat : xj.atMs = s.2 := by
      have h := hinv.idleSince j hj
      rw [hxj] at h
      exact Option.some.inj h
    rw [hat] at hlong
    simp [idleDetector, rccarDriveIdleToMove, (movingAt_of_getElem? hxi).mp hmoving, hwas, hsince,
      hlong]

/-- The characterisation, that two pulses have an idle sample between them, and that a pulse has an
idle sample before it. -/
theorem idleToMove_characterised (htimes : ∀ x ∈ samples, 0 ≤ x.atMs) :
    (∀ i, (idleToMoveResults needMs samples)[i]? = some true ↔ EndsLongIdle samples needMs i) ∧
    (∀ i i', i < i' → (idleToMoveResults needMs samples)[i]? = some true →
      (idleToMoveResults needMs samples)[i']? = some true →
      ∃ k, i < k ∧ k < i' ∧ IdleAt samples k) ∧
    (∀ i, (idleToMoveResults needMs samples)[i]? = some true → ∃ k, k < i ∧ IdleAt samples k) := by
  have hiff : ∀ i, (idleToMoveResults needMs samples)[i]? = some true ↔
      EndsLongIdle samples needMs i := fun i ↦ idleToMoveResults_iff htimes
  refine ⟨hiff, ?_, ?_⟩
  · intro i i' hlt hpulse hpulse'
    obtain ⟨hmoving, -⟩ := (hiff i).mp hpulse
    obtain ⟨-, -, hidle, -⟩ := (hiff i').mp hpulse'
    have hne : i ≠ i' - 1 := by
      rintro rfl
      exact hmoving.not_idle hidle
    exact ⟨i' - 1, by omega, by omega, hidle⟩
  · intro i hpulse
    obtain ⟨-, hpos, hidle, -⟩ := (hiff i).mp hpulse
    exact ⟨i - 1, by omega, hidle⟩

end Detection

/-- Still at 0, moving at 3000, moving at 3500. -/
theorem idleToMove_characterised_sample :
    let samples : List DriveSample := [⟨false, 0⟩, ⟨true, 3000⟩, ⟨true, 3500⟩]
    idleToMoveResults 3000 samples = [false, true, false] ∧
    (∀ i, (idleToMoveResults 3000 samples)[i]? = some true ↔ EndsLongIdle samples 3000 i) ∧
    (∀ i i', i < i' → (idleToMoveResults 3000 samples)[i]? = some true →
      (idleToMoveResults 3000 samples)[i']? = some true →
      ∃ k, i < k ∧ k < i' ∧ IdleAt samples k) ∧
    (∀ i, (idleToMoveResults 3000 samples)[i]? = some true → ∃ k, k < i ∧ IdleAt samples k) :=
  ⟨by decide, idleToMove_characterised (by decide)⟩

end Nutcracker
