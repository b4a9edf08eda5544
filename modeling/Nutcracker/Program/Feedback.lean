import Nutcracker.Program.Scaling

/-!
# Scaled feedback

A value that every input `w` replaces by the fraction `k / m` of its distance from `w`, rounded
toward zero.  A larger value makes the next one smaller, so bounds come in pairs: the lower bound of
an interval answers for its upper bound and the other way round.  For `k < m` the distance of two
values fed the same inputs shrinks by that fraction up to one rounding, whatever the inputs.

The new value lies between the old one and the input only below the rest point of the recurrence,
which is `w * k / (m + k)` and not `w`.
-/

namespace Nutcracker

def feedback (k m w s : ℤ) : ℤ := scaleDown k m (w - s)

/-- The value after several inputs. -/
def feedbackAll (k m : ℤ) (inputs : List ℤ) (s : ℤ) : ℤ :=
  inputs.foldl (fun s w ↦ feedback k m w s) s

/-- What remains of a distance after one input. -/
def narrow (k m gap : ℤ) : ℤ := (gap * k + (m - 1)) / m

section Feedback

variable {k m w s t lo hi : ℤ}

@[simp]
theorem feedbackAll_nil (k m s : ℤ) : feedbackAll k m [] s = s := rfl

@[simp]
theorem feedbackAll_cons (k m w s : ℤ) (inputs : List ℤ) :
    feedbackAll k m (w :: inputs) s = feedbackAll k m inputs (feedback k m w s) := rfl

theorem scaleDown_nonneg (hk : 0 ≤ k) (hm : 0 < m) {x : ℤ} (hx : 0 ≤ x) : 0 ≤ scaleDown k m x :=
  Int.tdiv_nonneg (mul_nonneg hx hk) hm.le

theorem scaleDown_nonpos (hk : 0 ≤ k) (hm : 0 < m) {x : ℤ} (hx : x ≤ 0) : scaleDown k m x ≤ 0 := by
  have h := scaleDown_nonneg hk hm (neg_nonneg.mpr hx)
  rwa [scaleDown_neg, neg_nonneg] at h

theorem le_scaleDown_iff (hk : 0 ≤ k) (hm : 0 < m) {x y : ℤ} (hx : 0 ≤ x) :
    y ≤ scaleDown k m x ↔ y * m ≤ x * k := by
  unfold scaleDown
  rw [Int.tdiv_eq_ediv_of_nonneg (mul_nonneg hx hk)]
  exact Int.le_ediv_iff_mul_le hm

/-! ## Bounds -/

/-- An interval that covers its own image. -/
structure Encloses (k m top lo hi : ℤ) : Prop where
  lower : lo ≤ scaleDown k m (-hi)
  upper : scaleDown k m (top - lo) ≤ hi

theorem Encloses.feedback {top : ℤ} (h : Encloses k m top lo hi) (hk : 0 ≤ k) (hm : 0 < m)
    (hw : w ∈ Set.Icc 0 top) (hs : s ∈ Set.Icc lo hi) : feedback k m w s ∈ Set.Icc lo hi := by
  obtain ⟨hw0, hwtop⟩ := hw
  obtain ⟨hlo, hhi⟩ := hs
  constructor
  · calc
      lo ≤ scaleDown k m (-hi) := h.lower
      _ ≤ scaleDown k m (w - s) := scaleDown_mono hk hm (by omega)
  · calc
      scaleDown k m (w - s) ≤ scaleDown k m (top - lo) := scaleDown_mono hk hm (by omega)
      _ ≤ hi := h.upper

/-! ## Two values under the same inputs -/

/-- On the same side of the input rounding loses less than one in all; on different sides it only
brings the two values closer. -/
theorem feedback_sub_mul_lt (hk : 0 ≤ k) (hm : 0 < m) (hst : s ≤ t) :
    (feedback k m w s - feedback k m w t) * m < (t - s) * k + m := by
  have hs := scaleDown_mul_add k m (w - s)
  have ht := scaleDown_mul_add k m (w - t)
  have hlossS := abs_lt.mp (abs_scaleLoss_lt (k := k) (x := w - s) hm)
  have hlossT := abs_lt.mp (abs_scaleLoss_lt (k := k) (x := w - t) hm)
  have hsum : (feedback k m w s - feedback k m w t) * m =
      (t - s) * k + (scaleLoss k m (w - t) - scaleLoss k m (w - s)) := by
    unfold feedback
    rw [sub_mul]
    linear_combination hs - ht
  rw [hsum]
  by_cases hside : 0 ≤ w - s
  · have hnonneg : 0 ≤ scaleLoss k m (w - s) := scaleLoss_nonneg hk hside
    omega
  · have hnonpos : scaleLoss k m (w - t) ≤ 0 := scaleLoss_nonpos hk (by omega)
    omega

theorem feedback_antitone (hk : 0 ≤ k) (hm : 0 < m) (w : ℤ) : Antitone (feedback k m w) :=
  fun _ _ hst ↦ scaleDown_mono hk hm (sub_le_sub_left hst w)

theorem abs_feedback_sub_le (hk : 0 ≤ k) (hm : 0 < m) {gap : ℤ} (hgap : |s - t| ≤ gap) :
    |feedback k m w s - feedback k m w t| ≤ narrow k m gap := by
  wlog hst : s ≤ t generalizing s t
  · rw [abs_sub_comm]
    apply this
    · rwa [abs_sub_comm]
    · exact (not_le.mp hst).le
  have hdrop : feedback k m w t ≤ feedback k m w s := feedback_antitone hk hm w hst
  rw [abs_of_nonneg (sub_nonneg.mpr hdrop)]
  apply (Int.le_ediv_iff_mul_le hm).mpr
  have hlt := feedback_sub_mul_lt (w := w) hk hm hst
  have hts : (t - s) * k ≤ gap * k := by
    apply mul_le_mul_of_nonneg_right _ hk
    rw [abs_sub_comm, abs_of_nonneg (sub_nonneg.mpr hst)] at hgap
    exact hgap
  omega

theorem abs_feedbackAll_sub_le (hk : 0 ≤ k) (hm : 0 < m) (inputs : List ℤ) {gap : ℤ}
    (hgap : |s - t| ≤ gap) :
    |feedbackAll k m inputs s - feedbackAll k m inputs t| ≤ (narrow k m)^[inputs.length] gap := by
  induction inputs generalizing s t gap with
  | nil => exact hgap
  | cons w inputs ih =>
    rw [feedbackAll_cons, feedbackAll_cons, List.length_cons, Function.iterate_succ_apply]
    exact ih (abs_feedback_sub_le hk hm hgap)

/-! ## Distance from the input -/

theorem feedback_nonneg (hk : 0 ≤ k) (hm : 0 < m) (hsw : s ≤ w) : 0 ≤ feedback k m w s :=
  scaleDown_nonneg hk hm (sub_nonneg.mpr hsw)

/-- The new value lies between the old one and the input. -/
theorem feedback_mem_uIcc_iff (hk : 0 < k) (hm : 0 < m) (hw : 0 ≤ w) :
    feedback k m w s ∈ Set.uIcc s w ↔
      (s ≤ w ∧ s * (m + k) ≤ w * k ∧ (w - s) * k < (w + 1) * m) ∨
        (w = 0 ∧ 0 < s ∧ s * k < m) := by
  by_cases hsw : s ≤ w
  · have hlower : s ≤ feedback k m w s ↔ s * (m + k) ≤ w * k := by
      rw [feedback, le_scaleDown_iff hk.le hm (sub_nonneg.mpr hsw), sub_mul, mul_add]
      exact le_sub_iff_add_le
    have hupper : feedback k m w s ≤ w ↔ (w - s) * k < (w + 1) * m := by
      rw [← Int.lt_add_one_iff, ← not_le, ← not_le, feedback,
        le_scaleDown_iff hk.le hm (sub_nonneg.mpr hsw)]
    have hzero : ¬(w = 0 ∧ 0 < s ∧ s * k < m) := fun h ↦ by omega
    rw [Set.uIcc_of_le hsw, Set.mem_Icc, hlower, hupper, or_iff_left hzero]
    exact ⟨fun h ↦ ⟨hsw, h⟩, fun h ↦ h.2⟩
  · have hws : w < s := not_le.mp hsw
    have hnonpos : feedback k m w s ≤ 0 := scaleDown_nonpos hk.le hm (by omega)
    have hback : feedback k m w s = -scaleDown k m (s - w) := by
      rw [← scaleDown_neg, neg_sub, feedback]
    have hzero : 0 ≤ feedback k m w s ↔ (s - w) * k < m := by
      have h := le_scaleDown_iff (y := 1) hk.le hm (sub_nonneg.mpr hws.le)
      rw [one_mul] at h
      rw [← not_le, ← h, hback]
      omega
    rw [Set.uIcc_of_ge hws.le, Set.mem_Icc, or_iff_right fun h ↦ hsw h.1]
    constructor
    · rintro ⟨hle, -⟩
      obtain rfl : w = 0 := by omega
      rw [sub_zero] at hzero
      exact ⟨rfl, hws, hzero.mp hle⟩
    · rintro ⟨rfl, hs, hlt⟩
      rw [sub_zero] at hzero
      exact ⟨hzero.mpr hlt, hnonpos.trans hs.le⟩

end Feedback

/-! ## Approach -/

/-- A sequence moves towards its target, never past it, and ends up within `band` of it. -/
structure Settles (u : ℕ → ℤ) (target band : ℤ) : Prop where
  between : ∀ n, u (n + 1) ∈ Set.uIcc (u n) target
  near : ∃ start, ∀ n, start ≤ n → |u n - target| ≤ band

/-- A sequence that rests after its first step. -/
theorem settles_of_rest {g : ℤ → ℤ} {s r target band : ℤ} (hs : g s = r) (hr : g r = r)
    (hbetween : r ∈ Set.uIcc s target) (hnear : |r - target| ≤ band) :
    Settles (fun n ↦ g^[n] s) target band := by
  have hrest : ∀ n, g^[n + 1] s = r := by
    intro n
    rw [Function.iterate_succ_apply, hs]
    exact Function.iterate_fixed hr n
  constructor
  · intro n
    simp only [hrest]
    cases n with
    | zero => exact hbetween
    | succ n =>
      rw [hrest]
      exact Set.left_mem_uIcc
  · use 1
    intro n hn
    obtain ⟨n, rfl⟩ := Nat.exists_eq_add_of_le' hn
    simp only [hrest]
    exact hnear

end Nutcracker
