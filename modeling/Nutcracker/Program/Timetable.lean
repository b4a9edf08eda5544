import Mathlib

/-!
# Endless scripts with nominal durations

A timetable offers, for every `n`, the stages that may be played as the `n`-th one.  A performance
under a sequence of clock readings enters the first stage at the first reading and leaves a stage at
exactly the first reading at or after its entry plus its nominal duration.  What has been performed
is then a prefix of the script.
-/

namespace Nutcracker

/-- An endless script of stages with their cues and durations. -/
structure Timetable (Stage Cue : Type) where
  offers : ℕ → Set Stage
  cues : Stage → List Cue
  duration : Stage → ℤ

/-- A stage and the time at which it was entered. -/
structure Visit (Stage : Type) where
  stage : Stage
  entered : ℤ

namespace Timetable

variable {Stage Cue : Type} (T : Timetable Stage Cue)

/-- The nominal end of a visit. -/
def due (v : Visit Stage) : ℤ := v.entered + T.duration v.stage

/-- The visits, latest first, under the clock readings, latest first. -/
inductive Performance : List ℤ → List (Visit Stage) → Prop
  | start : Performance [] []
  | stay {readings : List ℤ} {v : Visit Stage} {visits : List (Visit Stage)} {now : ℤ}
      (hprev : Performance readings (v :: visits)) (hearly : now < T.due v) :
      Performance (now :: readings) (v :: visits)
  | enter {readings : List ℤ} {visits : List (Visit Stage)} {now : ℤ} {stage : Stage}
      (hprev : Performance readings visits) (hdue : ∀ v ∈ visits.head?, T.due v ≤ now)
      (hoffer : stage ∈ T.offers visits.length) :
      Performance (now :: readings) (⟨stage, now⟩ :: visits)

/-- The cues of the visits, in the order in which they were given. -/
def performed (visits : List (Visit Stage)) : List Cue :=
  visits.reverse.flatMap fun v ↦ T.cues v.stage

@[simp]
theorem performed_nil : T.performed [] = [] := rfl

@[simp]
theorem performed_cons (v : Visit Stage) (visits : List (Visit Stage)) :
    T.performed (v :: visits) = T.performed visits ++ T.cues v.stage := by
  simp [performed]

variable {T} {readings : List ℤ} {visits : List (Visit Stage)}

namespace Performance

/-- The `n`-th stage that was played is one of those offered there. -/
theorem offered (h : T.Performance readings visits) {n : ℕ} {v : Visit Stage}
    (hv : visits.reverse[n]? = some v) : v.stage ∈ T.offers n := by
  induction h with
  | start => simp at hv
  | stay _ _ ih => exact ih hv
  | @enter readings visits now stage hprev hdue hoffer ih =>
    rw [List.reverse_cons, List.getElem?_append] at hv
    split at hv
    · exact ih hv
    · rename_i hn
      rw [List.length_reverse] at hn
      have hlast : n - visits.length = 0 ∧ v = ⟨stage, now⟩ := by
        rw [List.length_reverse] at hv
        cases hsub : n - visits.length with
        | zero =>
          rw [hsub] at hv
          exact ⟨rfl, (Option.some.inj hv).symm⟩
        | succ k => simp [hsub] at hv
      obtain rfl : n = visits.length := by omega
      rw [hlast.2]
      exact hoffer

/-- What has been performed is a prefix of the endless script with some choice of the offers. -/
theorem exists_script (h : T.Performance readings visits) (hoffers : ∀ n, (T.offers n).Nonempty) :
    ∃ script : ℕ → Stage, (∀ n, script n ∈ T.offers n) ∧
      T.performed visits = (List.range visits.length).flatMap fun n ↦ T.cues (script n) := by
  choose other hother using hoffers
  let script : ℕ → Stage := fun n ↦ (visits.reverse[n]?.map Visit.stage).getD (other n)
  have hscript (n : ℕ) : script n ∈ T.offers n := by
    unfold script
    cases hv : visits.reverse[n]? with
    | none => exact hother n
    | some v => exact h.offered hv
  have hstages : (List.range visits.length).map script = visits.reverse.map Visit.stage := by
    apply List.ext_getElem?
    intro n
    rw [List.getElem?_map, List.getElem?_map]
    by_cases hn : n < visits.length
    · simp [hn, script]
    · simp [hn]
  refine ⟨script, hscript, ?_⟩
  calc
    T.performed visits = (visits.reverse.map Visit.stage).flatMap T.cues := by
      rw [performed, List.flatMap_map]
    _ = ((List.range visits.length).map script).flatMap T.cues := by rw [hstages]
    _ = _ := by rw [List.flatMap_map]

end Performance

end Timetable

end Nutcracker
