import Mathlib

/-!
# One press, one action

Several sources report whether a button is down.  A detector looks at some of these reports and acts
when a report shows the button and the word it remembers does not.  There is one word for all sources:
it holds what the last look found, whatever source that came from.

`Watch` keeps the books beside such a detector.  As long as no look resumes a press that an earlier
look has seen and that another source or a blank has since overwritten, the actions can be matched
with as many presses of the same source.
-/

namespace Nutcracker

/-- What happens to one button. -/
inductive Move (D : Type)
  | report (d : D) (down : Bool)
  /-- The reports of a source end; a new stream counts as preceded by a released button. -/
  | restart (d : D)
  /-- A look at the latest report of a source. -/
  | look (d : D) (down acts : Bool)
  /-- The word is overwritten by something that shows nothing. -/
  | blank

structure Watch (D : Type) where
  /-- What the latest report of a source showed. -/
  last : D → Bool := fun _ ↦ false
  /-- The same within the present stream. -/
  held : D → Bool := fun _ ↦ false
  /-- The press in progress has been looked at. -/
  handled : D → Bool := fun _ ↦ false
  /-- The source of what the word holds. -/
  owner : Option D := none
  word : Bool := false
  presses : List D := []
  actions : List D := []

namespace Watch

variable {D : Type} [DecidableEq D]

def after (s : Watch D) : Move D → Watch D
  | .report d down =>
    { s with
      last := Function.update s.last d down
      held := Function.update s.held d down
      handled := Function.update s.handled d (down && s.held d && s.handled d)
      presses := if down && !s.held d then d :: s.presses else s.presses }
  | .restart d => { s with held := Function.update s.held d false }
  | .look d down acts =>
    { s with
      handled := Function.update s.handled d down
      owner := some d
      word := down
      actions := if acts then d :: s.actions else s.actions }
  | .blank => { s with owner := none, word := false }

def afterAll (s : Watch D) (moves : List (Move D)) : Watch D := moves.foldl after s

/-- A look meets the latest report, and acts only if the word does not show the button. -/
def Legal (s : Watch D) : Move D → Prop
  | .look d down acts => down = s.last d ∧ (acts = true → down = true ∧ s.word = false)
  | _ => True

/-- A look finds a press that was looked at before, though the word is not from this source. -/
def resumes (s : Watch D) : Move D → Bool
  | .look d down _ => decide (s.owner ≠ some d) && (down && s.handled d)
  | _ => false

/-- One of several moves does. -/
def resumesAny (s : Watch D) : List (Move D) → Bool
  | [] => false
  | m :: moves => s.resumes m || (s.after m).resumesAny moves

@[simp]
theorem after_report_last (s : Watch D) (d : D) (down : Bool) :
    (s.after (.report d down)).last d = down := by
  change Function.update s.last d down d = down
  exact Function.update_self ..

/-- No more actions than presses, and one press in reserve for a button that is down and has not been
looked at. -/
structure Fair (s : Watch D) : Prop where
  held : ∀ d, s.held d = true → s.last d = true
  word : ∀ d, s.owner = some d → s.handled d = true → s.word = true
  enough : ∀ d, s.actions.count d ≤ s.presses.count d
  reserve : ∀ d, s.last d = true → s.handled d = false →
    s.actions.count d < s.presses.count d

theorem fair_start : ({} : Watch D).Fair where
  held _ h := h
  word _ h := by cases h
  enough _ := le_rfl
  reserve _ h := Bool.noConfusion h

variable {s : Watch D}

theorem Fair.report (h : s.Fair) (d : D) (down : Bool) : (s.after (.report d down)).Fair := by
  have hpresses : ∀ d', (s.after (.report d down)).presses.count d' =
      s.presses.count d' + if (down && !s.held d) = true ∧ d = d' then 1 else 0 := by
    intro d'
    change (if down && !s.held d then d :: s.presses else s.presses).count d' = _
    split <;> simp_all [List.count_cons]
  refine ⟨fun d' hheld ↦ ?_, fun d' howner hhandled ↦ ?_, fun d' ↦ ?_, fun d' hlast hhandled ↦ ?_⟩
  · change Function.update s.last d down d' = true
    change Function.update s.held d down d' = true at hheld
    by_cases hd : d' = d
    · subst hd
      simpa using hheld
    · rw [Function.update_of_ne hd] at hheld ⊢
      exact h.held d' hheld
  · change Function.update s.handled d (down && s.held d && s.handled d) d' = true at hhandled
    apply h.word d' howner
    by_cases hd : d' = d
    · subst hd
      rw [Function.update_self] at hhandled
      exact (Bool.and_eq_true_iff.mp hhandled).2
    · rwa [Function.update_of_ne hd] at hhandled
  · rw [hpresses]
    exact Nat.le_add_right_of_le (h.enough d')
  · rw [hpresses]
    change s.actions.count d' < _
    change Function.update s.last d down d' = true at hlast
    change Function.update s.handled d (down && s.held d && s.handled d) d' = false at hhandled
    by_cases hd : d' = d
    · subst hd
      rw [Function.update_self] at hlast hhandled
      cases hheld : s.held d' with
      | false =>
        -- a new press
        rw [if_pos ⟨by rw [hlast]; rfl, rfl⟩]
        exact Nat.lt_succ_of_le (h.enough d')
      | true =>
        rw [hlast, hheld, Bool.true_and, Bool.true_and] at hhandled
        exact Nat.lt_add_right _ (h.reserve d' (h.held d' hheld) hhandled)
    · rw [Function.update_of_ne hd] at hlast hhandled
      exact Nat.lt_add_right _ (h.reserve d' hlast hhandled)

theorem Fair.restart (h : s.Fair) (d : D) : (s.after (.restart d)).Fair := by
  refine ⟨fun d' hheld ↦ ?_, h.word, h.enough, h.reserve⟩
  change Function.update s.held d false d' = true at hheld
  by_cases hd : d' = d
  · subst hd
    simp at hheld
  · rw [Function.update_of_ne hd] at hheld
    exact h.held d' hheld

theorem Fair.look (h : s.Fair) {d : D} {down acts : Bool} (hlegal : s.Legal (.look d down acts))
    (hfirst : s.resumes (.look d down acts) = false) : (s.after (.look d down acts)).Fair := by
  obtain ⟨hdown, hacts⟩ := hlegal
  have hactions : ∀ d', (s.after (.look d down acts)).actions.count d' =
      s.actions.count d' + if acts = true ∧ d = d' then 1 else 0 := by
    intro d'
    change (if acts then d :: s.actions else s.actions).count d' = _
    split <;> simp_all [List.count_cons]
  -- an action takes the press in reserve
  have hreserve : acts = true → s.actions.count d < s.presses.count d := by
    intro hact
    obtain ⟨hpressed, hword⟩ := hacts hact
    apply h.reserve d (hdown ▸ hpressed)
    by_contra hhandled
    have hhandled : s.handled d = true := by simpa using hhandled
    by_cases howner : s.owner = some d
    · exact Bool.noConfusion (hword.symm.trans (h.word d howner hhandled))
    · have hresumes : s.resumes (.look d down acts) = true := by
        change (decide (s.owner ≠ some d) && (down && s.handled d)) = true
        rw [decide_eq_true howner, hpressed, hhandled]
        rfl
      exact Bool.noConfusion (hfirst.symm.trans hresumes)
  refine ⟨h.held, fun d' howner hhandled ↦ ?_, fun d' ↦ ?_, fun d' hlast hhandled ↦ ?_⟩
  · obtain rfl : d = d' := Option.some.inj howner
    change Function.update s.handled d down d = true at hhandled
    rwa [Function.update_self] at hhandled
  · rw [hactions]
    change _ ≤ s.presses.count d'
    split
    · rename_i hact
      obtain ⟨hact, rfl⟩ := hact
      exact hreserve hact
    · exact h.enough d'
  · rw [hactions]
    change _ < s.presses.count d'
    have hlast : s.last d' = true := hlast
    change Function.update s.handled d down d' = false at hhandled
    by_cases hd : d' = d
    · subst hd
      rw [Function.update_self] at hhandled
      exact Bool.noConfusion (hhandled.symm.trans (hdown.trans hlast))
    · rw [Function.update_of_ne hd] at hhandled
      rw [if_neg fun hact ↦ hd hact.2.symm]
      exact h.reserve d' hlast hhandled

theorem Fair.blank (h : s.Fair) : (s.after .blank).Fair := by
  refine ⟨h.held, fun d howner ↦ ?_, h.enough, h.reserve⟩
  cases howner

/-- Every action has a press of its own. -/
theorem Fair.subperm (h : s.Fair) : s.actions.Subperm s.presses :=
  List.subperm_ext_iff.mpr fun d _ ↦ h.enough d

end Watch

end Nutcracker
