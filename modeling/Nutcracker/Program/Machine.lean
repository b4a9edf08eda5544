import Mathlib

/-!
# Machines with outputs

A function called once per input on a state of its own.  `outputs` are its results on a list of
inputs, `after` is the state left behind; the result on input `i` depends on the state after the
first `i` inputs.
-/

namespace Nutcracker

namespace Machine

variable {σ ι ο : Type} (step : σ → ι → ο × σ)

def outputs : σ → List ι → List ο
  | _, [] => []
  | s, x :: xs => (step s x).1 :: outputs (step s x).2 xs

def after (s : σ) (xs : List ι) : σ := xs.foldl (fun s x ↦ (step s x).2) s

variable {step} {s : σ} {xs : List ι} {x : ι} {i : ℕ}

theorem outputs_getElem? :
    (outputs step s xs)[i]? = xs[i]?.map fun x ↦ (step (after step s (xs.take i)) x).1 := by
  induction xs generalizing s i with
  | nil => rfl
  | cons x xs ih =>
    cases i with
    | zero => rfl
    | succ i => exact ih

theorem after_take_succ (hx : xs[i]? = some x) :
    after step s (xs.take (i + 1)) = (step (after step s (xs.take i)) x).2 := by
  unfold after
  rw [List.take_add_one, hx, List.foldl_append]
  rfl

/-- What holds at the start and is kept by every input holds after every prefix. -/
theorem after_take_induction {I : ℕ → σ → Prop} (h₀ : I 0 s)
    (hstep : ∀ i x s, xs[i]? = some x → I i s → I (i + 1) (step s x).2) (hi : i ≤ xs.length) :
    I i (after step s (xs.take i)) := by
  induction i with
  | zero => exact h₀
  | succ i ih =>
    have hx : xs[i]? = some xs[i] := List.getElem?_eq_getElem hi
    rw [after_take_succ hx]
    exact hstep i _ _ hx (ih (by omega))

end Machine

end Nutcracker
