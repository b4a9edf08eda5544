import Mathlib

/-!
# Runs with their history

A run of a system is built step by step under a guard that may look at everything that happened
before.  The history is the list of all steps, latest first, each with the state it started in, so
that quantities such as "the time of the last report" are functions of the history.
-/

namespace Nutcracker

/-- A step: the state before it and the event. -/
structure Entry (σ ε : Type) where
  before : σ
  event : ε

/-- Runs of `next` from an `init` state in which every step satisfies `ok`. -/
inductive Run {σ ε : Type} (next : σ → ε → σ) (ok : List (Entry σ ε) → σ → ε → Prop)
    (init : σ → Prop) : List (Entry σ ε) → σ → Prop
  | start {s : σ} (hs : init s) : Run next ok init [] s
  | step {log : List (Entry σ ε)} {s : σ} (e : ε) (hrun : Run next ok init log s)
      (hok : ok log s e) : Run next ok init (⟨s, e⟩ :: log) (next s e)

namespace Run

variable {σ ε : Type} {next : σ → ε → σ} {ok : List (Entry σ ε) → σ → ε → Prop}
  {init : σ → Prop} {log : List (Entry σ ε)} {s : σ}

/-- A property of history and state that holds initially and is kept by every step of a run holds
after every run. -/
theorem invariant {I : List (Entry σ ε) → σ → Prop} (hstart : ∀ s, init s → I [] s)
    (hstep : ∀ log s e, Run next ok init log s → I log s → ok log s e →
      I (⟨s, e⟩ :: log) (next s e))
    (hrun : Run next ok init log s) : I log s := by
  induction hrun with
  | start hs => exact hstart _ hs
  | step e hrun hok ih => exact hstep _ _ e hrun ih hok

/-- The run without its last step. -/
theorem of_cons {entry : Entry σ ε} (hrun : Run next ok init (entry :: log) s) :
    Run next ok init log entry.before ∧ ok log entry.before entry.event ∧
      s = next entry.before entry.event := by
  cases hrun with
  | step e hprev hok => exact ⟨hprev, hok, rfl⟩

/-- The run up to one of its steps. -/
theorem of_suffix {entry : Entry σ ε} {earlier : List (Entry σ ε)} (hrun : Run next ok init log s)
    (hsuffix : entry :: earlier <:+ log) : Run next ok init earlier entry.before := by
  obtain ⟨later, rfl⟩ := hsuffix
  induction later generalizing s with
  | nil => exact hrun.of_cons.1
  | cons entry' later ih => exact ih hrun.of_cons.1

/-- One of the steps of a run was allowed in the run up to it. -/
theorem ok_of_suffix {entry : Entry σ ε} {earlier : List (Entry σ ε)} (hrun : Run next ok init log s)
    (hsuffix : entry :: earlier <:+ log) : ok earlier entry.before entry.event := by
  obtain ⟨later, rfl⟩ := hsuffix
  induction later generalizing s with
  | nil => exact hrun.of_cons.2.1
  | cons entry' later ih => exact ih hrun.of_cons.1

/-- A step of a run was allowed in the run before it. -/
theorem exists_of_mem {entry : Entry σ ε} (hrun : Run next ok init log s) (hmem : entry ∈ log) :
    ∃ earlier, Run next ok init earlier entry.before ∧ ok earlier entry.before entry.event := by
  induction hrun with
  | start hs => cases hmem
  | step e hrun hok ih =>
    rcases List.mem_cons.mp hmem with rfl | hearlier
    · exact ⟨_, hrun, hok⟩
    · exact ih hearlier

section Replay

variable (next) [∀ log s e, Decidable (ok log s e)]

/-- Perform the events one after another as long as the guard allows them. -/
def replay (ok : List (Entry σ ε) → σ → ε → Prop) [∀ log s e, Decidable (ok log s e)] :
    List (Entry σ ε) → σ → List ε → Option (List (Entry σ ε) × σ)
  | log, s, [] => some (log, s)
  | log, s, e :: rest =>
    if ok log s e then replay ok (⟨s, e⟩ :: log) (next s e) rest else none

variable {next}

/-- A successful replay is a run. -/
theorem of_replay {events : List ε} {log' : List (Entry σ ε)} {s' : σ}
    (hrun : Run next ok init log s) (h : replay next ok log s events = some (log', s')) :
    Run next ok init log' s' := by
  induction events generalizing log s with
  | nil =>
    obtain ⟨rfl, rfl⟩ := Prod.mk.inj (Option.some.inj h)
    exact hrun
  | cons e rest ih =>
    unfold replay at h
    split at h
    · rename_i hok
      exact ih (.step e hrun hok) h
    · cases h

/-- A replay that reaches a state with `p` is a run to such a state. -/
theorem exists_of_replay (events : List ε) (p : List (Entry σ ε) × σ → Bool) (hs : init s)
    (h : (replay next ok [] s events).any p = true) :
    ∃ log' s', Run next ok init log' s' ∧ p (log', s') = true := by
  cases hreplay : replay next ok [] s events with
  | none =>
    rw [hreplay] at h
    cases h
  | some result =>
    rw [hreplay] at h
    exact ⟨result.1, result.2, of_replay (.start hs) hreplay, h⟩

end Replay

end Run

end Nutcracker
