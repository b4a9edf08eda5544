import Nutcracker.Program.Protocol

/-!
# One operation at a time

A thread performs a program operation by operation, and between two of them the other threads change
the state.  A view of the state that no other thread changes behaves as if the program ran without
interruption: `Turns` says what the program makes of it, whatever it is told about everything else.
-/

namespace Nutcracker

namespace Prog

variable {Op : Type} {Ans : Op → Type} {α β S V : Type}

/-- Perform the next operation; `h` answers it and updates the state. -/
def advance (h : (o : Op) → S → Ans o × S) : Prog Op Ans α → S → Prog Op Ans α × S
  | .pure a, s => (.pure a, s)
  | .op o next, s => (next (h o s).1, (h o s).2)

/-- A program that is not finished has an operation to perform. -/
theorem exists_op_of_unfinished {p : Prog Op Ans α} (h : p.finished = false) :
    ∃ o next, p = .op o next := by
  cases p with
  | pure a => cases h
  | op o next => exact ⟨o, next, rfl⟩

theorem exists_op_of_nextOp {p : Prog Op Ans α} {o : Op} (h : p.nextOp = some o) :
    ∃ next, p = .op o next := by
  cases p with
  | pure a => cases h
  | op o' next =>
    obtain rfl := Option.some.inj h
    exact ⟨next, rfl⟩

theorem exists_pure_of_finished {p : Prog Op Ans α} (h : p.finished = true) : ∃ a, p = .pure a := by
  cases p with
  | pure a => exact ⟨a, rfl⟩
  | op o next => cases h

/-- What a program may do under allowed answers remains so. -/
theorem Sat.advance {allows : (o : Op) → Ans o → Prop} {ok : Op → Prop} {post : α → Prop}
    {h : (o : Op) → S → Ans o × S} {p : Prog Op Ans α} {s : S} (hp : p.Sat allows ok post)
    (hallows : ∀ o s, allows o (h o s).1) : (p.advance h s).1.Sat allows ok post := by
  cases p with
  | pure a => exact hp
  | op o next => exact hp.2 _ (hallows o s)

theorem Sat.ok_of_nextOp {allows : (o : Op) → Ans o → Prop} {ok : Op → Prop} {post : α → Prop}
    {p : Prog Op Ans α} (hp : p.Sat allows ok post) {o : Op} (h : p.nextOp = some o) : ok o := by
  obtain ⟨next, rfl⟩ := exists_op_of_nextOp h
  exact hp.1

/-! ## Views -/

/-- The stages of the protocol are the values of the view. -/
structure Tracks (h : (o : Op) → S → Ans o × S) (P : Protocol Op Ans V) (view : S → V) : Prop where
  answers : ∀ o s, P.allows (view s) o (h o s).1
  moves : ∀ o s, view (h o s).2 = P.next (view s) o (h o s).1

/-- The program turns `v` into `w`. -/
def Turns (P : Protocol Op Ans V) (v w : V) (p : Prog Op Ans α) : Prop :=
  p.Follows P (fun stage _ ↦ stage = w) v

section Turns

variable {P : Protocol Op Ans V} {v w u : V} {h : (o : Op) → S → Ans o × S} {view : S → V}

theorem Turns.bind {p : Prog Op Ans α} {f : α → Prog Op Ans β} (hp : Turns P v w p)
    (hf : ∀ a, Turns P w u (f a)) : Turns P v u (p >>= f) :=
  Follows.bind hp fun _ a hstage ↦ hstage ▸ hf a

theorem turns_when {flag : Bool} {p : Prog Op Ans Unit} (hp : flag = true → Turns P v w p)
    (hskip : flag = false → v = w) : Turns P v w (when flag p) :=
  follows_when hp hskip

theorem Turns.when_bind {flag : Bool} {p : Prog Op Ans Unit} {f : Unit → Prog Op Ans β}
    (hp : flag = true → Turns P v w p) (hskip : flag = false → v = w)
    (hf : Turns P w u (f ())) : Turns P v u (when flag p >>= f) :=
  (turns_when hp hskip).bind fun _ ↦ hf

theorem turns_ite {c : Prop} [Decidable c] {p q : Prog Op Ans α} (hp : c → Turns P v w p)
    (hq : ¬c → Turns P v w q) : Turns P v w (if c then p else q) :=
  follows_ite hp hq

/-- A program none of whose operations touches the view. -/
theorem turns_of_sat {allows : (o : Op) → Ans o → Prop} {ok : Op → Prop} {post : α → Prop}
    {p : Prog Op Ans α} (v : V) (hp : p.Sat allows ok post)
    (hstep : ∀ o, ok o → P.ok v o ∧
      ∀ answer, P.allows v o answer → allows o answer ∧ P.next v o answer = v) : Turns P v v p :=
  (hp.follows_stage v hstep).post_mono fun _ _ hpost ↦ hpost.1

/-- One operation brings the view closer to where the program turns it. -/
theorem Turns.advance (htracks : Tracks h P view) {p : Prog Op Ans α} {s : S}
    (hp : Turns P (view s) w p) : Turns P (view (p.advance h s).2) w (p.advance h s).1 := by
  cases p with
  | pure a => exact hp
  | op o next =>
    change Turns P (view (h o s).2) w (next (h o s).1)
    rw [htracks.moves]
    exact hp.2 _ (htracks.answers o s)

theorem Turns.of_finished {p : Prog Op Ans α} (hp : Turns P v w p) (hfinished : p.finished = true) :
    v = w := by
  obtain ⟨a, rfl⟩ := exists_pure_of_finished hfinished
  exact hp

end Turns

end Prog

end Nutcracker
