import Mathlib

/-!
# Programs over atomic operations

A `Prog` is a finite tree of atomic operations: it either returns a value or performs one
operation and continues with the answer.  The same program text is read at two granularities.
`run` executes it to the end without interruption, against a handler that answers every
operation from a state.  `Exec` executes it operation by operation against a relation, so that an
environment may act between any two operations.

`Sat` is the syntactic rule for both: under the assumption that answers satisfy `allows`, every
operation performed is `ok` and the result satisfies `post`.  `Everywhere` is the corresponding
rule for the remaining program at every point at which a program may be suspended (`Rest`).
-/

namespace Nutcracker

/-- A program whose atomic operation `o : Op` is answered by a value of type `Ans o`. -/
inductive Prog (Op : Type) (Ans : Op → Type) (α : Type) : Type
  | pure (value : α) : Prog Op Ans α
  | op (o : Op) (next : Ans o → Prog Op Ans α) : Prog Op Ans α

namespace Prog

variable {Op : Type} {Ans : Op → Type} {α β γ S : Type}

/-- Sequential composition: continue with `f` at every leaf. -/
protected def bind : Prog Op Ans α → (α → Prog Op Ans β) → Prog Op Ans β
  | .pure a, f => f a
  | .op o next, f => .op o fun answer ↦ (next answer).bind f

instance : Monad (Prog Op Ans) where
  pure := Prog.pure
  bind := Prog.bind

/-- One operation, returning its answer. -/
def perform (o : Op) : Prog Op Ans (Ans o) := .op o .pure

/-- Perform `p` only if the flag is set. -/
def when (flag : Bool) (p : Prog Op Ans Unit) : Prog Op Ans Unit :=
  if flag then p else .pure ()

/-- Nothing is left to perform. -/
def finished : Prog Op Ans α → Bool
  | .pure _ => true
  | .op _ _ => false

/-- The operation to be performed next. -/
def nextOp : Prog Op Ans α → Option Op
  | .pure _ => none
  | .op o _ => some o

@[simp]
theorem pure_bind' (a : α) (f : α → Prog Op Ans β) :
    ((Prog.pure a : Prog Op Ans α) >>= f) = f a := rfl

@[simp]
theorem op_bind (o : Op) (next : Ans o → Prog Op Ans α) (f : α → Prog Op Ans β) :
    (Prog.op o next >>= f) = .op o fun answer ↦ next answer >>= f := rfl

@[simp]
theorem pure_eq (a : α) : (Pure.pure a : Prog Op Ans α) = .pure a := rfl

theorem bind_assoc' (p : Prog Op Ans α) (f : α → Prog Op Ans β) (g : β → Prog Op Ans γ) :
    (p >>= f) >>= g = p >>= fun a ↦ f a >>= g := by
  induction p with
  | pure a => rfl
  | op o next ih => exact congrArg (Prog.op o) (funext fun answer ↦ ih answer)

theorem bind_pure' (p : Prog Op Ans α) : (p >>= .pure) = p := by
  induction p with
  | pure a => rfl
  | op o next ih => exact congrArg (Prog.op o) (funext ih)

@[simp]
theorem ite_bind (c : Prop) [Decidable c] (p q : Prog Op Ans α) (f : α → Prog Op Ans β) :
    ((if c then p else q) >>= f) = if c then p >>= f else q >>= f := by
  split <;> rfl

/-! ## Uninterrupted execution -/

/-- A performed operation together with its answer. -/
abbrev Step (Op : Type) (Ans : Op → Type) : Type := (o : Op) × Ans o

/-- Execute to the end; `h` answers each operation and updates the state. -/
def run (h : (o : Op) → S → Ans o × S) : Prog Op Ans α → S → α × S
  | .pure a, s => (a, s)
  | .op o next, s => (next (h o s).1).run h (h o s).2

/-- The operations performed by `run`, in order, with their answers. -/
def trace (h : (o : Op) → S → Ans o × S) : Prog Op Ans α → S → List (Step Op Ans)
  | .pure _, _ => []
  | .op o next, s => ⟨o, (h o s).1⟩ :: (next (h o s).1).trace h (h o s).2

section Run

variable (h : (o : Op) → S → Ans o × S)

@[simp]
theorem run_pure (a : α) (s : S) : (Prog.pure a : Prog Op Ans α).run h s = (a, s) := rfl

@[simp]
theorem run_op (o : Op) (next : Ans o → Prog Op Ans α) (s : S) :
    (Prog.op o next).run h s = (next (h o s).1).run h (h o s).2 := rfl

@[simp]
theorem run_perform (o : Op) (s : S) : (perform o : Prog Op Ans (Ans o)).run h s = h o s := rfl

@[simp]
theorem run_bind (p : Prog Op Ans α) (f : α → Prog Op Ans β) (s : S) :
    (p >>= f).run h s = (f (p.run h s).1).run h (p.run h s).2 := by
  induction p generalizing s with
  | pure a => rfl
  | op o next ih => exact ih _ _

@[simp]
theorem run_ite (c : Prop) [Decidable c] (p q : Prog Op Ans α) (s : S) :
    (if c then p else q).run h s = if c then p.run h s else q.run h s := by
  split <;> rfl

@[simp]
theorem run_when (flag : Bool) (p : Prog Op Ans Unit) (s : S) :
    (when flag p).run h s = if flag then p.run h s else ((), s) := by
  unfold when
  split <;> rfl

@[simp]
theorem trace_pure (a : α) (s : S) : (Prog.pure a : Prog Op Ans α).trace h s = [] := rfl

@[simp]
theorem trace_op (o : Op) (next : Ans o → Prog Op Ans α) (s : S) :
    (Prog.op o next).trace h s =
      ⟨o, (h o s).1⟩ :: (next (h o s).1).trace h (h o s).2 := rfl

@[simp]
theorem trace_perform (o : Op) (s : S) :
    (perform o : Prog Op Ans (Ans o)).trace h s = [⟨o, (h o s).1⟩] := rfl

@[simp]
theorem trace_bind (p : Prog Op Ans α) (f : α → Prog Op Ans β) (s : S) :
    (p >>= f).trace h s = p.trace h s ++ (f (p.run h s).1).trace h (p.run h s).2 := by
  induction p generalizing s with
  | pure a => rfl
  | op o next ih =>
    simp only [op_bind, trace_op, run_op, List.cons_append]
    exact congrArg _ (ih _ _)

@[simp]
theorem trace_when (flag : Bool) (p : Prog Op Ans Unit) (s : S) :
    (when flag p).trace h s = if flag then p.trace h s else [] := by
  unfold when
  split <;> rfl

/-- Whatever the state, `p` ends in one with `Q`. -/
def Establishes (Q : S → Prop) (p : Prog Op Ans α) : Prop := ∀ s, Q (p.run h s).2

variable {h} {Q : S → Prop}

theorem Establishes.bind {p : Prog Op Ans α} {f : α → Prog Op Ans β}
    (hf : ∀ a, Establishes h Q (f a)) : Establishes h Q (p >>= f) := by
  intro s
  rw [run_bind]
  exact hf _ _

theorem Establishes.ite {c : Prop} [Decidable c] {p q : Prog Op Ans α}
    (hp : c → Establishes h Q p) (hq : ¬c → Establishes h Q q) :
    Establishes h Q (if c then p else q) := by
  split
  · exact hp ‹_›
  · exact hq ‹_›

end Run

/-! ## The rule of allowed answers -/

/-- If every answer is allowed, every operation is `ok` and the result satisfies `post`. -/
def Sat (allows : (o : Op) → Ans o → Prop) (ok : Op → Prop) (post : α → Prop) :
    Prog Op Ans α → Prop
  | .pure a => post a
  | .op o next => ok o ∧ ∀ answer, allows o answer → (next answer).Sat allows ok post

section Sat

variable {allows allows' : (o : Op) → Ans o → Prop} {ok ok' : Op → Prop}
  {post post' : α → Prop} {post₂ : β → Prop}

@[simp]
theorem sat_pure (a : α) : (Prog.pure a : Prog Op Ans α).Sat allows ok post ↔ post a := Iff.rfl

@[simp]
theorem sat_op (o : Op) (next : Ans o → Prog Op Ans α) :
    (Prog.op o next).Sat allows ok post ↔
      ok o ∧ ∀ answer, allows o answer → (next answer).Sat allows ok post := Iff.rfl

/-- The postcondition of the first program is the precondition of the second. -/
theorem sat_bind_iff (p : Prog Op Ans α) (f : α → Prog Op Ans β) :
    (p >>= f).Sat allows ok post₂ ↔
      p.Sat allows ok fun a ↦ (f a).Sat allows ok post₂ := by
  induction p with
  | pure a => rfl
  | op o next ih =>
    simp only [op_bind, sat_op]
    exact and_congr_right fun _ ↦ forall_congr' fun answer ↦ imp_congr_right fun _ ↦ ih answer

theorem Sat.mono {p : Prog Op Ans α} (hp : p.Sat allows ok post)
    (hallows : ∀ o answer, allows' o answer → allows o answer)
    (hok : ∀ o, ok o → ok' o) (hpost : ∀ a, post a → post' a) : p.Sat allows' ok' post' := by
  induction p with
  | pure a => exact hpost a hp
  | op o next ih =>
    exact ⟨hok o hp.1, fun answer hanswer ↦ ih answer (hp.2 answer (hallows o answer hanswer))⟩

theorem Sat.post_mono {p : Prog Op Ans α} (hp : p.Sat allows ok post)
    (hpost : ∀ a, post a → post' a) : p.Sat allows ok post' :=
  hp.mono (fun _ _ ↦ id) (fun _ ↦ id) hpost

theorem Sat.bind {p : Prog Op Ans α} {f : α → Prog Op Ans β} (hp : p.Sat allows ok post)
    (hf : ∀ a, post a → (f a).Sat allows ok post₂) : (p >>= f).Sat allows ok post₂ :=
  (sat_bind_iff p f).mpr (hp.post_mono hf)

theorem Sat.perform_bind {o : Op} {f : Ans o → Prog Op Ans β} (ho : ok o)
    (hf : ∀ answer, allows o answer → (f answer).Sat allows ok post₂) :
    (perform o >>= f).Sat allows ok post₂ :=
  ⟨ho, hf⟩

theorem sat_ite {c : Prop} [Decidable c] {p q : Prog Op Ans α}
    (hp : c → p.Sat allows ok post) (hq : ¬c → q.Sat allows ok post) :
    (if c then p else q).Sat allows ok post := by
  split
  · exact hp ‹_›
  · exact hq ‹_›

theorem sat_when {flag : Bool} {p : Prog Op Ans Unit} {post : Unit → Prop}
    (hp : flag = true → p.Sat allows ok post) (hpost : flag = false → post ()) :
    (when flag p).Sat allows ok post := by
  cases flag
  · exact hpost rfl
  · exact hp rfl

theorem Sat.when_bind {flag : Bool} {p : Prog Op Ans Unit} {f : Unit → Prog Op Ans β}
    (hp : flag = true → p.Sat allows ok fun _ ↦ True) (hf : (f ()).Sat allows ok post₂) :
    (when flag p >>= f).Sat allows ok post₂ :=
  (sat_when hp fun _ ↦ trivial).bind fun _ _ ↦ hf

theorem sat_ite_iff {c : Prop} [Decidable c] {p q : Prog Op Ans α} :
    (if c then p else q).Sat allows ok post ↔
      (c → p.Sat allows ok post) ∧ (¬c → q.Sat allows ok post) := by
  by_cases hc : c
  · simp [hc]
  · simp [hc]

theorem sat_when_iff {flag : Bool} {p : Prog Op Ans Unit} {post : Unit → Prop} :
    (when flag p).Sat allows ok post ↔
      (flag = true → p.Sat allows ok post) ∧ (flag = false → post ()) := by
  cases flag
  · simp [when]
  · simp [when]

theorem Sat.and {p : Prog Op Ans α} (hp : p.Sat allows ok post) (hp' : p.Sat allows ok' post') :
    p.Sat allows (fun o ↦ ok o ∧ ok' o) fun a ↦ post a ∧ post' a := by
  induction p with
  | pure a => exact ⟨hp, hp'⟩
  | op o next ih =>
    exact ⟨⟨hp.1, hp'.1⟩, fun answer hanswer ↦ ih answer (hp.2 answer hanswer) (hp'.2 answer hanswer)⟩

variable {h : (o : Op) → S → Ans o × S} {I : S → Prop}

/-- An invariant kept by every `ok` operation, under which answers are allowed, is kept by the
whole program; the result then satisfies `post`. -/
theorem Sat.run {p : Prog Op Ans α} (hp : p.Sat allows ok post)
    (hstep : ∀ o s, ok o → I s → allows o (h o s).1 ∧ I (h o s).2) {s : S} (hs : I s) :
    post (p.run h s).1 ∧ I (p.run h s).2 := by
  induction p generalizing s with
  | pure a => exact ⟨hp, hs⟩
  | op o next ih =>
    obtain ⟨hanswer, hnext⟩ := hstep o s hp.1 hs
    exact ih _ (hp.2 _ hanswer) hnext

/-- Under the same assumptions, every operation performed is `ok`. -/
theorem Sat.trace {p : Prog Op Ans α} (hp : p.Sat allows ok post)
    (hstep : ∀ o s, ok o → I s → allows o (h o s).1 ∧ I (h o s).2) {s : S} (hs : I s) :
    ∀ e ∈ p.trace h s, ok e.1 := by
  induction p generalizing s with
  | pure a => simp
  | op o next ih =>
    obtain ⟨hanswer, hnext⟩ := hstep o s hp.1 hs
    intro e he
    rcases List.mem_cons.mp he with rfl | he
    · exact hp.1
    · exact ih _ (hp.2 _ hanswer) hnext e he

end Sat

/-! ## Execution in an environment -/

/-- `Exec E p s tr q s'`: starting from `p` in state `s`, the operations `tr` are performed, each
related to its answer and its effect by `E`, and `q` is the program that remains in `s'`. -/
inductive Exec (E : (o : Op) → S → Ans o → S → Prop) :
    Prog Op Ans α → S → List (Step Op Ans) → Prog Op Ans α → S → Prop
  | refl (p : Prog Op Ans α) (s : S) : Exec E p s [] p s
  | step {o : Op} {next : Ans o → Prog Op Ans α} {answer : Ans o} {s s' s'' : S}
      {tr : List (Step Op Ans)} {q : Prog Op Ans α} (hop : E o s answer s')
      (hrest : Exec E (next answer) s' tr q s'') :
      Exec E (.op o next) s (⟨o, answer⟩ :: tr) q s''

section Exec

variable {E : (o : Op) → S → Ans o → S → Prop}

/-- Nothing is performed by a program that has returned. -/
theorem exec_pure_pure {a b : α} {s s' : S} {tr : List (Step Op Ans)}
    (hexec : Exec E (.pure a) s tr (.pure b) s') : b = a ∧ s' = s ∧ tr = [] := by
  cases hexec with
  | refl => exact ⟨rfl, rfl, rfl⟩

/-- A finished execution performs the first operation and then those of the rest. -/
theorem exec_op_pure {o : Op} {next : Ans o → Prog Op Ans α} {b : α} {s s' : S}
    {tr : List (Step Op Ans)} (hexec : Exec E (.op o next) s tr (.pure b) s') :
    ∃ answer s₁ tr₁, tr = ⟨o, answer⟩ :: tr₁ ∧ E o s answer s₁ ∧
      Exec E (next answer) s₁ tr₁ (.pure b) s' := by
  cases hexec with
  | step hop hrest => exact ⟨_, _, _, rfl, hop, hrest⟩

/-- A finished execution of `p >>= f` is one of `p` followed by one of `f`. -/
theorem exec_bind_pure {p : Prog Op Ans α} {f : α → Prog Op Ans β} {s s' : S} {b : β}
    {tr : List (Step Op Ans)} (hexec : Exec E (p >>= f) s tr (.pure b) s') :
    ∃ a s₁ tr₁ tr₂, tr = tr₁ ++ tr₂ ∧ Exec E p s tr₁ (.pure a) s₁ ∧
      Exec E (f a) s₁ tr₂ (.pure b) s' := by
  induction p generalizing s tr with
  | pure a => exact ⟨a, s, [], tr, rfl, .refl _ _, hexec⟩
  | op o next ih =>
    cases hexec with
    | step hop hrest =>
      obtain ⟨a, s₁, tr₁, tr₂, rfl, hp, hf⟩ := ih _ hrest
      exact ⟨a, s₁, _ :: tr₁, tr₂, rfl, .step hop hp, hf⟩

/-- The operations and their answers determine the result. -/
theorem Exec.result_unique {E' : (o : Op) → S → Ans o → S → Prop} {p : Prog Op Ans α} {a b : α}
    {s s' u u' : S} {tr tr' post post' : List (Step Op Ans)} (h : Exec E p s tr (.pure a) s')
    (h' : Exec E' p u tr' (.pure b) u') (htr : tr ++ post = tr' ++ post') : a = b := by
  induction p generalizing s u tr tr' with
  | pure c => exact (exec_pure_pure h).1.trans (exec_pure_pure h').1.symm
  | op o next ih =>
    obtain ⟨answer, s₁, tr₁, rfl, -, hrest⟩ := exec_op_pure h
    obtain ⟨answer', u₁, tr₁', rfl, -, hrest'⟩ := exec_op_pure h'
    obtain ⟨hstep, htail⟩ := List.cons.inj htr
    cases hstep
    exact ih answer hrest hrest' htail

/-- An uninterrupted run is an execution in every environment that allows its operations. -/
theorem exec_trace {h : (o : Op) → S → Ans o × S} (hE : ∀ o s, E o s (h o s).1 (h o s).2)
    (p : Prog Op Ans α) (s : S) : Exec E p s (p.trace h s) (.pure (p.run h s).1) (p.run h s).2 := by
  induction p generalizing s with
  | pure a => exact .refl _ _
  | op o next ih => exact .step (hE o s) (ih _ _)

/-- `Sat` along an execution in an environment: `I` is what the environment guarantees. -/
theorem Sat.exec {allows : (o : Op) → Ans o → Prop} {ok : Op → Prop} {post : α → Prop}
    {I : S → Prop} {p q : Prog Op Ans α} {s s' : S} {tr : List (Step Op Ans)}
    (hp : p.Sat allows ok post)
    (hstep : ∀ o s answer s', ok o → I s → E o s answer s' → allows o answer ∧ I s')
    (hs : I s) (hexec : Exec E p s tr q s') :
    q.Sat allows ok post ∧ I s' ∧ ∀ e ∈ tr, ok e.1 := by
  induction hexec with
  | refl => exact ⟨hp, hs, by simp⟩
  | step hop _ ih =>
    obtain ⟨hanswer, hnext⟩ := hstep _ _ _ _ hp.1 hs hop
    obtain ⟨hq, hs', htr⟩ := ih (hp.2 _ hanswer) hnext
    exact ⟨hq, hs', List.forall_mem_cons.mpr ⟨hp.1, htr⟩⟩

end Exec

/-! ## Operations after a certain answer -/

/-- Once a step with `stop` has been performed, every further operation is `ok`. -/
def Afterwards (allows : (o : Op) → Ans o → Prop) (stop : Step Op Ans → Prop) (ok : Op → Prop) :
    Prog Op Ans α → Prop
  | .pure _ => True
  | .op o next => ∀ answer, allows o answer →
    (stop ⟨o, answer⟩ → (next answer).Sat allows ok fun _ ↦ True) ∧
      (next answer).Afterwards allows stop ok

section Afterwards

variable {allows : (o : Op) → Ans o → Prop} {stop : Step Op Ans → Prop} {ok ok' : Op → Prop}

theorem Sat.afterwards {p : Prog Op Ans α} {post : α → Prop} (hp : p.Sat allows ok post) :
    p.Afterwards allows stop ok := by
  induction p with
  | pure a => trivial
  | op o next ih =>
    intro answer hanswer
    have hnext := hp.2 answer hanswer
    exact ⟨fun _ ↦ hnext.post_mono fun _ _ ↦ trivial, ih answer hnext⟩

theorem Afterwards.bind {p : Prog Op Ans α} {f : α → Prog Op Ans β}
    (hp : p.Afterwards allows stop ok) (hf : ∀ a, (f a).Sat allows ok fun _ ↦ True) :
    (p >>= f).Afterwards allows stop ok := by
  induction p with
  | pure a => exact (hf a).afterwards
  | op o next ih =>
    intro answer hanswer
    obtain ⟨hstop, hnext⟩ := hp answer hanswer
    exact ⟨fun h ↦ (hstop h).bind fun a _ ↦ hf a, ih answer hnext⟩

theorem Afterwards.exec {E : (o : Op) → S → Ans o → S → Prop} {p q : Prog Op Ans α} {s s' : S}
    {tr pre post : List (Step Op Ans)} {e : Step Op Ans} (hp : p.Afterwards allows stop ok)
    (hallows : ∀ o s answer s', E o s answer s' → allows o answer) (hexec : Exec E p s tr q s')
    (htr : tr = pre ++ e :: post) (he : stop e) : ∀ x ∈ post, ok x.1 := by
  induction hexec generalizing pre with
  | refl => simp at htr
  | step hop hrest ih =>
    obtain ⟨hstop, hnext⟩ := hp _ (hallows _ _ _ _ hop)
    cases pre with
    | nil =>
      obtain ⟨rfl, rfl⟩ := List.cons.inj htr
      exact ((hstop he).exec (fun _ _ _ _ _ _ h ↦ ⟨hallows _ _ _ _ h, trivial⟩) trivial hrest).2.2
    | cons e' pre => exact ih hnext (List.cons.inj htr).2

end Afterwards

/-! ## Every suspension point -/

/-- `Rest p q`: after some operations with some answers, `q` remains of `p`. -/
inductive Rest : Prog Op Ans α → Prog Op Ans α → Prop
  | refl (p : Prog Op Ans α) : Rest p p
  | step {o : Op} {next : Ans o → Prog Op Ans α} {q : Prog Op Ans α} (answer : Ans o)
      (hrest : Rest (next answer) q) : Rest (.op o next) q

/-- One more operation. -/
theorem Rest.perform {p : Prog Op Ans α} {o : Op} {next : Ans o → Prog Op Ans α}
    (hp : Rest p (.op o next)) (answer : Ans o) : Rest p (next answer) := by
  generalize hq : Prog.op o next = q at hp
  induction hp with
  | refl =>
    subst hq
    exact .step answer (.refl _)
  | step answer' _ ih => exact .step answer' (ih hq)

/-- `Φ` holds of the remaining program at every point at which `p` may be suspended. -/
def Everywhere (Φ : Prog Op Ans α → Prop) : Prog Op Ans α → Prop
  | .pure a => Φ (.pure a)
  | .op o next => Φ (.op o next) ∧ ∀ answer, (next answer).Everywhere Φ

section Everywhere

variable {Φ Ψ : Prog Op Ans α → Prop}

theorem Everywhere.here {p : Prog Op Ans α} (hp : p.Everywhere Φ) : Φ p := by
  cases p with
  | pure a => exact hp
  | op o next => exact hp.1

theorem Everywhere.rest {p q : Prog Op Ans α} (hp : p.Everywhere Φ) (hrest : Rest p q) : Φ q := by
  induction hrest with
  | refl => exact hp.here
  | step answer _ ih => exact ih (hp.2 answer)

theorem Everywhere.mono {p : Prog Op Ans α} (hp : p.Everywhere Φ) (hΦ : ∀ q, Φ q → Ψ q) :
    p.Everywhere Ψ := by
  induction p with
  | pure a => exact hΦ _ hp
  | op o next ih => exact ⟨hΦ _ hp.1, fun answer ↦ ih answer (hp.2 answer)⟩

/-- A suspended `p >>= f` is a suspended `p` with `f` still to come, or a suspended `f a`. -/
theorem everywhere_bind {Φ : Prog Op Ans β → Prop} {p : Prog Op Ans α} {f : α → Prog Op Ans β}
    (hp : p.Everywhere fun q ↦ Φ (q >>= f)) (hf : ∀ a, (f a).Everywhere Φ) :
    (p >>= f).Everywhere Φ := by
  induction p with
  | pure a => exact hf a
  | op o next ih => exact ⟨hp.1, fun answer ↦ ih answer (hp.2 answer)⟩

theorem Sat.rest {ok : Op → Prop} {post : α → Prop} {p q : Prog Op Ans α}
    (hp : p.Sat (fun _ _ ↦ True) ok post) (hrest : Rest p q) :
    q.Sat (fun _ _ ↦ True) ok post := by
  induction hrest with
  | refl => exact hp
  | step answer _ ih => exact ih (hp.2 answer trivial)

/-- Wherever a program is suspended, what remains keeps to the rule of the whole. -/
theorem Sat.everywhere {ok : Op → Prop} {post : α → Prop} {p : Prog Op Ans α}
    (hp : p.Sat (fun _ _ ↦ True) ok post) :
    p.Everywhere fun q ↦ q.Sat (fun _ _ ↦ True) ok post := by
  induction p with
  | pure a => exact hp
  | op o next ih => exact ⟨hp, fun answer ↦ ih answer (hp.2 answer trivial)⟩

end Everywhere

end Prog

end Nutcracker
