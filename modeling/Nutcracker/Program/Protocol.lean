import Nutcracker.Program.Basic

/-!
# Programs that keep to a protocol

A protocol tells, from what a program has done so far, which operations it may perform next and
which answers it can rely on.  `Follows` is the rule of allowed answers with such a stage carried
along: a program that starts in `stage` performs only permitted operations and ends in a stage with
`post`.  In a concurrent system every task follows a protocol of its own; the other tasks owe it
that the shared state keeps agreeing with its stage.
-/

namespace Nutcracker

structure Protocol (Op : Type) (Ans : Op → Type) (σ : Type) where
  /-- The operations permitted at a stage. -/
  ok : σ → Op → Prop
  /-- The answers promised at a stage. -/
  allows : σ → (o : Op) → Ans o → Prop
  /-- The stage after an operation and its answer. -/
  next : σ → (o : Op) → Ans o → σ

namespace Prog

variable {Op : Type} {Ans : Op → Type} {α β σ S : Type}

/-- As long as answers are as promised, every operation is permitted and the result comes at a stage
with `post`. -/
def Follows (P : Protocol Op Ans σ) (post : σ → α → Prop) : Prog Op Ans α → σ → Prop
  | .pure a, stage => post stage a
  | .op o next, stage => P.ok stage o ∧
    ∀ answer, P.allows stage o answer → (next answer).Follows P post (P.next stage o answer)

section Follows

variable {P : Protocol Op Ans σ} {post post' : σ → α → Prop} {post₂ : σ → β → Prop} {stage : σ}

theorem Follows.bind {Q : σ → α → Prop} {p : Prog Op Ans α} {f : α → Prog Op Ans β}
    (hp : p.Follows P Q stage) (hf : ∀ stage' a, Q stage' a → (f a).Follows P post₂ stage') :
    (p >>= f).Follows P post₂ stage := by
  induction p generalizing stage with
  | pure a => exact hf stage a hp
  | op o next ih => exact ⟨hp.1, fun answer hanswer ↦ ih answer (hp.2 answer hanswer)⟩

theorem Follows.post_mono {p : Prog Op Ans α} (hp : p.Follows P post stage)
    (hpost : ∀ stage' a, post stage' a → post' stage' a) : p.Follows P post' stage := by
  induction p generalizing stage with
  | pure a => exact hpost stage a hp
  | op o next ih => exact ⟨hp.1, fun answer hanswer ↦ ih answer (hp.2 answer hanswer)⟩

theorem Follows.perform_bind {o : Op} {f : Ans o → Prog Op Ans β} (ho : P.ok stage o)
    (hf : ∀ answer, P.allows stage o answer → (f answer).Follows P post₂ (P.next stage o answer)) :
    (perform o >>= f).Follows P post₂ stage :=
  ⟨ho, hf⟩

theorem follows_ite {c : Prop} [Decidable c] {p q : Prog Op Ans α}
    (hp : c → p.Follows P post stage) (hq : ¬c → q.Follows P post stage) :
    (if c then p else q).Follows P post stage := by
  split
  · exact hp ‹_›
  · exact hq ‹_›

theorem follows_when {flag : Bool} {p : Prog Op Ans Unit} {post : σ → Unit → Prop}
    (hp : flag = true → p.Follows P post stage) (hpost : flag = false → post stage ()) :
    (when flag p).Follows P post stage := by
  cases flag
  · exact hpost rfl
  · exact hp rfl

/-- Operations that are permitted at every stage of a family and do not leave it. -/
theorem Sat.follows {allows : (o : Op) → Ans o → Prop} {ok : Op → Prop} {post : α → Prop}
    {p : Prog Op Ans α} (family : σ → Prop) (hp : p.Sat allows ok post)
    (hstep : ∀ st o, family st → ok o → P.ok st o ∧
      ∀ answer, P.allows st o answer → allows o answer ∧ family (P.next st o answer))
    (hstage : family stage) : p.Follows P (fun st a ↦ family st ∧ post a) stage := by
  induction p generalizing stage with
  | pure a => exact ⟨hstage, hp⟩
  | op o next ih =>
    obtain ⟨hok, hanswers⟩ := hstep stage o hstage hp.1
    refine ⟨hok, fun answer hanswer ↦ ?_⟩
    obtain ⟨hallowed, hfamily⟩ := hanswers answer hanswer
    exact ih answer (hp.2 answer hallowed) hfamily

/-- Operations that are permitted at a stage and do not leave it. -/
theorem Sat.follows_stage {allows : (o : Op) → Ans o → Prop} {ok : Op → Prop} {post : α → Prop}
    {p : Prog Op Ans α} (stage : σ) (hp : p.Sat allows ok post)
    (hstep : ∀ o, ok o → P.ok stage o ∧
      ∀ answer, P.allows stage o answer → allows o answer ∧ P.next stage o answer = stage) :
    p.Follows P (fun st a ↦ st = stage ∧ post a) stage :=
  hp.follows (· = stage) (fun _ o hst ho ↦ hst ▸ hstep o ho) rfl

/-- What is permitted at any stage under answers that are promised at every stage. -/
theorem Follows.sat {allows : (o : Op) → Ans o → Prop} {ok : Op → Prop} {p : Prog Op Ans α}
    (hp : p.Follows P post stage) (hok : ∀ st o, P.ok st o → ok o)
    (hallows : ∀ st o answer, allows o answer → P.allows st o answer) :
    p.Sat allows ok fun _ ↦ True := by
  induction p generalizing stage with
  | pure a => trivial
  | op o next ih =>
    refine ⟨hok stage o hp.1, fun answer hanswer ↦ ?_⟩
    exact ih answer (hp.2 answer (hallows stage o answer hanswer))

end Follows

end Prog

end Nutcracker
