import Nutcracker.Program.Basic

/-!
# Observed operations

An observer sees some of the operations that a program performs.  `Shows` says what an uninterrupted
run shows and returns, under an invariant of the states between the operations; parts of a program
show their observations one after the other.  A view of the state that only observed operations
change is determined by what is seen.
-/

namespace Nutcracker

namespace Prog

variable {Op : Type} {Ans : Op → Type} {α β γ δ S : Type}

/-- What is seen of performed operations. -/
def seen (see : Op → Option γ) (tr : List (Step Op Ans)) : List γ := tr.filterMap fun x ↦ see x.1

theorem seen_cons (see : Op → Option γ) (x : Step Op Ans) (tr : List (Step Op Ans)) :
    seen see (x :: tr) = (see x.1).toList ++ seen see tr := by
  unfold seen
  rw [List.filterMap_cons]
  cases see x.1 with
  | none => rfl
  | some c => rfl

theorem seen_append (see : Op → Option γ) (tr tr' : List (Step Op Ans)) :
    seen see (tr ++ tr') = seen see tr ++ seen see tr' :=
  List.filterMap_append

theorem seen_eq_nil {see : Op → Option γ} {tr : List (Step Op Ans)}
    (h : ∀ x ∈ tr, see x.1 = none) : seen see tr = [] :=
  List.filterMap_eq_nil_iff.mpr h

/-- From `s` the program shows `shown`, returns a value with `post` and ends in a state with `I`. -/
structure Shows (h : (o : Op) → S → Ans o × S) (I : S → Prop) (see : Op → Option γ) (s : S)
    (p : Prog Op Ans α) (shown : List γ) (post : α → Prop) : Prop where
  result : post (p.run h s).1
  keeps : I (p.run h s).2
  shown : seen see (p.trace h s) = shown

section Shows

variable {h : (o : Op) → S → Ans o × S} {I : S → Prop} {see : Op → Option γ} {s : S}
  {p : Prog Op Ans α} {f : α → Prog Op Ans β} {shown shown' : List γ} {post : α → Prop}
  {post' : β → Prop}

theorem Shows.pure {a : α} (hs : I s) (ha : post a) : Shows h I see s (Prog.pure a) [] post :=
  ⟨ha, hs, rfl⟩

theorem Shows.bind (hp : Shows h I see s p shown post)
    (hf : ∀ a s', post a → I s' → Shows h I see s' (f a) shown' post') :
    Shows h I see s (p >>= f) (shown ++ shown') post' := by
  have hrest := hf _ _ hp.result hp.keeps
  constructor
  · rw [run_bind]
    exact hrest.result
  · rw [run_bind]
    exact hrest.keeps
  · rw [trace_bind, seen_append, hp.shown, hrest.shown]

/-- The first part shows nothing. -/
theorem Shows.quiet_bind (hp : Shows h I see s p [] post)
    (hf : ∀ a s', post a → I s' → Shows h I see s' (f a) shown' post') :
    Shows h I see s (p >>= f) shown' post' :=
  hp.bind hf

/-- The second part shows nothing. -/
theorem Shows.bind_quiet (hp : Shows h I see s p shown post)
    (hf : ∀ a s', post a → I s' → Shows h I see s' (f a) [] post') :
    Shows h I see s (p >>= f) shown post' := by
  have hboth := hp.bind hf
  rwa [List.append_nil] at hboth

/-- A single operation. -/
theorem Shows.op {o : Op} {next : Ans o → Prog Op Ans β}
    (hnext : Shows h I see (h o s).2 (next (h o s).1) shown' post') :
    Shows h I see s (.op o next) ((see o).toList ++ shown') post' := by
  refine ⟨hnext.result, hnext.keeps, ?_⟩
  rw [trace_op, seen_cons, hnext.shown]

/-- A program none of whose operations is seen. -/
theorem Shows.of_sat {allows : (o : Op) → Ans o → Prop} {ok : Op → Prop}
    (hp : p.Sat allows ok post)
    (hstep : ∀ o s, ok o → I s → allows o (h o s).1 ∧ I (h o s).2)
    (hblind : ∀ o, ok o → see o = none) (hs : I s) : Shows h I see s p [] post := by
  obtain ⟨hresult, hkeeps⟩ := hp.run hstep hs
  refine ⟨hresult, hkeeps, seen_eq_nil fun x hx ↦ ?_⟩
  exact hblind x.1 (hp.trace hstep hs x hx)

end Shows

/-- A view of the state that every operation changes as far as it is seen is determined by what is
seen. -/
theorem view_of_seen {h : (o : Op) → S → Ans o × S} {see : Op → Option γ} (view : S → δ)
    {after : δ → γ → δ}
    (hop : ∀ o s, view (h o s).2 = (see o).toList.foldl after (view s)) (p : Prog Op Ans α) (s : S) :
    view (p.run h s).2 = (seen see (p.trace h s)).foldl after (view s) := by
  induction p generalizing s with
  | pure a => rfl
  | op o next ih =>
    rw [run_op, trace_op, ih, hop, seen_cons, List.foldl_append]

end Prog

end Nutcracker
