import Mathlib

/-!
# Resumable encoders

An encoder writes the symbols of its data into a memory of limited size.  It is called again whenever
some of that memory is free, goes on where it has stopped, and tells when everything is written.
However the memory is portioned, the symbols are the same.
-/

namespace Nutcracker

/-- What a call of an encoder returns. -/
structure Encoded (σ S : Type) where
  symbols : List S
  /-- Everything is written. -/
  complete : Bool
  /-- No memory is left. -/
  memFull : Bool
  next : σ

/-- An encoder of data in `D`; `rest` are the symbols that a session has still to write. -/
structure Resumable (D S : Type) where
  State : Type
  init : State
  rest : State → D → List S
  encode : D → ℕ → State → Encoded State S
  /-- As many symbols are written as the memory takes. -/
  symbols_eq : ∀ d free st, (encode d free st).symbols = (rest st d).take free
  complete_iff : ∀ d free st, (encode d free st).complete = true ↔ (rest st d).length ≤ free
  /-- A session ends where the next one begins. -/
  next_of_complete : ∀ {d free st}, (encode d free st).complete = true →
    (encode d free st).next = init
  rest_next : ∀ {d free st}, (encode d free st).complete = false →
    rest (encode d free st).next d = (rest st d).drop free
  memFull_of_incomplete : ∀ {d free st}, (encode d free st).complete = false →
    (encode d free st).memFull = true
  le_of_memFull : ∀ {d free st}, (encode d free st).memFull = true → free ≤ (rest st d).length

namespace Resumable

variable {D S : Type} (E : Resumable D S) {d : D} {free : ℕ} {frees : List ℕ} {st : E.State}

/-- The symbols of a whole session. -/
def symbols (d : D) : List S := E.rest E.init d

theorem incomplete_iff : (E.encode d free st).complete = false ↔ free < (E.rest st d).length := by
  rw [← not_iff_not, Bool.not_eq_false, E.complete_iff, not_lt]

/-- Call the encoder for every portion of memory until it has written everything. -/
def transmit (d : D) : List ℕ → E.State → Encoded E.State S
  | [], st => ⟨[], false, false, st⟩
  | free :: frees, st =>
    let r := E.encode d free st
    if r.complete then r
    else
      let r' := transmit d frees r.next
      { r' with symbols := r.symbols ++ r'.symbols }

/-- However the memory is portioned, the symbols are written in order, none of them twice. -/
theorem transmit_symbols :
    (E.transmit d frees st).symbols = (E.rest st d).take frees.sum := by
  induction frees generalizing st with
  | nil => rfl
  | cons free frees ih =>
    unfold transmit
    dsimp only
    split
    · rename_i hcomplete
      have hlength := (E.complete_iff d free st).mp hcomplete
      rw [E.symbols_eq, List.take_of_length_le hlength, List.take_of_length_le]
      rw [List.sum_cons]
      omega
    · rename_i hcomplete
      change (E.encode d free st).symbols ++ (E.transmit d frees _).symbols = _
      rw [ih, E.symbols_eq, E.rest_next (Bool.not_eq_true _ ▸ hcomplete), List.sum_cons,
        List.take_add]

/-- The session ends with the portion in which the last symbol finds its place. -/
theorem transmit_complete_iff : (E.transmit d frees st).complete = true ↔
    frees ≠ [] ∧ (E.rest st d).length ≤ frees.sum := by
  induction frees generalizing st with
  | nil => simp [transmit]
  | cons free frees ih =>
    rw [and_iff_right (List.cons_ne_nil free frees), List.sum_cons]
    unfold transmit
    dsimp only
    split
    · rename_i hcomplete
      have hlength := (E.complete_iff d free st).mp hcomplete
      rw [iff_true_left hcomplete]
      omega
    · rename_i hcomplete
      have hincomplete : (E.encode d free st).complete = false := Bool.not_eq_true _ ▸ hcomplete
      have hlength := E.incomplete_iff.mp hincomplete
      change (E.transmit d frees _).complete = true ↔ _
      rw [ih, E.rest_next hincomplete, List.length_drop]
      constructor
      · rintro ⟨-, hsum⟩
        omega
      · intro hsum
        refine ⟨?_, by omega⟩
        rintro rfl
        rw [List.sum_nil] at hsum
        omega

theorem transmit_next (h : (E.transmit d frees st).complete = true) :
    (E.transmit d frees st).next = E.init := by
  induction frees generalizing st with
  | nil => cases h
  | cons free frees ih =>
    unfold transmit at h ⊢
    dsimp only at h ⊢
    split at h
    · rename_i hcomplete
      rw [if_pos hcomplete]
      exact E.next_of_complete hcomplete
    · rename_i hcomplete
      rw [if_neg hcomplete]
      exact ih h

/-- Sessions one after another, each with the memory that it finds. -/
def transmitAll : List (D × List ℕ) → E.State → List S × E.State
  | [], st => ([], st)
  | (d, frees) :: sessions, st =>
    let r := E.transmit d frees st
    let r' := transmitAll sessions r.next
    (r.symbols ++ r'.1, r'.2)

/-- Sessions that are given enough memory do not disturb each other. -/
theorem transmitAll_eq {sessions : List (D × List ℕ)}
    (h : ∀ session ∈ sessions, session.2 ≠ [] ∧ (E.symbols session.1).length ≤ session.2.sum) :
    E.transmitAll sessions E.init = (sessions.flatMap fun session ↦ E.symbols session.1, E.init) := by
  induction sessions with
  | nil => rfl
  | cons session sessions ih =>
    obtain ⟨d, frees⟩ := session
    obtain ⟨hsession, hrest⟩ := List.forall_mem_cons.mp h
    have hcomplete : (E.transmit d frees E.init).complete = true :=
      E.transmit_complete_iff.mpr hsession
    unfold transmitAll
    dsimp only
    rw [E.transmit_next hcomplete, ih hrest, E.transmit_symbols, List.flatMap_cons]
    exact congrArg (fun symbols ↦ (symbols ++ _, E.init)) (List.take_of_length_le hsession.2)

/-- The encoder that counts the symbols it has written. -/
def counting (symbols : D → List S) : Resumable D S where
  State := ℕ
  init := 0
  rest written d := (symbols d).drop written
  encode d free written :=
    let rest := (symbols d).drop written
    { symbols := rest.take free
      complete := decide (rest.length ≤ free)
      memFull := decide (free ≤ rest.length)
      next := if rest.length ≤ free then 0 else written + free }
  symbols_eq _ _ _ := rfl
  complete_iff _ _ _ := decide_eq_true_iff
  next_of_complete h := if_pos (of_decide_eq_true h)
  rest_next h := by
    dsimp only
    rw [if_neg (of_decide_eq_false h), List.drop_drop]
  memFull_of_incomplete h := decide_eq_true (Nat.le_of_lt (Nat.lt_of_not_le (of_decide_eq_false h)))
  le_of_memFull h := of_decide_eq_true h

end Resumable

end Nutcracker
