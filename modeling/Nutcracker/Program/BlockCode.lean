import Mathlib

/-!
# Block codes

A value is written as a block of fixed size, and a sequence of values as its blocks one after
another.  Reading such a sequence gives back the values that were written and accepts nothing else.
The symbols of one code may themselves be written in another.
-/

namespace Nutcracker

/-- Values of `α` as blocks of `size` symbols. -/
structure BlockCode (α β : Type) where
  size : ℕ
  size_pos : 0 < size
  encode : α → List β
  decode : List β → Option α
  length_encode : ∀ a, (encode a).length = size
  decode_eq_some : ∀ {block a}, decode block = some a ↔ block = encode a

namespace BlockCode

variable {α β γ : Type} (c : BlockCode α β)

/-- The blocks of the values, one after another. -/
def encodeAll (values : List α) : List β := values.flatMap c.encode

def decodeBlocks : ℕ → List β → Option (List α)
  | 0, symbols => if symbols.isEmpty then some [] else none
  | blocks + 1, symbols =>
    (c.decode (symbols.take c.size)).bind fun a ↦
      (decodeBlocks blocks (symbols.drop c.size)).map (a :: ·)

def decodeAll (symbols : List β) : Option (List α) :=
  c.decodeBlocks (symbols.length / c.size) symbols

@[simp]
theorem encodeAll_nil : c.encodeAll [] = [] := rfl

@[simp]
theorem encodeAll_cons (a : α) (values : List α) :
    c.encodeAll (a :: values) = c.encode a ++ c.encodeAll values := rfl

theorem encodeAll_append (values more : List α) :
    c.encodeAll (values ++ more) = c.encodeAll values ++ c.encodeAll more := List.flatMap_append

theorem length_encodeAll (values : List α) :
    (c.encodeAll values).length = values.length * c.size := by
  induction values with
  | nil => rw [encodeAll_nil, List.length_nil, List.length_nil, Nat.zero_mul]
  | cons a values ih =>
    rw [encodeAll_cons, List.length_append, c.length_encode, ih, List.length_cons]
    ring

theorem decode_encode (a : α) : c.decode (c.encode a) = some a := c.decode_eq_some.mpr rfl

theorem take_encode_append (a : α) (symbols : List β) :
    (c.encode a ++ symbols).take c.size = c.encode a := by
  rw [← c.length_encode a, List.take_left]

theorem drop_encode_append (a : α) (symbols : List β) :
    (c.encode a ++ symbols).drop c.size = symbols := by
  rw [← c.length_encode a, List.drop_left]

theorem decodeBlocks_eq_some {blocks : ℕ} {symbols : List β} {values : List α} :
    c.decodeBlocks blocks symbols = some values ↔
      values.length = blocks ∧ symbols = c.encodeAll values := by
  induction blocks generalizing symbols values with
  | zero =>
    constructor
    · intro h
      simp only [decodeBlocks, Option.ite_none_right_eq_some, List.isEmpty_iff,
        Option.some.injEq] at h
      obtain ⟨rfl, rfl⟩ := h
      exact ⟨rfl, rfl⟩
    · rintro ⟨hlength, rfl⟩
      rw [List.length_eq_zero_iff.mp hlength]
      rfl
  | succ blocks ih =>
    simp only [decodeBlocks, Option.bind_eq_some_iff, Option.map_eq_some_iff, c.decode_eq_some, ih]
    constructor
    · rintro ⟨a, htake, rest, ⟨hlength, hdrop⟩, rfl⟩
      refine ⟨congrArg Nat.succ hlength, ?_⟩
      calc
        symbols = symbols.take c.size ++ symbols.drop c.size := (List.take_append_drop _ _).symm
        _ = c.encodeAll (a :: rest) := by rw [htake, hdrop, encodeAll_cons]
    · rintro ⟨hlength, rfl⟩
      obtain ⟨a, rest, rfl⟩ := List.exists_cons_of_length_eq_add_one hlength
      exact ⟨a, c.take_encode_append _ _, rest,
        ⟨Nat.succ.inj hlength, c.drop_encode_append _ _⟩, rfl⟩

/-- Exactly the sequences of blocks are read, and as the values they were written from. -/
theorem decodeAll_eq_some {symbols : List β} {values : List α} :
    c.decodeAll symbols = some values ↔ symbols = c.encodeAll values := by
  rw [decodeAll, decodeBlocks_eq_some, and_iff_right_iff_imp]
  rintro rfl
  rw [length_encodeAll, Nat.mul_div_cancel _ c.size_pos]

theorem decodeAll_encodeAll (values : List α) : c.decodeAll (c.encodeAll values) = some values :=
  c.decodeAll_eq_some.mpr rfl

/-- No block is read in which a single symbol has been altered. -/
def Detects : Prop :=
  ∀ (a : α) (i : ℕ) (b : β), i < c.size → (c.encode a)[i]? ≠ some b →
    c.decode ((c.encode a).set i b) = none

/-- What is read begins with a block that is read. -/
theorem exists_of_decodeAll_append {block symbols : List β} (hblock : block.length = c.size)
    (h : c.decodeAll (block ++ symbols) ≠ none) :
    (∃ a, c.decode block = some a) ∧ c.decodeAll symbols ≠ none := by
  obtain ⟨values, hvalues⟩ := Option.ne_none_iff_exists'.mp h
  have happend := c.decodeAll_eq_some.mp hvalues
  cases values with
  | nil =>
    have hempty : block = [] := (List.append_eq_nil_iff.mp happend).1
    have hsize := c.size_pos
    rw [hempty, List.length_nil] at hblock
    omega
  | cons a values =>
    obtain ⟨rfl, hrest⟩ : block = c.encode a ∧ symbols = c.encodeAll values :=
      List.append_inj happend (hblock.trans (c.length_encode a).symm)
    refine ⟨⟨a, c.decode_encode a⟩, ?_⟩
    rw [hrest, c.decodeAll_encodeAll]
    exact Option.some_ne_none _

/-- A code that detects one altered symbol in a block detects it in a sequence of blocks. -/
theorem Detects.decodeAll_set (hdetects : c.Detects) {values : List α} {i : ℕ} {b : β}
    (hi : i < (c.encodeAll values).length) (hb : (c.encodeAll values)[i]? ≠ some b) :
    c.decodeAll ((c.encodeAll values).set i b) = none := by
  induction values generalizing i with
  | nil => exact absurd hi (Nat.not_lt_zero i)
  | cons a values ih =>
    by_contra hread
    rw [encodeAll_cons] at hi hb hread
    rw [List.length_append, c.length_encode] at hi
    by_cases hfirst : i < c.size
    · have hlength : i < (c.encode a).length := by rwa [c.length_encode]
      rw [List.getElem?_append_left hlength] at hb
      rw [List.set_append_left i b hlength] at hread
      obtain ⟨⟨a', ha'⟩, -⟩ := c.exists_of_decodeAll_append
        ((List.length_set).trans (c.length_encode a)) hread
      rw [hdetects a i b hfirst hb] at ha'
      cases ha'
    · have hlength : (c.encode a).length ≤ i := by
        rw [c.length_encode]
        omega
      rw [List.getElem?_append_right hlength] at hb
      rw [List.set_append_right i b hlength] at hread
      apply (c.exists_of_decodeAll_append (c.length_encode a) hread).2
      apply ih _ hb
      rw [c.length_encode]
      omega

/-- The symbols of `c` are written in `d`. -/
def comp (c : BlockCode α β) (d : BlockCode β γ) : BlockCode α γ where
  size := c.size * d.size
  size_pos := Nat.mul_pos c.size_pos d.size_pos
  encode a := d.encodeAll (c.encode a)
  decode symbols := (d.decodeAll symbols).bind c.decode
  length_encode a := by rw [d.length_encodeAll, c.length_encode]
  decode_eq_some := by
    intro block a
    rw [Option.bind_eq_some_iff]
    constructor
    · rintro ⟨symbols, hblock, ha⟩
      rw [d.decodeAll_eq_some.mp hblock, c.decode_eq_some.mp ha]
    · rintro rfl
      exact ⟨_, d.decodeAll_encodeAll _, c.decode_encode a⟩

theorem encodeAll_comp (d : BlockCode β γ) (values : List α) :
    (c.comp d).encodeAll values = d.encodeAll (c.encodeAll values) := by
  induction values with
  | nil => rfl
  | cons a values ih =>
    calc
      (c.comp d).encodeAll (a :: values) =
          d.encodeAll (c.encode a) ++ (c.comp d).encodeAll values := rfl
      _ = d.encodeAll (c.encodeAll (a :: values)) := by rw [ih, ← encodeAll_append, encodeAll_cons]

end BlockCode

end Nutcracker
