import Mathlib

/-!
# Checked 32-bit signed arithmetic

C leaves signed overflow and division by zero undefined.  A computation on `int32_t` is written
here in `Option`: every operation returns the exact integer result when it is representable and
`none` otherwise, so that `= some v` states both the value and the absence of undefined
behaviour.  Division truncates toward zero.
-/

namespace Nutcracker.CheckedInt

/-- The values of `int32_t`. -/
def InRange (x : ℤ) : Prop := -2147483648 ≤ x ∧ x ≤ 2147483647

instance (x : ℤ) : Decidable (InRange x) := inferInstanceAs (Decidable (_ ∧ _))

/-- An exact result, if it is representable. -/
def check (x : ℤ) : Option ℤ := if InRange x then some x else none

def add (x y : ℤ) : Option ℤ := check (x + y)

def sub (x y : ℤ) : Option ℤ := check (x - y)

def mul (x y : ℤ) : Option ℤ := check (x * y)

def neg (x : ℤ) : Option ℤ := check (-x)

/-- Truncating division; undefined for a zero divisor and for `INT32_MIN / -1`. -/
def div (x y : ℤ) : Option ℤ := if y = 0 then none else check (x.tdiv y)

/-- The remainder of a defined division. -/
def rem (x y : ℤ) : Option ℤ := (div x y).map fun _ ↦ x.tmod y

section Values

variable {x y b c : ℤ}

@[simp]
theorem check_eq_some (h : InRange x) : check x = some x := if_pos h

theorem inRange_of_abs_le (h : |x| ≤ 2147483647) : InRange x := by
  rw [abs_le] at h
  exact ⟨by omega, h.2⟩

/-- The form in which bounds are carried through a computation. -/
theorem add_eq_some (hx : |x| ≤ b) (hy : |y| ≤ c) (hbc : b + c ≤ 2147483647) :
    add x y = some (x + y) :=
  check_eq_some (inRange_of_abs_le ((abs_add_le x y).trans ((add_le_add hx hy).trans hbc)))

theorem sub_eq_some (hx : |x| ≤ b) (hy : |y| ≤ c) (hbc : b + c ≤ 2147483647) :
    sub x y = some (x - y) :=
  check_eq_some (inRange_of_abs_le ((abs_sub x y).trans ((add_le_add hx hy).trans hbc)))

theorem mul_eq_some (hx : |x| ≤ b) (hy : |y| ≤ c) (hbc : b * c ≤ 2147483647) :
    mul x y = some (x * y) := by
  refine check_eq_some (inRange_of_abs_le ?_)
  rw [abs_mul]
  exact (mul_le_mul hx hy (abs_nonneg y) ((abs_nonneg x).trans hx)).trans hbc

theorem neg_eq_some (hx : |x| ≤ 2147483647) : neg x = some (-x) :=
  check_eq_some (inRange_of_abs_le ((abs_neg x).trans_le hx))

theorem abs_tdiv_le (x y : ℤ) : |x.tdiv y| ≤ |x| := by
  rw [Int.abs_eq_natAbs, Int.abs_eq_natAbs, Int.natAbs_tdiv]
  exact_mod_cast Nat.div_le_self _ _

theorem div_eq_some (hy : y ≠ 0) (hx : |x| ≤ 2147483647) : div x y = some (x.tdiv y) := by
  unfold div
  rw [if_neg hy]
  exact check_eq_some (inRange_of_abs_le ((abs_tdiv_le x y).trans hx))

theorem rem_eq_some (hy : y ≠ 0) (hx : |x| ≤ 2147483647) : rem x y = some (x.tmod y) := by
  unfold rem
  rw [div_eq_some hy hx]
  rfl

end Values

end Nutcracker.CheckedInt
