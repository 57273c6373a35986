import Mathlib.Algebra.Order.Ring.Nat
import Mathlib.Algebra.Order.Ring.Rat

/-!
# Rounding to a number of binary digits

A binary format that keeps `precision` significant digits stores a number as
the nearest multiple of the spacing its size leaves; a tie goes to the even
multiple.  The numbers of the 64-bit format are multiples of its least positive
number, and beyond its range there is only infinity.
-/

namespace BinaryRounding

/-- The distance of neighbouring stored numbers around a number. -/
def spacing (precision number : Nat) : Nat :=
  2 ^ (number.log2 + 1 - precision)

/-- The stored number nearest to a number; the even one of two. -/
def round (precision number : Nat) : Nat :=
  let spacing := spacing precision number
  let kept := number / spacing
  let rest := number % spacing
  if 2 * rest < spacing ∨ 2 * rest = spacing ∧ kept % 2 = 0 then
    kept * spacing
  else
    (kept + 1) * spacing

/-- The spacing is positive. -/
theorem spacing_pos (precision number : Nat) :
    0 < spacing precision number :=
  Nat.two_pow_pos _

/-- Rounding keeps exactly the multiples of the spacing. -/
theorem round_eq_self_iff
    {precision number : Nat} :
    round precision number = number ↔
      spacing precision number ∣ number := by
  have positive := spacing_pos precision number
  have division := Nat.div_add_mod' number (spacing precision number)
  have restSmall := Nat.mod_lt number positive
  rw [Nat.dvd_iff_mod_eq_zero]
  unfold round
  dsimp only
  split <;> rename_i nearest
  · constructor
    · intro same
      omega
    · intro isMultiple
      omega
  · constructor
    · intro same
      rw [Nat.add_mul, Nat.one_mul] at same
      omega
    · intro isMultiple
      omega

/-- A positive number is not rounded to zero. -/
theorem round_pos
    {precision number : Nat}
    (enough : 0 < precision)
    (positive : 0 < number) :
    0 < round precision number := by
  have spacingPositive := spacing_pos precision number
  have small : spacing precision number ≤ number := by
    calc
      spacing precision number ≤ 2 ^ number.log2 :=
        Nat.pow_le_pow_right Nat.two_pos (by omega)
      _ ≤ number := Nat.log2_self_le (Nat.ne_of_gt positive)
  have keptPositive : 0 < number / spacing precision number :=
    Nat.div_pos small spacingPositive
  unfold round
  dsimp only
  split
  · exact Nat.mul_pos keptPositive spacingPositive
  · exact Nat.mul_pos (Nat.succ_pos _) spacingPositive

example : round 53 9007199254740993 = 9007199254740992 := by decide

/-! ### Numbers that are not whole -/

/-- The whole number nearest to a number; the even one of two. -/
def roundHalfEven (number : ℚ) : Int :=
  let below := number.floor
  let fraction := number - below
  if fraction < 1 / 2 then below
  else if 1 / 2 < fraction then below + 1
  else if below % 2 = 0 then below
  else below + 1

/-- The number of the 64-bit format nearest to one that is not negative. -/
def doubleOfNonneg? (number : ℚ) : Option ℚ :=
  -- In units of the least positive number every stored number is whole.
  let units := number * 2 ^ 1074
  let spacing : ℚ := spacing 53 units.floor.toNat
  let stored := roundHalfEven (units / spacing) * spacing / 2 ^ 1074
  if stored < 2 ^ 1024 then some stored else none

/-- The nearest number of the 64-bit format; none if that is an infinity. -/
def double? (number : ℚ) : Option ℚ :=
  if 0 ≤ number then
    doubleOfNonneg? number
  else
    (doubleOfNonneg? (-number)).map fun stored => -stored

example : double? (1 / 10) = some (3602879701896397 / 2 ^ 55) := by
  decide +kernel

end BinaryRounding
