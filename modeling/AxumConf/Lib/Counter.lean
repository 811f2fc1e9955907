import Mathlib.Data.UInt

/-!
# Fixed-width counters

Incrementing a counter that has not reached its last value adds one to the
number it stands for. Comparisons are read through the numbers. A counter that
wraps is below a limit for as many increments in every round.
-/

namespace AxumConf

/-- How many of the first `steps` values of a counter with this many values are below the limit. -/
def countBelow (values limit steps : Nat) : Nat :=
  steps / values * limit + min (steps % values) limit

theorem countBelow_succ {values limit : Nat} (fits : limit ≤ values) (positive : 0 < values)
    (steps : Nat) :
    countBelow values limit (steps + 1) =
      countBelow values limit steps + if steps % values < limit then 1 else 0 := by
  have below := Nat.mod_lt steps positive
  have parts := Nat.mod_add_div steps values
  by_cases wraps : steps % values + 1 = values
  · have next : (steps + 1) / values = steps / values + 1 ∧ (steps + 1) % values = 0 := by
      apply (Nat.div_mod_unique positive).mpr
      rw [Nat.mul_add, Nat.mul_one]
      exact ⟨by omega, positive⟩
    simp only [countBelow, next.1, next.2, Nat.add_mul, Nat.one_mul]
    split <;> omega
  · have next : (steps + 1) / values = steps / values ∧
        (steps + 1) % values = steps % values + 1 := by
      apply (Nat.div_mod_unique positive).mpr
      exact ⟨by omega, by omega⟩
    simp only [countBelow, next.1, next.2]
    split <;> omega

/-- With a positive limit the first value is below it. -/
theorem countBelow_pos {values limit steps : Nat} (positive : 0 < limit) (begun : 0 < steps) :
    0 < countBelow values limit steps := by
  have parts := Nat.mod_add_div steps values
  unfold countBelow
  cases rounds : steps / values with
  | zero =>
      rw [rounds, Nat.mul_zero] at parts
      omega
  | succ earlier =>
      have product : 0 < (earlier + 1) * limit := Nat.mul_pos (Nat.succ_pos earlier) positive
      omega

end AxumConf

namespace UInt32

theorem toNat_add_one_of_lt {counter : UInt32} (room : counter.toNat + 1 < 2 ^ 32) :
    (counter + 1).toNat = counter.toNat + 1 := by
  rw [UInt32.toNat_add]
  exact Nat.mod_eq_of_lt room

/-- A counter below some counter can be incremented without wrapping. -/
theorem toNat_add_one_of_lt_toNat {counter bound : UInt32} (below : counter.toNat < bound.toNat) :
    (counter + 1).toNat = counter.toNat + 1 :=
  toNat_add_one_of_lt (lt_of_le_of_lt below bound.toNat_lt)

end UInt32

namespace UInt64

theorem toNat_add_one_of_lt {counter : UInt64} (room : counter.toNat + 1 < 2 ^ 64) :
    (counter + 1).toNat = counter.toNat + 1 := by
  rw [UInt64.toNat_add]
  exact Nat.mod_eq_of_lt room

end UInt64
