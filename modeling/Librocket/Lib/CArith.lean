import Mathlib.Algebra.Order.Ring.Int

/-!
# Signed C arithmetic

Arithmetic of a signed integer type of C on mathematical integers: an operation
whose exact result the type cannot represent has no value, and neither has a
division by zero. An expression evaluated here therefore has a value exactly
when C defines one, and then it is the exact one. Division truncates towards
zero and the remainder takes the sign of the dividend.

Index computations stay in the non-negative half; the lemmas `add_nat` to
`mod_nat` evaluate an operation there, given that its exact result fits. In the
other direction, `add_eq_some` to `mod_eq_some` read the exact result off an
operation that has a value.
-/

namespace CArith

/-- A signed integer type, by its least and greatest value. -/
structure IntType where
  min : ℤ
  max : ℤ
  min_nonpos : min ≤ 0 := by decide
  max_nonneg : 0 ≤ max := by decide

variable (T : IntType)

/-- An exact result, if the type has it. -/
def IntType.check (x : ℤ) : Option ℤ := if T.min ≤ x ∧ x ≤ T.max then some x else none

def IntType.add (a b : ℤ) : Option ℤ := T.check (a + b)

def IntType.sub (a b : ℤ) : Option ℤ := T.check (a - b)

def IntType.mul (a b : ℤ) : Option ℤ := T.check (a * b)

def IntType.div (a b : ℤ) : Option ℤ := if b = 0 then none else T.check (a.tdiv b)

/-- The remainder is defined where the quotient is. -/
def IntType.mod (a b : ℤ) : Option ℤ := (T.div a b).map fun _ => a.tmod b

variable {T}

theorem IntType.check_nat {x : ℕ} (h : (x : ℤ) ≤ T.max) : T.check x = some (x : ℤ) := by
  have hmin := T.min_nonpos
  rw [IntType.check, if_pos ⟨by omega, h⟩]

theorem IntType.add_nat {a b : ℕ} (h : ((a + b : ℕ) : ℤ) ≤ T.max) :
    T.add a b = some ((a + b : ℕ) : ℤ) := by
  rw [IntType.add, ← Nat.cast_add, check_nat h]

/-- One less than a successor, as the conversion from counting from one. -/
theorem IntType.sub_one_nat {a : ℕ} (h : (a : ℤ) ≤ T.max) :
    T.sub ((a : ℤ) + 1) 1 = some (a : ℤ) := by
  rw [IntType.sub, add_sub_cancel_right, check_nat h]

theorem IntType.mul_nat {a b : ℕ} (h : ((a * b : ℕ) : ℤ) ≤ T.max) :
    T.mul a b = some ((a * b : ℕ) : ℤ) := by
  rw [IntType.mul, ← Nat.cast_mul, check_nat h]

theorem IntType.div_nat {a b : ℕ} (hb : 0 < b) (h : (a : ℤ) ≤ T.max) :
    T.div a b = some ((a / b : ℕ) : ℤ) := by
  have hle : a / b ≤ a := Nat.div_le_self a b
  have hquot : (a : ℤ).tdiv b = ((a / b : ℕ) : ℤ) := Int.ofNat_tdiv a b
  rw [IntType.div, if_neg (by omega), hquot, check_nat (by omega)]

theorem IntType.mod_nat {a b : ℕ} (hb : 0 < b) (h : (a : ℤ) ≤ T.max) :
    T.mod a b = some ((a % b : ℕ) : ℤ) := by
  rw [IntType.mod, div_nat hb h]
  rfl

/-! ## Values are exact -/

section Exact

variable {a b v : ℤ}

theorem IntType.check_eq_some {x : ℤ} :
    T.check x = some v ↔ v = x ∧ T.min ≤ x ∧ x ≤ T.max := by
  rw [IntType.check]
  split
  case isTrue h =>
    constructor
    · rintro ⟨⟩
      exact ⟨rfl, h⟩
    · rintro ⟨rfl, -⟩
      rfl
  case isFalse h =>
    constructor
    · rintro ⟨⟩
    · rintro ⟨-, hfit⟩
      exact absurd hfit h

theorem IntType.add_eq_some (h : T.add a b = some v) : v = a + b :=
  (check_eq_some.mp h).1

theorem IntType.sub_eq_some (h : T.sub a b = some v) : v = a - b :=
  (check_eq_some.mp h).1

theorem IntType.mul_eq_some (h : T.mul a b = some v) : v = a * b :=
  (check_eq_some.mp h).1

theorem IntType.div_eq_some (h : T.div a b = some v) : v = a.tdiv b := by
  rw [IntType.div] at h
  split at h
  · cases h
  · exact (check_eq_some.mp h).1

theorem IntType.mod_eq_some (h : T.mod a b = some v) : v = a.tmod b := by
  obtain ⟨_, -, rfl⟩ := Option.map_eq_some_iff.mp h
  rfl

end Exact

end CArith
