import Mathlib.Algebra.GroupWithZero.Nat

/-!
# Expressions of 32-bit arithmetic

Products and quotients of unsigned 32-bit numbers, as C evaluates them: a product is taken
modulo `2 ^ 32`.  Beside the value that is computed, `eval`, an expression has the value that is
meant, `value`; the two agree if no product on the way overflows.
-/

namespace Word32

/-- An expression. -/
inductive Expr where
  | lit (v : UInt32)
  | mul (a b : Expr)
  | div (a b : Expr)
  deriving DecidableEq, Repr

namespace Expr

/-- What is computed. -/
def eval : Expr → UInt32
  | lit v => v
  | mul a b => a.eval * b.eval
  | div a b => a.eval / b.eval

/-- What is meant. -/
def value : Expr → Nat
  | lit v => v.toNat
  | mul a b => a.value * b.value
  | div a b => a.value / b.value

/-- Every product on the way fits into 32 bits. -/
def NoOverflow : Expr → Prop
  | lit _ => True
  | mul a b => a.NoOverflow ∧ b.NoOverflow ∧ a.value * b.value < 2 ^ 32
  | div a b => a.NoOverflow ∧ b.NoOverflow

instance decidableNoOverflow : (e : Expr) → Decidable e.NoOverflow
  | lit _ => isTrue trivial
  | mul a b =>
    letI := a.decidableNoOverflow
    letI := b.decidableNoOverflow
    inferInstanceAs (Decidable (a.NoOverflow ∧ b.NoOverflow ∧ a.value * b.value < 2 ^ 32))
  | div a b =>
    letI := a.decidableNoOverflow
    letI := b.decidableNoOverflow
    inferInstanceAs (Decidable (a.NoOverflow ∧ b.NoOverflow))

@[simp] theorem value_lit (v : UInt32) : (lit v).value = v.toNat := rfl
@[simp] theorem value_mul (a b : Expr) : (mul a b).value = a.value * b.value := rfl
@[simp] theorem value_div (a b : Expr) : (div a b).value = a.value / b.value := rfl

@[simp] theorem noOverflow_lit (v : UInt32) : (lit v).NoOverflow := trivial

@[simp] theorem noOverflow_mul (a b : Expr) : (mul a b).NoOverflow ↔
    a.NoOverflow ∧ b.NoOverflow ∧ a.value * b.value < 2 ^ 32 := Iff.rfl

@[simp] theorem noOverflow_div (a b : Expr) : (div a b).NoOverflow ↔
    a.NoOverflow ∧ b.NoOverflow := Iff.rfl

/-- **Without overflow the value computed is the value meant.** -/
theorem toNat_eval {e : Expr} (h : e.NoOverflow) : e.eval.toNat = e.value := by
  induction e with
  | lit v => rfl
  | mul a b iha ihb =>
    obtain ⟨ha, hb, hlt⟩ := h
    rw [eval, UInt32.toNat_mul, iha ha, ihb hb, value, Nat.mod_eq_of_lt hlt]
  | div a b iha ihb =>
    obtain ⟨ha, hb⟩ := h
    rw [eval, UInt32.toNat_div, iha ha, ihb hb, value]

end Expr

end Word32
