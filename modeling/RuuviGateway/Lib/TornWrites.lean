import Mathlib.Data.Option.Basic
import Mathlib.Logic.Function.Basic

/-!
# Cells whose writes can be interrupted

A memory is a family of cells.  A write replaces the contents of one cell, but not at once: the
cell is erased first, and an error or a loss of power can come in between.  What is then found in
the cell is not known, except that a checksum tells contents that were never written as a whole
from those that were.

`writes` carries out a list of writes, each with its outcome; a list of outcomes that ends early
is a loss of power.  `writes_invariant` is the only rule: what each write preserves, whatever its
outcome, is preserved by all that can become of the list.
-/

namespace TornWrites

variable {ι α : Type*}

/-- The outcome of a write. -/
inductive Outcome (α : Type*) where
  | done
  /-- The write has failed or was interrupted, and this is in the cell now. -/
  | left (a : α)
  deriving DecidableEq

/-- What a write that does not come to its end may leave behind: contents that the checksum does
not accept, the old contents or the new ones. -/
def Torn (ok : α → Bool) (old new a : α) : Prop :=
  ok a = false ∨ a = old ∨ a = new

instance (ok : α → Bool) (old new a : α) [DecidableEq α] : Decidable (Torn ok old new a) :=
  inferInstanceAs (Decidable (_ ∨ _))

variable [DecidableEq ι] [DecidableEq α] (ok : α → Bool)

/-- One write: `none` if its outcome is not possible. -/
def write (m : ι → α) (w : ι × α) : Outcome α → Option (ι → α)
  | .done => some (Function.update m w.1 w.2)
  | .left a => if Torn ok (m w.1) w.2 a then some (Function.update m w.1 a) else none

/-- A list of writes with their outcomes.  After the last outcome the power is lost. -/
def writes : (ι → α) → List (ι × α) → List (Outcome α) → Option (ι → α)
  | m, [], [] => some m
  | m, _ :: _, [] => some m
  | _, [], _ :: _ => none
  | m, w :: ws, o :: os => (write ok m w o).bind fun m' => writes m' ws os

variable {ok} {m m' : ι → α} {ws : List (ι × α)} {os : List (Outcome α)}

@[simp] theorem writes_nil_right : writes ok m ws [] = some m := by
  cases ws <;> rfl

theorem writes_cons (w : ι × α) (o : Outcome α) :
    writes ok m (w :: ws) (o :: os) = (write ok m w o).bind fun m' => writes ok m' ws os := rfl

theorem write_left {w : ι × α} {a : α} (h : Torn ok (m w.1) w.2 a) :
    write ok m w (.left a) = some (Function.update m w.1 a) := if_pos h

/-- After a write its cell has contents that the write may leave behind, and no other cell has
changed. -/
theorem write_eq_some {w : ι × α} {o : Outcome α} (h : write ok m w o = some m') :
    ∃ a, Torn ok (m w.1) w.2 a ∧ m' = Function.update m w.1 a := by
  cases o with
  | done => exact ⟨w.2, .inr (.inr rfl), (Option.some.inj h).symm⟩
  | left a =>
    obtain ⟨htorn, hm'⟩ := Option.ite_none_right_eq_some.mp h
    exact ⟨a, htorn, (Option.some.inj hm').symm⟩

/-- **The rule for writes.**  What every write of the list preserves, whatever it leaves behind,
is preserved by the list. -/
theorem writes_invariant {P : (ι → α) → Prop}
    (hP : ∀ w ∈ ws, ∀ m, P m → ∀ a, Torn ok (m w.1) w.2 a → P (Function.update m w.1 a))
    (hm : P m) (h : writes ok m ws os = some m') : P m' := by
  induction ws generalizing m os with
  | nil =>
    cases os with
    | nil => exact Option.some.inj h ▸ hm
    | cons o os => exact absurd h (by simp [writes])
  | cons w ws ih =>
    cases os with
    | nil =>
      rw [writes_nil_right] at h
      exact Option.some.inj h ▸ hm
    | cons o os =>
      rw [writes_cons] at h
      obtain ⟨m₁, hw, hrest⟩ := Option.bind_eq_some_iff.mp h
      obtain ⟨a, htorn, rfl⟩ := write_eq_some hw
      exact ih (fun w' hw' => hP w' (List.mem_cons_of_mem _ hw'))
        (hP w List.mem_cons_self m hm a htorn) hrest

/-- Writes that all succeed have the effect that is meant. -/
theorem writes_done (hdone : ∀ o ∈ os, o = .done) (hlen : os.length = ws.length) :
    writes ok m ws os = some (ws.foldl (fun m w => Function.update m w.1 w.2) m) := by
  induction ws generalizing m os with
  | nil =>
    obtain rfl := List.length_eq_zero_iff.mp hlen
    rfl
  | cons w ws ih =>
    cases os with
    | nil => exact absurd hlen (by simp)
    | cons o os =>
      obtain ⟨rfl, hrest⟩ := List.forall_mem_cons.mp hdone
      rw [writes_cons]
      exact ih hrest (by simpa using hlen)

end TornWrites
