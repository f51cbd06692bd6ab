import Mathlib.Logic.Basic

/-!
# Updates with a trial of the new version

Of two versions one is committed.  An update asks for a trial of the other one: the next start is
a start of the other version, and only if that is confirmed does it become the committed one.  Any
restart before that ends the trial, and with the power lost a trial that was asked for may be
forgotten.

This is what an update of a device in the field is meant to be.  `Move.pending_le` is the reason
why a version that fails is not started again and again.
-/

namespace AbUpdate

variable {α : Type*}

/-- The trial of the other version. -/
inductive Trial where
  | none
  | asked
  | started
  deriving DecidableEq

/-- The versions of a device. -/
structure Versions (α : Type*) where
  committed : α
  trial : Trial
  executed : Option α

/-- What can happen to a device. -/
inductive Event where
  | start
  | update
  | confirm
  | other
  deriving DecidableEq

variable (other : α → α)

/-- The moves of a device. -/
inductive Move : Event → Versions α → Versions α → Prop
  | idle (ev : Event) (x : Versions α) : Move ev x x
  /-- Any restart or loss of power. -/
  | halt {ev : Event} {c : α} {t t' : Trial} {e : Option α}
      (h : t' = t ∨ t' = .none ∨ t = .asked) : Move ev ⟨c, t, e⟩ ⟨c, t', none⟩
  | start {c : α} {t : Trial} (h : t ≠ .asked) : Move .start ⟨c, t, none⟩ ⟨c, .none, some c⟩
  | tryOther {c : α} : Move .start ⟨c, .asked, none⟩ ⟨c, .started, some (other c)⟩
  | ask {c : α} : Move .update ⟨c, .none, some c⟩ ⟨c, .asked, none⟩
  | confirm {c : α} {e : Option α} (he : e = some (other c) ∨ e = none) :
      Move .confirm ⟨c, .started, some (other c)⟩ ⟨other c, .none, e⟩

/-- A trial is still to come. -/
def Versions.pending (x : Versions α) : Nat := if x.trial = .asked then 1 else 0

/-- The number of starts of the other version in a move: one or none. -/
def starts [DecidableEq α] (x y : Versions α) : Nat :=
  if x.executed = none ∧ y.executed = some (other x.committed) then 1 else 0

variable {other} {ev : Event} {x y : Versions α}

/-- A move keeps the committed version, and without an update it does not add a trial; or it
confirms one. -/
theorem Move.committed_cases (h : Move other ev x y) :
    y.committed = x.committed ∧ (ev ≠ .update → y.trial ≠ .none → x.trial ≠ .none) ∨
      ev = .confirm ∧ y.committed = other x.committed ∧ x.trial ≠ .none ∧ y.trial = .none := by
  cases h with
  | idle => exact .inl ⟨rfl, fun _ h => h⟩
  | halt h =>
    refine .inl ⟨rfl, fun _ ht => ?_⟩
    obtain rfl | rfl | rfl := h
    · exact ht
    · exact absurd rfl ht
    · exact Trial.noConfusion
  | start h => exact .inl ⟨rfl, fun _ ht => absurd rfl ht⟩
  | tryOther => exact .inl ⟨rfl, fun _ _ => Trial.noConfusion⟩
  | ask => exact .inl ⟨rfl, fun h => absurd rfl h⟩
  | confirm he => exact .inr ⟨rfl, rfl, Trial.noConfusion, rfl⟩

/-- **Trials are asked for by updates**, and a start of the other version uses one up. -/
theorem Move.pending_le [DecidableEq α] (hother : ∀ c, other c ≠ c) (h : Move other ev x y) :
    y.pending + starts other x y ≤ x.pending + (if ev = .update then 1 else 0) := by
  unfold starts
  cases h with
  | idle =>
    rw [if_neg fun h => Option.some_ne_none _ (h.2.symm.trans h.1)]
    exact Nat.le_add_right _ _
  | halt h =>
    rw [if_neg fun h => Option.some_ne_none _ h.2.symm]
    unfold Versions.pending
    obtain rfl | rfl | rfl := h
    · exact Nat.le_add_right _ _
    · exact Nat.zero_le _
    · simp only [if_true, Nat.add_zero]
      split <;> omega
  | start h =>
    rw [if_neg fun h => hother _ (Option.some.inj h.2).symm]
    exact Nat.zero_le _
  | tryOther => simp [Versions.pending]
  | ask =>
    rw [if_neg fun h => Option.some_ne_none _ h.1]
    simp [Versions.pending]
  | confirm he =>
    rw [if_neg fun h => Option.some_ne_none _ h.1]
    exact Nat.zero_le _

end AbUpdate
