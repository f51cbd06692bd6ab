import Mathlib.Algebra.Order.BigOperators.Group.List
import Mathlib.Algebra.Order.Group.Nat
import Mathlib.Logic.Function.Basic

/-!
# Signals that are bits

A task waits for signals that are the bits of a word.  A signal that is raised twice before the
task looks at it is one signal; the task takes all the bits at once, and handles the batch bit by
bit, in the order of their numbers and not in that in which they were raised.

A signal is outstanding from when it is raised until it is handled.
-/

namespace SignalBits

variable {ι : Type*} [DecidableEq ι]

/-- The bits that are raised, and those of the batch that are still to be handled. -/
structure Bits (ι : Type*) where
  pending : ι → Bool
  batch : ι → Bool

/-- No signal. -/
def Bits.none : Bits ι := ⟨fun _ => false, fun _ => false⟩

/-- A signal is raised. -/
def Bits.raise (b : Bits ι) (i : ι) : Bits ι :=
  { b with pending := Function.update b.pending i true }

/-- The next signal of the batch, by the order of their numbers. -/
def Bits.next (b : Bits ι) (order : List ι) : Option (ι × Bits ι) :=
  (order.find? b.batch).map fun i => (i, { b with batch := Function.update b.batch i false })

/-- All the bits are taken, if there are any and the batch has been handled. -/
def Bits.take (b : Bits ι) (order : List ι) : Option (Bits ι) :=
  if order.find? b.batch = Option.none ∧ order.any b.pending then
    some ⟨fun _ => false, b.pending⟩
  else Option.none

/-- The signal is still to be handled. -/
def Bits.Outstanding (b : Bits ι) (i : ι) : Prop := b.pending i = true ∨ b.batch i = true

instance (b : Bits ι) (i : ι) : Decidable (b.Outstanding i) :=
  inferInstanceAs (Decidable (_ ∨ _))

variable {b b' : Bits ι} {order : List ι} {i j : ι}

omit [DecidableEq ι] in
theorem not_outstanding_none : ¬(Bits.none : Bits ι).Outstanding i :=
  fun h => h.elim (fun h => Bool.noConfusion h) fun h => Bool.noConfusion h

@[simp] theorem outstanding_raise : (b.raise i).Outstanding j ↔ j = i ∨ b.Outstanding j := by
  unfold Bits.raise Bits.Outstanding
  by_cases h : j = i
  · simp [h]
  · simp [h, Function.update_of_ne]

omit [DecidableEq ι] in
/-- Taking the bits handles none. -/
theorem outstanding_take (horder : ∀ i, i ∈ order) (h : b.take order = some b') :
    b'.Outstanding j ↔ b.Outstanding j := by
  obtain ⟨⟨hempty, -⟩, h⟩ := Option.ite_none_right_eq_some.mp h
  obtain rfl := Option.some.inj h
  have hbatch : ¬b.batch j = true := List.find?_eq_none.mp hempty j (horder j)
  simp [Bits.Outstanding, hbatch]

/-- What is handled was outstanding, and the other signals stay as they are. -/
theorem outstanding_next (h : b.next order = some (i, b')) :
    b.Outstanding i ∧ ∀ j, j ≠ i → (b'.Outstanding j ↔ b.Outstanding j) := by
  obtain ⟨k, hk, heq⟩ := Option.map_eq_some_iff.mp h
  obtain ⟨rfl, rfl⟩ := Prod.mk.inj heq
  refine ⟨.inr (List.find?_some hk), fun j hj => ?_⟩
  simp [Bits.Outstanding, Function.update_of_ne hj]

/-- What is outstanding afterwards was so before. -/
theorem outstanding_of_next (h : b.next order = some (i, b')) (hj : b'.Outstanding j) :
    b.Outstanding j := by
  by_cases hji : j = i
  · exact hji ▸ (outstanding_next h).1
  · exact ((outstanding_next h).2 j hji).mp hj

/-! ## Progress -/

/-- How far a signal is from being handled. -/
def Bits.weight (b : Bits ι) (i : ι) : Nat := 2 * (b.pending i).toNat + (b.batch i).toNat

/-- How far the signals of `order` are from being handled. -/
def Bits.load (b : Bits ι) (order : List ι) : Nat := (order.map b.weight).foldr (· + ·) 0

omit [DecidableEq ι] in
theorem load_lt (hle : ∀ i ∈ order, b'.weight i ≤ b.weight i)
    (hlt : ∃ i ∈ order, b'.weight i < b.weight i) : b'.load order < b.load order :=
  List.sum_lt_sum b'.weight b.weight hle hlt

omit [DecidableEq ι] in
/-- Taking the bits is progress. -/
theorem load_take_lt (h : b.take order = some b') : b'.load order < b.load order := by
  obtain ⟨⟨-, hany⟩, h⟩ := Option.ite_none_right_eq_some.mp h
  obtain rfl := Option.some.inj h
  obtain ⟨i, hi, hpending⟩ := List.any_eq_true.mp hany
  refine load_lt (fun j _ => ?_) ⟨i, hi, ?_⟩
  · show 2 * 0 + (b.pending j).toNat ≤ 2 * (b.pending j).toNat + (b.batch j).toNat
    omega
  · show 2 * 0 + (b.pending i).toNat < 2 * (b.pending i).toNat + (b.batch i).toNat
    rw [hpending, Bool.toNat_true]
    omega

/-- Handling a signal is progress. -/
theorem load_next_lt (h : b.next order = some (i, b')) : b'.load order < b.load order := by
  obtain ⟨k, hk, heq⟩ := Option.map_eq_some_iff.mp h
  obtain ⟨rfl, rfl⟩ := Prod.mk.inj heq
  refine load_lt (fun j _ => ?_) ⟨k, List.mem_of_find?_eq_some hk, ?_⟩
  · show 2 * (b.pending j).toNat + (Function.update b.batch k false j).toNat ≤
      2 * (b.pending j).toNat + (b.batch j).toNat
    by_cases hj : j = k
    · rw [hj, Function.update_self, Bool.toNat_false]
      omega
    · rw [Function.update_of_ne hj]
  · show 2 * (b.pending k).toNat + (Function.update b.batch k false k).toNat <
      2 * (b.pending k).toNat + (b.batch k).toNat
    rw [Function.update_self, List.find?_some hk, Bool.toNat_false, Bool.toNat_true]
    omega

/-- A task that can neither handle nor take a signal has handled them all. -/
theorem not_outstanding_of_stuck (horder : ∀ i, i ∈ order) (hnext : b.next order = none)
    (htake : b.take order = none) (i : ι) : ¬b.Outstanding i := by
  have hfind : order.find? b.batch = none := Option.map_eq_none_iff.mp hnext
  rintro (hpending | hbatch)
  · have hany : order.any b.pending = true := List.any_eq_true.mpr ⟨i, horder i, hpending⟩
    rw [Bits.take, if_pos ⟨hfind, hany⟩] at htake
    exact absurd htake (Option.some_ne_none _)
  · exact List.find?_eq_none.mp hfind i (horder i) hbatch

end SignalBits
