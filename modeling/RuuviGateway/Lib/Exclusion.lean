import Mathlib.Data.List.Pairwise
import Mathlib.Data.List.Perm.Basic

/-!
# Holdings that lock several mutexes

What a task holds may be protected by more than one mutex, and two holdings exclude each other
exactly if there is a mutex that both lock.  `Exclusive locked l` says that the mutexes that are
locked are those of the holdings of `l`, and that no mutex is locked by two of them.  A holding
can be taken whose mutexes are free, given back, and replaced by another while its mutexes stay
locked, one after the other.
-/

namespace Exclusion

variable {M H : Type*} {uses : H → M → Prop}

/-- No mutex is locked by both. -/
def Apart (uses : H → M → Prop) (a b : H) : Prop := ∀ m, uses a m → ¬ uses b m

theorem Apart.symm {a b : H} (h : Apart uses a b) : Apart uses b a :=
  fun m hb ha => h m ha hb

/-- The mutexes of the holdings are locked, each by one holding. -/
structure Exclusive (uses : H → M → Prop) (locked : M → Prop) (l : List H) : Prop where
  locked_iff : ∀ m, locked m ↔ ∃ a ∈ l, uses a m
  pairwise : l.Pairwise (Apart uses)

theorem Exclusive.nil {locked : M → Prop} (h : ∀ m, ¬ locked m) :
    Exclusive uses locked [] where
  locked_iff m := ⟨fun hm => absurd hm (h m), fun ⟨_, hmem, _⟩ => absurd hmem (by simp)⟩
  pairwise := List.Pairwise.nil

variable {locked locked' : M → Prop} {l : List H}

/-- A holding is taken whose mutexes are free. -/
theorem Exclusive.take (h : Exclusive uses locked l) {a : H} (hfree : ∀ m, uses a m → ¬ locked m)
    (hlocked : ∀ m, locked' m ↔ uses a m ∨ locked m) : Exclusive uses locked' (a :: l) where
  locked_iff m := by
    rw [hlocked, h.locked_iff]
    simp only [List.mem_cons, exists_eq_or_imp]
  pairwise := by
    refine List.pairwise_cons.mpr ⟨fun b hb m ha hbm => ?_, h.pairwise⟩
    exact hfree m ha ((h.locked_iff m).mpr ⟨b, hb, hbm⟩)

variable [BEq H] [LawfulBEq H]

/-- A holding is given back, and its mutexes are unlocked. -/
theorem Exclusive.drop (h : Exclusive uses locked l) {a : H} (ha : a ∈ l)
    (hlocked : ∀ m, locked' m ↔ locked m ∧ ¬ uses a m) : Exclusive uses locked' (l.erase a) where
  locked_iff m := by
    have hapart : ∀ b ∈ l.erase a, Apart uses a b := by
      have hperm := (List.perm_cons_erase ha).pairwise_iff Apart.symm |>.mp h.pairwise
      exact (List.pairwise_cons.mp hperm).1
    rw [hlocked, h.locked_iff]
    constructor
    · rintro ⟨⟨b, hb, hbm⟩, hna⟩
      have hne : b ≠ a := by
        rintro rfl
        exact hna hbm
      exact ⟨b, (List.mem_erase_of_ne hne).mpr hb, hbm⟩
    · rintro ⟨b, hb, hbm⟩
      exact ⟨⟨b, List.mem_of_mem_erase hb, hbm⟩, fun ham => hapart b hb m ham hbm⟩
  pairwise := h.pairwise.sublist List.erase_sublist

/-- A holding is replaced by one that locks more mutexes, or fewer. -/
theorem Exclusive.replace (h : Exclusive uses locked l) {a b : H} (ha : a ∈ l)
    (hfree : ∀ m, uses b m → ¬ uses a m → ¬ locked m)
    (hlocked : ∀ m, locked' m ↔ uses b m ∨ (locked m ∧ ¬ uses a m)) :
    Exclusive uses locked' (b :: l.erase a) :=
  (h.drop ha fun _ => Iff.rfl).take (fun m hb hm => hfree m hb hm.2 hm.1) hlocked

end Exclusion
