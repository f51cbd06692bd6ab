import Mathlib.Data.List.Infix

/-!
# Programs that can fail and keep their state

A program over a state `σ` that can fail is `OptionT (StateM σ) α`: where it fails, what it has
done to the state stays done.  There are two kinds of facts about such a program.  `Returns` is
the usual triple for a program that succeeds; it says nothing where the program fails.
`Preserves` says that an invariant holds afterwards whether the program succeeds or not.
-/

namespace Fallible

variable {σ α β : Type}

/-- Run a program to see whether it fails. -/
def attempt (m : OptionT (StateM σ) α) : OptionT (StateM σ) (Option α) := OptionT.lift m.run

/-- Fail unless `c` holds. -/
def check (c : Prop) [Decidable c] : OptionT (StateM σ) Unit := if c then pure () else failure

/-- Fail without a value. -/
def ofOption (a : Option α) : OptionT (StateM σ) α :=
  match a with
  | some a => pure a
  | none => failure

theorem run_bind_of_some {m : OptionT (StateM σ) α} {k : α → OptionT (StateM σ) β} {s t : σ}
    {a : α} (h : m s = (some a, t)) : (m >>= k) s = k a t := by
  simp only [bind, OptionT.bind, OptionT.mk, StateT.bind]
  rw [h]

theorem run_bind_of_none {m : OptionT (StateM σ) α} {k : α → OptionT (StateM σ) β} {s t : σ}
    (h : m s = (none, t)) : (m >>= k) s = (none, t) := by
  simp only [bind, OptionT.bind, OptionT.mk, StateT.bind]
  rw [h]
  rfl

/-! ## Success -/

/-- Where `m` succeeds from a state with `P`, its result and the new state satisfy `Q`. -/
def Returns (P : σ → Prop) (m : OptionT (StateM σ) α) (Q : α → σ → Prop) : Prop :=
  ∀ s, P s → ∀ a t, m s = (some a, t) → Q a t

variable {P P' : σ → Prop} {Q Q' : α → σ → Prop} {R : β → σ → Prop}

theorem Returns.mono {m : OptionT (StateM σ) α} (h : Returns P m Q) (hP : ∀ s, P' s → P s)
    (hQ : ∀ a s, Q a s → Q' a s) : Returns P' m Q' :=
  fun s hs a t hrun => hQ a t (h s (hP s hs) a t hrun)

theorem Returns.anything {m : OptionT (StateM σ) α} : Returns P m fun _ _ => True :=
  fun _ _ _ _ _ => trivial

theorem Returns.and {m : OptionT (StateM σ) α} (h : Returns P m Q) (h' : Returns P m Q') :
    Returns P m fun a s => Q a s ∧ Q' a s :=
  fun s hs a t hrun => ⟨h s hs a t hrun, h' s hs a t hrun⟩

/-- A part of the precondition that is not about the state. -/
theorem Returns.assume {p : Prop} {m : OptionT (StateM σ) α} (h : p → Returns P m Q) :
    Returns (fun s => p ∧ P s) m Q :=
  fun s hs => h hs.1 s hs.2

/-- A precondition that is not about the state. -/
theorem Returns.given {p : Prop} {m : OptionT (StateM σ) α}
    (h : p → Returns (fun _ => True) m Q) : Returns (fun _ => p) m Q :=
  fun s hs => h hs s trivial

theorem Returns.pure {a : α} (h : ∀ s, P s → Q a s) :
    Returns P (pure a : OptionT (StateM σ) α) Q := by
  intro s hs b t hrun
  have heq : (some a, s) = (some b, t) := hrun
  simp only [Prod.mk.injEq, Option.some.injEq] at heq
  rw [← heq.1, ← heq.2]
  exact h s hs

theorem Returns.fail : Returns P (failure : OptionT (StateM σ) α) Q := by
  intro s _ a t hrun
  have heq : ((none : Option α), s) = (some a, t) := hrun
  exact absurd (Prod.mk.inj heq).1 (by simp)

theorem Returns.bind {m : OptionT (StateM σ) α} {k : α → OptionT (StateM σ) β}
    (hm : Returns P m Q) (hk : ∀ a, Returns (Q a) (k a) R) : Returns P (m >>= k) R := by
  intro s hs b t hrun
  rcases hfirst : m s with ⟨_ | a, u⟩
  · rw [run_bind_of_none hfirst] at hrun
    exact absurd (Prod.mk.inj hrun).1 (by simp)
  · rw [run_bind_of_some hfirst] at hrun
    exact hk a u (hm s hs a u hfirst) b t hrun

theorem Returns.get : Returns P (get : OptionT (StateM σ) σ) fun a s => a = s ∧ P s := by
  intro s hs a t hrun
  have heq : (some s, s) = (some a, t) := hrun
  simp only [Prod.mk.injEq, Option.some.injEq] at heq
  rw [← heq.1, ← heq.2]
  exact ⟨rfl, hs⟩

theorem Returns.modify {f : σ → σ} {Q : Unit → σ → Prop} (h : ∀ s, P s → Q () (f s)) :
    Returns P (modify f : OptionT (StateM σ) PUnit) Q := by
  intro s hs a t hrun
  have heq : (some (), f s) = (some a, t) := hrun
  simp only [Prod.mk.injEq] at heq
  rw [← heq.2]
  exact h s hs

theorem Returns.check {c : Prop} [Decidable c] :
    Returns P (check c : OptionT (StateM σ) Unit) fun _ s => c ∧ P s := by
  unfold Fallible.check
  split
  · next hc => exact Returns.pure fun s hs => ⟨hc, hs⟩
  · exact Returns.fail

theorem Returns.ite {c : Prop} [Decidable c] {m m' : OptionT (StateM σ) α}
    (ht : c → Returns P m Q) (he : ¬ c → Returns P m' Q) :
    Returns P (if c then m else m') Q := by
  split
  · next hc => exact ht hc
  · next hc => exact he hc

theorem Returns.ofOption {a : Option α} (h : ∀ b, a = some b → ∀ s, P s → Q b s) :
    Returns P (ofOption a : OptionT (StateM σ) α) Q := by
  cases a with
  | none => exact Returns.fail
  | some b => exact Returns.pure (h b rfl)

/-- What is known of a program that has been seen to succeed. -/
theorem Returns.attempt {m : OptionT (StateM σ) α} (h : Returns P m Q) :
    Returns P (attempt m) fun r s => ∀ a, r = some a → Q a s := by
  intro s hs r t hrun a hr
  have heq : (some (m s).1, (m s).2) = (some r, t) := hrun
  simp only [Prod.mk.injEq, Option.some.injEq] at heq
  refine h s hs a t (Prod.ext ?_ heq.2)
  rw [heq.1, hr]

/-- A loop over a list, with what holds after the elements done so far. -/
theorem Returns.foldlM {γ : Type} {f : β → γ → OptionT (StateM σ) β}
    {I : List γ → β → σ → Prop} (xs : List γ)
    (hstep : ∀ done x rest b, xs = done ++ x :: rest →
      Returns (I done b) (f b x) (I (done ++ [x]))) (b : β) :
    Returns (I [] b) (xs.foldlM f b) (I xs) := by
  have hloop : ∀ rest done b, xs = done ++ rest →
      Returns (I done b) (rest.foldlM f b) (I xs) := by
    intro rest
    induction rest with
    | nil =>
      intro done b hxs
      rw [List.append_nil] at hxs
      exact Returns.pure fun s hs => hxs ▸ hs
    | cons x rest ih =>
      intro done b hxs
      rw [List.foldlM_cons]
      exact (hstep done x rest b hxs).bind fun b' =>
        ih (done ++ [x]) b' (by rw [hxs, List.append_assoc]; rfl)
  exact hloop xs [] b rfl

/-! ## Success or failure -/

variable {I : σ → Prop}

/-- Whether `m` succeeds or not, it ends in `I`. -/
def Ends (P : σ → Prop) (m : OptionT (StateM σ) α) (I : σ → Prop) : Prop :=
  ∀ s, P s → I (m s).2

theorem Ends.returns {m : OptionT (StateM σ) α} (h : Ends P m I) : Returns P m fun _ => I := by
  intro s hs a t hrun
  have hafter := h s hs
  rwa [hrun] at hafter

/-- The second part may use what the success of the first one has established. -/
theorem Ends.bind {m : OptionT (StateM σ) α} {k : α → OptionT (StateM σ) β}
    (hm : Ends P m I) (hreturns : Returns P m Q) (hk : ∀ a, Ends (Q a) (k a) I) :
    Ends P (m >>= k) I := by
  intro s hs
  have hfirst := hm s hs
  rcases hrun : m s with ⟨_ | a, t⟩
  · rw [run_bind_of_none hrun]
    rwa [hrun] at hfirst
  · rw [run_bind_of_some hrun]
    exact hk a t (hreturns s hs a t hrun)

/-- The invariant is not lost, whether `m` succeeds or not. -/
def Preserves (I : σ → Prop) (m : OptionT (StateM σ) α) : Prop := ∀ s, I s → I (m s).2

theorem Preserves.pure (a : α) : Preserves I (pure a : OptionT (StateM σ) α) := fun _ hs => hs

theorem Preserves.fail : Preserves I (failure : OptionT (StateM σ) α) := fun _ hs => hs

theorem Preserves.get : Preserves I (get : OptionT (StateM σ) σ) := fun _ hs => hs

theorem Preserves.modify {f : σ → σ} (h : ∀ s, I s → I (f s)) :
    Preserves I (modify f : OptionT (StateM σ) PUnit) := h

theorem Preserves.bind {m : OptionT (StateM σ) α} {k : α → OptionT (StateM σ) β}
    (hm : Preserves I m) (hk : ∀ a, Preserves I (k a)) : Preserves I (m >>= k) :=
  Ends.bind hm (Ends.returns hm) hk

theorem Preserves.check {c : Prop} [Decidable c] :
    Preserves I (check c : OptionT (StateM σ) Unit) := by
  unfold Fallible.check
  split
  · exact Preserves.pure ()
  · exact Preserves.fail

theorem Preserves.ite {c : Prop} [Decidable c] {m m' : OptionT (StateM σ) α}
    (ht : Preserves I m) (he : Preserves I m') : Preserves I (if c then m else m') := by
  split
  · exact ht
  · exact he

theorem Preserves.ofOption {a : Option α} :
    Preserves I (ofOption a : OptionT (StateM σ) α) := by
  cases a with
  | none => exact Preserves.fail
  | some b => exact Preserves.pure b

theorem Preserves.attempt {m : OptionT (StateM σ) α} (h : Preserves I m) :
    Preserves I (attempt m) := h

theorem Preserves.foldlM {γ : Type} {f : β → γ → OptionT (StateM σ) β}
    (h : ∀ b x, Preserves I (f b x)) (xs : List γ) (b : β) : Preserves I (xs.foldlM f b) := by
  induction xs generalizing b with
  | nil => exact Preserves.pure b
  | cons x xs ih =>
    rw [List.foldlM_cons]
    exact (h b x).bind ih

theorem Preserves.ends {m : OptionT (StateM σ) α} (h : Preserves I m) (hP : ∀ s, P s → I s) :
    Ends P m I :=
  fun s hs => h s (hP s hs)

/-- An invariant is a precondition that a success keeps. -/
theorem Preserves.returns {m : OptionT (StateM σ) α} (h : Preserves I m) :
    Returns I m fun _ => I :=
  Ends.returns h

end Fallible
