import Mathlib.Control.Monad.Basic

/-!
# Programs that can be aborted

A program over a state `σ` that can be aborted is `StateT σ (Except ε) α`.  Here are the rules
for what such a program does where it returns.  `Ensures` is the usual triple of a precondition, a
program and a postcondition on the result and the state.  `Moves` says what becomes of the state
whatever is returned: it goes from `f s` to `g s`, for every base state `s` that satisfies `P`.  A
program that gives back what it takes moves every state to itself.
-/

namespace Program

universe u v

variable {σ α β : Type u} {ε : Type v} {P P' : σ → Prop} {f g h : σ → σ}

/-! ## Triples -/

/-- Where `m` returns from a state with `P`, its result and the new state satisfy `Q`. -/
def Ensures (P : σ → Prop) (m : StateT σ (Except ε) α) (Q : α → σ → Prop) : Prop :=
  ∀ s, P s → ∀ a s', m s = .ok (a, s') → Q a s'

theorem Ensures.pure {Q : α → σ → Prop} {a : α} (h : ∀ s, P s → Q a s) :
    Ensures P (pure a : StateT σ (Except ε) α) Q := by
  intro s hs b s' hrun
  injection hrun with hrun
  injection hrun with ha hs'
  rw [← ha, ← hs']
  exact h s hs

theorem Ensures.update {Q : PUnit → σ → Prop} {o : σ → σ} (h : ∀ s, P s → Q ⟨⟩ (o s)) :
    Ensures P (modify o : StateT σ (Except ε) PUnit) Q := by
  intro s hs b s' hrun
  injection hrun with hrun
  injection hrun with _ hs'
  rw [← hs']
  exact h s hs

/-- An update under which the precondition stays true. -/
theorem Ensures.keep {o : σ → σ} (h : ∀ s, P s → P (o s)) :
    Ensures P (modify o : StateT σ (Except ε) PUnit) fun _ => P :=
  Ensures.update h

theorem Ensures.get : Ensures P (get : StateT σ (Except ε) σ) fun a s => a = s ∧ P s := by
  intro s hs a s' hrun
  injection hrun with hrun
  injection hrun with ha hs'
  rw [← ha, ← hs']
  exact ⟨rfl, hs⟩

/-- A program that is always aborted ensures anything. -/
theorem Ensures.throw {Q : α → σ → Prop} (e : ε) :
    Ensures P (throw e : StateT σ (Except ε) α) Q := by
  intro s _ a s' hrun
  exact absurd hrun (by simp [MonadExcept.throw, throwThe, MonadExceptOf.throw, StateT.lift, bind,
    Except.bind])

/-- The second part of a program that returns runs on what the first has returned. -/
theorem run_bind {m : StateT σ (Except ε) α} {k : α → StateT σ (Except ε) β} {s s' : σ} {b : β}
    (hrun : (m >>= k) s = .ok (b, s')) : ∃ a t, m s = .ok (a, t) ∧ k a t = .ok (b, s') := by
  have hrun' : (m s >>= fun p => k p.1 p.2) = .ok (b, s') := hrun
  cases hfirst : m s with
  | error e =>
    rw [hfirst] at hrun'
    exact absurd hrun' (by simp [Bind.bind, Except.bind])
  | ok p =>
    rw [hfirst] at hrun'
    exact ⟨p.1, p.2, rfl, hrun'⟩

/-- A program whose first part returns goes on with the second. -/
theorem run_bind_of_ok {m : StateT σ (Except ε) α} {k : α → StateT σ (Except ε) β} {s t : σ}
    {a : α} (hm : m s = .ok (a, t)) : (m >>= k) s = k a t := by
  show (m s >>= fun p => k p.1 p.2) = k a t
  rw [hm]
  rfl

theorem Ensures.bind {m : StateT σ (Except ε) α} {k : α → StateT σ (Except ε) β}
    {Q : α → σ → Prop} {R : β → σ → Prop} (hm : Ensures P m Q)
    (hk : ∀ a, Ensures (Q a) (k a) R) : Ensures P (m >>= k) R := by
  intro s hs b s' hrun
  obtain ⟨a, t, hfirst, hrest⟩ := run_bind hrun
  exact hk a t (hm s hs a t hfirst) b s' hrest

theorem Ensures.ite {c : Prop} [Decidable c] {m m' : StateT σ (Except ε) α} {Q : α → σ → Prop}
    (ht : c → Ensures P m Q) (he : ¬c → Ensures P m' Q) :
    Ensures P (if c then m else m') Q := by
  by_cases hc : c
  · rw [if_pos hc]
    exact ht hc
  · rw [if_neg hc]
    exact he hc

theorem Ensures.mono {m : StateT σ (Except ε) α} {Q Q' : α → σ → Prop} (hm : Ensures P m Q)
    (hP : ∀ s, P' s → P s) (hQ : ∀ a s, Q a s → Q' a s) : Ensures P' m Q' := by
  intro s hs a s' hrun
  exact hQ a s' (hm s (hP s hs) a s' hrun)

/-! ## Moves -/

/-- Where `m` returns, it moves the state from `f s` to `g s`. -/
def Moves (P : σ → Prop) (f g : σ → σ) (m : StateT σ (Except ε) α) : Prop :=
  ∀ s, P s → ∀ a s', m (f s) = .ok (a, s') → s' = g s

/-- Where `m` returns, the state is what it was. -/
def Restores (P : σ → Prop) (m : StateT σ (Except ε) α) : Prop := Moves P id id m

theorem Moves.pure (a : α) : Moves P f f (pure a : StateT σ (Except ε) α) := by
  intro s _ b s' hrun
  injection hrun with hrun
  injection hrun with _ hs
  exact hs.symm

theorem Moves.update (o : σ → σ) :
    Moves P f (fun s => o (f s)) (modify o : StateT σ (Except ε) PUnit) := by
  intro s _ b s' hrun
  injection hrun with hrun
  injection hrun with _ hs
  exact hs.symm

/-- The second part starts where the first has ended. -/
theorem Moves.bind {m : StateT σ (Except ε) α} {k : α → StateT σ (Except ε) β}
    (hm : Moves P f g m) (hk : ∀ a, Moves P g h (k a)) : Moves P f h (m >>= k) := by
  intro s hs b s' hrun
  obtain ⟨a, t, hfirst, hrest⟩ := run_bind hrun
  rw [hm s hs a t hfirst] at hrest
  exact hk a s hs b s' hrest

theorem Moves.ite {c : Prop} [Decidable c] {m m' : StateT σ (Except ε) α}
    (ht : c → Moves P f g m) (he : ¬c → Moves P f g m') : Moves P f g (if c then m else m') := by
  by_cases hc : c
  · rw [if_pos hc]
    exact ht hc
  · rw [if_neg hc]
    exact he hc

/-- The end may be written differently on the states that count. -/
theorem Moves.congr {m : StateT σ (Except ε) α} (hm : Moves P f g m)
    (heq : ∀ s, P s → g s = h s) : Moves P f h m := by
  intro s hs a s' hrun
  rw [hm s hs a s' hrun, heq s hs]

/-- What gives back its state does so wherever it starts. -/
theorem Restores.at {m : StateT σ (Except ε) α} (hm : Restores P m)
    (hf : ∀ s, P s → P (f s)) : Moves P f f m := by
  intro s hs a s' hrun
  exact hm (f s) (hf s hs) a s' hrun

theorem Restores.pure (a : α) : Restores P (pure a : StateT σ (Except ε) α) := Moves.pure a

theorem Restores.bind {m : StateT σ (Except ε) α} {k : α → StateT σ (Except ε) β}
    (hm : Restores P m) (hk : ∀ a, Restores P (k a)) : Restores P (m >>= k) := Moves.bind hm hk

/-- A program between two steps of which the second undoes the first. -/
theorem Restores.between {m : StateT σ (Except ε) α} {k : α → StateT σ (Except ε) β}
    {start stop : StateT σ (Except ε) PUnit}
    (hstart : Moves P id f start) (hf : ∀ s, P s → P (f s)) (hm : Restores P m)
    (hstop : Moves P f id stop) (hk : ∀ a, Restores P (k a)) :
    Restores P (do start; let a ← m; stop; k a) :=
  Moves.bind hstart fun _ => Moves.bind (hm.at hf) fun a => Moves.bind hstop fun _ => hk a

end Program
