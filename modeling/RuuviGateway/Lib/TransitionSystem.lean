import Mathlib.Data.Option.Basic
import Mathlib.Order.Basic

/-!
# Labelled transition systems and their runs

A system is a set of initial states together with a partial, deterministic step
function: every choice of the environment --- which task runs next, whether a
message is lost, what a called function answers --- is part of the label, so a
run is a list of labels.

## Runs under a side condition

`ReachableVia S C` is the set of states reached by runs all of whose steps meet
`C`, a condition on the state before the step and on the label.  Two instances
matter.  With `C` always true it is plain reachability, and an invariant of it
holds in every state of every run.  With a proper condition it is the set of
states of the runs that avoid one particular step, which is how "the property
holds as long as this branch is not taken" is said about whole runs.

`ReachableVia.invariant` is the only induction on runs in this development: a
safety property of a system is an invariant together with one lemma about one
step.
-/

namespace TransitionSystem

variable {σ α : Type*}

/-- A labelled transition system with deterministic partial steps. -/
structure System (σ α : Type*) where
  /-- The states a run may start in. -/
  init : σ → Prop
  /-- The state after a step, or `none` when the step is not possible. -/
  step : σ → α → Option σ

/-- The states reached from an initial state by steps that all meet `C`. -/
inductive System.ReachableVia (S : System σ α) (C : σ → α → Prop) : σ → Prop where
  | init {s : σ} : S.init s → ReachableVia S C s
  | step {s t : σ} {a : α} :
      ReachableVia S C s → C s a → S.step s a = some t → ReachableVia S C t

/-- The states reached from an initial state by any steps. -/
def System.Reachable (S : System σ α) : σ → Prop :=
  S.ReachableVia fun _ _ => True

variable {S : System σ α} {C : σ → α → Prop}

/-! ## Invariants -/

/-- **The invariant rule.**  What holds initially and is preserved by every
admitted step out of a reachable state holds in every reachable state. -/
theorem System.ReachableVia.invariant {P : σ → Prop} (hinit : ∀ s, S.init s → P s)
    (hstep : ∀ s a t, S.ReachableVia C s → P s → C s a → S.step s a = some t → P t)
    {s : σ} (h : S.ReachableVia C s) : P s := by
  induction h with
  | init h0 => exact hinit _ h0
  | step hs hok hst ih => exact hstep _ _ _ hs ih hok hst

/-- One more step of an unrestricted run. -/
theorem System.Reachable.step {s t : σ} {a : α} (h : S.Reachable s)
    (hst : S.step s a = some t) : S.Reachable t :=
  ReachableVia.step h trivial hst

/-! ## Runs as lists of labels -/

/-- The state after a list of labels. -/
def System.run (S : System σ α) : σ → List α → Option σ
  | s, [] => some s
  | s, a :: l => (S.step s a).bind fun t => S.run t l

@[simp] theorem System.run_nil (s : σ) : S.run s [] = some s := rfl

theorem System.run_cons (s : σ) (a : α) (l : List α) :
    S.run s (a :: l) = (S.step s a).bind fun t => S.run t l := rfl

/-- A run out of a reachable state ends in a reachable state. -/
theorem System.Reachable.run {s t : σ} (l : List α) (h : S.Reachable s)
    (hrun : S.run s l = some t) : S.Reachable t := by
  induction l generalizing s with
  | nil =>
    rw [System.run_nil] at hrun
    exact Option.some.inj hrun ▸ h
  | cons a l ih =>
    rw [System.run_cons] at hrun
    obtain ⟨u, hu, hrest⟩ := Option.bind_eq_some_iff.mp hrun
    exact ih (h.step hu) hrest

/-- A run whose end satisfies a test reaches a state that satisfies it. -/
theorem System.exists_reachable_of_run {s : σ} (hs : S.init s) (l : List α) (p : σ → Bool)
    (hp : (S.run s l).any p = true) : ∃ t, S.Reachable t ∧ p t = true := by
  cases hrun : S.run s l with
  | none =>
    rw [hrun] at hp
    exact absurd hp (by simp)
  | some t =>
    rw [hrun] at hp
    exact ⟨t, System.Reachable.run l (.init hs) hrun, by simpa using hp⟩

/-- The state after a list of labels whose steps all pass the test `C`. -/
def System.runVia (S : System σ α) (C : σ → α → Prop) [∀ s a, Decidable (C s a)] :
    σ → List α → Option σ
  | s, [] => some s
  | s, a :: l => if C s a then (S.step s a).bind fun t => S.runVia C t l else none

/-- A run that passes the test at every step is a run under the side condition. -/
theorem System.ReachableVia.runVia [∀ s a, Decidable (C s a)] {s t : σ} (l : List α)
    (h : S.ReachableVia C s) (hrun : S.runVia C s l = some t) : S.ReachableVia C t := by
  induction l generalizing s with
  | nil => exact Option.some.inj hrun ▸ h
  | cons a l ih =>
    rw [System.runVia] at hrun
    split at hrun
    · rename_i hok
      obtain ⟨u, hu, hrest⟩ := Option.bind_eq_some_iff.mp hrun
      exact ih (h.step hok hu) hrest
    · exact absurd hrun (by simp)

/-- A run that passes the test at every step and whose end satisfies `p` reaches, under
the side condition, a state that satisfies `p`. -/
theorem System.exists_reachableVia_of_run [∀ s a, Decidable (C s a)] {s : σ} (hs : S.init s)
    (l : List α) (p : σ → Bool) (hp : (S.runVia C s l).any p = true) :
    ∃ t, S.ReachableVia C t ∧ p t = true := by
  cases hrun : S.runVia C s l with
  | none =>
    rw [hrun] at hp
    exact absurd hp (by simp)
  | some t =>
    rw [hrun] at hp
    exact ⟨t, System.ReachableVia.runVia l (.init hs) hrun, by simpa using hp⟩

/-! ## Runs that come to an end -/

/-- **The measure rule.**  If every state with `P` either has `Q`, or has a step of the kind `L` to
another one with `P` that makes the measure smaller, then such steps lead to a state with `Q`. -/
theorem System.exists_run_of_measure {P Q : σ → Prop} {L : α → Prop} (μ : σ → Nat)
    (hstep : ∀ s, P s → Q s ∨ ∃ a t, L a ∧ S.step s a = some t ∧ P t ∧ μ t < μ s)
    {s : σ} (h : P s) :
    ∃ l t, (∀ a ∈ l, L a) ∧ S.run s l = some t ∧ P t ∧ Q t := by
  induction hμ : μ s using Nat.strongRecOn generalizing s with
  | _ n ih =>
    rcases hstep s h with hq | ⟨a, t, ha, hst, hp, hlt⟩
    · exact ⟨[], s, fun _ hmem => absurd hmem List.not_mem_nil, rfl, h, hq⟩
    · obtain ⟨l, u, hl, hrun, hu⟩ := ih (μ t) (hμ ▸ hlt) hp rfl
      refine ⟨a :: l, u, List.forall_mem_cons.mpr ⟨ha, hl⟩, ?_, hu⟩
      rw [System.run_cons, hst]
      exact hrun

end TransitionSystem
