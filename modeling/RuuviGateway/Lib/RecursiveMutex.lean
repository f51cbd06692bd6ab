import Mathlib.Logic.Function.Basic
import RuuviGateway.Lib.TransitionSystem

/-!
# A recursive mutex

Programs that lock and unlock one recursive mutex, allocate memory and access a state that the
mutex protects.  A program is run alone, by a task that holds the mutex some number of times
(`Prog.run`), or by tasks whose steps are interleaved (`sys`): a task that locks the mutex while
another one holds it is blocked, and its step is not possible.

`Prog.Closes` says that a program gives back what it takes, for the outcomes of allocations that
are allowed.  Tasks that only call such programs never leave the mutex held, and whoever waits
for it gets it (`lockReturns_of_closes`).  A task that once has ended a call with the mutex held
keeps it for ever, if no program unlocks more than it has locked (`Prog.Stays`).
-/

namespace RecursiveMutex

open TransitionSystem

variable {σ ι α C : Type}

/-! ## Programs -/

/-- A program over a state `σ`; its allocations have names in `ι`. -/
inductive Prog (σ ι α : Type) where
  | ret (a : α)
  | lock (k : Prog σ ι α)
  | unlock (k : Prog σ ι α)
  | alloc (site : ι) (k : Bool → Prog σ ι α)
  | read (k : σ → Prog σ ι α)
  | write (f : σ → σ) (k : Prog σ ι α)

namespace Prog

/-- The program without its result. -/
def void : Prog σ ι α → Prog σ ι Unit
  | ret _ => ret ()
  | lock k => lock k.void
  | unlock k => unlock k.void
  | alloc site k => alloc site fun ok => (k ok).void
  | read k => read fun s => (k s).void
  | write f k => write f k.void

/-- The program run by a task that holds the mutex `depth` times, where `ok` says which
allocations succeed: the result, the state and how many times the task then holds the mutex.
There is no result if the task unlocks a mutex that it does not hold. -/
def run (ok : ι → Bool) : Prog σ ι α → σ → (depth : Nat) → Option (α × σ × Nat)
  | ret a, s, d => some (a, s, d)
  | lock k, s, d => k.run ok s (d + 1)
  | unlock _, _, 0 => none
  | unlock k, s, d + 1 => k.run ok s d
  | alloc site k, s, d => (k (ok site)).run ok s d
  | read k, s, d => (k s).run ok s d
  | write f k, s, d => k.run ok (f s) d

/-- A program that is run by a task that holds the mutex `n` times since its start ends with
nothing held, and never unlocks what it has not locked. -/
def Closes (allowed : ι → Bool → Prop) : Nat → Prog σ ι α → Prop
  | n, ret _ => n = 0
  | n, lock k => k.Closes allowed (n + 1)
  | 0, unlock _ => False
  | n + 1, unlock k => k.Closes allowed n
  | n, alloc site k => ∀ ok, allowed site ok → (k ok).Closes allowed n
  | n, read k => ∀ s, (k s).Closes allowed n
  | n, write _ k => k.Closes allowed n

/-- It never unlocks what it has not locked. -/
def Stays : Nat → Prog σ ι α → Prop
  | _, ret _ => True
  | n, lock k => k.Stays (n + 1)
  | 0, unlock _ => False
  | n + 1, unlock k => k.Stays n
  | n, alloc _ k => ∀ ok, (k ok).Stays n
  | n, read k => ∀ s, (k s).Stays n
  | n, write _ k => k.Stays n

variable {allowed : ι → Bool → Prop}

theorem Closes.void {n : Nat} {p : Prog σ ι α} (h : p.Closes allowed n) :
    p.void.Closes allowed n := by
  induction p generalizing n with
  | ret a => exact h
  | lock k ih => exact ih h
  | unlock k ih =>
    cases n with
    | zero => exact h
    | succ n => exact ih h
  | alloc site k ih => exact fun ok hok => ih ok (h ok hok)
  | read k ih => exact fun s => ih s (h s)
  | write f k ih => exact ih h

theorem Stays.void {n : Nat} {p : Prog σ ι α} (h : p.Stays n) : p.void.Stays n := by
  induction p generalizing n with
  | ret a => exact h
  | lock k ih => exact ih h
  | unlock k ih =>
    cases n with
    | zero => exact h
    | succ n => exact ih h
  | alloc site k ih => exact fun ok => ih ok (h ok)
  | read k ih => exact fun s => ih s (h s)
  | write f k ih => exact ih h

/-- A program that gives back what it takes, whatever its allocations do. -/
theorem Closes.stays {n : Nat} {p : Prog σ ι α} (h : p.Closes (fun _ _ => True) n) :
    p.Stays n := by
  induction p generalizing n with
  | ret a => exact trivial
  | lock k ih => exact ih h
  | unlock k ih =>
    cases n with
    | zero => exact h
    | succ n => exact ih h
  | alloc site k ih => exact fun ok => ih ok (h ok trivial)
  | read k ih => exact fun s => ih s (h s)
  | write f k ih => exact ih h

/-- A program that gives back what it takes leaves the depth as it was. -/
theorem Closes.run_eq {ok : ι → Bool} (hok : ∀ site, allowed site (ok site)) {n : Nat}
    {p : Prog σ ι α} (h : p.Closes allowed n) (s : σ) (d : Nat) :
    ∃ a s', p.run ok s (d + n) = some (a, s', d) := by
  induction p generalizing n s with
  | ret a =>
    refine ⟨a, s, ?_⟩
    rw [show n = 0 from h]
    rfl
  | lock k ih => exact ih h s
  | unlock k ih =>
    cases n with
    | zero => exact absurd h id
    | succ n => exact ih h s
  | alloc site k ih => exact ih _ (h _ (hok site)) s
  | read k ih => exact ih s (h s) s
  | write f k ih => exact ih h (f s)

end Prog

/-! ## Tasks -/

/-- The mutex and the tasks: the task that holds the mutex, with the number of further times
that it does, and the call that each task is in. -/
structure State (σ ι : Type) where
  shared : σ
  owner : Option (Nat × Nat)
  task : Nat → Option (Prog σ ι Unit)

/-- How many times a task holds a mutex with this owner. -/
def depthOf (t : Nat) : Option (Nat × Nat) → Nat
  | none => 0
  | some (u, d) => if u = t then d + 1 else 0

/-- The owner after a task has locked the mutex; the task is blocked while another one holds
it. -/
def lockBy (t : Nat) : Option (Nat × Nat) → Option (Option (Nat × Nat))
  | none => some (some (t, 0))
  | some (u, d) => if u = t then some (some (u, d + 1)) else none

/-- The owner after a task has unlocked the mutex. -/
def unlockBy (t : Nat) : Option (Nat × Nat) → Option (Option (Nat × Nat))
  | none => none
  | some (u, 0) => if u = t then some none else none
  | some (u, d + 1) => if u = t then some (some (u, d)) else none

/-- The state with `p` as the rest of the call of `t`. -/
def State.set (s : State σ ι) (t : Nat) (p : Option (Prog σ ι Unit)) : State σ ι :=
  { s with task := Function.update s.task t p }

/-- The next step of the task `t`, which is at `p`; an allocation succeeds if `ok`. -/
def stepTask (s : State σ ι) (t : Nat) (ok : Bool) : Prog σ ι Unit → Option (State σ ι)
  | .ret _ => some (s.set t none)
  | .lock k => (lockBy t s.owner).map fun o => { s with owner := o }.set t (some k)
  | .unlock k => (unlockBy t s.owner).map fun o => { s with owner := o }.set t (some k)
  | .alloc _ k => some (s.set t (some (k ok)))
  | .read k => some (s.set t (some (k s.shared)))
  | .write f k => some ({ s with shared := f s.shared }.set t (some k))

/-- A task calls a program, or does the next step of its call. -/
inductive Label (C : Type) where
  | call (t : Nat) (c : C)
  | step (t : Nat) (ok : Bool)

/-- The tasks, with the programs that they may call. -/
def sys (prog : C → Prog σ ι Unit) : System (State σ ι) (Label C) where
  init s := s.owner = none ∧ ∀ t, s.task t = none
  step s
    | .call t c => if (s.task t).isNone then some (s.set t (some (prog c))) else none
    | .step t ok => (s.task t).bind (stepTask s t ok)

/-- The condition on a step: an allocation has an allowed outcome. -/
def AllowedStep (allowed : ι → Bool → Prop) (s : State σ ι) : Label C → Prop
  | .call _ _ => True
  | .step t ok => ∀ site k, s.task t = some (.alloc site k) → allowed site ok

/-! ## Steps -/

variable {allowed : ι → Bool → Prop} {prog : C → Prog σ ι Unit} {s s' : State σ ι} {t u : Nat}

@[simp] theorem set_owner (s : State σ ι) (t : Nat) (p : Option (Prog σ ι Unit)) :
    (s.set t p).owner = s.owner := rfl

@[simp] theorem set_task_self (s : State σ ι) (t : Nat) (p : Option (Prog σ ι Unit)) :
    (s.set t p).task t = p := Function.update_self ..

theorem set_task_of_ne (s : State σ ι) (p : Option (Prog σ ι Unit)) (h : u ≠ t) :
    (s.set t p).task u = s.task u := Function.update_of_ne h ..

@[simp] theorem depthOf_self (t d : Nat) : depthOf t (some (t, d)) = d + 1 := if_pos rfl

theorem depthOf_of_ne (h : u ≠ t) (d : Nat) : depthOf u (some (t, d)) = 0 := if_neg h.symm

theorem depthOf_lockBy {o o' : Option (Nat × Nat)} (h : lockBy t o = some o') :
    depthOf t o' = depthOf t o + 1 ∧ ∀ u, u ≠ t → depthOf u o' = depthOf u o := by
  cases o with
  | none =>
    obtain rfl := Option.some.inj h
    exact ⟨depthOf_self t 0, fun u hu => depthOf_of_ne hu 0⟩
  | some o =>
    obtain ⟨v, d⟩ := o
    obtain ⟨rfl, rfl⟩ := Option.ite_some_none_eq_some.mp h
    refine ⟨by simp, fun u hu => ?_⟩
    rw [depthOf_of_ne hu, depthOf_of_ne hu]

theorem depthOf_unlockBy {o o' : Option (Nat × Nat)} (h : unlockBy t o = some o') :
    depthOf t o = depthOf t o' + 1 ∧ ∀ u, u ≠ t → depthOf u o' = depthOf u o := by
  cases o with
  | none => exact absurd h (by simp [unlockBy])
  | some o =>
    obtain ⟨v, d⟩ := o
    cases d with
    | zero =>
      obtain ⟨rfl, rfl⟩ := Option.ite_some_none_eq_some.mp h
      exact ⟨depthOf_self v 0, fun u hu => (depthOf_of_ne hu 0).symm⟩
    | succ d =>
      obtain ⟨rfl, rfl⟩ := Option.ite_some_none_eq_some.mp h
      refine ⟨by simp, fun u hu => ?_⟩
      rw [depthOf_of_ne hu, depthOf_of_ne hu]

/-- What a step of the task `t` does to the mutex and to the call. -/
theorem stepTask_cases {ok : Bool} {p : Prog σ ι Unit} (h : stepTask s t ok p = some s') :
    (∀ u, u ≠ t → s'.task u = s.task u ∧ depthOf u s'.owner = depthOf u s.owner) ∧
    ((∃ a, p = .ret a ∧ s'.task t = none ∧ s'.owner = s.owner) ∨
      (∃ k, p = .lock k ∧ s'.task t = some k ∧ lockBy t s.owner = some s'.owner) ∨
      (∃ k, p = .unlock k ∧ s'.task t = some k ∧ unlockBy t s.owner = some s'.owner) ∨
      (∃ site k, p = .alloc site k ∧ s'.task t = some (k ok) ∧ s'.owner = s.owner) ∨
      (∃ k, p = .read k ∧ s'.task t = some (k s.shared) ∧ s'.owner = s.owner) ∨
      ∃ f k, p = .write f k ∧ s'.task t = some k ∧ s'.owner = s.owner) := by
  cases p with
  | ret a =>
    obtain rfl := Option.some.inj h
    exact ⟨fun u hu => ⟨set_task_of_ne s _ hu, rfl⟩, .inl ⟨a, rfl, set_task_self .., rfl⟩⟩
  | lock k =>
    obtain ⟨o, ho, rfl⟩ := Option.map_eq_some_iff.mp h
    exact ⟨fun u hu => ⟨set_task_of_ne _ _ hu, (depthOf_lockBy ho).2 u hu⟩,
      .inr (.inl ⟨k, rfl, set_task_self .., ho⟩)⟩
  | unlock k =>
    obtain ⟨o, ho, rfl⟩ := Option.map_eq_some_iff.mp h
    exact ⟨fun u hu => ⟨set_task_of_ne _ _ hu, (depthOf_unlockBy ho).2 u hu⟩,
      .inr (.inr (.inl ⟨k, rfl, set_task_self .., ho⟩))⟩
  | alloc site k =>
    obtain rfl := Option.some.inj h
    exact ⟨fun u hu => ⟨set_task_of_ne s _ hu, rfl⟩,
      .inr (.inr (.inr (.inl ⟨site, k, rfl, set_task_self .., rfl⟩)))⟩
  | read k =>
    obtain rfl := Option.some.inj h
    exact ⟨fun u hu => ⟨set_task_of_ne s _ hu, rfl⟩,
      .inr (.inr (.inr (.inr (.inl ⟨k, rfl, set_task_self .., rfl⟩))))⟩
  | write f k =>
    obtain rfl := Option.some.inj h
    exact ⟨fun u hu => ⟨set_task_of_ne _ _ hu, rfl⟩,
      .inr (.inr (.inr (.inr (.inr ⟨f, k, rfl, set_task_self .., rfl⟩))))⟩

theorem step_call {c : C} (h : (sys prog).step s (.call t c) = some s') :
    s.task t = none ∧ s' = s.set t (some (prog c)) := by
  simp only [sys] at h
  split at h
  · rename_i hnone
    exact ⟨by simpa using hnone, (Option.some.inj h).symm⟩
  · exact absurd h (by simp)

theorem step_task {ok : Bool} (h : (sys prog).step s (.step t ok) = some s') :
    ∃ p, s.task t = some p ∧ stepTask s t ok p = some s' := Option.bind_eq_some_iff.mp h

/-! ## Calls that give back what they take -/

/-- A task holds the mutex as often as its call has yet to unlock it. -/
structure Closed (allowed : ι → Bool → Prop) (s : State σ ι) : Prop where
  idle : ∀ t, s.task t = none → depthOf t s.owner = 0
  busy : ∀ t p, s.task t = some p → p.Closes allowed (depthOf t s.owner)

theorem Closed.init (h : (sys prog).init s) : Closed allowed s := by
  refine ⟨fun t _ => ?_, fun t p hp => ?_⟩
  · rw [h.1]
    rfl
  · exact absurd ((h.2 t).symm.trans hp) (by simp)

/-- One step of the task `t`, from what holds of its call afterwards. -/
theorem Closed.of_task (hs : Closed allowed s)
    (hother : ∀ u, u ≠ t → s'.task u = s.task u ∧ depthOf u s'.owner = depthOf u s.owner)
    (hidle : s'.task t = none → depthOf t s'.owner = 0)
    (hbusy : ∀ p, s'.task t = some p → p.Closes allowed (depthOf t s'.owner)) :
    Closed allowed s' := by
  refine ⟨fun u hu => ?_, fun u p hp => ?_⟩
  · by_cases heq : u = t
    · subst heq
      exact hidle hu
    · rw [(hother u heq).2]
      exact hs.idle u ((hother u heq).1.symm.trans hu)
  · by_cases heq : u = t
    · subst heq
      exact hbusy p hp
    · rw [(hother u heq).2]
      exact hs.busy u p ((hother u heq).1.symm.trans hp)

theorem Closed.step (hprog : ∀ c, (prog c).Closes allowed 0) {a : Label C}
    (hs : Closed allowed s) (ha : AllowedStep allowed s a)
    (h : (sys prog).step s a = some s') : Closed allowed s' := by
  cases a with
  | call t c =>
    obtain ⟨hidle, rfl⟩ := step_call h
    have hzero := hs.idle t hidle
    refine hs.of_task (t := t) (fun u hu => ⟨set_task_of_ne s _ hu, rfl⟩) (fun hn => ?_)
      fun p hp => ?_
    · exact hzero
    · rw [set_task_self, Option.some.injEq] at hp
      rw [set_owner, hzero, ← hp]
      exact hprog c
  | step t ok =>
    obtain ⟨p, hp, hstep⟩ := step_task h
    have hclose := hs.busy t p hp
    obtain ⟨hother, hcases⟩ := stepTask_cases hstep
    rcases hcases with ⟨a, rfl, htask, ho⟩ | ⟨k, rfl, htask, ho⟩ | ⟨k, rfl, htask, ho⟩ |
      ⟨site, k, rfl, htask, ho⟩ | ⟨k, rfl, htask, ho⟩ | ⟨f, k, rfl, htask, ho⟩
    · refine hs.of_task hother (fun _ => ?_) fun q hq => absurd (htask.symm.trans hq) (by simp)
      rw [ho]
      exact hclose
    · refine hs.of_task hother (fun hn => absurd (htask.symm.trans hn) (by simp)) fun q hq => ?_
      rw [← Option.some.inj (htask.symm.trans hq), (depthOf_lockBy ho).1]
      exact hclose
    · refine hs.of_task hother (fun hn => absurd (htask.symm.trans hn) (by simp)) fun q hq => ?_
      rw [(depthOf_unlockBy ho).1] at hclose
      rw [← Option.some.inj (htask.symm.trans hq)]
      exact hclose
    · refine hs.of_task hother (fun hn => absurd (htask.symm.trans hn) (by simp)) fun q hq => ?_
      rw [← Option.some.inj (htask.symm.trans hq), ho]
      exact hclose ok (ha site k hp)
    · refine hs.of_task hother (fun hn => absurd (htask.symm.trans hn) (by simp)) fun q hq => ?_
      rw [← Option.some.inj (htask.symm.trans hq), ho]
      exact hclose s.shared
    · refine hs.of_task hother (fun hn => absurd (htask.symm.trans hn) (by simp)) fun q hq => ?_
      rw [← Option.some.inj (htask.symm.trans hq), ho]
      exact hclose

/-! ## Who waits for the mutex -/

/-- The state after steps of other tasks than `t`, and calls that they make. -/
inductive Others (prog : C → Prog σ ι Unit) (t : Nat) (s : State σ ι) : State σ ι → Prop where
  | refl : Others prog t s s
  | call {s₁ s₂ : State σ ι} {u : Nat} {c : C} : Others prog t s s₁ → u ≠ t →
      (sys prog).step s₁ (.call u c) = some s₂ → Others prog t s s₂
  | step {s₁ s₂ : State σ ι} {u : Nat} {ok : Bool} : Others prog t s s₁ → u ≠ t →
      (sys prog).step s₁ (.step u ok) = some s₂ → Others prog t s s₂

/-- After finitely many of its own steps the task `t` frees the mutex.  Whatever the others do
in between, its next step is possible. -/
inductive Releases (allowed : ι → Bool → Prop) (prog : C → Prog σ ι Unit) (t : Nat) :
    State σ ι → Prop where
  | free {s : State σ ι} : s.owner = none → Releases allowed prog t s
  | step {s : State σ ι} :
      (∀ s₁, Others prog t s s₁ → ∀ ok, ((sys prog).step s₁ (.step t ok)).isSome) →
      (∀ s₁, Others prog t s s₁ → ∀ ok s', @AllowedStep σ ι C allowed s₁ (.step t ok) →
        (sys prog).step s₁ (.step t ok) = some s' → Releases allowed prog t s') →
      Releases allowed prog t s

/-- The task `u` does not wait for the mutex for ever: it can lock it, or a task that holds it
frees it. -/
def LockReturns (allowed : ι → Bool → Prop) (prog : C → Prog σ ι Unit) (u : Nat)
    (s : State σ ι) : Prop :=
  (lockBy u s.owner).isSome ∨ ∃ t, Releases allowed prog t s

/-- Other tasks change neither the call of a task nor how often it holds the mutex. -/
theorem Others.same (h : Others prog t s s') :
    s'.task t = s.task t ∧ depthOf t s'.owner = depthOf t s.owner := by
  induction h with
  | refl => exact ⟨rfl, rfl⟩
  | call _ hu hstep ih =>
    obtain ⟨-, rfl⟩ := step_call hstep
    exact ⟨(set_task_of_ne _ _ hu.symm).trans ih.1, ih.2⟩
  | step _ hu hstep ih =>
    obtain ⟨p, -, hp⟩ := step_task hstep
    have hother := (stepTask_cases hp).1 t hu.symm
    exact ⟨hother.1.trans ih.1, hother.2.trans ih.2⟩

theorem owner_of_depthOf {o : Option (Nat × Nat)} {n : Nat} (h : depthOf t o = n + 1) :
    o = some (t, n) := by
  cases o with
  | none => exact absurd h (by simp [depthOf])
  | some o =>
    obtain ⟨v, d⟩ := o
    simp only [depthOf] at h
    split at h
    · rename_i hv
      rw [hv, Nat.succ.inj h]
    · exact absurd h (by simp)

/-- The holder of the mutex is never blocked. -/
theorem step_isSome {p : Prog σ ι Unit} {n : Nat} (hp : s.task t = some p)
    (hn : depthOf t s.owner = n + 1) (ok : Bool) :
    ((sys prog).step s (.step t ok)).isSome := by
  have ho := owner_of_depthOf hn
  simp only [sys, hp, Option.bind_some]
  cases p with
  | ret | alloc | read | write => rfl
  | lock k => simp [stepTask, ho, lockBy]
  | unlock k => cases n <;> simp [stepTask, ho, unlockBy]

/-- The next step of the holder, whatever the others have done before it. -/
theorem Releases.ofStep {p : Prog σ ι Unit} {n : Nat} (hp : s.task t = some p)
    (hn : depthOf t s.owner = n + 1)
    (hstep : ∀ s₁ ok s', depthOf t s₁.owner = n + 1 →
      (∀ site k, p = .alloc site k → allowed site ok) → stepTask s₁ t ok p = some s' →
        Releases allowed prog t s') : Releases allowed prog t s := by
  refine .step (fun s₁ h₁ => step_isSome (h₁.same.1.trans hp) (h₁.same.2.trans hn))
    fun s₁ h₁ ok s' hok hs' => ?_
  have hp₁ := h₁.same.1.trans hp
  obtain ⟨q, hq, hrun⟩ := step_task hs'
  obtain rfl := Option.some.inj (hp₁.symm.trans hq)
  exact hstep s₁ ok s' (h₁.same.2.trans hn) (fun site k he => hok site k (he ▸ hp₁)) hrun

/-- What remains of a call that gives back what it takes frees the mutex. -/
theorem releases_of_closes {p : Prog σ ι Unit} {n : Nat} (hp : s.task t = some p)
    (hn : depthOf t s.owner = n + 1) (hclose : p.Closes allowed (n + 1)) :
    Releases allowed prog t s := by
  induction p generalizing s n with
  | ret a => exact absurd hclose (Nat.succ_ne_zero n)
  | lock k ih =>
    refine .ofStep hp hn fun s₁ ok s' hn₁ _ hstep => ?_
    obtain ⟨o, ho, rfl⟩ := Option.map_eq_some_iff.mp hstep
    refine @ih _ (n + 1) (set_task_self ..) ?_ hclose
    rw [set_owner, (depthOf_lockBy ho).1, hn₁]
  | unlock k ih =>
    refine .ofStep hp hn fun s₁ ok s' hn₁ _ hstep => ?_
    obtain ⟨o, ho, rfl⟩ := Option.map_eq_some_iff.mp hstep
    have hdepth : depthOf t o = n := by
      have hunlock := (depthOf_unlockBy ho).1
      omega
    cases n with
    | zero =>
      rw [owner_of_depthOf hn₁] at ho
      exact .free (by simpa [unlockBy] using ho.symm)
    | succ n => exact @ih _ n (set_task_self ..) hdepth hclose
  | alloc site k ih =>
    refine .ofStep hp hn fun s₁ ok s' hn₁ hok hstep => ?_
    obtain rfl := Option.some.inj hstep
    exact @ih ok _ n (set_task_self ..) hn₁ (hclose ok (hok site k rfl))
  | read k ih =>
    refine .ofStep hp hn fun s₁ ok s' hn₁ _ hstep => ?_
    obtain rfl := Option.some.inj hstep
    exact @ih _ _ n (set_task_self ..) hn₁ (hclose s₁.shared)
  | write f k ih =>
    refine .ofStep hp hn fun s₁ ok s' hn₁ _ hstep => ?_
    obtain rfl := Option.some.inj hstep
    exact @ih _ n (set_task_self ..) hn₁ hclose

/-- **Nobody waits for ever.**  In every run of programs that give back what they take, a task
that locks the mutex gets it. -/
theorem lockReturns_of_closes (hprog : ∀ c, (prog c).Closes allowed 0)
    (h : (sys prog).ReachableVia (AllowedStep allowed) s) (u : Nat) :
    LockReturns allowed prog u s := by
  have hclosed : Closed allowed s := System.ReachableVia.invariant
    (fun _ h0 => Closed.init h0) (fun _ _ _ _ hs ha hst => hs.step hprog ha hst) h
  cases ho : s.owner with
  | none => exact .inl (by rw [ho]; rfl)
  | some o =>
    obtain ⟨t, d⟩ := o
    refine .inr ⟨t, ?_⟩
    have hdepth : depthOf t s.owner = d + 1 := by simp [ho, depthOf]
    cases htask : s.task t with
    | none => exact absurd (hclosed.idle t htask) (by omega)
    | some p =>
      have hclose := hclosed.busy t p htask
      rw [hdepth] at hclose
      exact releases_of_closes htask hdepth hclose

/-! ## A mutex that is kept -/

/-- The task `t` holds the mutex, and its call does not give back what it held before. -/
def Kept (t : Nat) (s : State σ ι) : Prop :=
  ∃ n, n < depthOf t s.owner ∧ ∀ p, s.task t = some p → p.Stays n

theorem Kept.step (hprog : ∀ c, (prog c).Stays 0) {a : Label C} (hs : Kept t s)
    (h : (sys prog).step s a = some s') : Kept t s' := by
  obtain ⟨n, hn, hstays⟩ := hs
  cases a with
  | call u c =>
    obtain ⟨-, rfl⟩ := step_call h
    by_cases hu : t = u
    · subst hu
      refine ⟨0, Nat.zero_lt_of_lt hn, fun p hp => ?_⟩
      rw [set_task_self, Option.some.injEq] at hp
      exact hp ▸ hprog c
    · exact ⟨n, hn, fun p hp => hstays p ((set_task_of_ne s _ hu).symm.trans hp)⟩
  | step u ok =>
    obtain ⟨p, hp, hstep⟩ := step_task h
    obtain ⟨hother, hcases⟩ := stepTask_cases hstep
    by_cases hu : t = u
    · subst hu
      have hstay := hstays p hp
      rcases hcases with ⟨a, rfl, htask, ho⟩ | ⟨k, rfl, htask, ho⟩ | ⟨k, rfl, htask, ho⟩ |
        ⟨site, k, rfl, htask, ho⟩ | ⟨k, rfl, htask, ho⟩ | ⟨f, k, rfl, htask, ho⟩
      · exact ⟨n, ho ▸ hn, fun q hq => absurd (htask.symm.trans hq) (by simp)⟩
      · refine ⟨n + 1, ?_, fun q hq => Option.some.inj (htask.symm.trans hq) ▸ hstay⟩
        rw [(depthOf_lockBy ho).1]
        exact Nat.succ_lt_succ hn
      · cases n with
        | zero => exact absurd hstay id
        | succ n =>
          refine ⟨n, ?_, fun q hq => Option.some.inj (htask.symm.trans hq) ▸ hstay⟩
          rw [(depthOf_unlockBy ho).1] at hn
          exact Nat.lt_of_succ_lt_succ hn
      · exact ⟨n, ho ▸ hn, fun q hq => Option.some.inj (htask.symm.trans hq) ▸ hstay ok⟩
      · exact ⟨n, ho ▸ hn, fun q hq => Option.some.inj (htask.symm.trans hq) ▸ hstay s.shared⟩
      · exact ⟨n, ho ▸ hn, fun q hq => Option.some.inj (htask.symm.trans hq) ▸ hstay⟩
    · exact ⟨n, (hother t hu).2 ▸ hn, fun q hq => hstays q ((hother t hu).1.symm.trans hq)⟩

theorem Kept.run (hprog : ∀ c, (prog c).Stays 0) (l : List (Label C)) (hs : Kept t s)
    (h : (sys prog).run s l = some s') : Kept t s' := by
  induction l generalizing s with
  | nil => exact Option.some.inj h ▸ hs
  | cons a l ih =>
    rw [System.run_cons] at h
    obtain ⟨s₁, hstep, hrest⟩ := Option.bind_eq_some_iff.mp h
    exact ih (hs.step hprog hstep) hrest

/-- **For ever.**  Once a task has kept the mutex, another task that locks it is blocked,
whatever the tasks do. -/
theorem Kept.lockBy_eq_none (hprog : ∀ c, (prog c).Stays 0) (l : List (Label C))
    (hs : Kept t s) (h : (sys prog).run s l = some s') (hu : u ≠ t) :
    lockBy u s'.owner = none := by
  obtain ⟨n, hn, -⟩ := hs.run hprog l h
  obtain ⟨m, hm⟩ := Nat.exists_eq_succ_of_ne_zero (Nat.ne_of_gt (Nat.zero_lt_of_lt hn))
  rw [owner_of_depthOf hm]
  exact if_neg (Ne.symm hu)

end RecursiveMutex
