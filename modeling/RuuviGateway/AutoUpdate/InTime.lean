import RuuviGateway.AutoUpdate.Raised

/-!
# The checks are in time

How long the tasks take for a check is not known.  As long as it is less than ten minutes, every
chosen hour has a check, unless the gateway or its services were started or a download succeeded
not long before: `asked_in_chosen_hour`.  And whatever the tasks do, the HTTP server looks for a
release only after a check that was allowed: `chosen_of_requested`.
-/

namespace RuuviGateway
namespace AutoUpdate

open MainLoop (Act RuuviCfg Sig State)
open GwCfgJson (AutoUpdate)
open TransitionSystem

variable {μ ρ ν : Type}

variable {times : ρ → AutoUpdate} {lag : Nat} {x y : Timed μ ρ ν}

/-- The time is not long after the last start, restart of the services, check or success. -/
def Bounded (lag : Nat) (x : Timed μ ρ ν) (t : Nat) : Prop :=
  t ≤ x.bootedAt + delayAfterReboot ∨
    (∃ r, x.restarted = some r ∧ t ≤ r + delayBeforeRetry) ∨
    (∃ k, x.seen = some k ∧ t ≤ k.time + lag + delayBeforeRetry) ∨
    ∃ u, x.succeeded = some u ∧ t ≤ u + lag + delayAfterSuccess

/-- After the check itself. -/
def PastCheck (s : State μ ρ ν) : Prop :=
  s.fwCheckRequested = true ∨ s.fwCheckRunning = true ∨
    s.due .scheduleNextCheckForFwUpdates = true ∨ s.due .scheduleRetryCheckForFwUpdates = true

theorem isUnderway_iff {s : State μ ρ ν} :
    isUnderway s = true ↔ s.due .checkForFwUpdates = true ∨ PastCheck s := by
  simp only [isUnderway, PastCheck, Bool.or_eq_true]
  tauto

/-- **The invariant**: the timer is due in time, a check under way was begun in time, and the times
that are remembered are such that the next ones will be in time, too. -/
structure InTime (lag : Nat) (x : Timed μ ρ ν) : Prop where
  timer : x.main.timerCheckForFwUpdates = true → x.now ≤ x.deadline ∧ Bounded lag x x.deadline ∧
    (isUnderway x.main = true → x.firedAt + lag < x.deadline)
  underway : isUnderway x.main = true → x.now ≤ x.firedAt + lag
  check : x.main.due .checkForFwUpdates = true → Bounded lag x x.firedAt
  later : PastCheck x.main → ∃ k, x.seen = some k ∧ x.firedAt ≤ k.time
  next : x.main.due .scheduleNextCheckForFwUpdates = true →
    ∃ u, x.succeeded = some u ∧ x.firedAt ≤ u
  fired : x.firedAt ≤ x.now
  booted : x.bootedAt ≤ x.now
  restarted : ∀ r, x.restarted = some r → r ≤ x.now
  seen : ∀ k, x.seen = some k → k.time ≤ x.now
  succeeded : ∀ u, x.succeeded = some u → u ≤ x.now

theorem Bounded.of_le {t t' : Nat} (h : Bounded lag x t) (hle : t' ≤ t) : Bounded lag x t' := by
  obtain h | ⟨r, hr, h⟩ | ⟨k, hk, h⟩ | ⟨u, hu, h⟩ := h
  · exact .inl (by omega)
  · exact .inr (.inl ⟨r, hr, by omega⟩)
  · exact .inr (.inr (.inl ⟨k, hk, by omega⟩))
  · exact .inr (.inr (.inr ⟨u, hu, by omega⟩))

/-- The times that are remembered are as they were, or it is now. -/
structure Forward (x y : Timed μ ρ ν) : Prop where
  now : y.now = x.now
  booted : y.bootedAt = x.bootedAt ∨ y.bootedAt = x.now
  restarted : y.restarted = x.restarted ∨ y.restarted = some x.now
  seen : y.seen = x.seen ∨ ∃ k, y.seen = some k ∧ k.time = x.now
  succeeded : y.succeeded = x.succeeded ∨ y.succeeded = some x.now

theorem Bounded.forward {t : Nat} (h : Bounded lag x t) (hx : InTime lag x) (hxy : Forward x y) :
    Bounded lag y t := by
  have hbooted := hx.booted
  obtain h | ⟨r, hr, h⟩ | ⟨k, hk, h⟩ | ⟨u, hu, h⟩ := h
  · refine .inl ?_
    obtain hb | hb := hxy.booted <;> omega
  · have hle := hx.restarted r hr
    obtain heq | heq := hxy.restarted
    · exact .inr (.inl ⟨r, heq.trans hr, h⟩)
    · exact .inr (.inl ⟨_, heq, by omega⟩)
  · have hle := hx.seen k hk
    obtain heq | ⟨k', heq, hnow⟩ := hxy.seen
    · exact .inr (.inr (.inl ⟨k, heq.trans hk, h⟩))
    · exact .inr (.inr (.inl ⟨k', heq, by omega⟩))
  · have hle := hx.succeeded u hu
    obtain heq | heq := hxy.succeeded
    · exact .inr (.inr (.inr ⟨u, heq.trans hu, h⟩))
    · exact .inr (.inr (.inr ⟨_, heq, by omega⟩))

/-- The invariant is kept by a step that is not the timer's: what it starts is accounted for. -/
theorem InTime.forward (hlag : lag < delayBeforeRetry) (h : InTime lag x) (hxy : Forward x y)
    (hfired : y.firedAt = x.firedAt)
    (htimer : y.main.timerCheckForFwUpdates = true →
      (x.main.timerCheckForFwUpdates = true ∧ y.deadline = x.deadline) ∨
        (Bounded lag y y.deadline ∧ x.now + delayBeforeRetry ≤ y.deadline))
    (hcheck : y.main.due .checkForFwUpdates = true → x.main.due .checkForFwUpdates = true)
    (hlater : PastCheck y.main → PastCheck x.main ∨
      x.main.due .checkForFwUpdates = true ∧ ∃ k, y.seen = some k ∧ k.time = x.now)
    (hnext : y.main.due .scheduleNextCheckForFwUpdates = true →
      x.main.due .scheduleNextCheckForFwUpdates = true ∨ y.succeeded = some x.now) :
    InTime lag y := by
  have hnow := hxy.now
  have hbooted := h.booted
  have hfiredLe := h.fired
  have hunder : isUnderway y.main = true → isUnderway x.main = true := by
    rw [isUnderway_iff, isUnderway_iff]
    rintro (hdue | hl)
    · exact .inl (hcheck hdue)
    · exact (hlater hl).elim .inr fun hl => .inl hl.1
  refine ⟨fun ht => ?_, fun hu => ?_, fun hdue => ?_, fun hl => ?_, fun hdue => ?_, ?_, ?_,
    fun r hr => ?_, fun k hk => ?_, fun u hu => ?_⟩
  · obtain ⟨hold, hdead⟩ | ⟨hbound, hdead⟩ := htimer ht
    · obtain ⟨hle, hbound, hclear⟩ := h.timer hold
      rw [hdead, hnow, hfired]
      exact ⟨hle, hbound.forward h hxy, fun hu => hclear (hunder hu)⟩
    · exact ⟨by omega, hbound, fun _ => by omega⟩
  · rw [hnow, hfired]
    exact h.underway (hunder hu)
  · rw [hfired]
    exact (h.check (hcheck hdue)).forward h hxy
  · rw [hfired]
    obtain hold | ⟨-, k, hk, htime⟩ := hlater hl
    · obtain ⟨k, hk, hle⟩ := h.later hold
      obtain heq | ⟨k', heq, htime⟩ := hxy.seen
      · exact ⟨k, heq.trans hk, hle⟩
      · exact ⟨k', heq, by omega⟩
    · exact ⟨k, hk, by omega⟩
  · rw [hfired]
    obtain hold | heq := hnext hdue
    · obtain ⟨u, hu, hle⟩ := h.next hold
      obtain heq | heq := hxy.succeeded
      · exact ⟨u, heq.trans hu, hle⟩
      · exact ⟨_, heq, hfiredLe⟩
    · exact ⟨_, heq, hfiredLe⟩
  · omega
  · obtain hb | hb := hxy.booted <;> omega
  · obtain heq | heq := hxy.restarted
    · exact hnow ▸ h.restarted r (heq.symm.trans hr)
    · obtain rfl := Option.some.inj (heq.symm.trans hr)
      omega
  · obtain heq | ⟨k', heq, htime⟩ := hxy.seen
    · exact hnow ▸ h.seen k (heq.symm.trans hk)
    · obtain rfl := Option.some.inj (heq.symm.trans hk)
      omega
  · obtain heq | heq := hxy.succeeded
    · exact hnow ▸ h.succeeded u (heq.symm.trans hu)
    · obtain rfl := Option.some.inj (heq.symm.trans hu)
      omega

variable {cmpRuuvi : RuuviCfg μ ρ → RuuviCfg μ ρ → Bool} {cmpNetwork : ν → ν → Bool}
variable {t : State μ ρ ν} {a : Act μ ρ ν}

variable (times) in
/-- What the times do in a step of the tasks. -/
theorem forward_after (x : Timed μ ρ ν) (t : State μ ρ ν) (a : Act μ ρ ν) :
    Forward x (x.after times t a) := by
  unfold Timed.after
  split <;> try exact ⟨rfl, .inl rfl, .inl rfl, .inl rfl, .inl rfl⟩
  · exact ⟨rfl, .inl rfl, .inl rfl, .inr ⟨_, rfl, rfl⟩, .inl rfl⟩
  · split
    · exact ⟨rfl, .inl rfl, .inr rfl, .inl rfl, .inl rfl⟩
    · exact ⟨rfl, .inl rfl, .inl rfl, .inl rfl, .inl rfl⟩
  · exact ⟨rfl, .inl rfl, .inl rfl, .inl rfl, .inr rfl⟩
  · exact ⟨rfl, .inr rfl, .inl rfl, .inl rfl, .inl rfl⟩

theorem main_after (x : Timed μ ρ ν) (t : State μ ρ ν) (a : Act μ ρ ν) :
    (x.after times t a).main = t := by
  unfold Timed.after
  split <;> try rfl
  split <;> rfl

theorem firedAt_after (x : Timed μ ρ ν) (t : State μ ρ ν)
    (ha : a ≠ .timerCheckForFwUpdatesFires) : (x.after times t a).firedAt = x.firedAt := by
  unfold Timed.after
  split <;> try rfl
  · split <;> rfl
  · exact absurd rfl ha

/-- Where the timer is left alone it was active before. -/
theorem deadline_after_of_unset (hr : Raised x.main t a) (ht : t.timerCheckForFwUpdates = true)
    (hnext : ∀ b, a ≠ .handle .scheduleNextCheckForFwUpdates b)
    (hretry : ∀ b, a ≠ .handle .scheduleRetryCheckForFwUpdates b)
    (hmain : ∀ b, a = .main b → x.main.pc ≠ .restartFw) (hboot : ∀ ok, a ≠ .reboot ok) :
    x.main.timerCheckForFwUpdates = true ∧ (x.after times t a).deadline = x.deadline := by
  refine ⟨?_, ?_⟩
  · obtain h | ⟨b, h⟩ | ⟨b, h⟩ | ⟨⟨b, h⟩, hpc⟩ := hr.timer ht
    · exact h
    · exact absurd h (hnext b)
    · exact absurd h (hretry b)
    · exact absurd hpc (hmain b h)
  · unfold Timed.after
    split <;> try rfl
    · exact absurd rfl (hnext _)
    · exact absurd rfl (hretry _)
    · rw [if_neg (hmain _ rfl)]
      rfl
    · exact absurd rfl (hboot _)

/-- Where it is started, its time is accounted for. -/
theorem deadline_after (h : InTime lag x) (hr : Raised x.main t a)
    (hboot : ∀ ok, a ≠ .reboot ok) (ht : t.timerCheckForFwUpdates = true) :
    (x.main.timerCheckForFwUpdates = true ∧ (x.after times t a).deadline = x.deadline) ∨
      (Bounded lag (x.after times t a) (x.after times t a).deadline ∧
        x.now + delayBeforeRetry ≤ (x.after times t a).deadline) := by
  by_cases hnext : ∃ b, a = .handle .scheduleNextCheckForFwUpdates b
  · obtain ⟨b, rfl⟩ := hnext
    have hdue := hr.handles _ _ rfl
    obtain ⟨u, hu, hle⟩ := h.next hdue
    have hnow := h.underway (isUnderway_iff.mpr (.inr (.inr (.inr (.inl hdue)))))
    refine .inr ⟨.inr (.inr (.inr ⟨u, hu, ?_⟩)), ?_⟩
    · simp only [Timed.after]
      omega
    · simp only [Timed.after, delayBeforeRetry, delayAfterSuccess]
      omega
  by_cases hretry : ∃ b, a = .handle .scheduleRetryCheckForFwUpdates b
  · obtain ⟨b, rfl⟩ := hretry
    have hpast : PastCheck x.main := .inr (.inr (.inr (hr.handles _ _ rfl)))
    obtain ⟨k, hk, hle⟩ := h.later hpast
    have hnow := h.underway (isUnderway_iff.mpr (.inr hpast))
    refine .inr ⟨.inr (.inr (.inl ⟨k, hk, ?_⟩)), Nat.le_refl _⟩
    simp only [Timed.after]
    omega
  by_cases hmain : (∃ b, a = .main b) ∧ x.main.pc = .restartFw
  · obtain ⟨⟨b, rfl⟩, hpc⟩ := hmain
    have heq : x.after times t (.main b) = { x.withMain times t with
        deadline := x.now + delayBeforeRetry, restarted := some x.now } := if_pos hpc
    rw [heq]
    exact .inr ⟨.inr (.inl ⟨x.now, rfl, Nat.le_refl _⟩), Nat.le_refl _⟩
  · exact .inl (deadline_after_of_unset hr ht (fun b hb => hnext ⟨b, hb⟩)
      (fun b hb => hretry ⟨b, hb⟩) (fun b hb hpc => hmain ⟨⟨b, hb⟩, hpc⟩) hboot)

/-- The timer fires: no check was under way. -/
theorem InTime.fires (h : InTime lag x) (hdue : x.deadline ≤ x.now)
    (hr : Raised x.main t .timerCheckForFwUpdatesFires) :
    InTime lag (x.after times t .timerCheckForFwUpdatesFires) := by
  obtain ⟨hold, hnew⟩ := hr.fires rfl
  obtain ⟨hle, hbound, hclear⟩ := h.timer hold
  have hnone : ¬PastCheck x.main := fun hl => by
    have hu := isUnderway_iff.mpr (.inr hl)
    have := hclear hu
    have := h.underway hu
    omega
  have hpast : ¬PastCheck t := by
    rintro (hl | hl | hl | hl)
    · exact (hr.requested hl).elim (fun hl => hnone (.inl hl)) nofun
    · exact (hr.running hl).elim (fun hl => hnone (.inr (.inl hl))) fun hl => hnone (.inl hl)
    · exact (hr.next hl).elim (fun hl => hnone (.inr (.inr (.inl hl)))) nofun
    · obtain hl | hl | hl := hr.retry hl
      · exact hnone (.inr (.inr (.inr hl)))
      · cases hl
      · cases hl
  exact {
    timer := fun ht => absurd (hnew.symm.trans ht) Bool.false_ne_true
    underway := fun _ => Nat.le_add_right _ _
    check := fun _ => (hbound.of_le hle).forward h (forward_after times x t _)
    later := fun hl => absurd hl hpast
    next := fun hl => absurd (.inr (.inr (.inl hl))) hpast
    fired := Nat.le_refl _
    booted := h.booted
    restarted := h.restarted
    seen := h.seen
    succeeded := h.succeeded }

/-- After a reboot. -/
theorem inTime_reboot {ok : Bool} (h : InTime lag x)
    (ht : t = MainLoop.init x.main.cfg ok) : InTime lag (x.after times t (.reboot ok)) := by
  subst ht
  have hpast : ¬PastCheck (MainLoop.init x.main.cfg ok) := by
    simp [PastCheck, MainLoop.init, State.due]
  have hunder : ¬isUnderway (MainLoop.init x.main.cfg ok) = true := by
    rw [isUnderway_iff]
    rintro (hdue | hl)
    · exact absurd hdue Bool.false_ne_true
    · exact hpast hl
  exact {
    timer := fun _ => ⟨Nat.le_add_right _ _, .inl (Nat.le_refl _), fun hu => absurd hu hunder⟩
    underway := fun hu => absurd hu hunder
    check := fun hdue => absurd hdue Bool.false_ne_true
    later := fun hl => absurd hl hpast
    next := fun hdue => absurd hdue Bool.false_ne_true
    fired := h.fired
    booted := Nat.le_refl _
    restarted := h.restarted
    seen := h.seen
    succeeded := h.succeeded }

/-- **A step of the tasks** keeps the checks in time. -/
theorem InTime.main (hlag : lag < delayBeforeRetry) (h : InTime lag x) (hdue : x.isDue a = true)
    (hstep : MainLoop.step cmpRuuvi cmpNetwork x.main a = some t) :
    InTime lag (x.after times t a) := by
  by_cases hreboot : ∃ ok, a = .reboot ok
  · obtain ⟨ok, rfl⟩ := hreboot
    obtain ⟨-, hstep⟩ := Option.ite_none_right_eq_some.mp hstep
    exact inTime_reboot h (Option.some.inj hstep).symm
  have hboot : ∀ ok, a ≠ .reboot ok := fun ok hok => hreboot ⟨ok, hok⟩
  have hr := raised_of_step hstep hboot
  by_cases hfires : a = .timerCheckForFwUpdatesFires
  · subst hfires
    exact h.fires (of_decide_eq_true hdue) hr
  refine h.forward hlag (forward_after times x t a) (firedAt_after x t hfires) ?_ ?_ ?_ ?_
  · rw [main_after]
    exact deadline_after h hr hboot
  · rw [main_after]
    exact fun hc => (hr.check hc).resolve_right hfires
  · rw [main_after]
    have hcheck {b : Bool} (ha : a = .handle .checkForFwUpdates b) :
        x.main.due .checkForFwUpdates = true ∧
          ∃ k, (x.after times t a).seen = some k ∧ k.time = x.now := by
      subst ha
      exact ⟨hr.handles _ _ rfl, x.look times, rfl, rfl⟩
    rintro (hl | hl | hl | hl)
    · exact (hr.requested hl).imp .inl hcheck
    · exact .inl ((hr.running hl).elim (fun hl => .inr (.inl hl)) .inl)
    · exact .inl ((hr.next hl).elim (fun hl => .inr (.inr (.inl hl))) fun ha =>
        .inr (.inl (hr.done _ ha)))
    · obtain hl | ha | ha := hr.retry hl
      · exact .inl (.inr (.inr (.inr hl)))
      · exact .inl (.inr (.inl (hr.done _ ha)))
      · exact .inr (hcheck ha)
  · rw [main_after]
    intro hn
    refine (hr.next hn).imp_right fun ha => ?_
    subst ha
    rfl

theorem inTime_init (hx : (timedSystem times cmpRuuvi cmpNetwork).init x) : InTime lag x := by
  obtain ⟨⟨cfg, ok, hmain⟩, hdeadline, hbooted, hfired, hrestarted, hseen, -, hsucceeded, -⟩ := hx
  have hdue (sig : Sig) : x.main.due sig = false := by rw [hmain]; rfl
  have hpast : ¬PastCheck x.main := by
    rw [PastCheck, hdue, hdue, hmain]
    simp [MainLoop.init]
  have hunder : ¬isUnderway x.main = true := by
    rw [isUnderway_iff, hdue]
    simp [hpast]
  exact {
    timer := fun _ => ⟨by omega, .inl (by omega), fun hu => absurd hu hunder⟩
    underway := fun hu => absurd hu hunder
    check := fun h => absurd ((hdue _).symm.trans h) Bool.false_ne_true
    later := fun hl => absurd hl hpast
    next := fun h => absurd ((hdue _).symm.trans h) Bool.false_ne_true
    fired := hfired
    booted := by omega
    restarted := fun r hr => by simp [hrestarted] at hr
    seen := fun k hk => by simp [hseen] at hk
    succeeded := fun u hu => by simp [hsucceeded] at hu }

theorem inTime_of_reachable (hlag : lag < delayBeforeRetry)
    (h : (timedSystem times cmpRuuvi cmpNetwork).ReachableVia
      (fun x l => Prompt lag x l ∧ Posted cmpRuuvi x l) x) : InTime lag x := by
  refine h.invariant (fun x => inTime_init) fun x l y _ hx hprompt hstep => ?_
  cases l with
  | tick =>
    obtain ⟨htimer, hunder⟩ := hprompt.1
    obtain rfl := Option.some.inj hstep
    exact {
      timer := fun ht => ⟨htimer ht, (hx.timer ht).2⟩
      underway := hunder
      check := hx.check
      later := hx.later
      next := hx.next
      fired := Nat.le_succ_of_le hx.fired
      booted := Nat.le_succ_of_le hx.booted
      restarted := fun r hr => Nat.le_succ_of_le (hx.restarted r hr)
      seen := fun k hk => Nat.le_succ_of_le (hx.seen k hk)
      succeeded := fun u hu => Nat.le_succ_of_le (hx.succeeded u hu) }
  | network isConnected =>
    obtain rfl := Option.some.inj hstep
    exact ⟨hx.timer, hx.underway, hx.check, hx.later, hx.next, hx.fired, hx.booted, hx.restarted,
      hx.seen, hx.succeeded⟩
  | clock isSynchronized unixTime =>
    obtain rfl := Option.some.inj hstep
    exact ⟨hx.timer, hx.underway, hx.check, hx.later, hx.next, hx.fired, hx.booted, hx.restarted,
      hx.seen, hx.succeeded⟩
  | main a =>
    obtain ⟨hdue, hstep⟩ := Option.ite_none_right_eq_some.mp hstep
    obtain ⟨t, ht, rfl⟩ := Option.map_eq_some_iff.mp hstep
    have hdue' : x.isDue (x.found times a) = true := by
      cases a <;> exact hdue
    have hafter : x.after times t (x.found times a) = x.after times t a := by
      cases a with
      | handle sig allowed => cases sig <;> rfl
      | _ => rfl
    exact hafter ▸ hx.main hlag hdue' ht

/-- While checks are not to be restarted, the last check or success is not long ago. -/
theorem bounded_now (hlag : lag < delayBeforeRetry)
    (h : (timedSystem times cmpRuuvi cmpNetwork).ReachableVia
      (fun x l => Prompt lag x l ∧ Posted cmpRuuvi x l) x)
    (hrestart : x.main.restartToCome = false) (hpc : x.main.pc.setsFwTimer = false)
    (hcycle : x.main.cfg.ruuvi.autoUpdateCycle ≠ .manual) : Bounded lag x (x.now - lag) := by
  have hx := inTime_of_reachable hlag h
  have hmain : (MainLoop.system cmpRuuvi cmpNetwork).ReachableVia
      (MainLoop.PostedBeforeRestart cmpRuuvi) x.main := by
    refine h.invariant (P := fun x => (MainLoop.system cmpRuuvi cmpNetwork).ReachableVia
      (MainLoop.PostedBeforeRestart cmpRuuvi) x.main) (fun x hx => ?_)
      fun x l y _ hreach hcond hstep => ?_
    · obtain ⟨hmain, -⟩ := hx
      exact .init hmain
    cases l with
    | tick | network | clock => exact Option.some.inj hstep ▸ hreach
    | main a =>
      obtain ⟨-, hstep⟩ := Option.ite_none_right_eq_some.mp hstep
      obtain ⟨t, ht, rfl⟩ := Option.map_eq_some_iff.mp hstep
      rw [main_after]
      refine hreach.step ?_ ht
      have hposted := hcond.2
      cases a <;> exact hposted
  have halive := ((MainLoop.following_of_reachable hmain hrestart).fw hcycle).resolve_right
    (by rw [hpc]; exact Bool.false_ne_true)
  obtain ht | hl : x.main.timerCheckForFwUpdates = true ∨ isUnderway x.main = true := by
    simp only [MainLoop.FwAlive, isUnderway, Bool.or_eq_true] at halive ⊢
    tauto
  · obtain ⟨hle, hbound, -⟩ := hx.timer ht
    exact hbound.of_le (by omega)
  · have hle := hx.underway hl
    obtain hdue | hl := isUnderway_iff.mp hl
    · exact (hx.check hdue).of_le (by omega)
    · obtain ⟨k, hk, hfired⟩ := hx.later hl
      exact .inr (.inr (.inl ⟨k, hk, by omega⟩))

/-! ## What the checks have found -/

/-- What is remembered of the checks. -/
structure Remembered (times : ρ → AutoUpdate) (x : Timed μ ρ ν) : Prop where
  asked : ∀ k, x.asked = some k → k.allowed = true ∧ k.time ≤ x.now
  seen : ∀ k, x.seen = some k → k.time ≤ x.now ∧ (k.allowed = true → x.asked = some k)
  booted : x.bootedAt ≤ x.now
  /-- The HTTP server has been asked since the last start. -/
  running : x.main.fwCheckRequested = true ∨ x.main.fwCheckRunning = true →
    ∃ k, x.asked = some k ∧ x.bootedAt ≤ k.time
  /-- The check has found what there is now. -/
  steady : ∀ k, x.seen = some k → x.steadySince < k.time →
    k.isConnected = x.isConnected ∧ k.isSynchronized = x.isSynchronized ∧
      k.autoUpdate = autoUpdateOf times x.main.cfg.ruuvi ∧
      k.unixTime = x.unixTime - (x.now - k.time : Nat)

/-- A check remembers what it finds. -/
theorem Remembered.check (h : Remembered times x)
    (hr : Raised x.main t (.handle .checkForFwUpdates (x.look times).allowed)) :
    Remembered times (x.after times t (.handle .checkForFwUpdates (x.look times).allowed)) := by
  have hbooted := h.booted
  refine ⟨fun k hk => ?_, fun k hk => ?_, h.booted, fun hrun => ?_, fun k hk hsteady => ?_⟩
  · simp only [Timed.after] at hk ⊢
    split at hk
    · rename_i hallowed
      obtain rfl := Option.some.inj hk
      exact ⟨hallowed, Nat.le_refl _⟩
    · exact h.asked k hk
  · obtain rfl := Option.some.inj hk
    exact ⟨Nat.le_refl _, fun hallowed => if_pos hallowed⟩
  · by_cases hallowed : (x.look times).allowed = true
    · exact ⟨x.look times, if_pos hallowed, hbooted⟩
    · have hrun' : x.main.fwCheckRequested = true ∨ x.main.fwCheckRunning = true := by
        obtain hreq | hrun := hrun
        · refine .inl ((hr.requested hreq).resolve_right fun ha => ?_)
          injection ha with _ ha
          exact hallowed ha
        · exact (hr.running hrun).symm
      obtain ⟨k, hk, hle⟩ := h.running hrun'
      exact ⟨k, (if_neg hallowed).trans hk, hle⟩
  · obtain rfl := Option.some.inj hk
    have hsame : autoUpdateOf times t.cfg.ruuvi = autoUpdateOf times x.main.cfg.ruuvi := by
      by_contra hne
      have hsince : (x.after times t
          (.handle .checkForFwUpdates (x.look times).allowed)).steadySince = x.now := if_neg hne
      exact absurd (hsince ▸ hsteady) (Nat.lt_irrefl _)
    refine ⟨rfl, rfl, hsame.symm, ?_⟩
    simp [Timed.after, Timed.withMain, Timed.look]

variable (times) in
/-- What the other steps leave. -/
theorem frame_after (x : Timed μ ρ ν) (t : State μ ρ ν)
    (ha : ∀ b, a ≠ .handle .checkForFwUpdates b) :
    (x.after times t a).seen = x.seen ∧ (x.after times t a).asked = x.asked ∧
      (x.after times t a).now = x.now ∧ (x.after times t a).unixTime = x.unixTime ∧
      (x.after times t a).isConnected = x.isConnected ∧
      (x.after times t a).isSynchronized = x.isSynchronized ∧
      (x.after times t a).steadySince = (x.withMain times t).steadySince := by
  unfold Timed.after
  split <;> try exact ⟨rfl, rfl, rfl, rfl, rfl, rfl, rfl⟩
  · exact absurd rfl (ha _)
  · split <;> exact ⟨rfl, rfl, rfl, rfl, rfl, rfl, rfl⟩

theorem Remembered.main (h : Remembered times x)
    (hstep : MainLoop.step cmpRuuvi cmpNetwork x.main a = some t)
    (hallowed : ∀ b, a = .handle .checkForFwUpdates b → b = (x.look times).allowed) :
    Remembered times (x.after times t a) := by
  by_cases hcheck : ∃ b, a = .handle .checkForFwUpdates b
  · obtain ⟨b, rfl⟩ := hcheck
    obtain rfl := hallowed b rfl
    exact h.check (raised_of_step hstep nofun)
  obtain ⟨hseen, hasked, hnow, hunix, hconn, hsync, hsince⟩ :=
    frame_after times x t fun b hb => hcheck ⟨b, hb⟩
  have hbooted : (x.after times t a).bootedAt ≤ x.now := by
    have := h.booted
    obtain hb | hb := (forward_after times x t a).booted <;> omega
  refine ⟨fun k hk => ?_, fun k hk => ?_, by rwa [hnow], fun hrun => ?_, fun k hk hsteady => ?_⟩
  · rw [hnow]
    exact h.asked k (hasked ▸ hk)
  · rw [hnow, hasked]
    exact h.seen k (hseen ▸ hk)
  · rw [main_after] at hrun
    by_cases hreboot : ∃ ok, a = .reboot ok
    · obtain ⟨ok, rfl⟩ := hreboot
      obtain ⟨-, hstep⟩ := Option.ite_none_right_eq_some.mp hstep
      obtain rfl := Option.some.inj hstep
      simp [MainLoop.init] at hrun
    have hr := raised_of_step hstep fun ok hok => hreboot ⟨ok, hok⟩
    have hrun' : x.main.fwCheckRequested = true ∨ x.main.fwCheckRunning = true := by
      obtain hreq | hrun := hrun
      · exact .inl ((hr.requested hreq).resolve_right fun ha => hcheck ⟨_, ha⟩)
      · exact (hr.running hrun).symm
    obtain ⟨k, hk, hle⟩ := h.running hrun'
    refine ⟨k, hasked.trans hk, ?_⟩
    have hsame : (x.after times t a).bootedAt = x.bootedAt := by
      unfold Timed.after
      split <;> try rfl
      · split <;> rfl
      · exact absurd ⟨_, rfl⟩ hreboot
    omega
  · rw [hseen] at hk
    rw [hsince] at hsteady
    rw [hconn, hsync, hunix, hnow, main_after]
    have hle := (h.seen k hk).1
    by_cases hsame : autoUpdateOf times t.cfg.ruuvi = autoUpdateOf times x.main.cfg.ruuvi
    · rw [hsame]
      exact h.steady k hk (by simpa only [Timed.withMain, if_pos hsame] using hsteady)
    · simp only [Timed.withMain, if_neg hsame] at hsteady
      omega

theorem remembered_of_reachable {C : Timed μ ρ ν → TimedAct μ ρ ν → Prop}
    (h : (timedSystem times cmpRuuvi cmpNetwork).ReachableVia C x) : Remembered times x := by
  refine h.invariant (P := Remembered times) (fun x hx => ?_) fun x l y _ hx _ hstep => ?_
  · obtain ⟨⟨cfg, ok, hmain⟩, -, hbooted, -, -, hseen, hasked, -, -⟩ := hx
    refine ⟨fun k hk => ?_, fun k hk => ?_, Nat.le_of_eq hbooted, fun hrun => ?_,
      fun k hk => ?_⟩
    · simp [hasked] at hk
    · simp [hseen] at hk
    · simp [hmain, MainLoop.init] at hrun
    · simp [hseen] at hk
  cases l with
  | tick =>
    obtain rfl := Option.some.inj hstep
    refine ⟨fun k hk => ?_, fun k hk => ?_, Nat.le_succ_of_le hx.booted, hx.running,
      fun k hk hsteady => ?_⟩
    · exact (hx.asked k hk).imp_right Nat.le_succ_of_le
    · exact (hx.seen k hk).imp_left Nat.le_succ_of_le
    · obtain ⟨hconn, hsync, hauto, hunix⟩ := hx.steady k hk hsteady
      have hle := (hx.seen k hk).1
      refine ⟨hconn, hsync, hauto, ?_⟩
      simp only
      omega
  | network isConnected =>
    obtain rfl := Option.some.inj hstep
    exact ⟨hx.asked, hx.seen, hx.booted, hx.running, fun k hk hsteady =>
      absurd hsteady (Nat.not_lt.mpr (hx.seen k hk).1)⟩
  | clock isSynchronized unixTime =>
    obtain rfl := Option.some.inj hstep
    exact ⟨hx.asked, hx.seen, hx.booted, hx.running, fun k hk hsteady =>
      absurd hsteady (Nat.not_lt.mpr (hx.seen k hk).1)⟩
  | main a =>
    obtain ⟨-, hstep⟩ := Option.ite_none_right_eq_some.mp hstep
    obtain ⟨t, ht, rfl⟩ := Option.map_eq_some_iff.mp hstep
    have hafter : x.after times t (x.found times a) = x.after times t a := by
      cases a with
      | handle sig allowed => cases sig <;> rfl
      | _ => rfl
    refine hafter ▸ hx.main ht fun b hb => ?_
    cases a with
    | handle sig allowed => injection hb with _ hb; exact hb.symm
    | _ => cases hb

/-- **Only checks that are allowed have the HTTP server look for a release**: if it does, or has
been asked to, the network was connected, the clock synchronized and the hour a chosen one when the
main task last asked for it, which was after the last start. -/
theorem chosen_of_requested (h : (timedSystem times cmpRuuvi cmpNetwork).Reachable x)
    (hrun : x.main.fwCheckRequested = true ∨ x.main.fwCheckRunning = true) :
    ∃ k, x.asked = some k ∧ x.bootedAt ≤ k.time ∧ k.time ≤ x.now ∧ k.isConnected = true ∧
      k.isSynchronized = true ∧ Chosen k.autoUpdate k.unixTime := by
  have hx := remembered_of_reachable h
  obtain ⟨k, hk, hbooted⟩ := hx.running hrun
  obtain ⟨hallowed, hle⟩ := hx.asked k hk
  obtain ⟨hconn, hsync, hchosen⟩ := allowed_iff.mp hallowed
  exact ⟨k, hk, hbooted, hle, hconn, hsync, hchosen⟩

/-- Time goes on until something has to happen. -/
theorem reachable_ticks {C : Timed μ ρ ν → TimedAct μ ρ ν → Prop} (n : Nat)
    (h : (timedSystem times cmpRuuvi cmpNetwork).ReachableVia C x)
    (hC : ∀ m < n, C { x with now := x.now + m, unixTime := x.unixTime + m } .tick) :
    (timedSystem times cmpRuuvi cmpNetwork).ReachableVia C
      { x with now := x.now + n, unixTime := x.unixTime + n } := by
  induction n with
  | zero =>
    simp only [Nat.add_zero, Int.natCast_zero, Int.add_zero]
    exact h
  | succ n ih =>
    refine (ih fun m hm => hC m (Nat.lt_succ_of_lt hm)).step (hC n (Nat.lt_succ_self n)) ?_
    simp only [timedSystem, timedStep, Nat.add_assoc, Int.natCast_add, Int.natCast_one,
      Int.add_assoc]

/-- All hours of the week are chosen. -/
def allHours : AutoUpdate := ⟨.regular, 127, 0, 24, 0⟩

def sampleCfg : MainLoop.Cfg Unit Unit Unit := ⟨⟨⟨false, ()⟩, false, 0, .regular, ()⟩, (), false⟩

/-- A gateway that has just been started, at 13 minutes and 19 seconds to the hour. -/
def sampleStart : Timed Unit Unit Unit where
  main := MainLoop.init sampleCfg true
  now := 0
  isConnected := true
  isSynchronized := true
  unixTime := 2801
  deadline := delayAfterReboot
  firedAt := 0
  bootedAt := 0
  restarted := none
  seen := none
  asked := none
  succeeded := none
  steadySince := 0

/-- The system of the sample. -/
def sample : System (Timed Unit Unit Unit) (TimedAct Unit Unit Unit) :=
  timedSystem (fun _ => allHours) (fun _ _ => true) fun _ _ => true

/-- The condition on its steps. -/
def SampleOk (x : Timed Unit Unit Unit) (l : TimedAct Unit Unit Unit) : Prop :=
  Prompt 10 x l ∧ Posted (fun _ _ => true) x l

instance (x : Timed Unit Unit Unit) (l : TimedAct Unit Unit Unit) : Decidable (SampleOk x l) :=
  inferInstanceAs (Decidable (_ ∧ _))

/-- The timer is due. -/
def sampleDue : Timed Unit Unit Unit := { sampleStart with now := 7200, unixTime := 10001 }

theorem reachable_sampleDue : sample.ReachableVia SampleOk sampleDue := by
  refine reachable_ticks (x := sampleStart) 7200 (.init ?_) fun m hm =>
    ⟨⟨fun _ => ?_, nofun⟩, trivial⟩
  · exact ⟨⟨_, _, rfl⟩, rfl, rfl, Nat.le_refl _, rfl, rfl, rfl, rfl, rfl⟩
  · show 0 + m < 2 * 60 * 60
    omega

/-- The check is handled, and the download fails. -/
def sampleRun : List (TimedAct Unit Unit Unit) :=
  [.main .timerCheckForFwUpdatesFires, .main (.take .checkForFwUpdates),
    .main (.handle .checkForFwUpdates true), .main .fwCheckBegin, .main (.fwCheckDone false),
    .main (.take .scheduleRetryCheckForFwUpdates),
    .main (.handle .scheduleRetryCheckForFwUpdates true)]

/-- **A chosen hour is not missed.**  At its end, the network, the clock and the settings having
been as they should for an hour, the HTTP server has been asked for a release during it; unless the
last start or restart of the services was not long before, or there was a success in the last
12 hours or so. -/
theorem asked_in_chosen_hour (hlag : lag < 600)
    (h : (timedSystem times cmpRuuvi cmpNetwork).ReachableVia
      (fun x l => Prompt lag x l ∧ Posted cmpRuuvi x l) x)
    (hrestart : x.main.restartToCome = false) (hpc : x.main.pc.setsFwTimer = false)
    (hconn : x.isConnected = true) (hsync : x.isSynchronized = true)
    (hchosen : Chosen (autoUpdateOf times x.main.cfg.ruuvi) x.unixTime)
    (hend : x.unixTime % 3600 = 3599) (hsteady : x.steadySince + 3600 ≤ x.now) :
    x.now ≤ x.bootedAt + delayAfterReboot + lag ∨
      (∃ r, x.restarted = some r ∧ x.now ≤ r + delayBeforeRetry + lag) ∨
      (∃ u, x.succeeded = some u ∧ x.now ≤ u + delayAfterSuccess + 2 * lag) ∨
      ∃ k, x.asked = some k ∧ k.time ≤ x.now ∧ x.now < k.time + 3600 := by
  have hcycle : x.main.cfg.ruuvi.autoUpdateCycle ≠ .manual := by
    intro hmanual
    have := hchosen.cycle
    simp [autoUpdateOf, hmanual] at this
  have hx := remembered_of_reachable h
  have hretry : lag < delayBeforeRetry := Nat.lt_trans hlag (by decide)
  obtain hb | ⟨r, hr, hb⟩ | ⟨k, hk, hb⟩ | ⟨u, hu, hb⟩ := bounded_now hretry h hrestart hpc hcycle
  · exact .inl (by omega)
  · exact .inr (.inl ⟨r, hr, by omega⟩)
  · obtain ⟨hle, hasked⟩ := hx.seen k hk
    unfold delayBeforeRetry at hb
    obtain ⟨hconn', hsync', hauto, hunix⟩ := hx.steady k hk (by omega)
    have hallowed : k.allowed = true := by
      refine allowed_iff.mpr ⟨hconn'.trans hconn, hsync'.trans hsync, ?_⟩
      rw [hauto]
      exact hchosen.of_sameHour (by omega)
    exact .inr (.inr (.inr ⟨k, hasked hallowed, hle, by omega⟩))
  · exact .inr (.inr (.inl ⟨u, hu, by omega⟩))

/-- What is left after it: the timer has been started again. -/
def SampleAfter (x : Timed Unit Unit Unit) : Prop :=
  (x.now = 7200 ∧ x.deadline = 9600 ∧ x.unixTime = 10001) ∧
    (x.bootedAt = 0 ∧ x.steadySince = 0 ∧ x.restarted = none ∧ x.succeeded = none) ∧
    (x.isConnected = true ∧ x.isSynchronized = true ∧ isUnderway x.main = false) ∧
    x.main.restartToCome = false ∧ x.main.pc.setsFwTimer = false ∧
    x.main.cfg.ruuvi = sampleCfg.ruuvi

instance (x : Timed Unit Unit Unit) : Decidable (SampleAfter x) :=
  inferInstanceAs (Decidable (_ ∧ _))

theorem exists_sampleAfter : ∃ x, sample.ReachableVia SampleOk x ∧ SampleAfter x := by
  cases hrun : sample.runVia SampleOk sampleDue sampleRun with
  | none => exact absurd hrun (by decide +kernel)
  | some x =>
    have hall : (sample.runVia SampleOk sampleDue sampleRun).all
        (fun x => decide (SampleAfter x)) = true := by decide +kernel
    rw [hrun, Option.all_some] at hall
    exact ⟨x, System.ReachableVia.runVia _ reachable_sampleDue hrun, of_decide_eq_true hall⟩

/-- The check in the middle of the hour is the one that is found at its end. -/
theorem asked_in_sample_hour : ∃ (x : Timed Unit Unit Unit) (k : Seen), x.now = 7998 ∧
    x.asked = some k ∧ x.now < k.time + 3600 := by
  obtain ⟨x, hx, ⟨hnow, hdeadline, hunix⟩, ⟨hbooted, hsteady, hrestarted, hsucceeded⟩,
    ⟨hconn, hsync, hidle⟩, hrestart, hpc, hcfg⟩ := exists_sampleAfter
  have hend := reachable_ticks (C := SampleOk) 798 hx fun m hm =>
    ⟨⟨fun _ => by simp only [hnow, hdeadline]; omega,
      fun hu => absurd (hidle.symm.trans hu) Bool.false_ne_true⟩, trivial⟩
  have hchosen : Chosen (autoUpdateOf (fun _ : Unit => allHours) x.main.cfg.ruuvi)
      (x.unixTime + (798 : Nat)) := by
    rw [hcfg, hunix]
    exact allowed2_iff.mp (by decide)
  obtain hb | ⟨r, hr, -⟩ | ⟨u, hu, -⟩ | ⟨k, hk, -, hlt⟩ :=
    asked_in_chosen_hour (show 10 < 600 by decide) hend hrestart hpc hconn hsync hchosen
      (by simp only [hunix]; decide) (by simp only [hsteady, hnow]; decide)
  · simp only [hnow, hbooted, delayAfterReboot] at hb
    omega
  · simp [hrestarted] at hr
  · simp [hsucceeded] at hu
  · exact ⟨_, k, by simp only [hnow], hk, hlt⟩

/-- The HTTP server has been asked. -/
theorem chosen_of_sample_request : ∃ (x : Timed Unit Unit Unit) (k : Seen),
    x.main.fwCheckRequested = true ∧ x.asked = some k ∧ Chosen k.autoUpdate k.unixTime := by
  cases hrun : sample.runVia (fun _ _ => True) sampleDue (sampleRun.take 3) with
  | none => exact absurd hrun (by decide +kernel)
  | some x =>
    have hall : (sample.runVia (fun _ _ => True) sampleDue (sampleRun.take 3)).all
        (fun x => x.main.fwCheckRequested) = true := by decide +kernel
    rw [hrun, Option.all_some] at hall
    have hdue : sample.Reachable sampleDue :=
      reachable_sampleDue.invariant (fun x hx => .init hx) fun x l y _ h _ hstep => h.step hstep
    obtain ⟨k, hk, -, -, -, -, hchosen⟩ :=
      chosen_of_requested (System.ReachableVia.runVia _ hdue hrun) (.inl hall)
    exact ⟨x, k, hall, hk, hchosen⟩

end AutoUpdate
end RuuviGateway
