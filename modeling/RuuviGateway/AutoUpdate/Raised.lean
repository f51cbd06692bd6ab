import RuuviGateway.AutoUpdate.Schedule

/-!
# What the tasks do about the checks

A step of the tasks starts the timer, asks the HTTP server or sends a signal about the checks only
in the few cases that `Raised` lists.  All that follows about the schedule rests on it, and none of
it looks into a handler again.
-/

namespace RuuviGateway
namespace AutoUpdate

open MainLoop (Act RuuviCfg Sig State)

variable {μ ρ ν : Type}

variable {cmpRuuvi : RuuviCfg μ ρ → RuuviCfg μ ρ → Bool} {cmpNetwork : ν → ν → Bool}
variable {s t : State μ ρ ν} {a : Act μ ρ ν}

/-- The signals that checks are made of. -/
def aboutChecks : Sig → Bool
  | .checkForFwUpdates | .scheduleNextCheckForFwUpdates | .scheduleRetryCheckForFwUpdates => true
  | _ => false

/-- Nothing about the checks is raised. -/
structure Low (s t : State μ ρ ν) : Prop where
  timer : t.timerCheckForFwUpdates = true → s.timerCheckForFwUpdates = true
  requested : t.fwCheckRequested = true → s.fwCheckRequested = true
  running : t.fwCheckRunning = true → s.fwCheckRunning = true
  due : ∀ sig, aboutChecks sig = true → t.due sig = true → s.due sig = true

theorem low_refl (s : State μ ρ ν) : Low s s := ⟨id, id, id, fun _ _ => id⟩

theorem Low.send (h : Low s t) {sig : Sig} (hsig : aboutChecks sig = false) :
    Low s (t.send sig) where
  timer := h.timer
  requested := h.requested
  running := h.running
  due x hx hdue := by
    refine h.due x hx ?_
    rw [MainLoop.due_send] at hdue
    obtain hdue | hdue := Bool.or_eq_true_iff.mp hdue
    · rw [of_decide_eq_true hdue, hsig] at hx
      exact absurd hx Bool.false_ne_true
    · exact hdue

theorem Low.notifyNow {r : State μ ρ ν × Bool} (h : Low s r.1) : Low s (MainLoop.notifyNow r) := by
  unfold MainLoop.notifyNow
  split
  · exact h.send rfl
  · exact h

theorem Low.notifyLater {r : State μ ρ ν × Bool} (h : Low s r.1) :
    Low s (MainLoop.notifyLater r) := by
  unfold MainLoop.notifyLater
  split
  · exact ⟨h.timer, h.requested, h.running, h.due⟩
  · exact h

/-- A signal that is handled is not due any more, unless it has been sent again. -/
theorem low_handled (sig : Sig) (s : State μ ρ ν) :
    Low s { s with taken := Function.update s.taken sig false } where
  timer := id
  requested := id
  running := id
  due x _ hdue := by
    by_cases h : x = sig
    · subst h
      simp only [State.due, Function.update_self, Bool.or_false] at hdue
      simp only [State.due, hdue, Bool.true_or]
    · rwa [MainLoop.due_handled h] at hdue

/-- What a step of the tasks, other than a reboot, can do about the checks. -/
structure Raised (s t : State μ ρ ν) (a : Act μ ρ ν) : Prop where
  timer : t.timerCheckForFwUpdates = true → s.timerCheckForFwUpdates = true ∨
    (∃ b, a = .handle .scheduleNextCheckForFwUpdates b) ∨
    (∃ b, a = .handle .scheduleRetryCheckForFwUpdates b) ∨ (∃ b, a = .main b) ∧ s.pc = .restartFw
  requested : t.fwCheckRequested = true → s.fwCheckRequested = true ∨
    a = .handle .checkForFwUpdates true
  running : t.fwCheckRunning = true → s.fwCheckRunning = true ∨ s.fwCheckRequested = true
  check : t.due .checkForFwUpdates = true → s.due .checkForFwUpdates = true ∨
    a = .timerCheckForFwUpdatesFires
  next : t.due .scheduleNextCheckForFwUpdates = true →
    s.due .scheduleNextCheckForFwUpdates = true ∨ a = .fwCheckDone true
  retry : t.due .scheduleRetryCheckForFwUpdates = true →
    s.due .scheduleRetryCheckForFwUpdates = true ∨ a = .fwCheckDone false ∨
      a = .handle .checkForFwUpdates false
  fires : a = .timerCheckForFwUpdatesFires →
    s.timerCheckForFwUpdates = true ∧ t.timerCheckForFwUpdates = false
  handles : ∀ sig b, a = .handle sig b → s.due sig = true
  done : ∀ b, a = .fwCheckDone b → s.fwCheckRunning = true

theorem handles_of_step (h : MainLoop.step cmpRuuvi cmpNetwork s a = some t) {sig : Sig} {b : Bool}
    (ha : a = .handle sig b) : s.due sig = true := by
  subst ha
  obtain ⟨⟨-, htaken⟩, -⟩ := Option.ite_none_right_eq_some.mp h
  rw [State.due, htaken, Bool.or_true]

theorem fires_of_step (h : MainLoop.step cmpRuuvi cmpNetwork s a = some t)
    (ha : a = .timerCheckForFwUpdatesFires) :
    s.timerCheckForFwUpdates = true ∧ t.timerCheckForFwUpdates = false := by
  subst ha
  obtain ⟨htimer, h⟩ := Option.ite_none_right_eq_some.mp h
  obtain rfl := Option.some.inj h
  exact ⟨htimer, rfl⟩

theorem done_of_step (h : MainLoop.step cmpRuuvi cmpNetwork s a = some t) {b : Bool}
    (ha : a = .fwCheckDone b) : s.fwCheckRunning = true := by
  subst ha
  exact (Option.ite_none_right_eq_some.mp h).1

theorem Low.raised (hlow : Low s t) (h : MainLoop.step cmpRuuvi cmpNetwork s a = some t) :
    Raised s t a where
  timer ht := .inl (hlow.timer ht)
  requested ht := .inl (hlow.requested ht)
  running ht := .inl (hlow.running ht)
  check ht := .inl (hlow.due _ rfl ht)
  next ht := .inl (hlow.due _ rfl ht)
  retry ht := .inl (hlow.due _ rfl ht)
  fires := fires_of_step h
  handles _ _ := handles_of_step h
  done _ := done_of_step h

/-- The signals that other tasks send are not about checks. -/
theorem aboutChecks_of_sentByOthers {sig : Sig} (h : MainLoop.sentByOthers sig = true) :
    aboutChecks sig = false := by
  cases sig <;> first | rfl | exact absurd h (by decide)

/-- The handlers that are not about checks raise nothing. -/
theorem low_handleSig {sig : Sig} (allowed : Bool) (h : Low s t) (hsig : aboutChecks sig = false) :
    Low s (MainLoop.handleSig sig allowed t) := by
  cases sig with
  | checkForFwUpdates | scheduleNextCheckForFwUpdates | scheduleRetryCheckForFwUpdates =>
    exact absurd hsig (by decide)
  | activateCfgMode =>
    simp only [MainLoop.handleSig, MainLoop.handleActivateCfgMode]
    split
    · exact h
    · exact Low.notifyNow ⟨fun hf => absurd hf Bool.false_ne_true, h.requested, h.running, h.due⟩
  | deactivateCfgMode =>
    simp only [MainLoop.handleSig, MainLoop.handleDeactivateCfgMode]
    split
    · exact ⟨h.timer, h.requested, h.running, h.due⟩
    · split <;> exact ⟨h.timer, h.requested, h.running, h.due⟩
  | restartServices | checkForRemoteCfg | relayingModeChanged =>
    exact ⟨h.timer, h.requested, h.running, h.due⟩

/-- Of the rest of a handler, only the end of `RESTART_SERVICES` is about checks. -/
theorem low_continueHandler {ok : Bool} (h : MainLoop.continueHandler ok s = some t)
    (hpc : s.pc ≠ .restartFw) : Low s t := by
  have hstart (u : State μ ρ ν) : Low u (MainLoop.mqttAppStartWithGwCfg ok u) := by
    unfold MainLoop.mqttAppStartWithGwCfg
    split
    · exact low_refl u
    · split <;> exact ⟨id, id, id, fun _ _ => id⟩
  unfold MainLoop.continueHandler at h
  split at h
  · exact absurd h (by simp)
  · obtain rfl := Option.some.inj h
    exact ⟨id, id, id, fun _ _ => id⟩
  · obtain rfl := Option.some.inj h
    exact ⟨(hstart s).timer, (hstart s).requested, (hstart s).running, (hstart s).due⟩
  · obtain rfl := Option.some.inj h
    exact ⟨id, id, id, fun _ _ => id⟩
  · obtain rfl := Option.some.inj h
    exact ⟨id, id, id, fun _ _ => id⟩
  · obtain rfl := Option.some.inj h
    exact ⟨id, id, id, fun _ _ => id⟩
  · obtain rfl := Option.some.inj h
    exact ⟨(hstart s).timer, (hstart s).requested, (hstart s).running, (hstart s).due⟩
  · obtain rfl := Option.some.inj h
    exact ⟨id, id, id, fun _ _ => id⟩
  · exact absurd (by assumption) hpc
  · obtain rfl := Option.some.inj h
    have hsend : Low s (s.send .restartServices) := (low_refl s).send rfl
    have hlow : Low s (MainLoop.notifyNow (MainLoop.resumeRelaying .relaying
        (s.send .restartServices))) :=
      Low.notifyNow ⟨hsend.timer, hsend.requested, hsend.running, hsend.due⟩
    exact ⟨hlow.timer, hlow.requested, hlow.running, hlow.due⟩

/-- The steps that are not about checks, whatever the state. -/
def plain : Act μ ρ ν → Bool
  | .handle _ _ | .main _ | .timerCheckForFwUpdatesFires | .fwCheckBegin | .fwCheckDone _
  | .reboot _ => false
  | _ => true

theorem low_of_step (h : MainLoop.step cmpRuuvi cmpNetwork s a = some t) (ha : plain a = true) :
    Low s t := by
  have hlow := low_refl s
  cases a with
  | handle sig allowed => exact absurd ha Bool.false_ne_true
  | main ok | fwCheckDone ok | reboot ok => exact absurd ha Bool.false_ne_true
  | timerCheckForFwUpdatesFires | fwCheckBegin => exact absurd ha Bool.false_ne_true
  | send sig =>
    obtain ⟨hothers, h⟩ := Option.ite_none_right_eq_some.mp h
    obtain rfl := Option.some.inj h
    exact hlow.send (aboutChecks_of_sentByOthers hothers)
  | take sig =>
    obtain ⟨⟨-, hsent⟩, h⟩ := Option.ite_none_right_eq_some.mp h
    obtain rfl := Option.some.inj h
    exact ⟨id, id, id, fun x _ hdue => by rwa [MainLoop.due_take hsent] at hdue⟩
  | timerDeactivateCfgModeFires =>
    obtain ⟨-, h⟩ := Option.ite_none_right_eq_some.mp h
    obtain rfl := Option.some.inj h
    have hs : Low s { s with timerDeactivateCfgMode := false } := ⟨id, id, id, fun _ _ => id⟩
    exact hs.send rfl
  | timerCheckForRemoteCfgFires =>
    obtain ⟨-, h⟩ := Option.ite_none_right_eq_some.mp h
    obtain rfl := Option.some.inj h
    exact hlow.send rfl
  | suspend kind =>
    obtain rfl := Option.some.inj h
    have hs : Low s (MainLoop.notifyLater (MainLoop.suspendRelaying kind s)) :=
      Low.notifyLater ⟨id, id, id, fun _ _ => id⟩
    exact ⟨hs.timer, hs.requested, hs.running, hs.due⟩
  | resume kind =>
    obtain ⟨-, h⟩ := Option.ite_none_right_eq_some.mp h
    obtain rfl := Option.some.inj h
    have hs : Low s (MainLoop.notifyLater (MainLoop.resumeRelaying kind s)) :=
      Low.notifyLater ⟨id, id, id, fun _ _ => id⟩
    exact ⟨hs.timer, hs.requested, hs.running, hs.due⟩
  | notify =>
    obtain ⟨-, h⟩ := Option.ite_none_right_eq_some.mp h
    obtain rfl := Option.some.inj h
    have hs : Low s { s with notifies := s.notifies - 1 } := ⟨id, id, id, fun _ _ => id⟩
    exact hs.send rfl
  | setTimerDeactivateCfgMode | postRuuvi | postNetwork =>
    obtain rfl := Option.some.inj h
    exact ⟨id, id, id, fun _ _ => id⟩
  | postTimer | remoteFail | remoteStore =>
    obtain ⟨-, h⟩ := Option.ite_none_right_eq_some.mp h
    obtain rfl := Option.some.inj h
    exact ⟨id, id, id, fun _ _ => id⟩
  | remoteBegin =>
    obtain ⟨-, h⟩ := Option.ite_none_right_eq_some.mp h
    obtain rfl := Option.some.inj h
    have hs : Low s (MainLoop.notifyLater (MainLoop.suspendRelaying .httpRelaying s)) :=
      Low.notifyLater ⟨id, id, id, fun _ _ => id⟩
    exact ⟨hs.timer, hs.requested, hs.running, hs.due⟩
  | remoteSignal =>
    simp only [MainLoop.step] at h
    split at h
    · obtain rfl := Option.some.inj h
      exact ⟨id, id, id, fun _ _ => id⟩
    · obtain rfl := Option.some.inj h
      have hs : Low s { s with remote := .signalled } := ⟨id, id, id, fun _ _ => id⟩
      exact hs.send rfl
    · obtain rfl := Option.some.inj h
      exact ⟨id, id, id, fun _ _ => id⟩
    · exact absurd h (by simp)
  | remoteEnd =>
    obtain ⟨-, h⟩ := Option.ite_none_right_eq_some.mp h
    obtain rfl := Option.some.inj h
    have hs : Low s (MainLoop.notifyLater (MainLoop.resumeRelaying .httpRelaying s)) :=
      Low.notifyLater ⟨id, id, id, fun _ _ => id⟩
    exact ⟨hs.timer, hs.requested, hs.running, hs.due⟩

/-- A signal that is due after another one has been sent. -/
theorem Low.due_of_send (h : Low s t) {sig x : Sig} (hx : aboutChecks x = true) (hne : x ≠ sig)
    (hdue : (t.send sig).due x = true) : s.due x = true := by
  rw [MainLoop.due_send, decide_eq_false hne, Bool.false_or] at hdue
  exact h.due x hx hdue

/-- The handlers, those that are about checks among them. -/
theorem raised_of_handle {sig : Sig} {allowed : Bool}
    (h : MainLoop.step cmpRuuvi cmpNetwork s (.handle sig allowed) = some t) :
    Raised s t (.handle sig allowed) := by
  have hstep := h
  obtain ⟨-, h⟩ := Option.ite_none_right_eq_some.mp h
  obtain rfl := Option.some.inj h
  have hlow := low_handled sig s
  by_cases hsig : aboutChecks sig = false
  · exact (low_handleSig allowed hlow hsig).raised hstep
  cases sig with
  | checkForFwUpdates =>
    cases allowed with
    | true =>
      exact {
        timer := fun h => .inl (hlow.timer h)
        requested := fun _ => .inr rfl
        running := fun h => .inl (hlow.running h)
        check := fun h => .inl (hlow.due _ rfl h)
        next := fun h => .inl (hlow.due _ rfl h)
        retry := fun h => .inl (hlow.due _ rfl h)
        fires := fires_of_step hstep
        handles := fun _ _ => handles_of_step hstep
        done := fun _ => done_of_step hstep }
    | false =>
      exact {
        timer := fun h => .inl (hlow.timer h)
        requested := fun h => .inl (hlow.requested h)
        running := fun h => .inl (hlow.running h)
        check := fun h => .inl (hlow.due_of_send rfl (by decide) h)
        next := fun h => .inl (hlow.due_of_send rfl (by decide) h)
        retry := fun _ => .inr (.inr rfl)
        fires := fires_of_step hstep
        handles := fun _ _ => handles_of_step hstep
        done := fun _ => done_of_step hstep }
  | scheduleNextCheckForFwUpdates | scheduleRetryCheckForFwUpdates =>
    exact {
      timer := fun _ => by simp
      requested := fun h => .inl (hlow.requested h)
      running := fun h => .inl (hlow.running h)
      check := fun h => .inl (hlow.due _ rfl h)
      next := fun h => .inl (hlow.due _ rfl h)
      retry := fun h => .inl (hlow.due _ rfl h)
      fires := fires_of_step hstep
      handles := fun _ _ => handles_of_step hstep
      done := fun _ => done_of_step hstep }
  | activateCfgMode | deactivateCfgMode | restartServices | checkForRemoteCfg
  | relayingModeChanged => exact absurd rfl hsig

/-- The HTTP server is done with a check. -/
theorem raised_of_fwCheckDone {success : Bool}
    (h : MainLoop.step cmpRuuvi cmpNetwork s (.fwCheckDone success) = some t) :
    Raised s t (.fwCheckDone success) := by
  have hstep := h
  obtain ⟨-, h⟩ := Option.ite_none_right_eq_some.mp h
  obtain rfl := Option.some.inj h
  have hlow : Low s { s with fwCheckRunning := false } :=
    ⟨id, id, fun h => absurd h Bool.false_ne_true, fun _ _ => id⟩
  cases success with
  | true =>
    exact {
      timer := fun h => .inl h
      requested := fun h => .inl h
      running := fun h => .inl (hlow.running h)
      check := fun h => .inl (hlow.due_of_send rfl (by decide) h)
      next := fun _ => .inr rfl
      retry := fun h => .inl (hlow.due_of_send rfl (by decide) h)
      fires := fires_of_step hstep
      handles := fun _ _ => handles_of_step hstep
      done := fun _ => done_of_step hstep }
  | false =>
    exact {
      timer := fun h => .inl h
      requested := fun h => .inl h
      running := fun h => .inl (hlow.running h)
      check := fun h => .inl (hlow.due_of_send rfl (by decide) h)
      next := fun h => .inl (hlow.due_of_send rfl (by decide) h)
      retry := fun _ => .inr (.inl rfl)
      fires := fires_of_step hstep
      handles := fun _ _ => handles_of_step hstep
      done := fun _ => done_of_step hstep }

theorem raised_of_step (h : MainLoop.step cmpRuuvi cmpNetwork s a = some t)
    (hboot : ∀ ok, a ≠ .reboot ok) : Raised s t a := by
  by_cases ha : plain a = true
  · exact (low_of_step h ha).raised h
  have hstep := h
  have hlow := low_refl s
  cases a with
  | handle sig allowed => exact raised_of_handle h
  | fwCheckDone success => exact raised_of_fwCheckDone h
  | main ok =>
    by_cases hpc : s.pc = .restartFw
    · simp only [MainLoop.step, MainLoop.continueHandler, hpc] at h
      obtain rfl := Option.some.inj h
      exact {
        timer := fun _ => .inr (.inr (.inr ⟨⟨ok, rfl⟩, hpc⟩))
        requested := fun h => .inl h
        running := fun h => .inl h
        check := fun h => .inl h
        next := fun h => .inl h
        retry := fun h => .inl h
        fires := fires_of_step hstep
        handles := fun _ _ => handles_of_step hstep
        done := fun _ => done_of_step hstep }
    · exact (low_continueHandler h hpc).raised hstep
  | timerCheckForFwUpdatesFires =>
    obtain ⟨htimer, h⟩ := Option.ite_none_right_eq_some.mp h
    obtain rfl := Option.some.inj h
    have hs : Low s { s with timerCheckForFwUpdates := false } :=
      ⟨fun h => absurd h Bool.false_ne_true, id, id, fun _ _ => id⟩
    exact {
      timer := fun h => .inl (hs.timer h)
      requested := fun h => .inl h
      running := fun h => .inl h
      check := fun _ => .inr rfl
      next := fun h => .inl (hs.due_of_send rfl (by decide) h)
      retry := fun h => .inl (hs.due_of_send rfl (by decide) h)
      fires := fires_of_step hstep
      handles := fun _ _ => handles_of_step hstep
      done := fun _ => done_of_step hstep }
  | fwCheckBegin =>
    obtain ⟨⟨hreq, -⟩, h⟩ := Option.ite_none_right_eq_some.mp h
    obtain rfl := Option.some.inj h
    exact {
      timer := fun h => .inl h
      requested := fun h => absurd h Bool.false_ne_true
      running := fun _ => .inr hreq
      check := fun h => .inl h
      next := fun h => .inl h
      retry := fun h => .inl h
      fires := fires_of_step hstep
      handles := fun _ _ => handles_of_step hstep
      done := fun _ => done_of_step hstep }
  | reboot ok => exact absurd rfl (hboot ok)
  | _ => exact absurd rfl ha

end AutoUpdate
end RuuviGateway
