import RuuviGateway.AsyncComm.Ownership

/-!
# Who wakes the task up

`adv_post_do_async_comm` does one thing at a time and relies on being called again: each
request, each activation that is not the last one and each start of an action sends
`DO_ASYNC_COMM` or starts the timer that sends it.  Two handlers break the chain on purpose.
While relaying is suspended `adv_post_do_async_comm` returns at once, and suspending relaying
stops the timer.  Resuming relaying does not mend it: `RELAYING_MODE_CHANGED` sets
`flag_relaying_enabled` and nothing else, so that what was requested before the suspension
waits for the next request (`resume_sleeps`).

Every other step leaves the task awake if there is something to do
(`noLostWakeUp_of_resumesAwake`).
-/

namespace RuuviGateway
namespace AsyncComm

open TransitionSystem

variable {ρ : Type} {s t : State ρ}

/-- Something has been requested and not been started. -/
def AdvPostState.needsToSend (p : AdvPostState) : Bool :=
  p.flagNeedToSendAdvs1 || p.flagNeedToSendAdvs2 || p.flagNeedToSendStatistics ||
    p.flagNeedToSendMqttPeriodic

/-- There is something to do: an action is in progress, or one is requested and relaying is
enabled. -/
def AdvPostState.hasWork (p : AdvPostState) : Bool :=
  p.flagAsyncCommInProgress || (p.flagRelayingEnabled && p.needsToSend)

/-- `DO_ASYNC_COMM` is pending or its timer is running. -/
def State.awake (s : State ρ) : Bool := s.sigDoAsyncComm || s.timerDoAsyncComm

/-- **The property**: the task is awake if there is something to do. -/
def NoLostWakeUp (s : State ρ) : Prop := s.advPost.hasWork = true → s.awake = true

/-- **The condition**: relaying is resumed only when nothing is requested or the task is
awake. -/
def ResumesAwake (s : State ρ) : Act ρ → Prop
  | .handle .relayingModeChanged _ =>
      s.gwRelayingViaHttp = true → s.advPost.flagRelayingEnabled = false →
        s.advPost.needsToSend = true → s.awake = true
  | _ => True

instance decidableResumesAwake (s : State ρ) : (a : Act ρ) → Decidable (ResumesAwake s a)
  | .handle .relayingModeChanged _ => inferInstanceAs (Decidable (_ → _ → _ → _))
  | .handle .stop _ | .handle .networkDisconnected _ | .handle .networkConnected _
  | .handle .timeSynchronized _ | .handle .retransmit _ | .handle .retransmit2 _
  | .handle .retransmitMqtt _ | .handle .sendStatistics _ | .handle .doAsyncComm _
  | .handle .gwCfgReady _ | .handle .gwCfgChangedRuuvi _ | .handle .cfgModeDeactivated _
  | .handle .other _ | .timerFires | .setRelayingViaHttp _ | .serverLock | .serverUnlock =>
      inferInstanceAs (Decidable True)

/-! ## The handlers -/

theorem noLostWakeUp_of_awake (h : s.awake = true) : NoLostWakeUp s := fun _ => h

theorem awake_of_timer (h : s.timerDoAsyncComm = true) : s.awake = true := by
  rw [State.awake, h, Bool.or_true]

theorem awake_of_sig (h : s.sigDoAsyncComm = true) : s.awake = true := by
  rw [State.awake, h, Bool.true_or]

theorem noLostWakeUp_of_hasWork (h : s.advPost.hasWork = false) : NoLostWakeUp s :=
  fun hwork => absurd (h.symm.trans hwork) (by simp)

/-- A step that changes neither the work nor what wakes the task up. -/
theorem NoLostWakeUp.of_eq (h : NoLostWakeUp s)
    (hwork : t.advPost.hasWork = s.advPost.hasWork) (hawake : t.awake = s.awake) :
    NoLostWakeUp t := by
  unfold NoLostWakeUp
  rw [hwork, hawake]
  exact h

theorem noLostWakeUp_request (h : NoLostWakeUp s) (enabled : Bool)
    (set : AdvPostState → AdvPostState) : NoLostWakeUp (request enabled set s) := by
  unfold request
  split
  · exact noLostWakeUp_of_awake (awake_of_sig rfl)
  · exact h

theorem noLostWakeUp_onGwCfgChange (env : Env ρ) (h : NoLostWakeUp s) :
    NoLostWakeUp (onGwCfgChange env s) := by
  simp only [onGwCfgChange]
  split
  · exact h.of_eq rfl rfl
  · exact noLostWakeUp_of_awake (awake_of_timer rfl)

/-- Whatever is started, the timer is started after it. -/
theorem noLostWakeUp_startRequested {env : Env ρ}
    (hp : s.advPost.flagAsyncCommInProgress = false) (h : startRequested env s = some t) :
    NoLostWakeUp t := by
  obtain ⟨rfl, hno⟩ | ⟨u, -, rfl⟩ := startRequested_cases h
  · refine noLostWakeUp_of_hasWork ?_
    cases hon : t.advPost.flagRelayingEnabled with
    | false => simp [AdvPostState.hasWork, hp, hon]
    | true =>
      obtain ⟨h1, h2, h3, h4⟩ := hno hon
      simp [AdvPostState.hasWork, AdvPostState.needsToSend, hp, h1, h2, h3, h4]
  · exact noLostWakeUp_of_awake (awake_of_timer rfl)

/-- An action that goes on starts the timer. -/
theorem awake_of_inProgress {env : Env ρ} (h : inProgress env s = some (t, false)) :
    t.awake = true := by
  rcases inProgress_outcomes h with ⟨-, u, -, ⟨hb, -⟩ | ⟨-, rfl⟩⟩ |
    ⟨-, reports, -, ⟨hb, -⟩ | ⟨-, rfl⟩⟩
  · exact absurd hb (by simp)
  · exact awake_of_timer rfl
  · exact absurd hb (by simp)
  · exact awake_of_timer rfl

theorem noLostWakeUp_doAsyncComm {env : Env ρ} (h : doAsyncComm env s = some t) :
    NoLostWakeUp t := by
  unfold doAsyncComm at h
  cases hp : s.advPost.flagAsyncCommInProgress with
  | false =>
    rw [hp, if_neg Bool.false_ne_true] at h
    exact noLostWakeUp_startRequested hp h
  | true =>
    rw [hp, if_pos rfl] at h
    split at h
    · exact absurd h (by simp)
    · rename_i u hu
      obtain rfl := Option.some.inj h
      exact noLostWakeUp_of_awake (awake_of_inProgress hu)
    · exact noLostWakeUp_startRequested (by rfl) h

theorem noLostWakeUp_handleRelayingModeChanged {env : Env ρ} (h : NoLostWakeUp s)
    (hok : ResumesAwake s (.handle .relayingModeChanged env))
    (hstep : handleRelayingModeChanged s = some t) : NoLostWakeUp t := by
  cases hon : s.gwRelayingViaHttp with
  | false =>
    obtain ⟨-, hp, hdisabled⟩ := handleRelayingModeChanged_of_suspended hon hstep
    exact noLostWakeUp_of_hasWork (by simp [AdvPostState.hasWork, hp, hdisabled])
  | true =>
    rw [handleRelayingModeChanged_of_resumed hon] at hstep
    obtain rfl := Option.some.inj hstep
    intro hwork
    have hwork' : s.advPost.flagAsyncCommInProgress = true ∨ s.advPost.needsToSend = true := by
      simpa [AdvPostState.hasWork, AdvPostState.needsToSend, State.mapAdvPost] using hwork
    show s.awake = true
    cases henabled : s.advPost.flagRelayingEnabled with
    | true =>
      refine h ?_
      rcases hwork' with hp | hneed
      · simp [AdvPostState.hasWork, hp]
      · simp [AdvPostState.hasWork, henabled, hneed]
    | false =>
      rcases hwork' with hp | hneed
      · exact h (by simp [AdvPostState.hasWork, hp])
      · exact hok hon henabled hneed

/-! ## One step -/

/-- **One step leaves the task awake**, if it does not resume relaying while the task is
asleep. -/
theorem NoLostWakeUp.step {a : Act ρ} (h : NoLostWakeUp s) (hok : ResumesAwake s a)
    (hstep : step s a = some t) : NoLostWakeUp t := by
  cases a with
  | handle sig env =>
    cases sig with
    | stop => exact Option.some.inj hstep ▸ h.of_eq rfl rfl
    | networkDisconnected => exact Option.some.inj hstep ▸ h.of_eq rfl rfl
    | networkConnected => exact Option.some.inj hstep ▸ h.of_eq rfl rfl
    | timeSynchronized => exact Option.some.inj hstep ▸ h.of_eq rfl rfl
    | retransmit => exact Option.some.inj hstep ▸ noLostWakeUp_request h _ _
    | retransmit2 => exact Option.some.inj hstep ▸ noLostWakeUp_request h _ _
    | retransmitMqtt => exact Option.some.inj hstep ▸ noLostWakeUp_request h _ _
    | sendStatistics => exact Option.some.inj hstep ▸ noLostWakeUp_request h _ _
    | doAsyncComm => exact noLostWakeUp_doAsyncComm hstep
    | relayingModeChanged => exact noLostWakeUp_handleRelayingModeChanged h hok hstep
    | gwCfgReady => exact Option.some.inj hstep ▸ noLostWakeUp_onGwCfgChange env h
    | gwCfgChangedRuuvi => exact Option.some.inj hstep ▸ noLostWakeUp_onGwCfgChange env h
    | cfgModeDeactivated => exact Option.some.inj hstep ▸ noLostWakeUp_onGwCfgChange env h
    | other => exact Option.some.inj hstep ▸ h
  | timerFires =>
    obtain ⟨-, rfl⟩ := Option.ite_some_none_eq_some.mp hstep
    exact noLostWakeUp_of_awake (awake_of_sig rfl)
  | setRelayingViaHttp enabled => exact Option.some.inj hstep ▸ h.of_eq rfl rfl
  | serverLock =>
    simp only [AsyncComm.step, httpServerMutexTryLock] at hstep
    obtain ⟨-, rfl⟩ := Option.ite_some_none_eq_some.mp hstep
    exact h.of_eq rfl rfl
  | serverUnlock =>
    obtain ⟨-, rfl⟩ := Option.ite_some_none_eq_some.mp hstep
    exact h.of_eq rfl rfl

/-- A step that resumes relaying while the task is asleep loses the wake-up. -/
theorem not_noLostWakeUp_of_resumed {a : Act ρ} (hok : ¬ ResumesAwake s a)
    (hstep : step s a = some t) : ¬ NoLostWakeUp t := by
  intro h
  apply hok
  cases a with
  | handle sig env =>
    cases sig with
    | relayingModeChanged =>
      intro hon _ hneed
      have hstep' := (handleRelayingModeChanged_of_resumed hon).symm.trans hstep
      obtain rfl := Option.some.inj hstep'
      refine h ?_
      show (s.advPost.flagAsyncCommInProgress || (true && s.advPost.needsToSend)) = true
      rw [hneed, Bool.and_true, Bool.or_true]
    | _ => trivial
  | _ => trivial

/-! ## Runs -/

/-- **While relaying is only resumed with the task awake, no wake-up is lost**; and the first
step that resumes it otherwise loses one. -/
theorem noLostWakeUp_of_resumesAwake (h : (system ρ).ReachableVia ResumesAwake s) :
    NoLostWakeUp s ∧
      ∀ a t, (system ρ).step s a = some t → (NoLostWakeUp t ↔ ResumesAwake s a) := by
  have hs : NoLostWakeUp s := by
    refine h.invariant (P := NoLostWakeUp) ?_ fun u a v _ hu hok hstep => hu.step hok hstep
    rintro u ⟨nonce, creds, rfl⟩
    exact noLostWakeUp_of_hasWork rfl
  refine ⟨hs, fun a t hstep => ⟨fun ht => ?_, fun hok => hs.step hok hstep⟩⟩
  by_contra hok
  exact not_noLostWakeUp_of_resumed hok hstep ht

/-- A post is requested, and relaying is suspended and resumed before `DO_ASYNC_COMM` has been
handled. -/
def resumePendingRun : List (Act Unit) :=
  [.handle .retransmit (envOk []), .setRelayingViaHttp false,
    .handle .relayingModeChanged (envOk []), .setRelayingViaHttp true,
    .handle .relayingModeChanged (envOk [])]

theorem noLostWakeUp_of_resumePendingRun :
    ∃ s : State Unit, s.advPost.hasWork = true ∧ NoLostWakeUp s := by
  obtain ⟨s, hs, hp⟩ := System.exists_reachableVia_of_run (S := system Unit) (C := ResumesAwake)
    ⟨0, ⟨"a", "b", "c", 10000, 10000⟩, rfl⟩ resumePendingRun
    (fun s => s.advPost.hasWork) (by decide)
  exact ⟨s, hp, (noLostWakeUp_of_resumesAwake hs).1⟩

/-- The same, with `DO_ASYNC_COMM` handled during the suspension. -/
def resumeAsleepRun : List (Act Unit) :=
  [.handle .retransmit (envOk []), .setRelayingViaHttp false,
    .handle .relayingModeChanged (envOk []), .handle .doAsyncComm (envOk []),
    .setRelayingViaHttp true, .handle .relayingModeChanged (envOk [])]

/-- **A requested post can be forgotten.** -/
theorem resume_sleeps : ¬ ∀ s, (system Unit).Reachable s → NoLostWakeUp s := by
  intro hall
  obtain ⟨s, hs, hp⟩ := System.exists_reachable_of_run (S := system Unit)
    ⟨0, ⟨"a", "b", "c", 10000, 10000⟩, rfl⟩ resumeAsleepRun
    (fun s => s.advPost.hasWork && !s.awake) (by decide)
  simp only [Bool.and_eq_true, Bool.not_eq_true'] at hp
  exact absurd ((hall s hs hp.1).symm.trans hp.2) (by simp)

end AsyncComm
end RuuviGateway
