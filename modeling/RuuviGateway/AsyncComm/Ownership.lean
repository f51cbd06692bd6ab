import RuuviGateway.AsyncComm.Model

/-!
# Who holds the HTTP-server mutex

The `adv_post` task takes the HTTP-server mutex when it starts an HTTP post and gives
it back when the post ends, however it ends.  An MQTT action takes no lock; what it
owns is the snapshot in `g_p_adv_post_reports_mqtt`.  Both kinds share the flag
`flag_async_comm_in_progress`, and `g_adv_post_action` tells them apart.

`Idle` and `Busy` say what the task owns between two signals, outside and inside an
action.  Every handler keeps them but one: `adv_post_handle_sig_relaying_mode_changed`
aborts whatever is in progress as if it were an HTTP post.  When an MQTT action is in
progress it unlocks a mutex it does not hold and loses the snapshot
(`suspend_during_mqtt_unlocks`); in a run where that does not happen the ownership is
as it should be (`owned_of_noSuspendDuringMqtt`).
-/

namespace RuuviGateway
namespace AsyncComm

open TransitionSystem

variable {ρ : Type} {s t : State ρ}

/-- The task is outside an action: it holds no lock and no snapshot. -/
structure Idle (s : State ρ) : Prop where
  mutex : s.mutex ≠ some .advPost
  reports : s.reportsMqtt = none
  unlock : s.badUnlock = false

/-- The task is inside an action: an HTTP action holds the lock, an MQTT action the
snapshot, and there is no third kind. -/
structure Busy (s : State ρ) : Prop where
  http : s.action.isHttp = true → s.mutex = some .advPost ∧ s.reportsMqtt = none
  mqtt : s.action.isHttp = false →
    s.action = .postAdvsToMqtt ∧ s.mutex ≠ some .advPost ∧ s.reportsMqtt.isSome = true
  unlock : s.badUnlock = false

/-- The invariant between two signals. -/
structure Inv (s : State ρ) : Prop where
  idle : s.advPost.flagAsyncCommInProgress = false → Idle s
  busy : s.advPost.flagAsyncCommInProgress = true → Busy s

/-- **The property**: the lock is held exactly during an HTTP action, the snapshot
exactly during an MQTT action, and no lock was released that was not held. -/
structure Owned (s : State ρ) : Prop where
  mutex_iff : s.mutex = some .advPost ↔
    s.advPost.flagAsyncCommInProgress = true ∧ s.action.isHttp = true
  unlock : s.badUnlock = false
  reports_iff : s.reportsMqtt.isSome = true ↔
    s.advPost.flagAsyncCommInProgress = true ∧ s.action = .postAdvsToMqtt

theorem Inv.owned (h : Inv s) : Owned s := by
  cases hp : s.advPost.flagAsyncCommInProgress with
  | false =>
    have hi := h.idle hp
    refine ⟨?_, hi.unlock, ?_⟩
    · simp [hp, hi.mutex]
    · simp [hp, hi.reports]
  | true =>
    have hb := h.busy hp
    cases ha : s.action.isHttp with
    | true =>
      have hne : s.action ≠ .postAdvsToMqtt := by
        intro hm
        rw [hm] at ha
        exact absurd ha (by decide)
      refine ⟨?_, hb.unlock, ?_⟩
      · simp [hp, (hb.http ha).1, ha]
      · simp [(hb.http ha).2, hne]
    | false =>
      obtain ⟨hm, hlock, hrep⟩ := hb.mqtt ha
      refine ⟨?_, hb.unlock, ?_⟩
      · simp [hlock, ha]
      · simp [hp, hm, hrep]

/-! ## What does not touch the ownership -/

/-- Two states with the same owner, snapshot, action and record. -/
structure SameOwner (s t : State ρ) : Prop where
  mutex : t.mutex = s.mutex
  reports : t.reportsMqtt = s.reportsMqtt
  unlock : t.badUnlock = s.badUnlock
  action : t.action = s.action

theorem SameOwner.refl (s : State ρ) : SameOwner s s := ⟨rfl, rfl, rfl, rfl⟩

theorem SameOwner.trans {u : State ρ} (h : SameOwner s t) (h' : SameOwner t u) :
    SameOwner s u :=
  ⟨h'.mutex.trans h.mutex, h'.reports.trans h.reports, h'.unlock.trans h.unlock,
    h'.action.trans h.action⟩

theorem Idle.of_same (h : Idle s) (hst : SameOwner s t) : Idle t :=
  ⟨hst.mutex ▸ h.mutex, hst.reports.trans h.reports, hst.unlock.trans h.unlock⟩

theorem Busy.of_same (h : Busy s) (hst : SameOwner s t) : Busy t := by
  refine ⟨fun ha => ?_, fun ha => ?_, hst.unlock.trans h.unlock⟩
  · rw [hst.mutex, hst.reports]
    exact h.http (hst.action ▸ ha)
  · rw [hst.mutex, hst.reports, hst.action]
    exact h.mqtt (hst.action ▸ ha)

theorem Inv.of_same (h : Inv s) (hst : SameOwner s t)
    (hp : t.advPost.flagAsyncCommInProgress = s.advPost.flagAsyncCommInProgress) : Inv t :=
  ⟨fun hf => (h.idle (hp ▸ hf)).of_same hst, fun hf => (h.busy (hp ▸ hf)).of_same hst⟩

theorem recvHeaders_same (target : Target) (hs : List Header) (s : State ρ) :
    SameOwner s (recvHeaders target hs s) ∧ (recvHeaders target hs s).advPost = s.advPost := by
  induction hs generalizing s with
  | nil => exact ⟨.refl s, rfl⟩
  | cons h hs ih =>
    obtain ⟨hsame, hpost⟩ := ih (recvHeader target s h)
    exact ⟨(SameOwner.mk rfl rfl rfl rfl : SameOwner s (recvHeader target s h)).trans hsame, hpost⟩

/-- The action under which a target is posted to. -/
def Target.action : Target → Action
  | .advs1 => .postAdvsToRuuvi
  | .advs2 => .postAdvsToCustom
  | .stats => .postStats

theorem setAdvPostHttpAction_same (target : Target) (h : s.action = target.action) :
    SameOwner s (setAdvPostHttpAction target s) ∧
      (setAdvPostHttpAction target s).advPost = s.advPost := by
  cases target with
  | advs1 => exact ⟨⟨rfl, rfl, rfl, h.symm⟩, rfl⟩
  | advs2 => exact ⟨⟨rfl, rfl, rfl, h.symm⟩, rfl⟩
  | stats => exact ⟨.refl s, rfl⟩

/-- Posting under the action of its target leaves the ownership alone. -/
theorem httpPost_same {task : Task} {o : SendOutcome} {b : Bool} (target : Target)
    (ha : s.action = target.action) (h : httpPost task target o s = some (t, b)) :
    SameOwner s t ∧ t.advPost = s.advPost := by
  unfold httpPost at h
  split at h
  · exact absurd h (by simp)
  · have hset := setAdvPostHttpAction_same (s := { s with pTask := some task }) target ha
    have hrecv := fun hs =>
      recvHeaders_same target hs (setAdvPostHttpAction target { s with pTask := some task })
    have hpair : ∀ hs, SameOwner s (recvHeaders target hs
          (setAdvPostHttpAction target { s with pTask := some task })) ∧
        (recvHeaders target hs
          (setAdvPostHttpAction target { s with pTask := some task })).advPost = s.advPost :=
      fun hs => ⟨(SameOwner.mk rfl rfl rfl rfl : SameOwner s { s with pTask := some task }).trans
        (hset.1.trans (hrecv hs).1), (hrecv hs).2.trans hset.2⟩
    cases o with
    | failed =>
      obtain ⟨rfl, rfl⟩ := Prod.mk.inj (Option.some.inj h)
      exact ⟨⟨rfl, rfl, rfl, rfl⟩, rfl⟩
    | sendFailed hs =>
      obtain ⟨rfl, rfl⟩ := Prod.mk.inj (Option.some.inj h)
      exact hpair hs
    | inProgress hs =>
      obtain ⟨rfl, rfl⟩ := Prod.mk.inj (Option.some.inj h)
      obtain ⟨⟨h1, h2, h3, h4⟩, h5⟩ := hpair hs
      exact ⟨⟨h1, h2, h3, h4⟩, h5⟩

/-! ## Starting an action -/

theorem retransmitAdvs_same {env : Env ρ} {target : Target} {b : Bool}
    (ha : s.action = target.action) (h : retransmitAdvs env target s = some (t, b)) :
    SameOwner s t ∧ t.advPost = s.advPost := by
  unfold retransmitAdvs at h
  split at h
  · exact httpPost_same target ha h
  · obtain ⟨rfl, rfl⟩ := Prod.mk.inj (Option.some.inj h)
    exact ⟨.refl s, rfl⟩

theorem statisticsDoSend_same {env : Env ρ} {b : Bool} (ha : s.action = .postStats)
    (h : statisticsDoSend env s = some (t, b)) : SameOwner s t ∧ t.advPost = s.advPost := by
  unfold statisticsDoSend at h
  split at h
  · exact httpPost_same .stats ha h
  · obtain ⟨rfl, rfl⟩ := Prod.mk.inj (Option.some.inj h)
    exact ⟨.refl s, rfl⟩

theorem doRetransmission_same {env : Env ρ} {b : Bool} (target : Target)
    (htarget : target ≠ .stats) (ha : s.action = target.action)
    (h : doRetransmission env target.action s = some (t, b)) :
    SameOwner s t ∧ t.advPost = s.advPost := by
  unfold doRetransmission at h
  split at h
  · obtain ⟨rfl, rfl⟩ := Prod.mk.inj (Option.some.inj h)
    exact ⟨.refl s, rfl⟩
  · cases target with
    | advs1 => exact retransmitAdvs_same ha h
    | advs2 => exact retransmitAdvs_same ha h
    | stats => exact absurd rfl htarget

/-- The function that sends to a target. -/
def sendTo (env : Env ρ) : Target → State ρ → Option (State ρ × Bool)
  | .advs1 => doRetransmission env .postAdvsToRuuvi
  | .advs2 => doRetransmission env .postAdvsToCustom
  | .stats => statisticsDoSend env

theorem sendTo_same {env : Env ρ} {target : Target} {b : Bool} (ha : s.action = target.action)
    (h : sendTo env target s = some (t, b)) : SameOwner s t ∧ t.advPost = s.advPost := by
  cases target with
  | advs1 => exact doRetransmission_same .advs1 (by decide) ha h
  | advs2 => exact doRetransmission_same .advs2 (by decide) ha h
  | stats => exact statisticsDoSend_same ha h

/-- A change of the flags that leaves "in progress" alone. -/
def KeepsProgress (f : AdvPostState → AdvPostState) : Prop :=
  ∀ p, (f p).flagAsyncCommInProgress = p.flagAsyncCommInProgress

/-- **What starting what is requested does**, up to the timer. -/
inductive Begun (env : Env ρ) (s : State ρ) : State ρ → Prop where
  /-- Nothing is started; the request may be taken back. -/
  | nothing {clear : AdvPostState → AdvPostState} (hclear : KeepsProgress clear) :
      Begun env s (s.mapAdvPost clear)
  /-- The lock is taken, sending fails, and the lock is given back. -/
  | notSent {target : Target} {clear : AdvPostState → AdvPostState} {u : State ρ}
      (hclear : KeepsProgress clear)
      (hsend : sendTo env target { s with mutex := some .advPost, action := target.action } =
        some (u, false)) :
      Begun env s (httpServerMutexUnlock .advPost ({ u with action := .none }.mapAdvPost clear))
  /-- The lock is taken, and the action is in progress and holds it. -/
  | sent {target : Target} {clear : AdvPostState → AdvPostState} {nonce : UInt32} {u : State ρ}
      (hsend : sendTo env target { s with mutex := some .advPost, action := target.action } =
        some (u, true)) :
      Begun env s ({ u with nonce := nonce }.mapAdvPost fun p =>
        { clear p with flagAsyncCommInProgress := true })
  /-- There is no memory for the snapshot. -/
  | noSnapshot {clear : AdvPostState → AdvPostState} (hclear : KeepsProgress clear) :
      Begun env s ({ s with action := .none }.mapAdvPost clear)
  /-- The snapshot is taken, and no lock. -/
  | snapshot {clear : AdvPostState → AdvPostState} {timestamp : Nat} :
      Begun env s (sendSigDoAsyncComm (({ s with
        action := .postAdvsToMqtt
        reportsMqtt := some env.snapshot
        reportsMqttIdx := 0
        reportsMqttTimestamp := timestamp }.mapAdvPost clear).mapAdvPost fun p =>
          { p with flagAsyncCommInProgress := true }))

theorem Begun.refl (env : Env ρ) (s : State ρ) : Begun env s s :=
  show Begun env s (s.mapAdvPost id) from .nothing fun _ => rfl

theorem begun_startHttp {env : Env ρ} {clear : AdvPostState → AdvPostState}
    {next : UInt32 → UInt32} (target : Target)
    (h : startHttp target.action (sendTo env target) clear next s = some t)
    (hclear : KeepsProgress clear) : Begun env s t := by
  unfold startHttp httpServerMutexTryLock at h
  by_cases hmutex : s.mutex = none
  · rw [if_pos hmutex] at h
    simp only at h
    cases hsend : sendTo env target { s with mutex := some .advPost, action := target.action } with
    | none =>
      rw [hsend] at h
      exact absurd h (by simp)
    | some r =>
      obtain ⟨u, b⟩ := r
      rw [hsend] at h
      cases b with
      | false => exact Option.some.inj h ▸ .notSent hclear hsend
      | true => exact Option.some.inj h ▸ .sent hsend
  · rw [if_neg hmutex] at h
    exact Option.some.inj h ▸ .refl env s

theorem begun_sendAdvs1 {env : Env ρ} (h : sendAdvs1 env s = some t) : Begun env s t := by
  unfold sendAdvs1 at h
  split at h
  · exact Option.some.inj h ▸ .refl env s
  · exact begun_startHttp .advs1 h fun _ => rfl

theorem begun_sendAdvs2 {env : Env ρ} (h : sendAdvs2 env s = some t) : Begun env s t := by
  unfold sendAdvs2 at h
  split at h
  · exact Option.some.inj h ▸ .refl env s
  · exact begun_startHttp .advs2 h fun _ => rfl

theorem begun_sendStatistics {env : Env ρ} (h : sendStatistics env s = some t) :
    Begun env s t := by
  unfold sendStatistics at h
  split at h
  · exact Option.some.inj h ▸ .nothing fun _ => rfl
  split at h
  · exact Option.some.inj h ▸ .refl env s
  · exact begun_startHttp .stats h fun _ => rfl

theorem begun_startSendingPeriodicMqtt {env : Env ρ}
    (h : startSendingPeriodicMqtt env s = some t) : Begun env s t := by
  simp only [startSendingPeriodicMqtt] at h
  split at h
  · exact Option.some.inj h ▸ .nothing fun _ => rfl
  split at h
  · exact Option.some.inj h ▸ .nothing fun _ => rfl
  split at h
  · exact Option.some.inj h ▸ .nothing fun _ => rfl
  split at h
  · exact Option.some.inj h ▸ .refl env s
  cases halloc : env.allocReportsOk with
  | false =>
    simp only [doRetransmission, halloc, Bool.not_false, if_true] at h
    exact Option.some.inj h ▸ .noSnapshot fun _ => rfl
  | true =>
    simp only [doRetransmission, halloc, Bool.not_true, Bool.false_eq_true, if_false] at h
    exact Option.some.inj h ▸ .snapshot

/-- At most one of the four is started, and then the timer. -/
theorem startRequested_cases {env : Env ρ} (h : startRequested env s = some t) :
    (t = s ∧ (s.advPost.flagRelayingEnabled = true →
        s.advPost.flagNeedToSendAdvs1 = false ∧ s.advPost.flagNeedToSendAdvs2 = false ∧
          s.advPost.flagNeedToSendStatistics = false ∧
          s.advPost.flagNeedToSendMqttPeriodic = false)) ∨
      ∃ u, Begun env s u ∧ t = startTimerSigDoAsyncComm u := by
  unfold startRequested at h
  split at h
  · rename_i hoff
    refine .inl ⟨(Option.some.inj h).symm, fun hon => ?_⟩
    rw [hon] at hoff
    exact absurd hoff (by decide)
  split at h
  · obtain ⟨u, hu, rfl⟩ := Option.map_eq_some_iff.mp h
    exact .inr ⟨u, begun_sendAdvs1 hu, rfl⟩
  split at h
  · obtain ⟨u, hu, rfl⟩ := Option.map_eq_some_iff.mp h
    exact .inr ⟨u, begun_sendAdvs2 hu, rfl⟩
  split at h
  · obtain ⟨u, hu, rfl⟩ := Option.map_eq_some_iff.mp h
    exact .inr ⟨u, begun_sendStatistics hu, rfl⟩
  split at h
  · obtain ⟨u, hu, rfl⟩ := Option.map_eq_some_iff.mp h
    exact .inr ⟨u, begun_startSendingPeriodicMqtt hu, rfl⟩
  · rename_i h1 h2 h3 h4
    rw [Bool.not_eq_true] at h1 h2 h3 h4
    exact .inl ⟨(Option.some.inj h).symm, fun _ => ⟨h1, h2, h3, h4⟩⟩

/-- A change of the flags that leaves "in progress" alone. -/
theorem Inv.mapAdvPost {f : AdvPostState → AdvPostState} (h : Inv s)
    (hf : ∀ p, (f p).flagAsyncCommInProgress = p.flagAsyncCommInProgress) :
    Inv (s.mapAdvPost f) :=
  h.of_same ⟨rfl, rfl, rfl, rfl⟩ (hf s.advPost)

theorem Inv.of_idle (h : Idle s) (hp : s.advPost.flagAsyncCommInProgress = false) : Inv s :=
  ⟨fun _ => h, fun hf => absurd hf (by simp [hp])⟩

/-- An action that is started owns what it should, and one that is not leaves the lock. -/
theorem inv_begun {env : Env ρ} (h : Idle s) (hp : s.advPost.flagAsyncCommInProgress = false)
    (hbegun : Begun env s t) : Inv t := by
  have hinv : Inv s := .of_idle h hp
  cases hbegun with
  | nothing hclear => exact hinv.mapAdvPost hclear
  | notSent hclear hsend =>
    rename_i target clear u
    obtain ⟨hsame, hpost⟩ := sendTo_same rfl hsend
    refine .of_idle ⟨?_, ?_, ?_⟩ ?_
    · simp [httpServerMutexUnlock, State.mapAdvPost]
    · exact hsame.reports.trans h.reports
    · simp [httpServerMutexUnlock, State.mapAdvPost, hsame.mutex, hsame.unlock, h.unlock]
    · exact (hclear u.advPost).trans ((congrArg _ hpost).trans hp)
  | sent hsend =>
    rename_i target clear nonce u
    obtain ⟨hsame, -⟩ := sendTo_same rfl hsend
    refine ⟨fun hf => absurd hf (by simp [State.mapAdvPost]), fun _ => ⟨fun _ => ?_, ?_, ?_⟩⟩
    · exact ⟨hsame.mutex, hsame.reports.trans h.reports⟩
    · intro hf
      have haction : u.action = target.action := hsame.action
      cases target <;> exact absurd (haction ▸ hf) (by decide)
    · exact hsame.unlock.trans h.unlock
  | noSnapshot hclear =>
    have hidle : Idle { s with action := .none } := ⟨h.mutex, h.reports, h.unlock⟩
    exact (Inv.of_idle hidle hp).mapAdvPost hclear
  | snapshot =>
    exact ⟨fun hf => absurd hf (by simp [sendSigDoAsyncComm, State.mapAdvPost]), fun _ =>
      ⟨fun hf => absurd hf Bool.false_ne_true, fun _ => ⟨rfl, h.mutex, rfl⟩, h.unlock⟩⟩

/-- Starting what is requested, from outside an action. -/
theorem inv_startRequested {env : Env ρ} (h : Idle s)
    (hp : s.advPost.flagAsyncCommInProgress = false)
    (hstep : startRequested env s = some t) : Inv t := by
  obtain ⟨rfl, -⟩ | ⟨u, hbegun, rfl⟩ := startRequested_cases hstep
  · exact .of_idle h hp
  · exact (inv_begun h hp hbegun).of_same ⟨rfl, rfl, rfl, rfl⟩ rfl

/-! ## Inside an action -/

/-- A poll hands over what has arrived for the pending request, which is done when
`http_async_poll` says so. -/
theorem httpAsyncPoll_cases {env : Env ρ} {b : Bool} (h : httpAsyncPoll env s = some (t, b)) :
    s.pTask = some .advPost ∧
      ∃ u, ((s.httpReq = none ∧ u = s) ∨
          ∃ r, s.httpReq = some r ∧ u = recvHeaders r.target env.pollHeaders s) ∧
        ((b = true ∧ t = { u with httpReq := none }) ∨ (b = false ∧ t = u)) := by
  simp only [httpAsyncPoll] at h
  split at h
  · exact absurd h (by simp)
  rename_i htask
  refine ⟨not_not.mp htask, ?_⟩
  cases hreq : s.httpReq with
  | none =>
    rw [hreq] at h
    refine ⟨s, .inl ⟨rfl, rfl⟩, ?_⟩
    split at h
    · obtain ⟨rfl, rfl⟩ := Prod.mk.inj (Option.some.inj h)
      exact .inl ⟨rfl, rfl⟩
    · obtain ⟨rfl, rfl⟩ := Prod.mk.inj (Option.some.inj h)
      exact .inr ⟨rfl, rfl⟩
  | some r =>
    rw [hreq] at h
    refine ⟨recvHeaders r.target env.pollHeaders s, .inr ⟨r, rfl, rfl⟩, ?_⟩
    split at h
    · obtain ⟨rfl, rfl⟩ := Prod.mk.inj (Option.some.inj h)
      exact .inl ⟨rfl, rfl⟩
    · obtain ⟨rfl, rfl⟩ := Prod.mk.inj (Option.some.inj h)
      exact .inr ⟨rfl, rfl⟩

theorem httpAsyncPoll_same {env : Env ρ} {b : Bool} (h : httpAsyncPoll env s = some (t, b)) :
    SameOwner s t ∧ t.advPost = s.advPost := by
  obtain ⟨-, u, hu, ht⟩ := httpAsyncPoll_cases h
  have hrecv : SameOwner s u ∧ u.advPost = s.advPost := by
    rcases hu with ⟨-, rfl⟩ | ⟨r, -, rfl⟩
    · exact ⟨.refl u, rfl⟩
    · exact recvHeaders_same _ _ _
  obtain ⟨hsame, hpost⟩ := hrecv
  rcases ht with ⟨-, rfl⟩ | ⟨-, rfl⟩
  · exact ⟨⟨hsame.mutex, hsame.reports, hsame.unlock, hsame.action⟩, hpost⟩
  · exact ⟨hsame, hpost⟩

theorem clearCompleted_owner (s : State ρ) :
    (clearCompleted s).mutex = s.mutex ∧ (clearCompleted s).reportsMqtt = s.reportsMqtt ∧
      (clearCompleted s).badUnlock = s.badUnlock := by
  unfold clearCompleted
  split <;> exact ⟨rfl, rfl, rfl⟩

/-- What a poll of the action in progress does: the HTTP request goes on or ends, or one report
is published and there are others or none. -/
theorem inProgress_outcomes {env : Env ρ} {b : Bool} (h : inProgress env s = some (t, b)) :
    (s.action ≠ .postAdvsToMqtt ∧ ∃ u, httpAsyncPoll env s = some (u, b) ∧
      ((b = true ∧ t = httpServerMutexUnlock .advPost (clearCompleted u)) ∨
        (b = false ∧ t = startTimerSigDoAsyncComm u))) ∨
    (s.action = .postAdvsToMqtt ∧ ∃ reports, s.reportsMqtt = some reports ∧
      ((b = true ∧ t = { s with
          published := reports[s.reportsMqttIdx]? :: s.published
          reportsMqtt := none
          reportsMqttIdx := 0 }) ∨
        (b = false ∧ t = startTimerSigDoAsyncComm { s with
          published := reports[s.reportsMqttIdx]? :: s.published
          reportsMqttIdx := s.reportsMqttIdx + 1 }))) := by
  unfold inProgress at h
  by_cases hm : s.action = .postAdvsToMqtt
  · rw [if_neg (not_not.mpr hm)] at h
    refine .inr ⟨hm, ?_⟩
    cases hrep : s.reportsMqtt with
    | none =>
      simp only [inProgressMqtt, hrep] at h
      exact absurd h (by simp)
    | some reports =>
      simp only [inProgressMqtt, hrep] at h
      refine ⟨reports, rfl, ?_⟩
      split at h
      · exact absurd h (by simp)
      · rename_i u hu
        obtain ⟨rfl, rfl⟩ := Prod.mk.inj (Option.some.inj h)
        split at hu
        · exact absurd hu (by simp)
        · obtain ⟨rfl, -⟩ := Prod.mk.inj (Option.some.inj hu)
          exact .inr ⟨rfl, rfl⟩
      · rename_i u hu
        obtain ⟨rfl, rfl⟩ := Prod.mk.inj (Option.some.inj h)
        split at hu
        · obtain ⟨rfl, -⟩ := Prod.mk.inj (Option.some.inj hu)
          exact .inl ⟨rfl, rfl⟩
        · exact absurd hu (by simp)
  · rw [if_pos hm] at h
    refine .inl ⟨hm, ?_⟩
    split at h
    · exact absurd h (by simp)
    · rename_i u hu
      obtain ⟨rfl, rfl⟩ := Prod.mk.inj (Option.some.inj h)
      exact ⟨u, hu, .inr ⟨rfl, rfl⟩⟩
    · rename_i u hu
      obtain ⟨rfl, rfl⟩ := Prod.mk.inj (Option.some.inj h)
      exact ⟨u, hu, .inl ⟨rfl, rfl⟩⟩

/-- **Polling.**  While the action goes on nothing changes hands; when it ends the lock
or the snapshot is given back. -/
theorem inProgress_cases {env : Env ρ} {b : Bool} (h : Busy s)
    (hstep : inProgress env s = some (t, b)) :
    (b = true ∧ Idle t) ∨
      (b = false ∧ Busy t ∧
        t.advPost.flagAsyncCommInProgress = s.advPost.flagAsyncCommInProgress) := by
  rcases inProgress_outcomes hstep with ⟨hm, u, hu, ht⟩ | ⟨hm, reports, hrep, ht⟩
  · have hhttp : s.action.isHttp = true := by
      rw [← Bool.not_eq_false]
      exact fun hf => hm (h.mqtt hf).1
    obtain ⟨hmutex, hrep⟩ := h.http hhttp
    obtain ⟨hsame, hpost⟩ := httpAsyncPoll_same hu
    rcases ht with ⟨rfl, rfl⟩ | ⟨rfl, rfl⟩
    · obtain ⟨hcm, hcr, hcu⟩ := clearCompleted_owner u
      refine .inl ⟨rfl, ⟨by simp [httpServerMutexUnlock], ?_, ?_⟩⟩
      · exact hcr.trans (hsame.reports.trans hrep)
      · simp [httpServerMutexUnlock, hcm, hcu, hsame.mutex, hsame.unlock, hmutex, h.unlock]
    · have hbusy := h.of_same hsame
      exact .inr ⟨rfl, ⟨hbusy.http, hbusy.mqtt, hbusy.unlock⟩,
        congrArg AdvPostState.flagAsyncCommInProgress hpost⟩
  · have hhttp : s.action.isHttp = false := by rw [hm]; rfl
    obtain ⟨-, hmutex, -⟩ := h.mqtt hhttp
    rcases ht with ⟨rfl, rfl⟩ | ⟨rfl, rfl⟩
    · exact .inl ⟨rfl, ⟨hmutex, rfl, h.unlock⟩⟩
    · exact .inr ⟨rfl, ⟨fun hf => absurd (hf.symm.trans hhttp) (by decide), fun _ =>
        ⟨hm, hmutex, Option.isSome_iff_exists.mpr ⟨reports, hrep⟩⟩, h.unlock⟩, rfl⟩

theorem inv_doAsyncComm {env : Env ρ} (h : Inv s) (hstep : doAsyncComm env s = some t) :
    Inv t := by
  unfold doAsyncComm at hstep
  cases hp : s.advPost.flagAsyncCommInProgress with
  | false =>
    rw [hp, if_neg Bool.false_ne_true] at hstep
    exact inv_startRequested (h.idle hp) hp hstep
  | true =>
    rw [hp, if_pos rfl] at hstep
    split at hstep
    · exact absurd hstep (by simp)
    · rename_i u hu
      obtain rfl := Option.some.inj hstep
      rcases inProgress_cases (h.busy hp) hu with ⟨hb, -⟩ | ⟨-, hbusy, hpu⟩
      · exact absurd hb Bool.false_ne_true
      · exact ⟨fun hf => absurd (hf.symm.trans (hpu.trans hp)) Bool.false_ne_true, fun _ => hbusy⟩
    · rename_i u hu
      rcases inProgress_cases (h.busy hp) hu with ⟨-, hidle⟩ | ⟨hb, -⟩
      · refine inv_startRequested (s := u.mapAdvPost _) ?_ rfl hstep
        exact ⟨hidle.mutex, hidle.reports, hidle.unlock⟩
      · exact absurd hb Bool.false_ne_true.symm

/-! ## Signals -/

/-- `adv_post_handle_sig_relaying_mode_changed` finds relaying suspended while an MQTT
action is in progress. -/
def suspendsMqtt (s : State ρ) : Act ρ → Bool
  | .handle .relayingModeChanged _ =>
      !s.gwRelayingViaHttp && s.advPost.flagAsyncCommInProgress &&
        decide (s.action = .postAdvsToMqtt)
  | _ => false

/-- **The condition**: the step does not suspend an MQTT action. -/
def NoSuspendDuringMqtt (s : State ρ) (a : Act ρ) : Prop :=
  suspendsMqtt s a = false

instance (s : State ρ) (a : Act ρ) : Decidable (NoSuspendDuringMqtt s a) :=
  inferInstanceAs (Decidable (_ = _))

/-- Resuming relaying sets the flag and nothing else. -/
theorem handleRelayingModeChanged_of_resumed (hon : s.gwRelayingViaHttp = true) :
    handleRelayingModeChanged s =
      some (s.mapAdvPost fun p => { p with flagRelayingEnabled := true }) := by
  simp [handleRelayingModeChanged, State.mapAdvPost, hon]

/-- Suspending relaying ends whatever is in progress, and publishes nothing. -/
theorem handleRelayingModeChanged_of_suspended (hoff : s.gwRelayingViaHttp = false)
    (h : handleRelayingModeChanged s = some t) :
    t.published = s.published ∧ t.advPost.flagAsyncCommInProgress = false ∧
      t.advPost.flagRelayingEnabled = false := by
  simp only [handleRelayingModeChanged] at h
  split at h
  · obtain ⟨u, hu, rfl⟩ := Option.map_eq_some_iff.mp h
    unfold httpAbortAnyReqDuringProcessing at hu
    split at hu
    · exact absurd hu (by simp)
    · obtain rfl := Option.some.inj hu
      exact ⟨rfl, rfl, hoff⟩
  · rename_i hidle
    obtain rfl := Option.some.inj h
    refine ⟨rfl, ?_, hoff⟩
    simpa [State.mapAdvPost, hoff] using hidle

theorem inv_handleRelayingModeChanged {env : Env ρ} (h : Inv s)
    (hok : NoSuspendDuringMqtt s (.handle .relayingModeChanged env))
    (hstep : handleRelayingModeChanged s = some t) : Inv t := by
  simp only [handleRelayingModeChanged] at hstep
  split at hstep
  · rename_i hc
    simp only [Bool.and_eq_true, Bool.not_eq_true'] at hc
    obtain ⟨hrel, hp⟩ := hc
    have hp' : s.advPost.flagAsyncCommInProgress = true := hp
    have hbusy := h.busy hp'
    have hhttp : s.action.isHttp = true := by
      rw [← Bool.not_eq_false]
      intro hf
      have hrel' : s.gwRelayingViaHttp = false := hrel
      have hm : suspendsMqtt s (.handle .relayingModeChanged env) = true := by
        simp [suspendsMqtt, hrel', hp', (hbusy.mqtt hf).1]
      exact absurd (hm.symm.trans hok) (by decide)
    obtain ⟨hmutex, hrep⟩ := hbusy.http hhttp
    obtain ⟨u, hu, rfl⟩ := Option.map_eq_some_iff.mp hstep
    unfold httpAbortAnyReqDuringProcessing at hu
    split at hu
    · exact absurd hu (by simp)
    · obtain rfl := Option.some.inj hu
      refine .of_idle ⟨by simp [httpServerMutexUnlock], hrep, ?_⟩ rfl
      have hlock : (s.badUnlock || decide (s.mutex ≠ some .advPost)) = false := by
        simp [hmutex, hbusy.unlock]
      exact hlock
  · exact Option.some.inj hstep ▸ h.mapAdvPost fun _ => rfl

theorem inv_request (h : Inv s) (enabled : Bool) {set : AdvPostState → AdvPostState}
    (hset : ∀ p, (set p).flagAsyncCommInProgress = p.flagAsyncCommInProgress) :
    Inv (request enabled set s) := by
  unfold request
  split
  · exact (h.mapAdvPost hset).of_same ⟨rfl, rfl, rfl, rfl⟩ rfl
  · exact h

theorem inv_onGwCfgChange (env : Env ρ) (h : Inv s) : Inv (onGwCfgChange env s) := by
  have hsame : SameOwner s (onGwCfgChange env s) ∧
      (onGwCfgChange env s).advPost.flagAsyncCommInProgress =
        s.advPost.flagAsyncCommInProgress := by
    simp only [onGwCfgChange]
    split
    · exact ⟨⟨rfl, rfl, rfl, rfl⟩, rfl⟩
    · split <;> exact ⟨⟨rfl, rfl, rfl, rfl⟩, rfl⟩
  exact h.of_same hsame.1 hsame.2

/-- **One step keeps the ownership**, if it does not suspend an MQTT action. -/
theorem Inv.step {a : Act ρ} (h : Inv s) (hok : NoSuspendDuringMqtt s a)
    (hstep : step s a = some t) : Inv t := by
  cases a with
  | handle sig env =>
    cases sig with
    | stop => exact Option.some.inj hstep ▸ h.mapAdvPost fun _ => rfl
    | networkDisconnected => exact Option.some.inj hstep ▸ h.mapAdvPost fun _ => rfl
    | networkConnected => exact Option.some.inj hstep ▸ h.mapAdvPost fun _ => rfl
    | timeSynchronized => exact Option.some.inj hstep ▸ h.mapAdvPost fun _ => rfl
    | retransmit => exact Option.some.inj hstep ▸ inv_request h _ fun _ => rfl
    | retransmit2 => exact Option.some.inj hstep ▸ inv_request h _ fun _ => rfl
    | retransmitMqtt => exact Option.some.inj hstep ▸ inv_request h _ fun _ => rfl
    | sendStatistics => exact Option.some.inj hstep ▸ inv_request h _ fun _ => rfl
    | doAsyncComm =>
      exact inv_doAsyncComm (h.of_same (t := { s with sigDoAsyncComm := false })
        ⟨rfl, rfl, rfl, rfl⟩ rfl) hstep
    | relayingModeChanged => exact inv_handleRelayingModeChanged h hok hstep
    | gwCfgReady => exact Option.some.inj hstep ▸ inv_onGwCfgChange env h
    | gwCfgChangedRuuvi => exact Option.some.inj hstep ▸ inv_onGwCfgChange env h
    | cfgModeDeactivated => exact Option.some.inj hstep ▸ inv_onGwCfgChange env h
    | other => exact Option.some.inj hstep ▸ h
  | timerFires =>
    obtain ⟨-, rfl⟩ := Option.ite_some_none_eq_some.mp hstep
    exact h.of_same ⟨rfl, rfl, rfl, rfl⟩ rfl
  | setRelayingViaHttp enabled =>
    exact Option.some.inj hstep ▸ h.of_same ⟨rfl, rfl, rfl, rfl⟩ rfl
  | serverLock =>
    simp only [AsyncComm.step, httpServerMutexTryLock] at hstep
    obtain ⟨hfree, rfl⟩ := Option.ite_some_none_eq_some.mp hstep
    refine ⟨fun hp => ⟨by simp, (h.idle hp).reports, (h.idle hp).unlock⟩, fun hp => ?_⟩
    have hbusy := h.busy hp
    refine ⟨fun ha => absurd ((hbusy.http ha).1.symm.trans hfree) (by simp), fun ha => ?_,
      hbusy.unlock⟩
    exact ⟨(hbusy.mqtt ha).1, by simp, (hbusy.mqtt ha).2.2⟩
  | serverUnlock =>
    obtain ⟨hheld, rfl⟩ := Option.ite_some_none_eq_some.mp hstep
    have hunlock : s.badUnlock = false →
        (s.badUnlock || decide (s.mutex ≠ some .httpServer)) = false := by
      intro hu
      simp [hu, hheld]
    refine ⟨fun hp => ⟨by simp [httpServerMutexUnlock], (h.idle hp).reports,
      hunlock (h.idle hp).unlock⟩, fun hp => ?_⟩
    have hbusy := h.busy hp
    refine ⟨fun ha => absurd ((hbusy.http ha).1.symm.trans hheld) (by decide), fun ha => ?_,
      hunlock hbusy.unlock⟩
    exact ⟨(hbusy.mqtt ha).1, by simp [httpServerMutexUnlock], (hbusy.mqtt ha).2.2⟩

/-! ## Runs -/

/-- **Ownership in every run that does not suspend an MQTT action.** -/
theorem owned_of_noSuspendDuringMqtt {s : State ρ}
    (h : (system ρ).ReachableVia NoSuspendDuringMqtt s) : Owned s := by
  refine Inv.owned (h.invariant (P := Inv) ?_ fun u a v _ hu hok hstep => hu.step hok hstep)
  rintro u ⟨nonce, creds, rfl⟩
  exact .of_idle ⟨by simp [init], rfl, rfl⟩ rfl

/-- An environment in which everything works and MQTT and HTTP are in use. -/
def envOk (snapshot : List ρ) : Env ρ where
  timeIsSynchronized := true
  mqttConnected := true
  useHttpRuuvi := true
  useHttp := false
  httpPeriod := 10
  useHttpStat := false
  useMqtt := true
  ntpUse := true
  curTime := 1700000000
  allocReportsOk := true
  cfgCopyOk := true
  allocScanFilterOk := true
  snapshot := snapshot
  send := .inProgress []
  pollHeaders := []
  pollDone := false
  mqttPublishOk := true

/-- Post to the Ruuvi target and suspend relaying while the post is in progress. -/
def suspendHttpRun : List (Act Unit) :=
  [.handle .networkConnected (envOk []), .handle .retransmit (envOk []),
    .handle .doAsyncComm (envOk []), .setRelayingViaHttp false,
    .handle .relayingModeChanged (envOk [])]

theorem owned_of_suspendHttpRun :
    ∃ s : State Unit,
      (!s.advPost.flagRelayingEnabled && decide (s.action = .postAdvsToRuuvi)) = true ∧
        Owned s := by
  obtain ⟨s, hs, hp⟩ := System.exists_reachableVia_of_run (S := system Unit)
    (C := NoSuspendDuringMqtt) ⟨0, ⟨"a", "b", "c", 10000, 10000⟩, rfl⟩ suspendHttpRun
    (fun s => !s.advPost.flagRelayingEnabled && decide (s.action = .postAdvsToRuuvi)) (by decide)
  exact ⟨s, hp, owned_of_noSuspendDuringMqtt hs⟩

/-- Publish two reports by MQTT and suspend relaying in between. -/
def suspendMqttRun : List (Act Unit) :=
  [.handle .networkConnected (envOk []), .handle .retransmitMqtt (envOk []),
    .handle .doAsyncComm (envOk [(), ()]), .setRelayingViaHttp false,
    .handle .relayingModeChanged (envOk [])]

/-- **Suspending relaying during an MQTT action releases a lock the task does not
hold, and the snapshot is lost.** -/
theorem suspend_during_mqtt_unlocks : ¬ ∀ s, (system Unit).Reachable s → Owned s := by
  intro hall
  obtain ⟨s, hs, hp⟩ := System.exists_reachable_of_run (S := system Unit)
    ⟨0, ⟨"a", "b", "c", 10000, 10000⟩, rfl⟩ suspendMqttRun
    (fun s => s.badUnlock && s.reportsMqtt.isSome && !s.advPost.flagAsyncCommInProgress)
    (by decide)
  simp only [Bool.and_eq_true] at hp
  exact absurd ((hall s hs).unlock.symm.trans hp.1.1) (by decide)

end AsyncComm
end RuuviGateway
