import RuuviGateway.AsyncComm.ResponseHeaders
import RuuviGateway.Relaying.Model

/-!
# The suspend handshake

A suspend call that notifies returns when it sees its command bit cleared.  The invariant
says of every call that waits that its bit is still set or the task has settled
(`CallOk.awaits_http`), and of every call that need not wait, or has returned, that the task
has settled.  A settled task stays settled while the counter is positive, and the counter
counts the calls that have not been resumed.

Each clause of the condition `Orderly` is needed: the end of the module has a run for each in
which only that one is violated.
-/

namespace RuuviGateway
namespace Relaying

open TransitionSystem
open AsyncComm (PostInv)

variable {ρ : Type} {s t : State ρ}

/-! ## The `adv_post` task while its flag is cleared -/

section advPost

variable {p q : AsyncComm.State ρ}

/-- The flag is the same, and no request has begun. -/
structure Calm (p q : AsyncComm.State ρ) : Prop where
  flag : q.advPost.flagRelayingEnabled = p.advPost.flagRelayingEnabled
  request : q.httpReq = p.httpReq ∨ q.httpReq = none

theorem Calm.refl (p : AsyncComm.State ρ) : Calm p p := ⟨rfl, Or.inl rfl⟩

theorem Calm.trans {r : AsyncComm.State ρ} (h : Calm p q) (h' : Calm q r) : Calm p r := by
  refine ⟨h'.flag.trans h.flag, ?_⟩
  rcases h'.request with hr | hr
  · rw [hr]
    exact h.request
  · exact Or.inr hr

theorem calm_httpAsyncPoll {env : AsyncComm.Env ρ} {b : Bool}
    (h : AsyncComm.httpAsyncPoll env p = some (q, b)) : Calm p q := by
  obtain ⟨-, u, hu, hq⟩ := AsyncComm.httpAsyncPoll_cases h
  have hcalm : Calm p u := by
    rcases hu with ⟨-, rfl⟩ | ⟨r, -, rfl⟩
    · exact .refl u
    · obtain ⟨-, hpost⟩ := AsyncComm.recvHeaders_same r.target env.pollHeaders p
      obtain ⟨hreq, -⟩ := AsyncComm.recvHeaders_samePost r.target env.pollHeaders p
      exact ⟨by rw [hpost], Or.inl hreq⟩
  rcases hq with ⟨-, rfl⟩ | ⟨-, rfl⟩
  · exact ⟨hcalm.flag, Or.inr rfl⟩
  · exact hcalm

theorem calm_clearCompleted (p : AsyncComm.State ρ) : Calm p (AsyncComm.clearCompleted p) := by
  unfold AsyncComm.clearCompleted
  split <;> exact ⟨rfl, Or.inl rfl⟩

theorem calm_inProgress {env : AsyncComm.Env ρ} {b : Bool}
    (h : AsyncComm.inProgress env p = some (q, b)) : Calm p q := by
  rcases AsyncComm.inProgress_outcomes h with ⟨-, u, hu, hq⟩ | ⟨-, reports, -, hq⟩
  · rcases hq with ⟨-, rfl⟩ | ⟨-, rfl⟩
    · exact ((calm_httpAsyncPoll hu).trans (calm_clearCompleted u)).trans ⟨rfl, Or.inl rfl⟩
    · exact (calm_httpAsyncPoll hu).trans ⟨rfl, Or.inl rfl⟩
  · rcases hq with ⟨-, rfl⟩ | ⟨-, rfl⟩ <;> exact ⟨rfl, Or.inl rfl⟩

/-- With the flag cleared nothing is started. -/
theorem startRequested_of_disabled {env : AsyncComm.Env ρ}
    (hp : p.advPost.flagRelayingEnabled = false) :
    AsyncComm.startRequested env p = some p := by
  simp [AsyncComm.startRequested, hp]

theorem calm_doAsyncComm {env : AsyncComm.Env ρ} (hp : p.advPost.flagRelayingEnabled = false)
    (h : AsyncComm.doAsyncComm env p = some q) : Calm p q := by
  unfold AsyncComm.doAsyncComm at h
  split at h
  · split at h
    · exact absurd h (by simp)
    · rename_i u hu
      exact Option.some.inj h ▸ calm_inProgress hu
    · rename_i u hu
      have hcalm := calm_inProgress hu
      have hflag : (u.mapAdvPost fun p =>
          { p with flagAsyncCommInProgress := false }).advPost.flagRelayingEnabled = false :=
        hcalm.flag.trans hp
      rw [startRequested_of_disabled hflag] at h
      exact Option.some.inj h ▸ hcalm.trans ⟨rfl, Or.inl rfl⟩
  · rw [startRequested_of_disabled hp] at h
    exact Option.some.inj h ▸ .refl p

theorem calm_request (p : AsyncComm.State ρ) (enabled : Bool)
    {set : AsyncComm.AdvPostState → AsyncComm.AdvPostState}
    (hset : ∀ a, (set a).flagRelayingEnabled = a.flagRelayingEnabled) :
    Calm p (AsyncComm.request enabled set p) := by
  unfold AsyncComm.request
  split
  · exact ⟨hset p.advPost, Or.inl rfl⟩
  · exact .refl p

theorem calm_onGwCfgChange (env : AsyncComm.Env ρ) (p : AsyncComm.State ρ) :
    Calm p (AsyncComm.onGwCfgChange env p) := by
  simp only [AsyncComm.onGwCfgChange]
  split
  · exact ⟨rfl, Or.inl rfl⟩
  · split <;> exact ⟨rfl, Or.inl rfl⟩

/-- **With the flag cleared the task starts no request**, whatever it handles. -/
theorem calm_step {pc : AdvPostPc} {a : AsyncComm.Act ρ} (ha : advPostAllowed pc a = true)
    (hp : p.advPost.flagRelayingEnabled = false) (h : AsyncComm.step p a = some q) :
    Calm p q := by
  cases a with
  | handle sig env =>
    cases sig with
    | retransmit => exact Option.some.inj h ▸ calm_request p _ fun _ => rfl
    | retransmit2 => exact Option.some.inj h ▸ calm_request p _ fun _ => rfl
    | retransmitMqtt => exact Option.some.inj h ▸ calm_request p _ fun _ => rfl
    | sendStatistics => exact Option.some.inj h ▸ calm_request p _ fun _ => rfl
    | doAsyncComm =>
      have hstart : Calm p { p with sigDoAsyncComm := false } := ⟨rfl, Or.inl rfl⟩
      exact hstart.trans (calm_doAsyncComm hp h)
    | relayingModeChanged => exact absurd ha (by simp [advPostAllowed])
    | gwCfgReady => exact Option.some.inj h ▸ calm_onGwCfgChange env p
    | gwCfgChangedRuuvi => exact Option.some.inj h ▸ calm_onGwCfgChange env p
    | cfgModeDeactivated => exact Option.some.inj h ▸ calm_onGwCfgChange env p
    | _ => exact Option.some.inj h ▸ ⟨rfl, Or.inl rfl⟩
  | setRelayingViaHttp enabled => exact absurd ha (by simp [advPostAllowed])
  | _ =>
    simp only [AsyncComm.step, AsyncComm.httpServerMutexTryLock] at h
    obtain ⟨-, rfl⟩ := Option.ite_some_none_eq_some.mp h
    exact ⟨rfl, Or.inl rfl⟩

/-- After the abort an action is in progress only if relaying is enabled. -/
theorem abortIfSuspended_spec (hpost : PostInv p) (h : abortIfSuspended p = some q) :
    PostInv q ∧ q.advPost.flagRelayingEnabled = p.advPost.flagRelayingEnabled ∧
      (q.advPost.flagRelayingEnabled = false → q.advPost.flagAsyncCommInProgress = false) := by
  unfold abortIfSuspended at h
  split at h
  · obtain ⟨u, hu, rfl⟩ := Option.map_eq_some_iff.mp h
    unfold AsyncComm.httpAbortAnyReqDuringProcessing at hu
    split at hu
    · exact absurd hu (by simp)
    · obtain rfl := Option.some.inj hu
      refine ⟨(AsyncComm.quiet_of_httpReq_none ?_ rfl).inv, rfl, fun _ => rfl⟩
      exact fun e he => hpost.log e he
  · rename_i hno
    obtain rfl := Option.some.inj h
    refine ⟨hpost, rfl, fun hflag => ?_⟩
    simpa [hflag] using hno

end advPost

/-! ## Waiting for one task -/

/-- What holds of a call that waits for one task, HTTP or MQTT: `notifies` says that the call
has set or will set the command bit, `awaits` that it has and has not seen it cleared,
`waited` that it is past the wait. -/
structure Waits (settled : Prop) (cmd notifies awaits waited : Bool) : Prop where
  unnotified : notifies = false → settled
  waited : waited = true → settled
  awaits : awaits = true → cmd = true ∨ settled

theorem Waits.imp {settled settled' : Prop} {cmd cmd' notifies awaits waited : Bool}
    (h : Waits settled cmd notifies awaits waited) (hs : settled → settled')
    (hc : awaits = true → cmd = true → cmd' = true ∨ settled') :
    Waits settled' cmd' notifies awaits waited where
  unnotified hn := hs (h.unnotified hn)
  waited hw := hs (h.waited hw)
  awaits ha := (h.awaits ha).elim (hc ha) fun h' => Or.inr (hs h')

/-- The call is past the wait for MQTT. -/
def Notify.mqttWaited (n : Notify) : Bool := decide (n.pc = .waitHttp ∨ n.pc = .returned)

/-- What a suspend call that waits may rely on. -/
structure CallOk (s : State ρ) (kind : Kind) (n : Notify) : Prop where
  http : Waits (HttpSettled s) s.gw.httpRelayingCmd n.notifyHttp n.awaitsHttp
    (decide (n.pc = .returned))
  mqtt : kind = .relaying →
    Waits (MqttSettled s) s.gw.mqttRelayingCmd n.notifyMqtt n.awaitsMqtt n.mqttWaited

section notify

variable {a : NotifyAct} {n n' : Notify} {g g' : GwStatus}

/-- The steps of `gw_status_notify_relaying_mode_changed_and_wait`, one constructor for each
place where it stands; a wait that times out goes on as well. -/
inductive NotifyMoves (n : Notify) (g : GwStatus) : Notify → GwStatus → Prop
  | setHttpCmd (hpc : n.pc = .setHttpCmd) :
      NotifyMoves n g { n with pc := .setMqttCmd }
        (if n.notifyHttp then { g with httpRelayingCmd := true } else g)
  | setMqttCmd (hpc : n.pc = .setMqttCmd) :
      NotifyMoves n g { n with pc := .notify false false }
        (if n.notifyMqtt then { g with mqttRelayingCmd := true } else g)
  | signalAdvPost {b c : Bool} (advPost main : Bool) (hpc : n.pc = .notify b c) :
      NotifyMoves n g (n.notified advPost main) { g with sigAdvPost := true }
  | signalMain {b c : Bool} (advPost main : Bool) (hpc : n.pc = .notify b c) :
      NotifyMoves n g (n.notified advPost main) { g with sigMain := true }
  | waitMqtt (hpc : n.pc = .waitMqtt) (hdone : ¬(n.notifyMqtt && g.mqttRelayingCmd) = true) :
      NotifyMoves n g { n with pc := .waitHttp } g
  | waitHttp (hpc : n.pc = .waitHttp) (hdone : ¬(n.notifyHttp && g.httpRelayingCmd) = true) :
      NotifyMoves n g { n with pc := .returned } g
  | timeout (pc : Pc) : NotifyMoves n g { n with pc := pc, timedOut := true } g

theorem notifyMoves_of_step (h : notifyStep a n g = some (n', g')) : NotifyMoves n g n' g' := by
  unfold notifyStep at h
  split at h
  · rename_i hpc
    obtain ⟨rfl, rfl⟩ := Prod.mk.inj (Option.some.inj h)
    exact .setHttpCmd hpc
  · rename_i hpc
    obtain ⟨rfl, rfl⟩ := Prod.mk.inj (Option.some.inj h)
    exact .setMqttCmd hpc
  · rename_i hpc
    obtain ⟨rfl, rfl⟩ := Prod.mk.inj (Option.some.inj h)
    exact .signalAdvPost _ _ hpc
  · rename_i hpc
    obtain ⟨rfl, rfl⟩ := Prod.mk.inj (Option.some.inj h)
    exact .signalMain _ _ hpc
  · split at h
    · exact absurd h (by simp)
    · rename_i hpc hdone
      obtain ⟨rfl, rfl⟩ := Prod.mk.inj (Option.some.inj h)
      exact .waitMqtt hpc hdone
  · split at h
    · obtain ⟨rfl, rfl⟩ := Prod.mk.inj (Option.some.inj h)
      exact .timeout _
    · exact absurd h (by simp)
  · split at h
    · exact absurd h (by simp)
    · rename_i hpc hdone
      obtain ⟨rfl, rfl⟩ := Prod.mk.inj (Option.some.inj h)
      exact .waitHttp hpc hdone
  · split at h
    · obtain ⟨rfl, rfl⟩ := Prod.mk.inj (Option.some.inj h)
      exact .timeout _
    · exact absurd h (by simp)
  · exact absurd h (by simp)

/-- What a step of `gw_status_notify_relaying_mode_changed_and_wait` leaves alone. -/
structure NotifyFrame (n n' : Notify) (g g' : GwStatus) : Prop where
  cntHttp : g'.cntRelayingViaHttpSuspended = g.cntRelayingViaHttpSuspended
  cntMqtt : g'.cntRelayingViaMqttSuspended = g.cntRelayingViaMqttSuspended
  httpCmd : g.httpRelayingCmd = true → g'.httpRelayingCmd = true
  mqttCmd : g.mqttRelayingCmd = true → g'.mqttRelayingCmd = true
  wait : n'.wait = n.wait
  timedOut : n'.timedOut = false → n.timedOut = false

theorem notifyStep_frame (h : notifyStep a n g = some (n', g')) : NotifyFrame n n' g g' := by
  cases notifyMoves_of_step h with
  | setHttpCmd => split <;> exact ⟨rfl, rfl, by simp, id, rfl, id⟩
  | setMqttCmd => split <;> exact ⟨rfl, rfl, id, by simp, rfl, id⟩
  | signalAdvPost => exact ⟨rfl, rfl, id, id, rfl, id⟩
  | signalMain => exact ⟨rfl, rfl, id, id, rfl, id⟩
  | waitMqtt => exact ⟨rfl, rfl, id, id, rfl, id⟩
  | waitHttp => exact ⟨rfl, rfl, id, id, rfl, id⟩
  | timeout => exact ⟨rfl, rfl, id, id, rfl, fun hf => absurd hf (by simp)⟩

theorem Notify.notifyHttp_of_awaits (h : n.awaitsHttp = true) : n.notifyHttp = true := by
  simp only [Notify.awaitsHttp, Bool.and_eq_true] at h
  exact h.1.1.1

theorem Notify.notifyMqtt_of_awaits (h : n.awaitsMqtt = true) : n.notifyMqtt = true := by
  simp only [Notify.awaitsMqtt, Bool.and_eq_true] at h
  exact h.1.1.1

theorem Notify.notified_awaitsHttp {b c advPost main : Bool} (hpc : n.pc = .notify b c)
    (ha : (n.notified advPost main).awaitsHttp = true) : n.awaitsHttp = true := by
  simp_all [Notify.awaitsHttp, Notify.notified]

theorem Notify.notified_awaitsMqtt {b c advPost main : Bool} (hpc : n.pc = .notify b c)
    (ha : (n.notified advPost main).awaitsMqtt = true) : n.awaitsMqtt = true := by
  simp_all [Notify.awaitsMqtt, Notify.notified]

/-- A call that waits has its waits before it when both tasks have got the signal. -/
theorem Notify.notified_waits (hwait : n.wait = true) (advPost main : Bool) :
    (n.notified advPost main).pc ≠ .returned ∧ (n.notified advPost main).mqttWaited = false := by
  simp only [Notify.mqttWaited, Notify.notified, hwait]
  split <;> simp

/-- **A step of a waiting call keeps what it may rely on for HTTP**: it sets the bit before
it waits, and stops waiting when the bit is cleared. -/
theorem notifyStep_http {settled : Prop} (h : notifyStep a n g = some (n', g'))
    (hwait : n.wait = true) (htime : n'.timedOut = false)
    (hok : Waits settled g.httpRelayingCmd n.notifyHttp n.awaitsHttp
      (decide (n.pc = .returned))) :
    Waits settled g'.httpRelayingCmd n'.notifyHttp n'.awaitsHttp
      (decide (n'.pc = .returned)) := by
  have hno := (notifyStep_frame h).timedOut htime
  cases notifyMoves_of_step h with
  | setHttpCmd hpc =>
    refine ⟨hok.unnotified, by simp, fun ha => Or.inl ?_⟩
    have hn := Notify.notifyHttp_of_awaits ha
    rw [if_pos hn]
  | setMqttCmd hpc =>
    refine ⟨hok.unnotified, by simp, fun ha => ?_⟩
    have hcmd := hok.awaits (by simp_all [Notify.awaitsHttp])
    split <;> exact hcmd
  | signalAdvPost advPost main hpc =>
    refine ⟨hok.unnotified, fun hret => ?_,
      fun ha => hok.awaits (Notify.notified_awaitsHttp hpc ha)⟩
    exact absurd (of_decide_eq_true hret) (Notify.notified_waits hwait _ _).1
  | signalMain advPost main hpc =>
    refine ⟨hok.unnotified, fun hret => ?_,
      fun ha => hok.awaits (Notify.notified_awaitsHttp hpc ha)⟩
    exact absurd (of_decide_eq_true hret) (Notify.notified_waits hwait _ _).1
  | waitMqtt hpc =>
    exact ⟨hok.unnotified, by simp, fun ha => hok.awaits (by simp_all [Notify.awaitsHttp])⟩
  | waitHttp hpc hdone =>
    refine ⟨hok.unnotified, fun _ => ?_, by simp [Notify.awaitsHttp]⟩
    cases hn : n.notifyHttp with
    | false => exact hok.unnotified hn
    | true =>
      have ha : n.awaitsHttp = true := by simp [Notify.awaitsHttp, hn, hwait, hno, hpc]
      refine (hok.awaits ha).resolve_left ?_
      simpa [hn] using hdone
  | timeout => exact absurd htime (by simp)

/-- The same for MQTT. -/
theorem notifyStep_mqtt {settled : Prop} (h : notifyStep a n g = some (n', g'))
    (hwait : n.wait = true) (htime : n'.timedOut = false)
    (hok : Waits settled g.mqttRelayingCmd n.notifyMqtt n.awaitsMqtt n.mqttWaited) :
    Waits settled g'.mqttRelayingCmd n'.notifyMqtt n'.awaitsMqtt n'.mqttWaited := by
  have hno := (notifyStep_frame h).timedOut htime
  cases notifyMoves_of_step h with
  | setHttpCmd hpc =>
    exact ⟨hok.unnotified, by simp [Notify.mqttWaited], by simp [Notify.awaitsMqtt]⟩
  | setMqttCmd hpc =>
    refine ⟨hok.unnotified, by simp [Notify.mqttWaited], fun ha => Or.inl ?_⟩
    have hn := Notify.notifyMqtt_of_awaits ha
    rw [if_pos hn]
  | signalAdvPost advPost main hpc =>
    refine ⟨hok.unnotified, fun hw => ?_, fun ha => hok.awaits (Notify.notified_awaitsMqtt hpc ha)⟩
    exact absurd hw (Bool.eq_false_iff.mp (Notify.notified_waits hwait _ _).2)
  | signalMain advPost main hpc =>
    refine ⟨hok.unnotified, fun hw => ?_, fun ha => hok.awaits (Notify.notified_awaitsMqtt hpc ha)⟩
    exact absurd hw (Bool.eq_false_iff.mp (Notify.notified_waits hwait _ _).2)
  | waitMqtt hpc hdone =>
    refine ⟨hok.unnotified, fun _ => ?_, by simp [Notify.awaitsMqtt]⟩
    cases hn : n.notifyMqtt with
    | false => exact hok.unnotified hn
    | true =>
      have ha : n.awaitsMqtt = true := by simp [Notify.awaitsMqtt, hn, hwait, hno, hpc]
      refine (hok.awaits ha).resolve_left ?_
      simpa [hn] using hdone
  | waitHttp hpc =>
    exact ⟨hok.unnotified, fun _ => hok.waited (by simp [Notify.mqttWaited, hpc]),
      by simp [Notify.awaitsMqtt]⟩
  | timeout => exact absurd htime (by simp)

end notify

/-! ## The invariant -/

/-- The call has not been resumed. -/
def Call.isSuspend (c : Call) : Bool := c.suspends fun _ => true

/-- The call has not been resumed and suspends relaying via MQTT. -/
def Call.isMqttSuspend (c : Call) : Bool := c.kind.mqtt && c.isSuspend

/-- The invariant. -/
structure Inv (s : State ρ) : Prop where
  post : PostInv s.advPost
  aborted : s.advPostPc = .aborted → s.advPost.advPost.flagRelayingEnabled = false →
    s.advPost.advPost.flagAsyncCommInProgress = false
  cntHttp : s.gw.cntRelayingViaHttpSuspended = s.calls.countP Call.isSuspend
  cntMqtt : s.gw.cntRelayingViaMqttSuspended = s.calls.countP Call.isMqttSuspend
  calls : ∀ c ∈ s.calls, ∀ n, c.phase = .suspend n → n.wait = true → n.timedOut = false →
    CallOk s c.kind n

theorem inv_init (nonce : UInt32) (creds : AsyncComm.Creds) (mqttRunning : Bool) :
    Inv (init (ρ := ρ) (AsyncComm.init nonce creds) mqttRunning) where
  post := by
    refine ⟨fun e he => absurd he (by simp [init, AsyncComm.init]), fun _ hr => ?_,
      fun _ hr => ?_, fun _ hr => ?_⟩ <;> exact absurd hr (by simp [init, AsyncComm.init])
  aborted := fun h => absurd h (by simp [init])
  cntHttp := rfl
  cntMqtt := rfl
  calls := fun _ hc => absurd hc (by simp [init])

/-- **The handshake holds in the states of the invariant.** -/
theorem Inv.honoured (h : Inv s) : Honoured s := by
  intro c hc hforce
  obtain ⟨n, hphase, hn⟩ : ∃ n, c.phase = .suspend n ∧
      (n.wait && decide (n.pc = .returned) && !n.timedOut) = true := by
    unfold Call.inForce Call.suspends at hforce
    split at hforce
    · rename_i n hphase
      exact ⟨n, hphase, hforce⟩
    · exact absurd hforce (by simp)
  obtain ⟨⟨hwait, hpc⟩, htime⟩ : (n.wait = true ∧ n.pc = .returned) ∧ n.timedOut = false := by
    simpa using hn
  have hok := h.calls c hc n hphase hwait htime
  refine ⟨(hok.http.waited (by simp [hpc])).1, fun hkind => ?_⟩
  exact ((hok.mqtt hkind).waited (by simp [Notify.mqttWaited, hpc])).1

theorem Inv.cntHttp_pos (h : Inv s) {c : Call} (hc : c ∈ s.calls) {n : Notify}
    (hphase : c.phase = .suspend n) : s.gw.isRelayingViaHttpEnabled = false := by
  have hpos : 0 < s.calls.countP Call.isSuspend :=
    List.countP_pos_iff.mpr ⟨c, hc, by simp [Call.isSuspend, Call.suspends, hphase]⟩
  rw [← h.cntHttp] at hpos
  simp only [GwStatus.isRelayingViaHttpEnabled, beq_eq_false_iff_ne]
  omega

theorem Inv.cntMqtt_pos (h : Inv s) {c : Call} (hc : c ∈ s.calls) {n : Notify}
    (hphase : c.phase = .suspend n) (hkind : c.kind = .relaying) :
    s.gw.isRelayingViaMqttEnabled = false := by
  have hpos : 0 < s.calls.countP Call.isMqttSuspend :=
    List.countP_pos_iff.mpr
      ⟨c, hc, by simp [Call.isMqttSuspend, Call.isSuspend, Call.suspends, hphase, hkind,
        Kind.mqtt]⟩
  rw [← h.cntMqtt] at hpos
  simp only [GwStatus.isRelayingViaMqttEnabled, beq_eq_false_iff_ne]
  omega

/-- A step of a task that is not a step of a call: a task that has settled stays so while
relaying is suspended, and a command bit is cleared only if the task has settled or nobody
waits. -/
theorem Inv.frame (h : Inv s) (hcalls : t.calls = s.calls)
    (hcntHttp : t.gw.cntRelayingViaHttpSuspended = s.gw.cntRelayingViaHttpSuspended)
    (hcntMqtt : t.gw.cntRelayingViaMqttSuspended = s.gw.cntRelayingViaMqttSuspended)
    (hpost : PostInv t.advPost)
    (haborted : t.advPostPc = .aborted → t.advPost.advPost.flagRelayingEnabled = false →
      t.advPost.advPost.flagAsyncCommInProgress = false)
    (hhttp : s.gw.isRelayingViaHttpEnabled = false → HttpSettled s → HttpSettled t)
    (hmqtt : s.gw.isRelayingViaMqttEnabled = false → MqttSettled s → MqttSettled t)
    (hhttpCmd : ∀ c ∈ s.calls, c.suspends Notify.awaitsHttp = true →
      s.gw.httpRelayingCmd = true → t.gw.httpRelayingCmd = true ∨ HttpSettled t)
    (hmqttCmd : ∀ c ∈ s.calls, c.suspends Notify.awaitsMqtt = true →
      s.gw.mqttRelayingCmd = true → t.gw.mqttRelayingCmd = true ∨ MqttSettled t) :
    Inv t where
  post := hpost
  aborted := haborted
  cntHttp := by rw [hcntHttp, hcalls, h.cntHttp]
  cntMqtt := by rw [hcntMqtt, hcalls, h.cntMqtt]
  calls := fun c hc n hphase hwait htime => by
    rw [hcalls] at hc
    have hok := h.calls c hc n hphase hwait htime
    refine ⟨hok.http.imp (hhttp (h.cntHttp_pos hc hphase)) fun ha => ?_,
      fun hkind => (hok.mqtt hkind).imp (hmqtt (h.cntMqtt_pos hc hphase hkind)) fun ha => ?_⟩
    · exact hhttpCmd c hc (by simpa [Call.suspends, hphase] using ha)
    · exact hmqttCmd c hc (by simpa [Call.suspends, hphase] using ha)

/-! ## The calls -/

/-- What a step of a call shows the other calls. -/
structure CallFrame (s t : State ρ) : Prop where
  advPost : t.advPost = s.advPost
  advPostPc : t.advPostPc = s.advPostPc
  mainPc : t.mainPc = s.mainPc
  mqttRunning : t.mqttRunning = s.mqttRunning
  httpCmd : s.gw.httpRelayingCmd = true → t.gw.httpRelayingCmd = true
  mqttCmd : s.gw.mqttRelayingCmd = true → t.gw.mqttRelayingCmd = true

theorem CallFrame.httpSettled (h : CallFrame s t) (hs : HttpSettled s) : HttpSettled t := by
  obtain ⟨⟨hflag, hreq⟩, hpc⟩ := hs
  exact ⟨⟨by rw [h.advPost, hflag], by rw [h.advPost]; exact hreq⟩, by rw [h.advPostPc]; exact hpc⟩

theorem CallFrame.mqttSettled (h : CallFrame s t) (hs : MqttSettled s) : MqttSettled t := by
  rw [MqttSettled, h.mqttRunning, h.mainPc]
  exact hs

theorem CallFrame.callOk (h : CallFrame s t) {kind : Kind} {n : Notify} (hok : CallOk s kind n) :
    CallOk t kind n where
  http := hok.http.imp h.httpSettled fun _ hc => Or.inl (h.httpCmd hc)
  mqtt := fun hkind => (hok.mqtt hkind).imp h.mqttSettled fun _ hc => Or.inl (h.mqttCmd hc)

theorem countP_set_of_eq {l : List Call} {i : Nat} {c c' : Call} {p : Call → Bool}
    (hi : l[i]? = some c) (hp : p c' = p c) : (l.set i c').countP p = l.countP p := by
  obtain ⟨hlt, hget⟩ := List.getElem?_eq_some_iff.mp hi
  rw [List.countP_set hlt, hget, hp]
  cases hpc : p c with
  | false => simp
  | true =>
    have hpos : 0 < l.countP p := List.countP_pos_iff.mpr ⟨c, List.mem_of_getElem? hi, hpc⟩
    simp only [if_pos]
    omega

theorem countP_set_of_off {l : List Call} {i : Nat} {c c' : Call} {p : Call → Bool}
    (hi : l[i]? = some c) (hp : p c = true) (hp' : p c' = false) :
    (l.set i c').countP p = l.countP p - 1 := by
  obtain ⟨hlt, hget⟩ := List.getElem?_eq_some_iff.mp hi
  rw [List.countP_set hlt, hget, hp, hp']
  simp

/-- A call goes on, or is resumed. -/
theorem Inv.setCall (h : Inv s) {i : Nat} {r : Call × GwStatus}
    (hcntHttp : r.2.cntRelayingViaHttpSuspended = (s.calls.set i r.1).countP Call.isSuspend)
    (hcntMqtt : r.2.cntRelayingViaMqttSuspended = (s.calls.set i r.1).countP Call.isMqttSuspend)
    (hhttpCmd : s.gw.httpRelayingCmd = true → r.2.httpRelayingCmd = true)
    (hmqttCmd : s.gw.mqttRelayingCmd = true → r.2.mqttRelayingCmd = true)
    (hok : CallFrame s (s.setCall i r) → ∀ n, r.1.phase = .suspend n → n.wait = true →
      n.timedOut = false → CallOk (s.setCall i r) r.1.kind n) :
    Inv (s.setCall i r) where
  post := h.post
  aborted := h.aborted
  cntHttp := hcntHttp
  cntMqtt := hcntMqtt
  calls := fun c hc n hphase hwait htime => by
    have hframe : CallFrame s (s.setCall i r) := ⟨rfl, rfl, rfl, rfl, hhttpCmd, hmqttCmd⟩
    rcases List.mem_or_eq_of_mem_set hc with hold | rfl
    · exact hframe.callOk (h.calls c hold n hphase hwait htime)
    · exact hok hframe n hphase hwait htime

theorem Inv.stepCall (h : Inv s) {i : Nat} {a : NotifyAct} (hstep : stepCall s i a = some t) :
    Inv t := by
  unfold Relaying.stepCall at hstep
  split at hstep
  · rename_i kind n hi
    obtain ⟨⟨n', g'⟩, hn, rfl⟩ := Option.map_eq_some_iff.mp hstep
    have hf := notifyStep_frame hn
    refine h.setCall ?_ ?_ hf.httpCmd hf.mqttCmd fun hframe m hphase hwait htime => ?_
    · refine (hf.cntHttp.trans h.cntHttp).trans (countP_set_of_eq hi ?_).symm
      rfl
    · refine (hf.cntMqtt.trans h.cntMqtt).trans (countP_set_of_eq hi ?_).symm
      rfl
    · obtain rfl := Phase.suspend.inj hphase
      rw [hf.wait] at hwait
      have hold := h.calls _ (List.mem_of_getElem? hi) n rfl hwait (hf.timedOut htime)
      refine ⟨notifyStep_http hn hwait htime ?_, fun hkind => notifyStep_mqtt hn hwait htime ?_⟩
      · exact hold.http.imp hframe.httpSettled fun _ hc => Or.inl hc
      · exact (hold.mqtt hkind).imp hframe.mqttSettled fun _ hc => Or.inl hc
  · rename_i kind n hi
    obtain ⟨⟨n', g'⟩, hn, rfl⟩ := Option.map_eq_some_iff.mp hstep
    have hf := notifyStep_frame hn
    refine h.setCall ?_ ?_ hf.httpCmd hf.mqttCmd fun _ m hphase => absurd hphase (by simp)
    · refine (hf.cntHttp.trans h.cntHttp).trans (countP_set_of_eq hi ?_).symm
      rfl
    · refine (hf.cntMqtt.trans h.cntMqtt).trans (countP_set_of_eq hi ?_).symm
      rfl
  · exact absurd hstep (by simp)

theorem Inv.resumeCall (h : Inv s) {i : Nat} {wait : Bool}
    (hstep : resumeCall s i wait = some t) : Inv t := by
  unfold Relaying.resumeCall at hstep
  split at hstep
  · rename_i kind n hi
    obtain ⟨-, rfl⟩ := Option.ite_some_none_eq_some.mp hstep
    refine h.setCall ?_ ?_ id id fun _ m hphase => absurd hphase (by simp [resume])
    · rw [countP_set_of_off hi rfl rfl, ← h.cntHttp]
      rfl
    · cases kind with
      | relaying =>
        rw [countP_set_of_off hi rfl rfl, ← h.cntMqtt]
        rfl
      | httpRelaying =>
        refine h.cntMqtt.trans (countP_set_of_eq hi ?_).symm
        rfl
  · exact absurd hstep (by simp)

/-- A new suspend call. -/
theorem Inv.suspend (h : Inv s) {kind : Kind} {wait : Bool}
    (hok : Orderly s (.suspend kind wait)) :
    Inv { s with
      calls := s.calls ++ [(suspend kind wait s.gw).1]
      gw := (suspend kind wait s.gw).2 } where
  post := h.post
  aborted := h.aborted
  cntHttp := by
    rw [List.countP_append, ← h.cntHttp]
    rfl
  cntMqtt := by
    rw [List.countP_append, ← h.cntMqtt]
    cases kind <;> rfl
  calls := fun c hc n hphase hwait htime => by
    have hframe : CallFrame s { s with
        calls := s.calls ++ [(Relaying.suspend kind wait s.gw).1]
        gw := (Relaying.suspend kind wait s.gw).2 } :=
      ⟨rfl, rfl, rfl, rfl, id, id⟩
    rcases List.mem_append.mp hc with hold | hnew
    · exact hframe.callOk (h.calls c hold n hphase hwait htime)
    · obtain rfl := List.mem_singleton.mp hnew
      obtain rfl := Phase.suspend.inj hphase
      obtain ⟨hhttp, hmqtt⟩ := hok hwait
      refine ⟨⟨fun hn => hframe.httpSettled (hhttp hn), fun hw => ?_, fun ha => ?_⟩, fun hkind =>
        ⟨fun hn => hframe.mqttSettled (hmqtt hkind ?_), fun hw => ?_, fun ha => ?_⟩⟩
      · refine hframe.httpSettled (hhttp ?_)
        by_contra hen
        simp [Notify.start, hen] at hw
      · simp only [Notify.awaitsHttp, Notify.start] at ha
        split at ha <;> simp_all
      · subst hkind
        simpa [Notify.start, Kind.mqtt] using hn
      · subst hkind
        refine hframe.mqttSettled (hmqtt rfl ?_)
        by_contra hen
        simp [Notify.start, Notify.mqttWaited, Kind.mqtt, hen] at hw
      · simp only [Notify.awaitsMqtt, Notify.start] at ha
        split at ha <;> simp_all

/-! ## The tasks -/

/-- The handler of the `adv_post` task after the abort: the task has stopped if it found
relaying suspended. -/
theorem Inv.httpStopped_of_aborted (h : Inv s) (hpc : s.advPostPc = .aborted)
    (hflag : s.advPost.advPost.flagRelayingEnabled = false) : HttpStopped s.advPost :=
  ⟨hflag, (h.post.quiet (h.aborted hpc hflag)).notOwn⟩

theorem Inv.advPostAssign (h : Inv s) {enabled : Bool} (hpc : s.advPostPc = .read enabled) :
    Inv { s with
      advPost := assignRelayingEnabled enabled s.advPost
      advPostPc := .assigned } := by
  refine h.frame rfl rfl rfl ?_ (fun hp => absurd hp (by simp)) (fun _ hs => ?_)
    (fun _ hs => hs) (fun _ _ _ hc => Or.inl hc) fun _ _ _ hc => Or.inl hc
  · exact h.post.of_same ⟨rfl, rfl, rfl, rfl, rfl⟩
  · obtain ⟨⟨-, hreq⟩, hne⟩ := hs
    refine ⟨⟨?_, hreq⟩, by simp⟩
    cases enabled with
    | false => rfl
    | true => exact absurd hpc hne

theorem Inv.advPostAbort (h : Inv s) {p : AsyncComm.State ρ}
    (habort : abortIfSuspended s.advPost = some p) :
    Inv { s with advPost := p, advPostPc := .aborted } := by
  obtain ⟨hpost, hflag, hasync⟩ := abortIfSuspended_spec h.post habort
  refine h.frame rfl rfl rfl hpost (fun _ => hasync) (fun _ hs => ?_)
    (fun _ hs => hs) (fun _ _ _ hc => Or.inl hc) fun _ _ _ hc => Or.inl hc
  have hp : p.advPost.flagRelayingEnabled = false := hflag.trans hs.1.flag
  exact ⟨⟨hp, (hpost.quiet (hasync hp)).notOwn⟩, by simp⟩

/-- **Clearing the command bit for HTTP**: the task has stopped, or nobody waits. -/
theorem Inv.advPostClear (h : Inv s) (hok : Orderly s .advPostClear)
    (hpc : s.advPostPc = .aborted) :
    Inv { s with advPostPc := .idle, gw := { s.gw with httpRelayingCmd := false } } := by
  refine h.frame rfl rfl rfl h.post (fun hp => absurd hp (by simp)) (fun _ hs => ⟨hs.1, by simp⟩)
    (fun _ hs => hs) (fun c hc ha _ => ?_) fun _ _ _ hc => Or.inl hc
  cases hflag : s.advPost.advPost.flagRelayingEnabled with
  | true =>
    rw [hok hflag c hc] at ha
    exact absurd ha (by simp)
  | false => exact Or.inr ⟨h.httpStopped_of_aborted hpc hflag, by simp⟩

theorem Inv.advPost (h : Inv s) {a : AsyncComm.Act ρ} {p : AsyncComm.State ρ}
    (ha : advPostAllowed s.advPostPc a = true) (hstep : AsyncComm.step s.advPost a = some p) :
    Inv { s with advPost := p } := by
  refine h.frame rfl rfl rfl (h.post.advPostStep hstep) (fun hpc hflag => ?_) (fun _ hs => ?_)
    (fun _ hs => hs) (fun _ _ _ hc => Or.inl hc) fun _ _ _ hc => Or.inl hc
  · have hsame : p.advPost = s.advPost.advPost := by
      cases a with
      | handle sig env => exact absurd ha (by simp [advPostAllowed, show s.advPostPc = _ from hpc])
      | setRelayingViaHttp enabled => exact absurd ha (by simp [advPostAllowed])
      | _ =>
        simp only [AsyncComm.step, AsyncComm.httpServerMutexTryLock] at hstep
        obtain ⟨-, rfl⟩ := Option.ite_some_none_eq_some.mp hstep
        exact rfl
    show p.advPost.flagAsyncCommInProgress = false
    rw [hsame]
    exact h.aborted hpc (hsame ▸ hflag)
  · obtain ⟨⟨hflag, hreq⟩, hne⟩ := hs
    have hcalm := calm_step ha hflag hstep
    refine ⟨⟨hcalm.flag.trans hflag, fun target hr => ?_⟩, hne⟩
    rcases hcalm.request with hsame | hnone
    · exact hreq target (hsame ▸ hr)
    · exact absurd (hnone.symm.trans hr) (by simp)

/-- A step of the main task that does not clear the command bit. -/
theorem Inv.main (h : Inv s) {taken running : Bool} {pc : MainPc} (sig : Bool)
    (hs : s.gw.isRelayingViaMqttEnabled = false → MqttSettled s →
      running = false ∧ pc ≠ .modeEnabled ∧ pc ≠ .restartEnabled) :
    Inv { s with
      mainTaken := taken
      mainPc := pc
      mqttRunning := running
      gw := { s.gw with sigMain := sig } } :=
  h.frame rfl rfl rfl h.post h.aborted (fun _ hs => hs) hs (fun _ _ _ hc => Or.inl hc)
    fun _ _ _ hc => Or.inl hc

/-- **Clearing the command bit for MQTT**: the client is stopped, or nobody waits. -/
theorem Inv.mainClear (h : Inv s) (hok : Orderly s .mainClear) :
    Inv { s with mainPc := .idle, gw := { s.gw with mqttRelayingCmd := false } } := by
  refine h.frame rfl rfl rfl h.post h.aborted (fun _ hs => hs)
    (fun _ hs => ⟨hs.1, by simp, by simp⟩) (fun _ _ _ hc => Or.inl hc) fun c hc ha _ => ?_
  cases hrun : s.mqttRunning with
  | true =>
    rw [hok hrun c hc] at ha
    exact absurd ha (by simp)
  | false => exact Or.inr ⟨rfl, by simp, by simp⟩

/-- **Every orderly step keeps the invariant.** -/
theorem Inv.step {a : Act ρ} (h : Inv s) (hok : Orderly s a) (hstep : step s a = some t) :
    Inv t := by
  cases a with
  | suspend kind wait => exact Option.some.inj hstep ▸ h.suspend hok
  | resume i wait => exact h.resumeCall hstep
  | call i a => exact h.stepCall hstep
  | advPostTake =>
    obtain ⟨-, rfl⟩ := Option.ite_some_none_eq_some.mp hstep
    refine h.frame rfl rfl rfl h.post h.aborted (fun _ hs => hs)
      (fun _ hs => hs) (fun _ _ _ hc => Or.inl hc) fun _ _ _ hc => Or.inl hc
  | advPostRead =>
    obtain ⟨-, rfl⟩ := Option.ite_some_none_eq_some.mp hstep
    refine h.frame rfl rfl rfl h.post (fun hp => absurd hp (by simp))
      (fun hsus hs => ⟨hs.1, ?_⟩) (fun _ hs => hs) (fun _ _ _ hc => Or.inl hc)
      fun _ _ _ hc => Or.inl hc
    simp [hsus]
  | advPostAssign =>
    simp only [Relaying.step] at hstep
    split at hstep
    · rename_i enabled hpc
      exact Option.some.inj hstep ▸ h.advPostAssign hpc
    · exact absurd hstep (by simp)
  | advPostAbort =>
    simp only [Relaying.step] at hstep
    split at hstep
    · obtain ⟨p, hp, rfl⟩ := Option.map_eq_some_iff.mp hstep
      exact h.advPostAbort hp
    · exact absurd hstep (by simp)
  | advPostClear =>
    obtain ⟨hpc, rfl⟩ := Option.ite_some_none_eq_some.mp hstep
    exact h.advPostClear hok hpc
  | advPost a =>
    simp only [Relaying.step] at hstep
    split at hstep
    · rename_i ha
      obtain ⟨p, hp, rfl⟩ := Option.map_eq_some_iff.mp hstep
      exact h.advPost ha hp
    · exact absurd hstep (by simp)
  | mainTake =>
    obtain ⟨-, rfl⟩ := Option.ite_some_none_eq_some.mp hstep
    exact h.main false fun _ hs => hs
  | mainRead useMqtt =>
    obtain ⟨-, rfl⟩ := Option.ite_some_none_eq_some.mp hstep
    refine h.main s.gw.sigMain fun hsus hs => ⟨hs.1, ?_⟩
    simp [hsus]
  | mainStart ok =>
    simp only [Relaying.step] at hstep
    split at hstep
    · rename_i hpc
      refine Option.some.inj hstep ▸ h.main s.gw.sigMain fun _ hs => ?_
      exact absurd hpc hs.2.1
    · rename_i hpc
      refine Option.some.inj hstep ▸ h.main s.gw.sigMain fun _ hs => ?_
      exact absurd hpc hs.2.2
    · exact absurd hstep (by simp)
  | mainStop =>
    obtain ⟨-, rfl⟩ := Option.ite_some_none_eq_some.mp hstep
    exact h.main s.gw.sigMain fun _ _ => by simp
  | mainClear =>
    obtain ⟨-, rfl⟩ := Option.ite_some_none_eq_some.mp hstep
    exact h.mainClear hok
  | restartStop =>
    obtain ⟨-, rfl⟩ := Option.ite_some_none_eq_some.mp hstep
    exact h.main s.gw.sigMain fun _ _ => by simp
  | restartRead useMqtt =>
    obtain ⟨-, rfl⟩ := Option.ite_some_none_eq_some.mp hstep
    refine h.main s.gw.sigMain fun hsus hs => ⟨hs.1, ?_⟩
    simp [hsus]

/-! ## Runs -/

/-- **The handshake is honoured in every orderly run.** -/
theorem honoured_of_orderly (h : (system ρ).ReachableVia Orderly s) : Honoured s := by
  refine Inv.honoured (h.invariant (P := Inv) ?_ fun u a v _ hu hok hstep => hu.step hok hstep)
  rintro u ⟨nonce, creds, mqttRunning, rfl⟩
  exact inv_init nonce creds mqttRunning

/-- The call `i` sets the bits and notifies. -/
def notifyRun (i : Nat) : List (Act Unit) :=
  [.call i .next, .call i .next, .call i .signalAdvPost, .call i .signalMain]

/-- The call `i` stops waiting. -/
def returnRun (i : Nat) : List (Act Unit) := [.call i .next, .call i .next]

/-- The `adv_post` task handles `RELAYING_MODE_CHANGED`, after it has read the counter. -/
def advPostRun : List (Act Unit) := [.advPostAssign, .advPostAbort, .advPostClear]

/-- Relaying is suspended and both tasks follow. -/
def suspendRun : List (Act Unit) :=
  .suspend .relaying true :: notifyRun 0 ++ [.advPostTake, .advPostRead] ++ advPostRun ++
    [.mainTake, .mainRead true, .mainStop, .mainClear] ++ returnRun 0

/-- An HTTP post is in progress when relaying is suspended; a second task suspends relaying
via HTTP afterwards. -/
def postAndSuspendRun : List (Act Unit) :=
  [.advPost (.handle .networkConnected (AsyncComm.envOk [])),
    .advPost (.handle .retransmit (AsyncComm.envOk [])),
    .advPost (.handle .doAsyncComm (AsyncComm.envOk []))] ++
    suspendRun ++ [.suspend .httpRelaying true]

theorem honoured_of_postAndSuspendRun :
    ∃ s : State Unit, decide (s.calls.countP Call.inForce = 2 ∧
      s.gw.cntRelayingViaHttpSuspended = 2) = true ∧ Honoured s := by
  obtain ⟨s, hs, hp⟩ := System.exists_reachableVia_of_run (S := system Unit) (C := Orderly)
    ⟨0, ⟨"a", "b", "c", 10000, 10000⟩, true, rfl⟩ postAndSuspendRun
    (fun s => decide (s.calls.countP Call.inForce = 2 ∧
      s.gw.cntRelayingViaHttpSuspended = 2)) (by decide)
  exact ⟨s, hp, honoured_of_orderly hs⟩

/-- A call in force for which relaying has not stopped, seen by a test. -/
def broken (s : State Unit) : Bool :=
  s.calls.any fun c =>
    c.inForce && (s.advPost.advPost.flagRelayingEnabled || (c.kind.mqtt && s.mqttRunning))

theorem not_honoured_of_broken {s : State Unit} (h : broken s = true) : ¬ Honoured s := by
  intro hall
  obtain ⟨c, hc, hcs⟩ := List.any_eq_true.mp h
  obtain ⟨hforce, hbad⟩ := (Bool.and_eq_true _ _).mp hcs
  obtain ⟨hstopped, hmqtt⟩ := hall c hc hforce
  rcases (Bool.or_eq_true _ _).mp hbad with hflag | hrun
  · exact absurd (hstopped.flag.symm.trans hflag) (by decide)
  · obtain ⟨hkind, hrunning⟩ := (Bool.and_eq_true _ _).mp hrun
    cases hk : c.kind with
    | relaying => exact absurd ((hmqtt hk).symm.trans hrunning) (by decide)
    | httpRelaying =>
      rw [hk] at hkind
      exact absurd hkind (by decide)

/-- **A suspend call can return while relaying goes on**: the second suspender does not wait
for the first one's command to be handled; and a handler that found relaying enabled, because
it was resumed, clears the command of a suspend call that has come since, be it the `adv_post`
task's or the main task's. -/
theorem suspend_returns_too_early :
    (∃ s, (system Unit).Reachable s ∧ s.calls.length = 2 ∧ ¬ Honoured s) ∧
    (∃ s, (system Unit).Reachable s ∧ s.gw.cntRelayingViaHttpSuspended = 1 ∧
      s.mqttRunning = false ∧ ¬ Honoured s) ∧
    ∃ s, (system Unit).Reachable s ∧ s.gw.cntRelayingViaHttpSuspended = 1 ∧
      s.advPost.advPost.flagRelayingEnabled = false ∧ ¬ Honoured s := by
  have hinit : (system Unit).init (init (AsyncComm.init 0 ⟨"a", "b", "c", 10000, 10000⟩) true) :=
    ⟨0, _, true, rfl⟩
  refine ⟨?_, ?_, ?_⟩
  · obtain ⟨s, hs, hp⟩ := System.exists_reachable_of_run hinit
      [.suspend .httpRelaying true, .suspend .httpRelaying true]
      (fun s => decide (s.calls.length = 2) && broken s) (by decide)
    obtain ⟨hlen, hbroken⟩ := (Bool.and_eq_true _ _).mp hp
    exact ⟨s, hs, of_decide_eq_true hlen, not_honoured_of_broken hbroken⟩
  · obtain ⟨s, hs, hp⟩ := System.exists_reachable_of_run hinit
      (suspendRun ++ .resume 0 true :: notifyRun 0 ++ [.advPostTake, .advPostRead] ++
        .suspend .relaying true :: notifyRun 1 ++ advPostRun ++
        [.mainTake, .mainRead true, .mainStop, .mainClear] ++ returnRun 1)
      (fun s => decide (s.gw.cntRelayingViaHttpSuspended = 1 ∧ s.mqttRunning = false) && broken s)
      (by decide)
    obtain ⟨hs1, hbroken⟩ := (Bool.and_eq_true _ _).mp hp
    obtain ⟨hcnt, hrun⟩ := of_decide_eq_true hs1
    exact ⟨s, hs, hcnt, hrun, not_honoured_of_broken hbroken⟩
  · obtain ⟨s, hs, hp⟩ := System.exists_reachable_of_run hinit
      (suspendRun ++ .resume 0 true :: notifyRun 0 ++ [.mainTake, .mainRead true] ++
        .suspend .relaying true :: notifyRun 1 ++ [.advPostTake, .advPostRead] ++ advPostRun ++
        [.mainStart true, .mainClear] ++ returnRun 1)
      (fun s => decide (s.gw.cntRelayingViaHttpSuspended = 1 ∧
        s.advPost.advPost.flagRelayingEnabled = false) && broken s) (by decide)
    obtain ⟨hs1, hbroken⟩ := (Bool.and_eq_true _ _).mp hp
    obtain ⟨hcnt, hflag⟩ := of_decide_eq_true hs1
    exact ⟨s, hs, hcnt, hflag, not_honoured_of_broken hbroken⟩

end Relaying
end RuuviGateway
