import RuuviGateway.AsyncComm.Ownership

/-!
# What a periodic MQTT action publishes

A periodic MQTT action takes a snapshot of the third retransmission list and then publishes
one report each time `DO_ASYNC_COMM` is handled, with its place in the snapshot kept in
`g_adv_post_reports_mqtt_idx` in between.  The index is compared with `num_of_advs` after the
report has been published and not before, so that the first entry of the table is published
even if the snapshot is empty.

`Watch` adds to the task a record of every action: the snapshot it took, what was passed to
`mqtt_publish_adv`, how often it was activated, and how it ended.  What was passed and whether
the action has ended are read off the task itself.  `Relay.Exact` is what an action should do,
and it does so if and only if its snapshot is not empty or it was suspended before it was
activated (`exact_iff`).
-/

namespace RuuviGateway
namespace AsyncComm

open TransitionSystem

variable {ρ : Type} {s t : State ρ}

/-! ## The record of an action -/

/-- How a periodic MQTT action ends. -/
inductive Ending where
  | finished
  | publishFailed
  | suspended
  deriving DecidableEq, Repr

/-- A periodic MQTT action. -/
structure Relay (ρ : Type) where
  /-- What was in the list when the action began. -/
  snapshot : List ρ
  /-- What was passed to `mqtt_publish_adv`, in order; `none` is a table entry behind the last
  report. -/
  passed : List (Option ρ)
  /-- How often `DO_ASYNC_COMM` was handled while the action was in progress. -/
  activations : Nat
  /-- `none` while the action is in progress. -/
  ending : Option Ending
  deriving DecidableEq

/-- **What an action should publish**: the reports of the snapshot in order, each once and
nothing else, and all of them unless a publish fails or relaying is suspended. -/
def Relay.Exact (r : Relay ρ) : Prop :=
  r.passed <+: r.snapshot.map some ∧
    (r.ending = some .finished → r.passed = r.snapshot.map some)

instance [DecidableEq ρ] (r : Relay ρ) : Decidable r.Exact :=
  inferInstanceAs (Decidable (_ ∧ (_ → _)))

/-- The task with the record of its periodic MQTT actions. -/
structure Watch (ρ : Type) where
  state : State ρ
  running : Option (Relay ρ)
  ended : List (Relay ρ)

/-- All actions, the one in progress first. -/
def Watch.relays (w : Watch ρ) : List (Relay ρ) := w.running.toList ++ w.ended

/-- A periodic MQTT action is in progress. -/
def mqttInProgress (s : State ρ) : Bool :=
  s.advPost.flagAsyncCommInProgress && decide (s.action = .postAdvsToMqtt)

/-- What was passed to `mqtt_publish_adv` between two states. -/
def passedBetween (s t : State ρ) : List (Option ρ) :=
  (t.published.take (t.published.length - s.published.length)).reverse

/-- Whether a step ends the action in progress, and how. -/
def endingOf (s : State ρ) : Act ρ → Option Ending
  | .handle .doAsyncComm env =>
      match inProgress env { s with sigDoAsyncComm := false } with
      | some (_, true) => some (if env.mqttPublishOk then .finished else .publishFailed)
      | _ => none
  | .handle .relayingModeChanged _ => if s.gwRelayingViaHttp then none else some .suspended
  | _ => none

/-- `DO_ASYNC_COMM` is handled. -/
def activates : Act ρ → Nat
  | .handle .doAsyncComm _ => 1
  | _ => 0

/-- The action in progress after a step: more may have been published, and it may have been
activated once more. -/
def Relay.observe (r : Relay ρ) (s : State ρ) (a : Act ρ) (t : State ρ) : Relay ρ :=
  { r with
    passed := r.passed ++ passedBetween s t
    activations := r.activations + activates a
    ending := endingOf s a }

/-- The record of an action that has just begun. -/
def newRelay (t : State ρ) : Relay ρ := ⟨t.reportsMqtt.getD [], [], 0, none⟩

/-- The record after a step from `w.state` to `t`. -/
def observe (w : Watch ρ) (a : Act ρ) (t : State ρ) : Watch ρ :=
  let seen := w.running.map fun r => r.observe w.state a t
  let running := seen.filter fun r => r.ending.isNone
  { state := t
    running :=
      if mqttInProgress t && running.isNone then some (newRelay t) else running
    ended := (seen.filter fun r => r.ending.isSome).toList ++ w.ended }

/-- The task and its record. -/
def watchSystem (ρ : Type) : System (Watch ρ) (Act ρ) where
  init w := (system ρ).init w.state ∧ w.running = none ∧ w.ended = []
  step w a := (step w.state a).map (observe w a)

/-! ## What does not publish -/

theorem recvHeaders_published (target : Target) (hs : List Header) (s : State ρ) :
    (recvHeaders target hs s).published = s.published := by
  induction hs generalizing s with
  | nil => rfl
  | cons h hs ih => exact ih (recvHeader target s h)

theorem setAdvPostHttpAction_published (target : Target) (s : State ρ) :
    (setAdvPostHttpAction target s).published = s.published := by
  cases target <;> rfl

theorem httpPost_published {task : Task} {target : Target} {o : SendOutcome} {b : Bool}
    (h : httpPost task target o s = some (t, b)) : t.published = s.published := by
  have hrecv : ∀ hs, (recvHeaders target hs
      (setAdvPostHttpAction target { s with pTask := some task })).published = s.published :=
    fun hs => (recvHeaders_published target hs _).trans (setAdvPostHttpAction_published target _)
  unfold httpPost at h
  split at h
  · exact absurd h (by simp)
  · cases o with
    | failed =>
      obtain ⟨rfl, -⟩ := Prod.mk.inj (Option.some.inj h)
      rfl
    | sendFailed hs =>
      obtain ⟨rfl, -⟩ := Prod.mk.inj (Option.some.inj h)
      exact hrecv hs
    | inProgress hs =>
      obtain ⟨rfl, -⟩ := Prod.mk.inj (Option.some.inj h)
      exact hrecv hs

theorem retransmitAdvs_published {env : Env ρ} {target : Target} {b : Bool}
    (h : retransmitAdvs env target s = some (t, b)) : t.published = s.published := by
  unfold retransmitAdvs at h
  split at h
  · exact httpPost_published h
  · obtain ⟨rfl, -⟩ := Prod.mk.inj (Option.some.inj h)
    rfl

theorem statisticsDoSend_published {env : Env ρ} {b : Bool}
    (h : statisticsDoSend env s = some (t, b)) : t.published = s.published := by
  unfold statisticsDoSend at h
  split at h
  · exact httpPost_published h
  · obtain ⟨rfl, -⟩ := Prod.mk.inj (Option.some.inj h)
    rfl

theorem doRetransmission_published {env : Env ρ} {action : Action} {b : Bool}
    (h : doRetransmission env action s = some (t, b)) : t.published = s.published := by
  unfold doRetransmission at h
  split at h
  · obtain ⟨rfl, -⟩ := Prod.mk.inj (Option.some.inj h)
    rfl
  · cases action with
    | none => exact absurd h (by simp)
    | postAdvsToRuuvi => exact retransmitAdvs_published h
    | postAdvsToCustom => exact retransmitAdvs_published h
    | postStats => exact absurd h (by simp)
    | postAdvsToMqtt =>
      obtain ⟨rfl, -⟩ := Prod.mk.inj (Option.some.inj h)
      rfl

/-! ## Starting an action -/

/-- What starting what is requested comes to, for the record: nothing is published, and a
periodic MQTT action has just taken its snapshot. -/
structure Started (s t : State ρ) : Prop where
  published : t.published = s.published
  snapshot : mqttInProgress t = true → t.reportsMqtt.isSome = true ∧ t.reportsMqttIdx = 0

theorem Started.of_notInProgress (h : t.published = s.published)
    (hp : t.advPost.flagAsyncCommInProgress = false) : Started s t :=
  ⟨h, fun hm => absurd hm (by simp [mqttInProgress, hp])⟩

theorem sendTo_published {env : Env ρ} {target : Target} {b : Bool}
    (h : sendTo env target s = some (t, b)) : t.published = s.published := by
  cases target with
  | advs1 =>
    have h' : doRetransmission env .postAdvsToRuuvi s = some (t, b) := h
    exact doRetransmission_published h'
  | advs2 =>
    have h' : doRetransmission env .postAdvsToCustom s = some (t, b) := h
    exact doRetransmission_published h'
  | stats => exact statisticsDoSend_published h

/-- An HTTP action is not an MQTT action, started or not. -/
theorem started_begun {env : Env ρ} (hp : s.advPost.flagAsyncCommInProgress = false)
    (h : Begun env s t) : Started s t := by
  cases h with
  | nothing hclear => exact .of_notInProgress rfl ((hclear s.advPost).trans hp)
  | notSent hclear hsend =>
    rename_i target clear u
    have hpublished := sendTo_published hsend
    obtain ⟨-, hpost⟩ := sendTo_same rfl hsend
    exact .of_notInProgress hpublished ((hclear u.advPost).trans ((congrArg _ hpost).trans hp))
  | sent hsend =>
    rename_i target clear nonce u
    have hpublished := sendTo_published hsend
    refine ⟨hpublished, fun hm => ?_⟩
    have haction : u.action = target.action := (sendTo_same rfl hsend).1.action
    have hmqtt : u.action = .postAdvsToMqtt :=
      of_decide_eq_true (Bool.and_eq_true_iff.mp hm).2
    cases target <;> exact absurd (haction.symm.trans hmqtt) (by decide)
  | noSnapshot hclear => exact .of_notInProgress rfl ((hclear s.advPost).trans hp)
  | snapshot => exact ⟨rfl, fun _ => ⟨rfl, rfl⟩⟩

/-- **Starting what is requested**, from outside an action. -/
theorem started_startRequested {env : Env ρ} (hp : s.advPost.flagAsyncCommInProgress = false)
    (h : startRequested env s = some t) : Started s t := by
  obtain ⟨rfl, -⟩ | ⟨u, hbegun, rfl⟩ := startRequested_cases h
  · exact .of_notInProgress rfl hp
  · obtain ⟨hpublished, hsnapshot⟩ := started_begun hp hbegun
    exact ⟨hpublished, hsnapshot⟩

/-! ## The record is kept -/

/-- The condition on an action: its snapshot has a report, or the action was suspended before
it was activated. -/
def Relay.NotEmptyWhenActivated (r : Relay ρ) : Prop := r.snapshot ≠ [] ∨ r.activations = 0

/-- The action in progress and its record: as many reports have been published as the action
was activated, and at least one is left. -/
structure OnTrack (s : State ρ) (r : Relay ρ) : Prop where
  running : r.ending = none
  reports : s.reportsMqtt = some r.snapshot
  idx : s.reportsMqttIdx = r.activations
  passed : r.passed = (r.snapshot.take r.activations).map some
  left : r.activations = 0 ∨ r.activations < r.snapshot.length

theorem OnTrack.exact {r : Relay ρ} (h : OnTrack s r) : r.Exact ∧ r.NotEmptyWhenActivated := by
  refine ⟨⟨?_, fun hend => absurd (h.running.symm.trans hend) (by simp)⟩, ?_⟩
  · rw [h.passed]
    exact (List.take_prefix _ _).map some
  · rcases h.left with hzero | hlt
    · exact .inr hzero
    · refine .inl fun hnil => ?_
      rw [hnil] at hlt
      exact absurd hlt (Nat.not_lt_zero _)

/-- The invariant of the record. -/
structure WatchInv (w : Watch ρ) : Prop where
  on : mqttInProgress w.state = true → ∃ r, w.running = some r ∧ OnTrack w.state r
  off : mqttInProgress w.state = false → w.running = none
  ended : ∀ r ∈ w.ended, r.Exact ↔ r.NotEmptyWhenActivated

theorem passedBetween_of_eq (h : t.published = s.published) : passedBetween s t = [] := by
  simp [passedBetween, h]

theorem passedBetween_of_cons {x : Option ρ} (h : t.published = x :: s.published) :
    passedBetween s t = [x] := by
  simp [passedBetween, h]

theorem onTrack_newRelay (hsome : t.reportsMqtt.isSome = true) (hidx : t.reportsMqttIdx = 0) :
    OnTrack t (newRelay t) := by
  obtain ⟨reports, hrep⟩ := Option.isSome_iff_exists.mp hsome
  refine ⟨rfl, ?_, hidx, ?_, .inl rfl⟩
  · rw [newRelay, hrep]
    rfl
  · simp [newRelay]

/-- When no action is in progress, a step may begin one. -/
theorem WatchInv.begin {w : Watch ρ} (h : WatchInv w) (hno : w.running = none) (a : Act ρ)
    (hsnap : mqttInProgress t = true → t.reportsMqtt.isSome = true ∧ t.reportsMqttIdx = 0) :
    WatchInv (observe w a t) := by
  have hobs : observe w a t =
      ⟨t, if mqttInProgress t then some (newRelay t) else none, w.ended⟩ := by
    simp [observe, hno]
  rw [hobs]
  exact ⟨fun hm => ⟨_, if_pos hm, onTrack_newRelay (hsnap hm).1 (hsnap hm).2⟩,
    fun hm => if_neg (by simp [hm]), h.ended⟩

/-- An action that goes on. -/
theorem WatchInv.goOn {w : Watch ρ} {r : Relay ρ} {a : Act ρ} (h : WatchInv w)
    (hr : w.running = some r) (htrack : OnTrack t (r.observe w.state a t))
    (hm : mqttInProgress t = true) : WatchInv (observe w a t) := by
  have hobs : observe w a t = ⟨t, some (r.observe w.state a t), w.ended⟩ := by
    simp [observe, hr, htrack.running, Option.filter]
  rw [hobs]
  exact ⟨fun _ => ⟨_, rfl, htrack⟩, fun hf => absurd (hm.symm.trans hf) (by simp), h.ended⟩

/-- An action that ends; the step may begin another one. -/
theorem WatchInv.finish {w : Watch ρ} {r : Relay ρ} {a : Act ρ} {e : Ending} (h : WatchInv w)
    (hr : w.running = some r) (hend : endingOf w.state a = some e)
    (hexact : (r.observe w.state a t).Exact ↔ (r.observe w.state a t).NotEmptyWhenActivated)
    (hsnap : mqttInProgress t = true → t.reportsMqtt.isSome = true ∧ t.reportsMqttIdx = 0) :
    WatchInv (observe w a t) := by
  have hended : (r.observe w.state a t).ending = some e := hend
  have hobs : observe w a t =
      ⟨t, if mqttInProgress t then some (newRelay t) else none,
        r.observe w.state a t :: w.ended⟩ := by
    simp [observe, hr, hended, Option.filter]
  rw [hobs]
  refine ⟨fun hm => ⟨_, if_pos hm, onTrack_newRelay (hsnap hm).1 (hsnap hm).2⟩,
    fun hm => if_neg (by simp [hm]), fun x hx => ?_⟩
  rcases List.mem_cons.mp hx with rfl | hx
  · exact hexact
  · exact h.ended x hx

/-! ## One step -/

/-- Nothing that concerns the action in progress changes. -/
structure SameRelay (s t : State ρ) : Prop where
  published : t.published = s.published
  reports : t.reportsMqtt = s.reportsMqtt
  idx : t.reportsMqttIdx = s.reportsMqttIdx
  action : t.action = s.action
  inProgress : t.advPost.flagAsyncCommInProgress = s.advPost.flagAsyncCommInProgress

theorem SameRelay.mqttInProgress (h : SameRelay s t) :
    AsyncComm.mqttInProgress t = AsyncComm.mqttInProgress s := by
  rw [AsyncComm.mqttInProgress, AsyncComm.mqttInProgress, h.inProgress, h.action]

theorem WatchInv.same {w : Watch ρ} {a : Act ρ} (h : WatchInv w) (hsame : SameRelay w.state t)
    (hact : activates a = 0) (hend : endingOf w.state a = none) : WatchInv (observe w a t) := by
  cases hm : mqttInProgress w.state with
  | false =>
    exact h.begin (h.off hm) a fun ht => absurd (ht.symm.trans (hsame.mqttInProgress.trans hm))
      (by simp)
  | true =>
    obtain ⟨r, hr, htrack⟩ := h.on hm
    have hobs : r.observe w.state a t = r := by
      rw [Relay.observe, passedBetween_of_eq hsame.published, hact, hend, List.append_nil,
        Nat.add_zero, ← htrack.running]
    refine h.goOn hr ?_ (hsame.mqttInProgress.trans hm)
    rw [hobs]
    exact ⟨htrack.running, hsame.reports.trans htrack.reports, hsame.idx.trans htrack.idx,
      htrack.passed, htrack.left⟩

/-- One activation of a periodic MQTT action: a report is published, and only then the index
is compared with the length of the snapshot. -/
theorem inProgress_mqtt (env : Env ρ) {reports : List ρ} (hm : s.action = .postAdvsToMqtt)
    (hrep : s.reportsMqtt = some reports) :
    inProgress env s =
      if !env.mqttPublishOk || decide (reports.length ≤ s.reportsMqttIdx + 1) then
        some ({ s with
          published := reports[s.reportsMqttIdx]? :: s.published
          reportsMqtt := none
          reportsMqttIdx := 0 }, true)
      else
        some (startTimerSigDoAsyncComm { s with
          published := reports[s.reportsMqttIdx]? :: s.published
          reportsMqttIdx := s.reportsMqttIdx + 1 }, false) := by
  unfold inProgress
  rw [if_neg (not_not.mpr hm)]
  simp only [inProgressMqtt, hrep]
  generalize (!env.mqttPublishOk || decide (reports.length ≤ s.reportsMqttIdx + 1)) = last
  cases last <;> rfl

/-- One more report of the snapshot. -/
theorem take_append_getElem? {l : List ρ} {k : Nat} (h : k < l.length) :
    (l.take k).map some ++ [l[k]?] = (l.take (k + 1)).map some := by
  rw [List.getElem?_eq_getElem h, List.take_add_one, List.getElem?_eq_getElem h, List.map_append]
  rfl

/-- An activation that ends the action leaves an exact record if and only if there was a report
to publish. -/
theorem exact_of_last {r : Relay ρ} (ok : Bool) (hleft : r.activations = 0 ∨
      r.activations < r.snapshot.length)
    (hpassed : r.passed = (r.snapshot.take r.activations).map some)
    (hlast : (!ok || decide (r.snapshot.length ≤ r.activations + 1)) = true) (x : Relay ρ)
    (hx : x = ⟨r.snapshot, r.passed ++ [r.snapshot[r.activations]?], r.activations + 1,
      some (if ok then .finished else .publishFailed)⟩) :
    x.Exact ↔ x.NotEmptyWhenActivated := by
  subst hx
  by_cases hlt : r.activations < r.snapshot.length
  · have hnil : r.snapshot ≠ [] := by
      rintro hnil
      rw [hnil] at hlt
      exact absurd hlt (Nat.not_lt_zero _)
    refine iff_of_true ⟨?_, fun hend => ?_⟩ (.inl hnil)
    · show r.passed ++ _ <+: _
      rw [hpassed, take_append_getElem? hlt]
      exact (List.take_prefix _ _).map some
    · show r.passed ++ _ = _
      rw [hpassed, take_append_getElem? hlt, List.take_of_length_le]
      cases ok with
      | true => simpa using hlast
      | false => exact absurd (Option.some.inj hend) (by simp)
  · have hzero : r.activations = 0 := hleft.resolve_right hlt
    have hnil : r.snapshot = [] := by
      rw [hzero, Nat.not_lt, Nat.le_zero] at hlt
      exact List.eq_nil_of_length_eq_zero hlt
    refine iff_of_false (fun hexact => ?_) ?_
    · have hlen := hexact.1.length_le
      simp [hnil] at hlen
    · rintro (hne | hact)
      · exact hne hnil
      · exact absurd hact (Nat.succ_ne_zero _)

/-- The HTTP action in progress is not an MQTT action while it goes on, and has published
nothing when it ends. -/
theorem inProgress_http {env : Env ρ} {b : Bool} (hm : s.action ≠ .postAdvsToMqtt)
    (h : inProgress env s = some (t, b)) :
    t.published = s.published ∧ (b = false → mqttInProgress t = false) := by
  rcases inProgress_outcomes h with ⟨-, u, hu, ht⟩ | ⟨hmqtt, -⟩
  · obtain ⟨hsame, -⟩ := httpAsyncPoll_same hu
    have hpub : u.published = s.published := by
      obtain ⟨-, v, hv, huv⟩ := httpAsyncPoll_cases hu
      have hvs : v.published = s.published := by
        rcases hv with ⟨-, rfl⟩ | ⟨r, -, rfl⟩
        · rfl
        · exact recvHeaders_published _ _ _
      rcases huv with ⟨-, rfl⟩ | ⟨-, rfl⟩ <;> exact hvs
    rcases ht with ⟨rfl, rfl⟩ | ⟨rfl, rfl⟩
    · refine ⟨Eq.trans ?_ hpub, fun hb => absurd hb (by simp)⟩
      unfold clearCompleted
      split <;> rfl
    · refine ⟨hpub, fun _ => ?_⟩
      have haction : (startTimerSigDoAsyncComm u).action ≠ .postAdvsToMqtt := by
        show u.action ≠ _
        rw [hsame.action]
        exact hm
      simp [mqttInProgress, haction]
  · exact absurd hmqtt hm

/-- Handling `DO_ASYNC_COMM`. -/
theorem WatchInv.doAsyncComm {w : Watch ρ} {env : Env ρ} (h : WatchInv w)
    (hstep : AsyncComm.doAsyncComm env { w.state with sigDoAsyncComm := false } = some t) :
    WatchInv (observe w (.handle .doAsyncComm env) t) := by
  unfold AsyncComm.doAsyncComm at hstep
  cases hp : w.state.advPost.flagAsyncCommInProgress with
  | false =>
    have hstarted := started_startRequested (s := { w.state with sigDoAsyncComm := false }) hp
      (by simpa [hp] using hstep)
    exact h.begin (h.off (by simp [mqttInProgress, hp])) _ hstarted.snapshot
  | true =>
    rw [if_pos hp] at hstep
    by_cases hm : w.state.action = .postAdvsToMqtt
    · -- a report is published, and the action goes on or ends
      obtain ⟨r, hr, htrack⟩ := h.on (by simp [mqttInProgress, hp, hm])
      have hprog := inProgress_mqtt (s := { w.state with sigDoAsyncComm := false }) env
        hm htrack.reports
      cases hlast : (!env.mqttPublishOk ||
          decide (r.snapshot.length ≤ w.state.reportsMqttIdx + 1)) with
      | false =>
        rw [if_neg (by simp [hlast])] at hprog
        rw [hprog] at hstep
        obtain rfl := Option.some.inj hstep
        have hlt : w.state.reportsMqttIdx + 1 < r.snapshot.length := by
          simp only [Bool.or_eq_false_iff, decide_eq_false_iff_not, Nat.not_le] at hlast
          exact hlast.2
        rw [htrack.idx] at hlt
        have hend : endingOf w.state (.handle .doAsyncComm env) = none := by
          simp only [endingOf, hprog]
        refine h.goOn hr ⟨hend, htrack.reports, ?_, ?_, .inr hlt⟩ ?_
        · show w.state.reportsMqttIdx + 1 = r.activations + 1
          rw [htrack.idx]
        · show r.passed ++ passedBetween w.state _ = (r.snapshot.take (r.activations + 1)).map some
          rw [passedBetween_of_cons (x := r.snapshot[w.state.reportsMqttIdx]?) rfl, htrack.passed,
            htrack.idx, take_append_getElem? (Nat.lt_of_succ_lt hlt)]
        · simp [mqttInProgress, startTimerSigDoAsyncComm, hp, hm]
      | true =>
        rw [if_pos (by simp [hlast])] at hprog
        rw [hprog] at hstep
        have hstarted := started_startRequested (by rfl) hstep
        have hend : endingOf w.state (.handle .doAsyncComm env) =
            some (if env.mqttPublishOk then .finished else .publishFailed) := by
          simp only [endingOf, hprog]
        refine h.finish hr hend ?_ hstarted.snapshot
        refine exact_of_last env.mqttPublishOk htrack.left htrack.passed
          (htrack.idx ▸ hlast) _ ?_
        have hpub : t.published = r.snapshot[w.state.reportsMqttIdx]? :: w.state.published :=
          hstarted.published
        rw [Relay.observe, hend, passedBetween_of_cons hpub, ← htrack.idx]
        rfl
    · -- an HTTP action
      have hno := h.off (by simp [mqttInProgress, hm])
      split at hstep
      · exact absurd hstep (by simp)
      · rename_i u hu
        obtain rfl := Option.some.inj hstep
        have hquiet := (inProgress_http (s := { w.state with sigDoAsyncComm := false }) hm hu).2 rfl
        exact h.begin hno _ fun ht => absurd (ht.symm.trans hquiet) (by simp)
      · exact h.begin hno _ (started_startRequested (by rfl) hstep).snapshot

theorem sameRelay_request (enabled : Bool) {set : AdvPostState → AdvPostState}
    (hset : ∀ p, (set p).flagAsyncCommInProgress = p.flagAsyncCommInProgress) (s : State ρ) :
    SameRelay s (request enabled set s) := by
  unfold request
  split
  · exact ⟨rfl, rfl, rfl, rfl, hset _⟩
  · exact ⟨rfl, rfl, rfl, rfl, rfl⟩

theorem sameRelay_onGwCfgChange (env : Env ρ) (s : State ρ) :
    SameRelay s (onGwCfgChange env s) := by
  simp only [onGwCfgChange]
  split
  · exact ⟨rfl, rfl, rfl, rfl, rfl⟩
  · split <;> exact ⟨rfl, rfl, rfl, rfl, rfl⟩

/-- Every step but the handling of `DO_ASYNC_COMM` and `RELAYING_MODE_CHANGED`. -/
theorem sameRelay_of_step {a : Act ρ} (hact : activates a = 0)
    (hmode : ∀ env, a ≠ .handle .relayingModeChanged env) (h : step s a = some t) :
    SameRelay s t := by
  cases a with
  | handle sig env =>
    cases sig with
    | doAsyncComm => exact absurd hact (by simp [activates])
    | relayingModeChanged => exact absurd rfl (hmode env)
    | retransmit =>
      obtain rfl := Option.some.inj h
      refine sameRelay_request _ ?_ s
      exact fun _ => rfl
    | retransmit2 =>
      obtain rfl := Option.some.inj h
      refine sameRelay_request _ ?_ s
      exact fun _ => rfl
    | retransmitMqtt =>
      obtain rfl := Option.some.inj h
      refine sameRelay_request _ ?_ s
      exact fun _ => rfl
    | sendStatistics =>
      obtain rfl := Option.some.inj h
      refine sameRelay_request _ ?_ s
      exact fun _ => rfl
    | gwCfgReady => exact Option.some.inj h ▸ sameRelay_onGwCfgChange env s
    | gwCfgChangedRuuvi => exact Option.some.inj h ▸ sameRelay_onGwCfgChange env s
    | cfgModeDeactivated => exact Option.some.inj h ▸ sameRelay_onGwCfgChange env s
    | stop => exact Option.some.inj h ▸ ⟨rfl, rfl, rfl, rfl, rfl⟩
    | networkDisconnected => exact Option.some.inj h ▸ ⟨rfl, rfl, rfl, rfl, rfl⟩
    | networkConnected => exact Option.some.inj h ▸ ⟨rfl, rfl, rfl, rfl, rfl⟩
    | timeSynchronized => exact Option.some.inj h ▸ ⟨rfl, rfl, rfl, rfl, rfl⟩
    | other => exact Option.some.inj h ▸ ⟨rfl, rfl, rfl, rfl, rfl⟩
  | timerFires =>
    obtain ⟨-, rfl⟩ := Option.ite_some_none_eq_some.mp h
    exact ⟨rfl, rfl, rfl, rfl, rfl⟩
  | setRelayingViaHttp enabled => exact Option.some.inj h ▸ ⟨rfl, rfl, rfl, rfl, rfl⟩
  | serverLock =>
    simp only [step, httpServerMutexTryLock] at h
    obtain ⟨-, rfl⟩ := Option.ite_some_none_eq_some.mp h
    exact ⟨rfl, rfl, rfl, rfl, rfl⟩
  | serverUnlock =>
    obtain ⟨-, rfl⟩ := Option.ite_some_none_eq_some.mp h
    exact ⟨rfl, rfl, rfl, rfl, rfl⟩

/-- **One step keeps the record.** -/
theorem WatchInv.step {w v : Watch ρ} {a : Act ρ} (h : WatchInv w)
    (hstep : (watchSystem ρ).step w a = some v) : WatchInv v := by
  obtain ⟨t, ht, rfl⟩ := Option.map_eq_some_iff.mp hstep
  by_cases hact : activates a = 0
  · by_cases hmode : ∃ env, a = .handle .relayingModeChanged env
    · obtain ⟨env, rfl⟩ := hmode
      cases hon : w.state.gwRelayingViaHttp with
      | true =>
        have ht' := (handleRelayingModeChanged_of_resumed hon).symm.trans ht
        obtain rfl := Option.some.inj ht'
        exact h.same ⟨rfl, rfl, rfl, rfl, rfl⟩ hact (by simp [endingOf, hon])
      | false =>
        obtain ⟨hpub, hidle, -⟩ := handleRelayingModeChanged_of_suspended hon ht
        have hquiet : mqttInProgress t = true →
            t.reportsMqtt.isSome = true ∧ t.reportsMqttIdx = 0 :=
          fun hm => absurd hm (by simp [mqttInProgress, hidle])
        cases hm : mqttInProgress w.state with
        | false => exact h.begin (h.off hm) _ hquiet
        | true =>
          obtain ⟨r, hr, htrack⟩ := h.on hm
          refine h.finish hr (e := .suspended) (by simp [endingOf, hon]) ?_ hquiet
          obtain ⟨hexact, hcond⟩ := htrack.exact
          have hobs : r.observe w.state (.handle .relayingModeChanged env) t =
              { r with ending := some .suspended } := by
            simp [Relay.observe, passedBetween_of_eq hpub, activates, endingOf, hon]
          rw [hobs]
          exact iff_of_true ⟨hexact.1, fun hend => absurd (Option.some.inj hend) (by simp)⟩ hcond
    · have hmode' : ∀ env, a ≠ .handle .relayingModeChanged env := fun env he => hmode ⟨env, he⟩
      refine h.same (sameRelay_of_step hact hmode' ht) hact ?_
      cases a with
      | handle sig env =>
        cases sig with
        | doAsyncComm => exact absurd hact (by simp [activates])
        | relayingModeChanged => exact absurd rfl (hmode' env)
        | _ => rfl
      | _ => rfl
  · cases a with
    | handle sig env =>
      cases sig with
      | doAsyncComm => exact h.doAsyncComm ht
      | _ => exact absurd rfl hact
    | _ => exact absurd rfl hact

/-! ## Runs -/

theorem watchInv_of_reachable {w : Watch ρ} (h : (watchSystem ρ).Reachable w) : WatchInv w := by
  refine System.ReachableVia.invariant (P := WatchInv) ?_
    (fun u a v _ hu _ hstep => hu.step hstep) h
  rintro u ⟨⟨nonce, creds, hinit⟩, hrunning, hended⟩
  refine ⟨fun hm => ?_, fun _ => hrunning, fun r hr => ?_⟩
  · rw [hinit] at hm
    exact absurd hm (by simp [mqttInProgress, init])
  · rw [hended] at hr
    exact absurd hr (by simp)

/-- **When a periodic MQTT action publishes its snapshot.**  In every run, for every action
that has begun. -/
theorem exact_iff {w : Watch ρ} (h : (watchSystem ρ).Reachable w) {r : Relay ρ}
    (hr : r ∈ w.relays) : r.Exact ↔ r.NotEmptyWhenActivated := by
  have hinv := watchInv_of_reachable h
  rcases List.mem_append.mp hr with hrun | hend
  · have hrun' : w.running = some r := Option.mem_toList.mp hrun
    cases hm : mqttInProgress w.state with
    | false => exact absurd (hrun'.symm.trans (hinv.off hm)) (by simp)
    | true =>
      obtain ⟨x, hx, htrack⟩ := hinv.on hm
      obtain rfl : x = r := Option.some.inj (hx.symm.trans hrun')
      exact iff_of_true htrack.exact.1 htrack.exact.2
  · exact hinv.ended r hend

/-- A periodic MQTT action is started and activated once. -/
def publishRun (snapshot : List Unit) : List (Act Unit) :=
  [.handle .networkConnected (envOk []), .handle .retransmitMqtt (envOk []),
    .handle .doAsyncComm (envOk snapshot), .handle .doAsyncComm (envOk [])]

theorem watchSystem_init : (watchSystem Unit).init
    ⟨init 0 ⟨"a", "b", "c", 10000, 10000⟩, none, []⟩ :=
  ⟨⟨_, _, rfl⟩, rfl, rfl⟩

/-- One of two reports has been published. -/
theorem exact_of_publishRun :
    ∃ r : Relay Unit, r.passed = [some ()] ∧ r.Exact := by
  obtain ⟨w, hw, hp⟩ := System.exists_reachable_of_run watchSystem_init (publishRun [(), ()])
    (fun w => decide (w.relays = [⟨[(), ()], [some ()], 1, none⟩])) (by decide)
  have hrelays := of_decide_eq_true hp
  refine ⟨⟨[(), ()], [some ()], 1, none⟩, rfl, (exact_iff hw ?_).mpr (.inl (by simp))⟩
  rw [hrelays]
  exact List.mem_singleton_self _

/-- **An empty snapshot is published**: an entry behind its end is passed to
`mqtt_publish_adv`. -/
theorem empty_snapshot_is_published :
    ¬ ∀ w, (watchSystem Unit).Reachable w → ∀ r ∈ w.relays, r.Exact := by
  intro hall
  obtain ⟨w, hw, hp⟩ := System.exists_reachable_of_run watchSystem_init (publishRun [])
    (fun w => decide (w.relays = [⟨[], [none], 1, some .finished⟩])) (by decide)
  have hrelays := of_decide_eq_true hp
  have hexact := hall w hw ⟨[], [none], 1, some .finished⟩
    (by rw [hrelays]; exact List.mem_singleton_self _)
  exact absurd (hexact.2 rfl) (by simp)

end AsyncComm
end RuuviGateway
