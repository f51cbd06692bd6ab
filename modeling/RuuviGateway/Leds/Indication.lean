import Mathlib.Algebra.BigOperators.Group.Finset.Piecewise
import Mathlib.Data.Finset.Card
import RuuviGateway.Leds.Outputs

/-!
# What `SUBSTATE` indicates

In `SUBSTATE` the next sequence depends on flags, one for each thing that can work or fail, and
on two counts of targets.  Seen from outside there are no flags and no counts: each thing works
or not according to the last event about it, and of the targets that the last configuration
names all, some or none are up.  `Run.indication` says this from the list of events alone, and
`getNewBlinkingSequence_of_reachable` proves it of every run.

Events that come before `SUBSTATE` are not events in this sense: the handlers drop them.
-/

namespace RuuviGateway
namespace Leds

open TransitionSystem

variable {s t : State}

/-! ## The last event about something -/

/-- What the events of `leds_ctrl2` are about. -/
inductive Topic where
  | wifiAp
  | wps
  | network
  | http1
  | http2
  | mqtt
  | httpPoll
  | recvAdv
  deriving DecidableEq

/-- What an event says about a topic.  A network connection speaks for the HTTP targets too. -/
def LedsCtrl2Event.about : LedsCtrl2Event → Topic → Option Bool
  | .wifiApStarted, .wifiAp => some true
  | .wifiApStopped, .wifiAp => some false
  | .wpsActivated, .wps => some true
  | .wpsDeactivated, .wps => some false
  | .networkConnected, .network => some true
  | .networkConnected, .http1 => some true
  | .networkConnected, .http2 => some true
  | .networkDisconnected, .network => some false
  | .mqtt1Connected, .mqtt => some true
  | .mqtt1Disconnected, .mqtt => some false
  | .http1DataSentSuccessfully, .http1 => some true
  | .http1DataSentFail, .http1 => some false
  | .http2DataSentSuccessfully, .http2 => some true
  | .http2DataSentFail, .http2 => some false
  | .httpPollOk, .httpPoll => some true
  | .httpPollTimeout, .httpPoll => some false
  | .recvAdv, .recvAdv => some true
  | .recvAdvTimeout, .recvAdv => some false
  | _, _ => none

/-- What is assumed of a topic before the first event about it. -/
def Topic.assumed : Topic → Bool
  | .wifiAp | .wps => false
  | .network | .http1 | .http2 | .mqtt | .httpPoll | .recvAdv => true

/-- What the last event about a topic says. -/
def lastAbout (events : List LedsCtrl2Event) (topic : Topic) : Bool :=
  (events.reverse.findSome? fun event => event.about topic).getD topic.assumed

theorem lastAbout_append (events : List LedsCtrl2Event) (event : LedsCtrl2Event)
    (topic : Topic) :
    lastAbout (events ++ [event]) topic =
      (event.about topic).getD (lastAbout events topic) := by
  unfold lastAbout
  rw [List.reverse_append, List.reverse_singleton, List.singleton_append, List.findSome?_cons]
  cases event.about topic with
  | none => rfl
  | some value => rfl

/-! ## The events of a run -/

/-- The events about connections that were handled in `SUBSTATE`. -/
def Run.events (r : Run) : List LedsCtrl2Event :=
  r.handled.filterMap fun h => if h.before.ctrl.isInSubstate then h.sig.ctrl2Event else none

/-- The targets of the last configuration: MQTT and the two HTTP targets. -/
def Run.targets (r : Run) : Bool × Bool × Bool :=
  (r.handled.reverse.findSome? fun h => h.sig.targets).getD (false, false, false)

/-- The topics that can be targets. -/
def possibleTargets : Finset Topic := {.http1, .http2, .mqtt}

/-- The configuration names a topic as a target. -/
def Run.isTarget (r : Run) : Topic → Bool
  | .http1 => r.targets.2.1
  | .http2 => r.targets.2.2
  | .mqtt => r.targets.1
  | _ => false

/-- The targets. -/
def Run.configuredTargets (r : Run) : Finset Topic :=
  possibleTargets.filter fun topic => r.isTarget topic = true

/-- The targets that are up. -/
def Run.activeTargets (r : Run) : Finset Topic :=
  r.configuredTargets.filter fun topic => lastAbout r.events topic = true

/-- **What is to be seen** in `SUBSTATE`. -/
def Run.indication (r : Run) : Sequence :=
  if lastAbout r.events .wifiAp then
    if lastAbout r.events .wps then ledsBlinkingModeWifiHotspotActiveAndWps
    else ledsBlinkingModeWifiHotspotActive
  else if lastAbout r.events .network = false then ledsBlinkingModeNetworkProblem
  else if lastAbout r.events .recvAdv = false then ledsBlinkingModeNoAdvs
  else if r.configuredTargets = ∅ then
    if lastAbout r.events .httpPoll then ledsBlinkingModeConnectedToAllTargets
    else ledsBlinkingModeNotConnectedToAnyTarget
  else if r.activeTargets = ∅ then ledsBlinkingModeNotConnectedToAnyTarget
  else if r.activeTargets = r.configuredTargets then ledsBlinkingModeConnectedToAllTargets
  else ledsBlinkingModeConnectedToSomeTargets

/-! ## The flags -/

/-- The flag of a topic. -/
def LedsCtrl2.flag (s : LedsCtrl2) : Topic → Bool
  | .wifiAp => s.flagWifiApActive
  | .wps => s.flagWpsActive
  | .network => s.flagNetworkConnected
  | .http1 => s.flagHttpConnStatus[0]
  | .http2 => s.flagHttpConnStatus[1]
  | .mqtt => s.mqttConnStatus
  | .httpPoll => s.flagHttpPollStatus
  | .recvAdv => s.flagRecvAdvStatus

/-- An event sets the flags of the topics it is about, and no others. -/
theorem LedsCtrl2.flag_handleEvent (s : LedsCtrl2) (event : LedsCtrl2Event) (topic : Topic) :
    (s.handleEvent event).flag topic = (event.about topic).getD (s.flag topic) := by
  cases event <;> cases topic <;>
    simp [handleEvent, flag, mqttConnStatus, setHttpConnStatus, setMqttConnStatus,
      LedsCtrl2Event.about]

theorem LedsCtrl2.params_handleEvent (s : LedsCtrl2) (event : LedsCtrl2Event) :
    (s.handleEvent event).params = s.params := by
  cases event <;> rfl

theorem LedsCtrl2.flag_init (topic : Topic) : LedsCtrl2.init.flag topic = topic.assumed := by
  cases topic <;> rfl

/-- The flags and the parameters follow the events. -/
structure Informed (r : Run) : Prop where
  flag : ∀ topic, r.state.ctrl2.flag topic = lastAbout r.events topic
  params : r.state.ctrl2.params = paramsOfCfg r.targets.1 r.targets.2.1 r.targets.2.2

theorem ctrl2_of_handleSig {sig : LedsTaskSig} (hready : Ready s)
    (h : handleSig s sig = some t) : t.ctrl2 = (sig.inform s).ctrl2 := by
  obtain ⟨rfl, hupdate⟩ | ⟨-, rfl, -⟩ | ⟨-, event, new, b, -, -, -, -, rfl⟩ := handleSig_cases h
  · obtain ⟨-, -, -, -, hctrl2, -⟩ := exists_shown hready hupdate
    exact hctrl2
  · rfl
  · rfl

/-- What a signal tells the sub-machine. -/
theorem ctrl2_inform (sig : LedsTaskSig) (s : State) :
    (sig.inform s).ctrl2 =
      match sig.targets with
      | some (useMqtt, useHttpRuuvi, useHttp) =>
          s.ctrl2.configure (paramsOfCfg useMqtt useHttpRuuvi useHttp)
      | none =>
          match if s.ctrl.isInSubstate then sig.ctrl2Event else none with
          | some event => s.ctrl2.handleEvent event
          | none => s.ctrl2 := by
  unfold LedsTaskSig.inform
  cases sig.targets with
  | some targets => rfl
  | none =>
    cases hevent : sig.ctrl2Event with
    | none => simp
    | some event =>
      simp only [handleCtrl2Event]
      cases s.ctrl.isInSubstate <;> rfl

/-- A configuration is not an event. -/
theorem ctrl2Event_eq_none_of_targets {sig : LedsTaskSig} (h : sig.targets.isSome = true) :
    sig.ctrl2Event = none := by
  cases sig <;> first | rfl | exact absurd h (by simp [LedsTaskSig.targets])

theorem events_append (s t u : State) (sig : LedsTaskSig) (handled : List Handled) :
    (Run.mk t (handled ++ [⟨s, sig, u⟩])).events =
      (Run.mk s handled).events ++
        (if s.ctrl.isInSubstate then sig.ctrl2Event else none).toList := by
  unfold Run.events
  rw [List.filterMap_append]
  cases hevent : if s.ctrl.isInSubstate then sig.ctrl2Event else none with
  | none => simp [hevent]
  | some event => simp [hevent]

theorem targets_append (s t u : State) (sig : LedsTaskSig) (handled : List Handled) :
    (Run.mk t (handled ++ [⟨s, sig, u⟩])).targets =
      sig.targets.getD (Run.mk s handled).targets := by
  unfold Run.targets
  rw [List.reverse_append, List.reverse_singleton, List.singleton_append, List.findSome?_cons]
  cases sig.targets with
  | none => rfl
  | some targets => rfl

theorem informed_sig {handled : List Handled} {sig : LedsTaskSig} (h : Informed ⟨s, handled⟩)
    (hready : Ready s) (hstep : handleSig s sig = some t) :
    Informed ⟨t, handled ++ [⟨s, sig, t⟩]⟩ := by
  have hctrl2 := (ctrl2_of_handleSig hready hstep).trans (ctrl2_inform sig s)
  cases htargets : sig.targets with
  | some targets =>
    have hnone : sig.ctrl2Event = none := ctrl2Event_eq_none_of_targets (by rw [htargets]; rfl)
    rw [htargets] at hctrl2
    constructor
    · intro topic
      rw [events_append, hnone, ite_self, Option.toList_none, List.append_nil]
      simp only [hctrl2]
      exact h.flag topic
    · rw [targets_append, htargets]
      simp only [hctrl2]
      rfl
  | none =>
    rw [htargets] at hctrl2
    cases hevent : if s.ctrl.isInSubstate then sig.ctrl2Event else none with
    | none =>
      rw [hevent] at hctrl2
      constructor
      · intro topic
        rw [events_append, hevent, Option.toList_none, List.append_nil]
        simp only [hctrl2]
        exact h.flag topic
      · rw [targets_append, htargets]
        simp only [hctrl2]
        exact h.params
    | some event =>
      rw [hevent] at hctrl2
      constructor
      · intro topic
        rw [events_append, hevent, Option.toList_some, lastAbout_append, ← h.flag topic]
        simp only [hctrl2]
        exact s.ctrl2.flag_handleEvent event topic
      · rw [targets_append, htargets]
        simp only [hctrl2, LedsCtrl2.params_handleEvent]
        exact h.params

theorem informed_of_reachable {r : Run} (h : runSystem.Reachable r) : Informed r := by
  refine System.ReachableVia.invariant ?_ ?_ h
  · rintro ⟨s, handled⟩ ⟨pressed, cnt, reset, hinit, rfl⟩
    have hs : s = _ := ledsInit_eq_some hinit
    subst hs
    exact ⟨LedsCtrl2.flag_init, show LedsCtrl2.init.params = paramsOfCfg false false false by
      decide⟩
  · rintro ⟨s, handled⟩ (sig | ⟨cnt, reset⟩) r' hreach hr - hstep
    · obtain ⟨t, ht, rfl⟩ := Option.map_eq_some_iff.mp hstep
      exact informed_sig hr (settled_of_reachable hreach).ready ht
    · obtain rfl := Option.some.inj hstep
      exact ⟨hr.flag, hr.params⟩

/-! ## The counts -/

/-- The bits of the mask are the HTTP targets of the configuration. -/
theorem isHttpTarget_of_params {s : LedsCtrl2} {useMqtt useHttpRuuvi useHttp : Bool}
    (h : s.params = paramsOfCfg useMqtt useHttpRuuvi useHttp) :
    s.isHttpTarget 0 = useHttpRuuvi ∧ s.isHttpTarget 1 = useHttp ∧
      s.params.flagUseMqtt = useMqtt := by
  unfold LedsCtrl2.isHttpTarget
  rw [h]
  clear h
  revert useMqtt useHttpRuuvi useHttp
  decide

theorem card_filter_possibleTargets (p : Topic → Prop) [DecidablePred p] :
    (possibleTargets.filter p).card =
      (if p .http1 then 1 else 0) + (if p .http2 then 1 else 0) + (if p .mqtt then 1 else 0) := by
  rw [Finset.card_filter, possibleTargets, Finset.sum_insert (by decide),
    Finset.sum_insert (by decide), Finset.sum_singleton, Nat.add_assoc]

/-- The counts are the numbers of targets and of those that are up. -/
theorem counts_eq {r : Run} (h : Informed r) :
    r.state.ctrl2.getNumConfiguredTargets = r.configuredTargets.card ∧
      r.state.ctrl2.numActiveTargets = r.activeTargets.card := by
  obtain ⟨h0, h1, hmqtt⟩ := isHttpTarget_of_params h.params
  have hup0 : r.state.ctrl2.flagHttpConnStatus[(0 : Fin 2)] = lastAbout r.events .http1 :=
    h.flag .http1
  have hup1 : r.state.ctrl2.flagHttpConnStatus[(1 : Fin 2)] = lastAbout r.events .http2 :=
    h.flag .http2
  have hupMqtt : r.state.ctrl2.mqttConnStatus = lastAbout r.events .mqtt := h.flag .mqtt
  have hrange : List.finRange ledsCtrlMaxNumHttpConn = [0, 1] := rfl
  rw [LedsCtrl2.getNumConfiguredTargets, LedsCtrl2.numActiveTargets, hrange, hmqtt, hupMqtt,
    Run.activeTargets, Run.configuredTargets, Finset.filter_filter, card_filter_possibleTargets,
    card_filter_possibleTargets]
  simp only [List.foldl_cons, List.foldl_nil, h0, h1, hup0, hup1, Run.isTarget]
  constructor
  · grind
  · grind

/-- **The indication in every run**: in `SUBSTATE` the sequence that is wanted next is determined
by the last event about each topic and by the last configuration. -/
theorem getNewBlinkingSequence_of_reachable {r : Run} (h : runSystem.Reachable r)
    (hsub : r.state.ctrl.isInSubstate = true) :
    r.state.ctrl.getNewBlinkingSequence r.state.ctrl2 = some r.indication := by
  have hr := informed_of_reachable h
  obtain ⟨hconfigured, hactive⟩ := counts_eq hr
  have hstate : r.state.ctrl.ledsSmState = .substate := of_decide_eq_true hsub
  have hcard : r.configuredTargets.card ≠ r.activeTargets.card ↔
      ¬ r.activeTargets = r.configuredTargets := by
    refine not_congr ⟨fun hcard => ?_, fun heq => by rw [heq]⟩
    exact Finset.eq_of_subset_of_card_le (Finset.filter_subset _ _) hcard.le
  rw [LedsCtrl.getNewBlinkingSequence, hstate, LedsCtrl2.getNewBlinkingSequence, hconfigured,
    hactive, Run.indication]
  have hap : r.state.ctrl2.flagWifiApActive = _ := hr.flag .wifiAp
  have hwps : r.state.ctrl2.flagWpsActive = _ := hr.flag .wps
  have hnet : r.state.ctrl2.flagNetworkConnected = _ := hr.flag .network
  have hadv : r.state.ctrl2.flagRecvAdvStatus = _ := hr.flag .recvAdv
  have hpoll : r.state.ctrl2.flagHttpPollStatus = _ := hr.flag .httpPoll
  simp only [hap, hwps, hnet, hadv, hpoll, hcard, Finset.card_eq_zero, Bool.not_eq_true',
    ite_not, Option.some.injEq]
  cases lastAbout r.events .httpPoll <;> rfl

/-- Of MQTT and the first HTTP target the latter has failed; an earlier event has been dropped. -/
theorem getNewBlinkingSequence_of_some_targets :
    ∃ r, runSystem.Reachable r ∧ r.events = [.http1DataSentFail] ∧
      r.state.ctrl.getNewBlinkingSequence r.state.ctrl2 =
        some ledsBlinkingModeConnectedToSomeTargets := by
  obtain ⟨r, hr, hp⟩ := System.exists_reachable_of_run init_firstRun
    [.sig .onEvNrf52FwCheck, .sig .onEvNetworkDisconnected, .sig .onEvNrf52Ready,
      .sig (.onEvCfgReady true true false), .sig .onEvHttp1DataSentFail]
    (fun r => decide (r.events = [.http1DataSentFail] ∧ r.state.ctrl.isInSubstate = true ∧
      r.indication = ledsBlinkingModeConnectedToSomeTargets)) (by decide +kernel)
  obtain ⟨hevents, hsub, hindication⟩ := of_decide_eq_true hp
  exact ⟨r, hr, hevents, hindication ▸ getNewBlinkingSequence_of_reachable hr hsub⟩

end Leds
end RuuviGateway
