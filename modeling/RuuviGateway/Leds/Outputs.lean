import RuuviGateway.Leds.Effects
import RuuviGateway.Lib.TransitionSystem

/-!
# What the LEDs and their timer do

The red LED, the published state of the green one and the timer of `UPDATE` are set in different
places: by the steps of a sequence, and by the callbacks for the states after and before a
reboot.  `Settled` says how they fit together.

A reboot stops the timer, except in the state after a reboot: there the callback for leaving that
state, which is called last, starts it again.

A run is a list of signals in any order, with what each of them did.  Other tasks use the analog
switch and the reset line of the nRF52 too; here they may do with them what they like.
-/

namespace RuuviGateway
namespace Leds

open TransitionSystem

variable {s t : State}

/-! ## Runs of the task -/

/-- A signal that has been handled. -/
structure Handled where
  before : State
  sig : LedsTaskSig
  after : State

/-- The globals, and the signals handled so far. -/
structure Run where
  state : State
  handled : List Handled

/-- What can happen. -/
inductive Act where
  /-- The task takes a signal. -/
  | sig (sig : LedsTaskSig)
  /-- Other tasks use the switch and the reset line. -/
  | others (switchCtrlCnt : Nat) (nrf52Reset : Bool)

/-- One step. -/
def runStep (r : Run) : Act → Option Run
  | .sig sig =>
      (handleSig r.state sig).map fun t =>
        { state := t, handled := r.handled ++ [⟨r.state, sig, t⟩] }
  | .others switchCtrlCnt nrf52Reset =>
      some { r with
        state := { r.state with
          board := { r.state.board with
            switchCtrlCnt := switchCtrlCnt, nrf52Reset := nrf52Reset } } }

/-- The task, from `leds_init` on. -/
def runSystem : System Run Act where
  init r := ∃ pressed switchCtrlCnt nrf52Reset,
    ledsInit pressed switchCtrlCnt nrf52Reset = some r.state ∧ r.handled = []
  step := runStep

/-- The states of the machine in which a reboot has been asked for. -/
def Run.reboots (r : Run) : List LedsCtrlState :=
  r.handled.filterMap fun h =>
    if h.sig = .onEvReboot then some h.before.ctrl.ledsSmState else none

/-! ## The invariant -/

/-- What a sequence needs in order to go on. -/
structure Ready (s : State) : Prop where
  started : s.ctrl.ledsSmState ≠ .initial
  playing : Playing s.blinking
  green : s.greenLedState = decide (s.ledsState = .green)

/-- How the LEDs and the timer fit together. -/
structure Settled (r : Run) : Prop where
  ready : Ready r.state
  fresh : r.state.ctrl.ledsSmState = .afterReboot → r.reboots = []
  red : r.state.board.redLed = true → r.state.ledsState = .red
  redLit : r.reboots = [] → r.state.ledsState = .red → r.state.board.redLed = true
  period : r.state.board.timerSigUpdate.periodMs =
    if r.state.ctrl.ledsSmState = .afterReboot then 25 else 100
  active : r.state.board.timerSigUpdate.active = false ↔
    ∃ state ∈ r.reboots, state ≠ .afterReboot ∧ state ≠ .beforeReboot

theorem playing_init {sequence : Sequence} (h : Playable sequence) :
    Playing (.init (some sequence)) :=
  ⟨sequence, rfl, h, List.length_pos_iff.mpr h.1⟩

theorem ledsInit_eq_some {pressed nrf52Reset : Bool} {switchCtrlCnt : Nat}
    (h : ledsInit pressed switchCtrlCnt nrf52Reset = some s) :
    s =
      { ctrl := ⟨if pressed then .cfgErasing else .afterReboot, pressed, false⟩
        ctrl2 := .init
        blinking :=
          .init (some (if pressed then ledsBlinkingOnCfgErasing else ledsBlinkingAfterReboot))
        ledsState := .off
        greenLedState := false
        board :=
          { timerSigUpdate := ⟨if pressed then 100 else 25, true⟩
            redLed := false
            switchCtrlCnt := switchCtrlCnt
            nrf52Reset := nrf52Reset } } := by
  rw [ledsInit, ledsCtrlInit_eq] at h
  cases pressed with
  | true => exact (Option.some.inj h).symm
  | false => exact (Option.some.inj h).symm

theorem settled_init {r : Run} (h : runSystem.init r) : Settled r := by
  obtain ⟨pressed, cnt, reset, hinit, hhandled⟩ := h
  have hreboots : r.reboots = [] := by rw [Run.reboots, hhandled, List.filterMap_nil]
  have hs := ledsInit_eq_some hinit
  refine ⟨⟨?_, ?_, ?_⟩, fun _ => hreboots, ?_, ?_, ?_, ?_⟩
  · rw [hs]
    cases pressed <;> simp
  · rw [hs]
    cases pressed <;> exact playing_init (by decide)
  · rw [hs]
    rfl
  · rw [hs]
    exact fun h => absurd h Bool.false_ne_true
  · rw [hs]
    exact fun _ h => absurd h (by simp)
  · rw [hs]
    cases pressed <;> rfl
  · rw [hreboots, hs]
    simp

/-! ## One step -/

/-- An update keeps a sequence going, and the LEDs in step with it. -/
theorem exists_shown (h : Ready s) (hstep : handleSigUpdate s = some t) :
    ∃ color u, Shown color s u ∧ t.ctrl = s.ctrl ∧ t.ctrl2 = s.ctrl2 ∧ t.board = u.board ∧
      t.ledsState = color ∧ Ready t := by
  obtain ⟨sequence, hseq, hplay, hidx⟩ := h.playing
  have hblink : s.blinking = ⟨some sequence, s.blinking.sequenceIdx⟩ := by rw [← hseq]
  obtain ⟨u, hshown, rfl⟩ :=
    shown_of_handleSigUpdate hplay hidx hblink h.started h.green hstep
  refine ⟨_, u, hshown, hshown.ctrl, hshown.ctrl2, rfl, hshown.ledsState, ?_, ?_, ?_⟩
  · exact hshown.ctrl ▸ h.started
  · obtain ⟨next, hnext, hplayNext⟩ := LedsCtrl.exists_playable h.started s.ctrl2
    by_cases hlast : s.blinking.sequenceIdx + 1 = sequence.length
    · rw [if_pos hlast, hnext]
      exact playing_init hplayNext
    · rw [if_neg hlast]
      exact ⟨sequence, rfl, hplay, by simp only; omega⟩
  · exact hshown.greenLedState.trans (by rw [hshown.ledsState])

theorem SameOutputs.ready (hsame : SameOutputs s t) (h : Ready s) : Ready t where
  started := hsame.ledsSmState ▸ h.started
  playing := hsame.blinking ▸ h.playing
  green := by rw [hsame.greenLedState, hsame.ledsState, h.green]

/-- Every signal keeps a sequence going. -/
theorem ready_handleSig {sig : LedsTaskSig} (h : Ready s) (hstep : handleSig s sig = some t) :
    Ready t := by
  obtain ⟨-, hupdate⟩ | ⟨-, rfl, -⟩ | ⟨-, event, new, b, -, hne, hnew, -, rfl⟩ :=
    handleSig_cases hstep
  · obtain ⟨-, -, -, -, -, -, -, hready⟩ := exists_shown h hupdate
    exact hready
  · exact (sameOutputs_inform sig s).ready h
  · have hready := (sameOutputs_inform sig s).ready h
    rw [← (sameOutputs_inform sig s).ledsSmState] at hne
    exact ⟨(LedsCtrl.newSmState_eq_some hnew hne).1, hready.playing, hready.green⟩

theorem reboots_append (s t : State) (sig : LedsTaskSig) (handled : List Handled) :
    (Run.mk t (handled ++ [⟨s, sig, t⟩])).reboots =
      (Run.mk s handled).reboots ++
        if sig = .onEvReboot then [s.ctrl.ledsSmState] else [] := by
  unfold Run.reboots
  rw [List.filterMap_append]
  by_cases hsig : sig = .onEvReboot <;> simp [hsig]

theorem ctrlEvent_eq_reboot_iff (sig : LedsTaskSig) :
    sig.ctrlEvent = some .reboot ↔ sig = .onEvReboot := by
  cases sig
  case onEvNrf52Rebooted gwCfgInitialized =>
    cases gwCfgInitialized <;> simp [LedsTaskSig.ctrlEvent]
  all_goals simp [LedsTaskSig.ctrlEvent]

/-- An update changes the LEDs, and nothing about the timer. -/
theorem settled_update {handled : List Handled} (h : Settled ⟨s, handled⟩)
    (hupdate : handleSigUpdate s = some t) : Settled ⟨t, handled ++ [⟨s, .update, t⟩]⟩ := by
  have hreboots := reboots_append s t .update handled
  obtain ⟨color, u, hshown, hctrl, -, hboard, hcolor, hready⟩ := exists_shown h.ready hupdate
  rw [if_neg (by decide), List.append_nil] at hreboots
  refine ⟨hready, ?_, ?_, ?_, ?_, ?_⟩
  · rw [hreboots, hctrl]
    exact h.fresh
  · simp only [hboard, hcolor, hshown.redLed]
    split
    · rename_i hsame
      exact fun hred => hsame.mp (h.red hred)
    · exact fun hred => of_decide_eq_true hred
  · rw [hreboots]
    simp only [hboard, hcolor, hshown.redLed]
    rintro hnil rfl
    split
    · rename_i hsame
      exact h.redLit hnil (hsame.mpr rfl)
    · exact decide_eq_true rfl
  · simp only [hboard, hctrl, hshown.timerSigUpdate]
    exact h.period
  · rw [hreboots]
    simp only [hboard, hshown.timerSigUpdate]
    exact h.active

/-- A signal that leaves the machine alone changes nothing; if it is a reboot, there has been one
before. -/
theorem settled_inform {handled : List Handled} {sig : LedsTaskSig} (h : Settled ⟨s, handled⟩)
    (hready : Ready (sig.inform s))
    (hstay : ∀ event, sig.ctrlEvent = some event →
      (sig.inform s).ctrl.newSmState event = some s.ctrl.ledsSmState) :
    Settled ⟨sig.inform s, handled ++ [⟨s, sig, sig.inform s⟩]⟩ := by
  have hreboots := reboots_append s (sig.inform s) sig handled
  have hsame := sameOutputs_inform sig s
  have hbefore : sig = .onEvReboot → s.ctrl.ledsSmState = .beforeReboot := by
    intro hsig
    exact (Option.some.inj (hstay .reboot ((ctrlEvent_eq_reboot_iff sig).mpr hsig))).symm
  have hmem : (∃ state ∈ (Run.mk (sig.inform s) (handled ++ [⟨s, sig, sig.inform s⟩])).reboots,
      state ≠ .afterReboot ∧ state ≠ .beforeReboot) ↔
      ∃ state ∈ (Run.mk s handled).reboots, state ≠ .afterReboot ∧ state ≠ .beforeReboot := by
    rw [hreboots]
    by_cases hsig : sig = .onEvReboot
    · simp [hsig, hbefore hsig]
    · simp [hsig]
  refine ⟨hready, ?_, ?_, ?_, ?_, ?_⟩
  · intro hafter
    simp only [hsame.ledsSmState] at hafter
    rw [hreboots, h.fresh hafter, if_neg]
    · rfl
    · intro hsig
      exact absurd (hafter.symm.trans (hbefore hsig)) (by decide)
  · simp only [hsame.board, hsame.ledsState]
    exact h.red
  · rw [hreboots]
    simp only [hsame.board, hsame.ledsState, List.append_eq_nil_iff]
    exact fun hnil => h.redLit hnil.1
  · simp only [hsame.board, hsame.ledsSmState]
    exact h.period
  · rw [hmem]
    simp only [hsame.board]
    exact h.active

/-- A transition leaves the state after a reboot behind, and the short period with it. -/
theorem settled_period {handled : List Handled} (h : Settled ⟨s, handled⟩)
    {timer : Timer} (hperiod : timer.periodMs = s.board.timerSigUpdate.periodMs) :
    (if s.ctrl.ledsSmState = .afterReboot then ⟨ledsTaskUpdatePeriodMs, true⟩
      else timer : Timer).periodMs = 100 := by
  split
  · rfl
  · rename_i hold
    exact hperiod.trans (h.period.trans (if_neg hold))

/-- The transition of a reboot turns the red LED off, and stops the timer unless the state after
a reboot is left. -/
theorem settled_reboot {handled : List Handled} {b : Board} (h : Settled ⟨s, handled⟩)
    (hready : Ready t) (hold : s.ctrl.ledsSmState ≠ .beforeReboot)
    (hnew : t.ctrl.ledsSmState = .beforeReboot) (hboard : t.board = b)
    (hb : callOnTransition ledsCallbacks s.ctrl.ledsSmState .beforeReboot s.board = some b) :
    Settled ⟨t, handled ++ [⟨s, .onEvReboot, t⟩]⟩ := by
  have hreboots := reboots_append s t .onEvReboot handled
  rw [if_pos rfl] at hreboots
  rw [callOnTransition_eq (by decide), if_pos rfl] at hb
  obtain ⟨-, hb⟩ := Option.ite_none_right_eq_some.mp hb
  obtain rfl := Option.some.inj hb
  refine ⟨hready, ?_, ?_, ?_, ?_, ?_⟩
  · simp only [hnew]
    exact fun h => absurd h (by decide)
  · simp only [hboard]
    exact fun h => absurd h Bool.false_ne_true
  · rw [hreboots]
    exact fun hnil => absurd hnil (by simp)
  · simp only [hboard, hnew]
    exact settled_period h rfl
  · rw [hreboots]
    simp only [hboard]
    by_cases hafter : s.ctrl.ledsSmState = .afterReboot
    · simp [hafter, h.fresh hafter]
    · simp only [if_neg hafter, true_iff]
      exact ⟨_, List.mem_append_right _ (List.mem_singleton_self _), hafter, hold⟩

/-- Any other transition starts the timer again where it leaves the state after a reboot. -/
theorem settled_transition {handled : List Handled} {sig : LedsTaskSig} {new : LedsCtrlState}
    {b : Board} (h : Settled ⟨s, handled⟩) (hready : Ready t) (hsig : sig ≠ .onEvReboot)
    (hafter : new ≠ .afterReboot) (hbefore : new ≠ .beforeReboot)
    (hnew : t.ctrl.ledsSmState = new) (hleds : t.ledsState = s.ledsState) (hboard : t.board = b)
    (hb : callOnTransition ledsCallbacks s.ctrl.ledsSmState new s.board = some b) :
    Settled ⟨t, handled ++ [⟨s, sig, t⟩]⟩ := by
  have hreboots := reboots_append s t sig handled
  rw [if_neg hsig, List.append_nil] at hreboots
  rw [callOnTransition_eq hafter, if_neg hbefore] at hb
  obtain rfl := Option.some.inj hb
  refine ⟨hready, fun h => absurd (hnew.symm.trans h) hafter, ?_, ?_, ?_, ?_⟩
  · simp only [hboard, hleds]
    exact h.red
  · rw [hreboots]
    simp only [hboard, hleds]
    exact h.redLit
  · simp only [hboard, hnew, if_neg hafter]
    exact settled_period h rfl
  · rw [hreboots]
    simp only [hboard]
    by_cases hold : s.ctrl.ledsSmState = .afterReboot
    · simp [hold, h.fresh hold]
    · simp only [if_neg hold]
      exact h.active

/-- Every signal keeps the LEDs and the timer together. -/
theorem settled_sig {handled : List Handled} {sig : LedsTaskSig} (h : Settled ⟨s, handled⟩)
    (hstep : handleSig s sig = some t) :
    Settled ⟨t, handled ++ [⟨s, sig, t⟩]⟩ := by
  have hready := ready_handleSig h.ready hstep
  obtain ⟨rfl, hupdate⟩ | ⟨-, rfl, hstay⟩ | ⟨-, event, new, b, hevent, hne, hnew, hb, rfl⟩ :=
    handleSig_cases hstep
  · exact settled_update h hupdate
  · exact settled_inform h hready hstay
  · have hsame := sameOutputs_inform sig s
    obtain ⟨-, hafter, hreboot⟩ := LedsCtrl.newSmState_eq_some hnew (by
      rw [hsame.ledsSmState]
      exact hne)
    have hsig : sig = .onEvReboot ↔ new = .beforeReboot := by
      rw [hreboot, ← ctrlEvent_eq_reboot_iff, hevent, Option.some.injEq]
    by_cases hbefore : new = .beforeReboot
    · obtain rfl := hsig.mpr hbefore
      subst hbefore
      exact settled_reboot h hready hne.symm rfl rfl hb
    · exact settled_transition h hready (mt hsig.mp hbefore) hafter hbefore rfl hsame.ledsState
        rfl hb

/-! ## The property -/

theorem settled_of_reachable {r : Run} (h : runSystem.Reachable r) : Settled r := by
  refine h.invariant (fun r hinit => settled_init hinit) ?_
  rintro r (sig | ⟨cnt, reset⟩) r' - hr - hstep
  · obtain ⟨t, ht, rfl⟩ := Option.map_eq_some_iff.mp hstep
    exact settled_sig hr ht
  · obtain rfl := Option.some.inj hstep
    exact ⟨⟨hr.ready.started, hr.ready.playing, hr.ready.green⟩, hr.fresh, hr.red, hr.redLit,
      hr.period, hr.active⟩

/-- **The outputs of the task in every run.**  The two LEDs are never lit together, and until a
reboot is asked for they show exactly the last colour.  The timer has the short period just in
the state after a reboot, and it is stopped once a reboot has been asked for in another state
than that one. -/
theorem outputs_of_reachable {r : Run} (h : runSystem.Reachable r) :
    ¬ (r.state.board.redLed = true ∧ r.state.greenLedState = true) ∧
      (r.state.greenLedState = true ↔ r.state.ledsState = .green) ∧
      (r.reboots = [] → (r.state.board.redLed = true ↔ r.state.ledsState = .red)) ∧
      r.state.board.timerSigUpdate.periodMs =
        (if r.state.ctrl.ledsSmState = .afterReboot then 25 else 100) ∧
      (r.state.board.timerSigUpdate.active = false ↔
        ∃ state ∈ r.reboots, state ≠ .afterReboot ∧ state ≠ .beforeReboot) := by
  have hr := settled_of_reachable h
  have hgreen : r.state.greenLedState = true ↔ r.state.ledsState = .green := by
    rw [hr.ready.green, decide_eq_true_iff]
  refine ⟨?_, hgreen, fun hnil => ⟨hr.red, hr.redLit hnil⟩, hr.period, hr.active⟩
  rintro ⟨hred, hgr⟩
  exact absurd ((hr.red hred).symm.trans (hgreen.mp hgr)) (by decide)

/-- A start without the button. -/
def firstRun : Run := ⟨(ledsInit false 1 true).get (by decide +kernel), []⟩

theorem init_firstRun : runSystem.init firstRun :=
  ⟨false, 1, true, (Option.some_get _).symm, rfl⟩

/-- Red is lit by the first update, and a reboot at that moment leaves the timer running. -/
theorem outputs_of_early_reboot :
    ∃ r, runSystem.Reachable r ∧ r.state.ledsState = .red ∧
      r.reboots = [.afterReboot] ∧ r.state.greenLedState = false ∧
      r.state.board.timerSigUpdate.active ≠ false := by
  obtain ⟨r, hr, hp⟩ := System.exists_reachable_of_run init_firstRun
    [.sig .update, .sig .onEvReboot]
    (fun r => decide (r.state.ledsState = .red ∧ r.reboots = [.afterReboot])) (by decide +kernel)
  obtain ⟨hred, hreboots⟩ := of_decide_eq_true hp
  obtain ⟨-, hgreen, -, -, hactive⟩ := outputs_of_reachable hr
  refine ⟨r, hr, hred, hreboots, ?_, ?_⟩
  · rw [← Bool.not_eq_true, hgreen, hred]
    decide
  · rw [Ne, hactive, hreboots]
    decide

end Leds
end RuuviGateway
