import RuuviGateway.Leds.Outputs

/-!
# No sequence is cut short

What decides about the LEDs may change at any moment, but the task asks for a new sequence only
after the last colour of the old one (`leds_blinking_set_new_sequence` insists on it).  So the
colours shown since the start are whole sequences, one after the other, and the beginning of the
one that is being shown; each of them is the one that was wanted when the one before it had
ended.  None has more than 20 colours, so a change is seen after at most 19 more.
-/

namespace RuuviGateway
namespace Leds

open TransitionSystem

variable {s t : State}

/-- The colours shown so far, one for each update. -/
def Run.shown (r : Run) : List LedsColor :=
  r.handled.filterMap fun h => if h.sig = .update then some h.after.ledsState else none

/-- The sequences that were wanted when another one had ended. -/
def Run.chosen (r : Run) : List Sequence :=
  r.handled.filterMap fun h =>
    if h.sig = .update ∧ h.after.blinking.sequenceIdx = 0 then
      h.after.ctrl.getNewBlinkingSequence h.after.ctrl2
    else none

/-- **The property**: the colours shown are whole sequences and a part of the current one. -/
def ShownWhole (r : Run) : Prop :=
  ∃ first ∈ [ledsBlinkingOnCfgErasing, ledsBlinkingAfterReboot], ∃ whole current,
    first :: r.chosen = whole ++ [current] ∧
      r.state.blinking.pSequence = some current ∧
      r.state.blinking.sequenceIdx < current.length ∧ current.length ≤ 20 ∧
      r.shown = whole.flatMap colorsOf ++ (colorsOf current).take r.state.blinking.sequenceIdx

theorem length_getNewBlinkingSequence_le (c2 : LedsCtrl2) :
    c2.getNewBlinkingSequence.length ≤ 20 := by
  unfold LedsCtrl2.getNewBlinkingSequence
  repeat' split
  all_goals decide

theorem length_le_of_getNewBlinkingSequence {c : LedsCtrl} {c2 : LedsCtrl2}
    {sequence : Sequence} (h : c.getNewBlinkingSequence c2 = some sequence) :
    sequence.length ≤ 20 := by
  obtain ⟨state, pressed, configured⟩ := c
  cases state
  case initial => exact absurd h (by simp [LedsCtrl.getNewBlinkingSequence])
  case substate => exact Option.some.inj h ▸ length_getNewBlinkingSequence_le c2
  all_goals
    rw [← Option.some.inj h]
    decide

/-- Other signals show nothing and choose nothing. -/
theorem shownWhole_of_ne_update {handled : List Handled} {sig : LedsTaskSig}
    (h : ShownWhole ⟨s, handled⟩) (hsig : sig ≠ .update) (hblink : t.blinking = s.blinking) :
    ShownWhole ⟨t, handled ++ [⟨s, sig, t⟩]⟩ := by
  have hshown : (Run.mk t (handled ++ [⟨s, sig, t⟩])).shown = (Run.mk s handled).shown := by
    unfold Run.shown
    rw [List.filterMap_append]
    simp [hsig]
  have hchosen : (Run.mk t (handled ++ [⟨s, sig, t⟩])).chosen = (Run.mk s handled).chosen := by
    unfold Run.chosen
    rw [List.filterMap_append]
    simp [hsig]
  rw [ShownWhole, hshown, hchosen]
  simp only [hblink]
  exact h

theorem take_append_getElem {l : List LedsColor} {i : Nat} (h : i < l.length) :
    l.take i ++ [l[i]] = l.take (i + 1) := by
  rw [List.take_add_one, List.getElem?_eq_getElem h, Option.toList_some]

/-- An update shows one more colour, and may choose the next sequence. -/
theorem shownWhole_update {handled : List Handled} (h : ShownWhole ⟨s, handled⟩)
    (hready : Ready s) (hstep : handleSigUpdate s = some t) :
    ShownWhole ⟨t, handled ++ [⟨s, .update, t⟩]⟩ := by
  obtain ⟨first, hfirst, whole, current, hchosen, hseq, hidx, hlen, hshown⟩ := h
  simp only at hseq hidx hshown
  generalize hi : s.blinking.sequenceIdx = i at hidx hshown
  have hblink : s.blinking = ⟨some current, i⟩ := by rw [← hseq, ← hi]
  have hplay : Playable current := by
    obtain ⟨sequence, hsequence, hplay, -⟩ := hready.playing
    exact Option.some.inj (hseq.symm.trans hsequence) ▸ hplay
  obtain ⟨u, hu, rfl⟩ :=
    shown_of_handleSigUpdate hplay hidx hblink hready.started hready.green hstep
  have hshown' : ∀ blinking, (Run.mk { u with blinking := blinking } (handled ++
      [⟨s, .update, { u with blinking := blinking }⟩])).shown =
        whole.flatMap colorsOf ++ (colorsOf current).take (i + 1) := by
    intro blinking
    unfold Run.shown
    rw [List.filterMap_append, ← take_append_getElem (by simpa using hidx), ← List.append_assoc,
      ← hshown]
    simp [Run.shown, hu.ledsState]
  by_cases hlast : i + 1 = current.length
  · obtain ⟨next, hnext, hplayNext⟩ := LedsCtrl.exists_playable hready.started s.ctrl2
    refine ⟨first, hfirst, whole ++ [current], next, ?_, ?_, ?_,
      length_le_of_getNewBlinkingSequence hnext, ?_⟩
    · rw [← hchosen, Run.chosen, List.filterMap_append, Run.chosen]
      simp [hlast, hu.ctrl, hu.ctrl2, hnext]
    · simp only [if_pos hlast, hnext]
    · simp only [if_pos hlast]
      exact List.length_pos_iff.mpr hplayNext.1
    · rw [hshown', hlast, List.flatMap_append, List.flatMap_singleton,
        List.take_of_length_le (by simp)]
      simp
  · refine ⟨first, hfirst, whole, current, ?_, ?_, ?_, hlen, ?_⟩
    · rw [← hchosen, Run.chosen, List.filterMap_append, Run.chosen]
      simp [hlast]
    · simp only [if_neg hlast]
    · simp only [if_neg hlast]
      omega
    · rw [hshown']
      simp [hlast]

/-- **No sequence is cut short**, in whatever order the signals come. -/
theorem shownWhole_of_reachable {r : Run} (h : runSystem.Reachable r) : ShownWhole r := by
  refine System.ReachableVia.invariant ?_ ?_ h
  · rintro ⟨s, handled⟩ ⟨pressed, cnt, reset, hinit, rfl⟩
    have hs := ledsInit_eq_some hinit
    refine ⟨if pressed then ledsBlinkingOnCfgErasing else ledsBlinkingAfterReboot, ?_, [],
      if pressed then ledsBlinkingOnCfgErasing else ledsBlinkingAfterReboot, rfl, ?_⟩
    · cases pressed <;> simp
    · rw [hs]
      cases pressed <;> exact ⟨rfl, Nat.succ_pos _, by decide, rfl⟩
  · rintro ⟨s, handled⟩ (sig | ⟨cnt, reset⟩) r' hreach hr - hstep
    · obtain ⟨t, ht, rfl⟩ := Option.map_eq_some_iff.mp hstep
      have hready := (settled_of_reachable hreach).ready
      obtain ⟨rfl, hupdate⟩ | ⟨hsig, rfl, -⟩ | ⟨hsig, event, new, b, -, -, -, -, rfl⟩ :=
        handleSig_cases ht
      · exact shownWhole_update hr hready hupdate
      · exact shownWhole_of_ne_update hr hsig (sameOutputs_inform sig s).blinking
      · exact shownWhole_of_ne_update hr hsig (sameOutputs_inform sig s).blinking
    · obtain rfl := Option.some.inj hstep
      exact hr

/-- The check of the nRF52 begins during the first sequence, which is shown to its end. -/
theorem shownWhole_of_early_check :
    ∃ r, runSystem.Reachable r ∧ r.state.ctrl.ledsSmState = .checkingNrf52Fw ∧
      r.state.blinking.sequenceIdx = 3 ∧ ShownWhole r := by
  obtain ⟨r, hr, hp⟩ := System.exists_reachable_of_run init_firstRun
    [.sig .update, .sig .onEvNrf52FwCheck, .sig .update, .sig .update]
    (fun r => decide (r.state.ctrl.ledsSmState = .checkingNrf52Fw ∧
      r.state.blinking.sequenceIdx = 3)) (by decide +kernel)
  obtain ⟨hstate, hidx⟩ := of_decide_eq_true hp
  exact ⟨r, hr, hstate, hidx, shownWhole_of_reachable hr⟩

end Leds
end RuuviGateway
