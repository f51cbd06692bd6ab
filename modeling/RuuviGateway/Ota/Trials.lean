import RuuviGateway.Ota.Rollback

/-!
# Updates, as they are seen from outside

Which firmware is committed can be read from `otadata`: `committedSlot`.  It is complete at all
times, and the bootloader comes back to it from every state in which a firmware is executed.  The
states and steps of the gateway are those of `AbUpdate`, so a new firmware is started at most once
for each update.

What happens if an update is started during a trial is told by `update_during_trial`: the image of
the committed firmware is protected, its data partitions are not.
-/

namespace RuuviGateway
namespace Ota

open TornWrites TransitionSystem
open AbUpdate (Event Move Trial Versions)

attribute [local instance] neZero_two

variable {k : Checks} {idf : EspOta} {s t : State} {i c r : Fin 2} {q : UInt32}

/-! ## The committed firmware -/

/-- The slot of the settled entry with the highest number, and the first one without any. -/
def committedSlot (crc32 : UInt32 → UInt32) (o : Otadata) : Fin 2 :=
  match selectOtadata o fun i => settled crc32 (o i) with
  | some i => slotOfSeq 2 (o i).otaSeq
  | none => 0

theorem Backed.committedSlot {crc32 : UInt32 → UInt32} {L : Prop} {o : Otadata}
    (h : Backed crc32 L o i c q) : committedSlot crc32 o = c := by
  have hfree : settled crc32 (o i.rev) = true → (o i.rev).otaSeq < q := by
    intro hset
    obtain ⟨-, ⟨-, hlt⟩ | ⟨htrial, -⟩⟩ := h.beside (settled_iff.mp hset).1
    · exact hlt
    · exact absurd htrial (by rw [onTrial_of_settled hset]; exact Bool.false_ne_true)
  obtain ⟨hset, hseq, -, hslot⟩ | ⟨rfl, hbad, rfl, rfl⟩ := h.base
  · have hsel : selectOtadata o (fun i => settled crc32 (o i)) = some i :=
      selectOtadata_of_lt hset fun hs => by rw [hseq]; exact hfree hs
    rw [Ota.committedSlot, hsel, ← hslot, ← hseq]
  · have hsel : selectOtadata o (fun i => settled crc32 (o i)) = none := by
      refine selectOtadata_eq_none.mpr (Fin.forall_fin_two.mpr ⟨?_, ?_⟩)
      · rw [Bool.eq_false_iff]
        exact fun hs => Nat.not_lt_zero _ (hfree hs)
      · rw [settled, otaSelectValid_of_not_intact hbad, Bool.false_and]
    rw [Ota.committedSlot, hsel]

variable (k) in
/-- What an operator can rely on, whatever happens next. -/
structure FallsBack (s : State) (c : Fin 2) : Prop where
  /-- The slot holds a complete firmware. -/
  complete : Complete k (s.parts c)
  /-- Another firmware is executed on trial only. -/
  executed : ∀ r, s.slot = some r → r = c ∨ r = c.rev ∧ notConfirmed k.crc32 s.otadata r = true
  /-- From a firmware that is executed, a restart leads to the slot. -/
  restart : s.slot ≠ none → (bootloader k.crc32 s.otadata (s.loads k)).loaded = some c
  /-- With the power off, the next start is one of the slot or of a trial. -/
  start : (bootloader k.crc32 s.otadata (s.loads k)).loaded = some c ∨
    (bootloader k.crc32 s.otadata (s.loads k)).loaded = some c.rev ∧
      ∃ j, onTrial k.crc32 (s.otadata j) = true ∧ (s.otadata j).otaState = ImgState.new

theorem Kept.loaded (h : Kept k s i c q) :
    (bootloader k.crc32 s.otadata (s.loads k)).loaded = some c ∨
      (bootloader k.crc32 s.otadata (s.loads k)).loaded = some c.rev ∧
        Armed k.crc32 s.otadata i := by
  by_cases ha : Armed k.crc32 s.otadata i
  · right
    rw [bootloader_of_armed h.backed ha (h.backed.trial ha.1).2.2.2]
    exact ⟨rfl, ha⟩
  · exact .inl (loaded_of_not_armed h.backed ha h.complete.imageVerify)

theorem not_armed_of_started {crc32 : UInt32 → UInt32} {o : Otadata} (h : Started crc32 o i) :
    ¬Armed crc32 o i := fun ha => absurd (h.2.symm.trans ha.2) (by decide)

/-- **There is always a complete firmware to fall back to.** -/
theorem fallsBack_of_reachable (hidf : LawfulEspOta k.crc32 idf)
    (h : (gatewaySystem k idf).ReachableVia (Careful k) s) :
    FallsBack k s (committedSlot k.crc32 s.otadata) := by
  obtain ⟨i, c, q, hkept⟩ := kept_of_reachable hidf h
  rw [hkept.backed.committedSlot]
  refine ⟨hkept.complete, fun r hr => ?_, fun hslot => ?_, ?_⟩
  · obtain ⟨rfl, -⟩ | ⟨rfl, hs⟩ := hkept.runs r hr
    · exact .inl rfl
    · exact .inr ⟨rfl, notConfirmed_of_started hkept.backed hs⟩
  · obtain ⟨r, hr⟩ := Option.ne_none_iff_exists'.mp hslot
    refine loaded_of_not_armed hkept.backed ?_ hkept.complete.imageVerify
    obtain ⟨-, hquiet⟩ | ⟨-, hs⟩ := hkept.runs r hr
    · exact fun ha => absurd ha.1 (by rw [hquiet]; exact Bool.false_ne_true)
    · exact not_armed_of_started hs
  · exact hkept.loaded.imp_right fun h => ⟨h.1, _, h.2⟩

/-- Images of a few bytes, and what the checks say about them. -/
def smallChecks : Checks where
  crc32 := crc32Le
  imageVerify app := app.head? == some 1
  gwuiSignature _ gwui := gwui.head? == some 1
  nrf52Signature _ nrf52 := nrf52 == [1, 2, 9]
  wlArea _ := [9]

/-- The functions of ESP-IDF for that checksum. -/
def smallEspOta : EspOta where
  getStatePartition o slot :=
    if calcSlotFromSeq 2 (o 0).otaSeq = some slot ∧ intact crc32Le (o 0) = true then
      some (o 0).otaState
    else if calcSlotFromSeq 2 (o 1).otaSeq = some slot ∧ intact crc32Le (o 1) = true then
      some (o 1).otaState
    else none
  markAppValidCancelRollback o :=
    (getActiveOtadata crc32Le o).map fun i =>
      if (o i).otaState = ImgState.valid then none
      else some (i, { o i with otaState := ImgState.valid })
  markAppInvalidRollbackAndReboot o loads :=
    (getActiveOtadata crc32Le o).bind fun i =>
      if otaSelectValid crc32Le (o i.rev) && loads (slotOfSeq 2 (o i.rev).otaSeq) then
        some (i, { o i with otaState := ImgState.invalid })
      else none

theorem lawful_smallEspOta : LawfulEspOta smallChecks.crc32 smallEspOta where
  getStatePartition_of_unique o slot i hi hslot hother := by
    have hintact := (otaSelectValid_iff_intact.mp hi).1
    obtain rfl | rfl := eq_zero_or_eq_one i
    · exact if_pos ⟨hslot, hintact⟩
    · exact (if_neg fun h => hother h.2 h.1).trans (if_pos ⟨hslot, hintact⟩)
  markAppValid_eq o w h := by
    obtain ⟨i, hi, hw⟩ := Option.map_eq_some_iff.mp h
    obtain ⟨-, hw⟩ := Option.ite_none_left_eq_some.mp hw
    obtain rfl := Option.some.inj hw
    exact ⟨hi, rfl⟩
  markAppInvalid_eq o loads w h := by
    obtain ⟨i, hi, hw⟩ := Option.bind_eq_some_iff.mp h
    obtain ⟨-, hw⟩ := Option.ite_none_right_eq_some.mp hw
    obtain rfl := Option.some.inj hw
    exact ⟨hi, rfl⟩

def smallFirmware : Partitions := ⟨[1, 2, 3], [1, 2, 3], [1, 2, 3]⟩

/-- A new gateway. -/
def smallGateway : State where
  otadata := fun _ => .erased
  parts slot := if slot = 0 then smallFirmware else ⟨[], [], []⟩
  phase := .off

theorem init_smallGateway : (gatewaySystem smallChecks smallEspOta).init smallGateway :=
  ⟨rfl, ⟨rfl, rfl, by decide, rfl⟩, rfl⟩

/-- An update from the first slot. -/
def smallUpdate : Update where
  env := FwUpdate.sampleEnv FwUpdate.resumedRun
  contents := smallFirmware
  otadata := .done
  powerLost := false
  eraseApp := .done
  eraseGwui := .done
  eraseNrf52 := .done

/-- The first start, an update, and the start of the new firmware. -/
def smallRun : List Label :=
  [.boot [.done] false, .mainTaskInit true .done, .update smallUpdate, .boot [.done] false]

/-- The new firmware is executed, and there is the old one to fall back to. -/
theorem fallsBack_of_small_run : ∃ s, s.slot = some 1 ∧
    FallsBack smallChecks s (committedSlot smallChecks.crc32 s.otadata) := by
  obtain ⟨s, hs, hslot⟩ := System.exists_reachableVia_of_run (C := Careful smallChecks)
    init_smallGateway smallRun (fun s => s.slot == some 1) (by decide +kernel)
  exact ⟨s, by simpa using hslot, fallsBack_of_reachable lawful_smallEspOta hs⟩

/-! ## Moves of the two firmwares -/

variable (k) in
/-- The two firmwares, as `AbUpdate` sees them. -/
def State.versions (s : State) : Versions (Fin 2) where
  committed := committedSlot k.crc32 s.otadata
  trial :=
    if trialOf k.crc32 (s.otadata 0) = .none then trialOf k.crc32 (s.otadata 1)
    else trialOf k.crc32 (s.otadata 0)
  executed := s.slot

theorem Kept.versions (h : Kept k s i c q) :
    s.versions k = ⟨c, trialOf k.crc32 (s.otadata i.rev), s.slot⟩ := by
  have hbase := trialOf_eq_none h.backed.base.quiet
  rw [State.versions, h.backed.committedSlot]
  obtain rfl | rfl := eq_zero_or_eq_one i
  · rw [hbase, if_pos rfl, rev_zero]
  · rw [hbase, rev_one]
    split
    · rename_i h0
      rw [h0]
    · rfl

/-- A step is a move. -/
theorem Kept.move (hidf : LawfulEspOta k.crc32 idf) {l : Label} (h : Kept k s i c q)
    (hcare : Careful k s l) (hstep : step k idf s l = some t) :
    Move Fin.rev l.event (s.versions k) (t.versions k) := by
  obtain ⟨i', c', q', h', hmove⟩ := next_step hidf h hcare hstep
  rw [h.versions, h'.versions]
  exact hmove

/-- **The gateway refines the two versions**: every step is a move of them, for the event that the
step stands for. -/
theorem versions_move (hidf : LawfulEspOta k.crc32 idf) {l : Label}
    (h : (gatewaySystem k idf).ReachableVia (Careful k) s) (hcare : Careful k s l)
    (hstep : step k idf s l = some t) :
    Move Fin.rev l.event (s.versions k) (t.versions k) := by
  obtain ⟨i, c, q, hkept⟩ := kept_of_reachable hidf h
  exact hkept.move hidf hcare hstep

/-- The new firmware is started: a trial of the other version. -/
theorem versions_move_of_small_run : ∃ s t : State, t.slot = some 1 ∧
    Move Fin.rev (Label.boot [.done] false).event (s.versions smallChecks)
      (t.versions smallChecks) := by
  obtain ⟨s, hs, hstep⟩ := System.exists_reachableVia_of_run (C := Careful smallChecks)
    init_smallGateway (smallRun.take 3)
    (fun s => (step smallChecks smallEspOta s (.boot [.done] false)).any fun t =>
      t.slot == some 1) (by decide +kernel)
  cases ht : step smallChecks smallEspOta s (.boot [.done] false) with
  | none => simp [ht] at hstep
  | some t =>
    rw [ht, Option.any_some, beq_iff_eq] at hstep
    exact ⟨s, t, hstep, versions_move lawful_smallEspOta hs (by simp [Careful]) ht⟩

/-! ## Trials of a new firmware -/

/-- A gateway with what has happened from some state on: the updates that got all of their images,
and the starts of a firmware that is not the committed one. -/
structure History where
  state : State
  updates : Nat
  trials : Nat

variable (k idf) in
/-- One step, with what it adds to the history. -/
def historyStep (x : History) (l : Label) : Option History :=
  (step k idf x.state l).map fun t =>
    { state := t
      updates := x.updates + if l.event = .update then 1 else 0
      trials := x.trials + AbUpdate.starts Fin.rev (x.state.versions k) (t.versions k) }

variable (k idf) in
/-- The gateway with its history from the state `s` on. -/
def historySystem (s : State) : System History Label where
  init x := x = ⟨s, 0, 0⟩
  step := historyStep k idf

variable (k) in
/-- The care that the environment takes. -/
def History.Careful (x : History) (l : Label) : Prop := Ota.Careful k x.state l

instance (x : History) (l : Label) : Decidable (x.Careful k l) :=
  inferInstanceAs (Decidable (Ota.Careful k x.state l))

theorem reachable_of_history (hs : (gatewaySystem k idf).ReachableVia (Careful k) s)
    {x : History} (h : (historySystem k idf s).ReachableVia (History.Careful k) x) :
    (gatewaySystem k idf).ReachableVia (Careful k) x.state := by
  refine h.invariant (P := fun x => (gatewaySystem k idf).ReachableVia (Careful k) x.state)
    (fun x (hx : x = ⟨s, 0, 0⟩) => hx ▸ hs) fun x l y _ hreach hcare hstep => ?_
  obtain ⟨t, ht, rfl⟩ := Option.map_eq_some_iff.mp hstep
  exact hreach.step hcare ht

/-- A trial is not asked for while a firmware is executed. -/
theorem Kept.pending_eq_zero (h : Kept k s i c q) (hslot : s.slot ≠ none) :
    (s.versions k).pending = 0 := by
  obtain ⟨r, hr⟩ := Option.ne_none_iff_exists'.mp hslot
  refine if_neg ?_
  rw [h.versions]
  obtain ⟨-, hquiet⟩ | ⟨-, hs⟩ := h.runs r hr
  · rw [trialOf_eq_none (hquiet _)]
    exact Trial.noConfusion
  · rw [trialOf_of_started hs]
    exact Trial.noConfusion

/-- There is none to come at the first start either. -/
theorem pending_of_init (h : (gatewaySystem k idf).init s) : (s.versions k).pending = 0 := by
  have hnone : trialOf k.crc32 OtaSelectEntry.erased = .none :=
    trialOf_eq_none (onTrial_of_not_intact rfl)
  simp [State.versions, h.1, hnone, Versions.pending]

/-- **A new firmware is started at most once for each update**, from any state on: in a run there
are not more trials than updates, up to one that was asked for before.  There is none of these
if a firmware is executed, such as one on trial, or at the first start. -/
theorem trials_le_updates (hidf : LawfulEspOta k.crc32 idf)
    (hs : (gatewaySystem k idf).ReachableVia (Careful k) s) {x : History}
    (h : (historySystem k idf s).ReachableVia (History.Careful k) x) :
    x.trials ≤ x.updates + (s.versions k).pending ∧
      (s.slot ≠ none ∨ (gatewaySystem k idf).init s → x.trials ≤ x.updates) := by
  have hpending : x.trials + (x.state.versions k).pending ≤
      x.updates + (s.versions k).pending := by
    refine h.invariant
      (P := fun x => x.trials + (x.state.versions k).pending ≤
        x.updates + (s.versions k).pending) (fun x hx => ?_) fun x l y hx hle hcare hstep => ?_
    · obtain rfl : x = ⟨s, 0, 0⟩ := hx
      exact Nat.le_refl _
    · obtain ⟨t, ht, rfl⟩ := Option.map_eq_some_iff.mp hstep
      obtain ⟨i, c, q, hkept⟩ := kept_of_reachable hidf (reachable_of_history hs hx)
      have hmove := (hkept.move hidf hcare ht).pending_le rev_ne
      simp only
      omega
  have hle := Nat.le_of_add_right_le hpending
  refine ⟨hle, fun hnone => ?_⟩
  have hzero : (s.versions k).pending = 0 := by
    obtain hslot | hinit := hnone
    · obtain ⟨i, c, q, hkept⟩ := kept_of_reachable hidf hs
      exact hkept.pending_eq_zero hslot
    · exact pending_of_init hinit
  rwa [hzero, Nat.add_zero] at hle

/-- A new firmware that is restarted before it is confirmed: the old one is started, and the new
one is not started again. -/
theorem trials_of_small_run : ∃ (s : State) (x : History), s.slot = some 1 ∧
    x.state.slot = some 0 ∧ x.updates = 0 ∧ x.trials ≤ x.updates := by
  obtain ⟨s, hs, hp⟩ := System.exists_reachableVia_of_run (C := Careful smallChecks)
    init_smallGateway smallRun
    (fun s => decide (s.slot = some 1) &&
      ((historySystem smallChecks smallEspOta s).runVia (History.Careful smallChecks) ⟨s, 0, 0⟩
        [.restart, .boot [.done] false]).any fun x : History =>
          decide (x.state.slot = some 0 ∧ x.updates = 0)) (by decide +kernel)
  obtain ⟨hslot, hp⟩ := Bool.and_eq_true_iff.mp hp
  obtain ⟨x, hx, hend⟩ := System.exists_reachableVia_of_run
    (S := historySystem smallChecks smallEspOta s) rfl _ _ hp
  obtain ⟨hback, hupdates⟩ := of_decide_eq_true hend
  have hslot := of_decide_eq_true hslot
  exact ⟨s, x, hslot, hback, hupdates, (trials_le_updates lawful_smallEspOta hs hx).2
    (.inl (by rw [hslot]; exact Option.some_ne_none _))⟩

/-! ## An update during a trial -/

/-- **A firmware on trial that is asked for an update** is refused it.  It leaves the entries and
the image of the committed firmware alone, but then erases its data partitions.  The restart that
follows leads back to it all the same. -/
theorem update_during_trial (hidf : LawfulEspOta k.crc32 idf) {u : Update} {state : UInt32}
    (h : (gatewaySystem k idf).ReachableVia (Careful k) s) (hphase : s.phase = .running r state)
    (htrial : notConfirmed k.crc32 s.otadata r = true)
    (hstep : step k idf s (.update u) = some t) (hgwui : u.eraseGwui = .done)
    (hnrf52 : u.eraseNrf52 = .done) :
    r.rev = committedSlot k.crc32 s.otadata ∧
      t.otadata = s.otadata ∧
      t.parts r.rev =
        { app := (s.parts r.rev).app
          gwui := eraseFirstSector (s.parts r.rev).gwui
          nrf52 := eraseFirstSector (s.parts r.rev).nrf52 } ∧
      t.phase = .off ∧
      (bootloader k.crc32 t.otadata (t.loads k)).loaded = some r.rev := by
  obtain ⟨i, c, q, hkept⟩ := kept_of_reachable hidf h
  have hslot : s.slot = some r := by rw [State.slot, hphase]
  obtain ⟨-, hquiet⟩ | ⟨rfl, hs⟩ := hkept.runs r hslot
  · exact absurd htrial (by rw [notConfirmed_of_quiet hquiet]; exact Bool.false_ne_true)
  · simp only [step, hphase] at hstep
    obtain ⟨hfits, hstep⟩ := Option.ite_none_left_eq_some.mp hstep
    obtain ⟨-, -, -, -, -, -, hrefused, -⟩ := not_not.mp hfits
    obtain ⟨herase, hcontents⟩ := hrefused htrial
    have hnot : (FwUpdate.fwUpdateDoActions u.env).ok = false := by
      rw [Bool.eq_false_iff]
      intro hok
      have hota := (FwUpdate.fwUpdateDoActions_ok_iff.mp hok).1
      have hreport := (FwUpdate.fwUpdateRuuviGatewayEspBin_ok_iff.mp hota).2.1.2.1
      exact absurd hreport (by rw [herase]; exact Bool.false_ne_true)
    rw [hnot, Bool.not_false, if_pos rfl] at hstep
    obtain rfl := Option.some.inj hstep
    have hpending : idf.getStatePartition s.otadata c.rev = some ImgState.pendingVerify := by
      rw [← hs.2]
      exact hidf.getStatePartition_of_unique _ _ _ (onTrial_iff.mp hs.1).1
        (hkept.backed.trial hs.1).1 hkept.backed.base.slot_ne_rev
    rw [Fin.rev_rev, hkept.backed.committedSlot]
    refine ⟨rfl, rfl, ?_, rfl, ?_⟩
    · simp only [Function.update_self, invalidateAllNextPartitions, hpending, if_true, hcontents,
        hgwui, hnrf52, erased, Fin.rev_rev]
    · refine loaded_of_not_armed hkept.backed (not_armed_of_started hs) ?_
      simp only [State.loads, Function.update_self, invalidateAllNextPartitions, hpending,
        if_true, hcontents, Fin.rev_rev]
      exact hkept.complete.imageVerify

/-- An update of the gateway by its second firmware, which is refused. -/
def refusedUpdate : Update where
  env := { FwUpdate.sampleEnv FwUpdate.resumedRun with
    flash := ⟨some "ota_1", some "ota_0", false, [7], true, true, true, true⟩
    ota := ⟨true, false, []⟩ }
  contents := ⟨[1, 2, 3], [1, 2, 3], [1, 2, 9]⟩
  otadata := .done
  powerLost := false
  eraseApp := .done
  eraseGwui := .done
  eraseNrf52 := .done

/-- After the refused update the old firmware is the one that starts, without its data. -/
theorem refused_during_trial : ∃ s t : State,
    (1 : Fin 2).rev = committedSlot smallChecks.crc32 s.otadata ∧
      t.otadata = s.otadata ∧
      t.parts (1 : Fin 2).rev =
        { app := (s.parts (1 : Fin 2).rev).app
          gwui := eraseFirstSector (s.parts (1 : Fin 2).rev).gwui
          nrf52 := eraseFirstSector (s.parts (1 : Fin 2).rev).nrf52 } ∧
      t.phase = .off ∧
      (bootloader smallChecks.crc32 t.otadata (t.loads smallChecks)).loaded =
        some (1 : Fin 2).rev := by
  obtain ⟨s, hs, hp⟩ := System.exists_reachableVia_of_run (C := Careful smallChecks)
    init_smallGateway (smallRun ++ [.mainTaskInit true .done])
    (fun s => s.phase == .running 1 ImgState.pendingVerify &&
      (notConfirmed smallChecks.crc32 s.otadata (1 : Fin 2) &&
        (step smallChecks smallEspOta s (.update refusedUpdate)).isSome)) (by decide +kernel)
  simp only [Bool.and_eq_true, beq_iff_eq] at hp
  obtain ⟨t, ht⟩ := Option.isSome_iff_exists.mp hp.2.2
  exact ⟨s, t, update_during_trial lawful_smallEspOta hs hp.1 hp.2.1 ht rfl rfl⟩

end Ota
end RuuviGateway
