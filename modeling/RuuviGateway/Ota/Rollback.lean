import RuuviGateway.Lib.AbUpdate
import RuuviGateway.Ota.Gateway

/-!
# There is always a firmware to go back to

The slot that `Backed` speaks of holds a complete firmware, at any time: an update writes the
other one, and a new firmware takes over only after it has checked itself and been confirmed.
Before, it is started once.

This needs some care of the environment, `Careful`.  Two of the conditions are about the code: an
update must not be started by a firmware that has not been confirmed yet, and a confirmed firmware
must come through `main_task_init`, because otherwise it is marked as invalid.
-/

namespace RuuviGateway
namespace Ota

open TornWrites TransitionSystem
open AbUpdate (Event Move Trial Versions)
open FwUpdate (fwUpdateDoActions fwUpdateTask)

attribute [local instance] neZero_two

variable {k : Checks} {idf : EspOta} {crc32 : UInt32 → UInt32} {o o' : Otadata} {i c : Fin 2}
  {q : UInt32} {L : Prop}

/-! ## Entries and the slot that runs -/

theorem Backed.mono {L' : Prop} (h : Backed crc32 L o i c q) (hquiet : Quiet crc32 o) :
    Backed crc32 L' o i c q := by
  refine ⟨h.base, fun hv => ?_⟩
  obtain ⟨hne, hset | ⟨htrial, -⟩⟩ := h.beside hv
  · exact ⟨hne, .inl hset⟩
  · exact absurd htrial (by rw [hquiet]; exact Bool.false_ne_true)

theorem notConfirmed_of_quiet (hquiet : Quiet crc32 o) (slot : Fin 2) :
    notConfirmed crc32 o slot = false := by
  rw [Bool.eq_false_iff]
  intro h
  obtain ⟨j, htrial, -⟩ := onTrial_of_notConfirmed h
  exact absurd htrial (by rw [hquiet]; exact Bool.false_ne_true)

variable (crc32) in
/-- A trial of the other slot has been started. -/
def Started (o : Otadata) (i : Fin 2) : Prop :=
  onTrial crc32 (o i.rev) = true ∧ (o i.rev).otaState = ImgState.pendingVerify

/-- What is known about an entry that asks for a trial. -/
theorem Backed.trial (h : Backed crc32 L o i c q) (ht : onTrial crc32 (o i.rev) = true) :
    calcSlotFromSeq 2 (o i.rev).otaSeq = some c.rev ∧ q < (o i.rev).otaSeq ∧
      (o i.rev).otaSeq ≠ 0 ∧ L := by
  have hvalid := (onTrial_iff.mp ht).1
  obtain ⟨hne, ⟨hset, -⟩ | ⟨-, hslot, hlt, hl⟩⟩ := h.beside hvalid
  · exact absurd ht (by rw [onTrial_of_settled hset]; exact Bool.false_ne_true)
  · exact ⟨calcSlotFromSeq_eq_some.mpr ⟨(otaSelectValid_iff.mp hvalid).1, hne, hslot⟩, hlt, hne, hl⟩

/-- The entry that stands is not taken for the other slot. -/
theorem Base.slot_ne (h : Base crc32 o i c q) (hi : intact crc32 (o i) = true) :
    calcSlotFromSeq 2 (o i).otaSeq = some c := by
  obtain ⟨hset, hseq, hne, hslot⟩ := h.pos hi
  have hvalid := (otaSelectValid_iff.mp (settled_iff.mp hset).1).1
  rw [hseq] at hvalid ⊢
  exact calcSlotFromSeq_eq_some.mpr ⟨hvalid, hne, hslot⟩

theorem Base.slot_ne_rev (h : Base crc32 o i c q) (hi : intact crc32 (o i.rev.rev) = true) :
    calcSlotFromSeq 2 (o i.rev.rev).otaSeq ≠ some c.rev := by
  rw [Fin.rev_rev] at hi ⊢
  rw [h.slot_ne hi]
  exact fun heq => rev_ne c (Option.some.inj heq).symm

theorem notConfirmed_of_started (h : Backed crc32 L o i c q) (hs : Started crc32 o i) :
    notConfirmed crc32 o c.rev = true := by
  have hfound := getStatePartition_of_unique (onTrial_iff.mp hs.1).1 (h.trial hs.1).1
    h.base.slot_ne_rev
  rw [notConfirmed, hfound, hs.2, beq_self_eq_true]

/-- The entry of a trial is the active one. -/
theorem getActiveOtadata_of_onTrial (h : Backed crc32 L o i c q)
    (ht : onTrial crc32 (o i.rev) = true) : getActiveOtadata crc32 o = some i.rev := by
  refine selectOtadata_of_lt (onTrial_iff.mp ht).1 fun hv => ?_
  rw [Fin.rev_rev] at hv ⊢
  rw [(h.base.pos (otaSelectValid_iff_intact.mp hv).1).2.1]
  exact (h.trial ht).2.1

/-- The entry that is kept for an update by the slot that is backed. -/
theorem kept_of_quiet (h : Backed crc32 L o i c q) (hquiet : Quiet crc32 o) :
    keptOtadata crc32 o (some c) = some i ∨
      i = 1 ∧ ∀ j, otaSelectValid crc32 (o j) = false := by
  have hfree : otaSelectValid crc32 (o i.rev) = true →
      settled crc32 (o i.rev) = true ∧ (o i.rev).otaSeq < q := by
    intro hv
    obtain ⟨-, hset | ⟨htrial, -⟩⟩ := h.beside hv
    · exact hset
    · exact absurd htrial (by rw [hquiet]; exact Bool.false_ne_true)
  obtain hbase | ⟨rfl, hbad, rfl, rfl⟩ := h.base
  · left
    have hvalid := (settled_iff.mp hbase.1).1
    have hactive : getActiveOtadata crc32 o = some i :=
      selectOtadata_of_lt hvalid fun hv => by rw [hbase.2.1]; exact (hfree hv).2
    have hslot := h.base.slot_ne (otaSelectValid_iff_intact.mp hvalid).1
    simp only [keptOtadata, hactive, if_neg (not_not.mpr hslot)]
  · right
    refine ⟨rfl, Fin.forall_fin_two.mpr ⟨?_, otaSelectValid_of_not_intact hbad⟩⟩
    rw [Bool.eq_false_iff]
    exact fun hv => Nat.not_lt_zero _ (hfree hv).2

/-- **An update by the slot that is backed** writes the free entry, and asks for a trial. -/
theorem request_of_quiet (h : Backed crc32 L o i c q) (hquiet : Quiet crc32 o)
    (hseq : SeqLeft crc32 2 o) {w : Fin 2 × OtaSelectEntry}
    (hw : rewriteOtaData crc32 o (some c) c.rev = some w) (hl : L) :
    w.1 = i.rev ∧ Beside crc32 L c q w.2 := by
  obtain ⟨hreq, hkept⟩ := requests_of_rewriteOtaData (by decide) hseq hw
  have hidx : w.1 = i.rev := by
    obtain hk | ⟨rfl, hnone⟩ := kept_of_quiet h hquiet
    · obtain hk' | ⟨-, hnone⟩ := hkept
      · rw [hk] at hk'
        rw [← Fin.rev_rev w.1, ← Option.some.inj hk']
      · exact absurd (otaSelectValid_of_kept hk) (by rw [hnone]; exact Bool.false_ne_true)
    · rw [keptOtadata_eq_none.mpr hnone] at hkept
      exact (hkept.resolve_left (Option.some_ne_none _).symm).1
  refine ⟨hidx, fun _ => ⟨hreq.seq, .inr ⟨onTrial_iff.mpr ⟨hreq.valid, .inl hreq.state⟩,
    Fin.ext hreq.slot, ?_, hl⟩⟩⟩
  obtain hbase | ⟨-, -, rfl, -⟩ := h.base
  · have := hreq.newest
    rw [hidx, Fin.rev_rev, hbase.2.1] at this
    exact this (settled_iff.mp hbase.1).1
  · rw [UInt32.lt_iff_toNat_lt]
    exact Nat.pos_of_ne_zero fun h0 => hreq.seq (UInt32.toNat_inj.mp h0)

/-- **A trial that is confirmed** is backed from then on. -/
theorem Backed.confirm (h : Backed crc32 L o i c q) (L' : Prop)
    (ht : onTrial crc32 (o i.rev) = true) :
    Backed crc32 L'
        (Function.update o i.rev { o i.rev with otaState := ImgState.valid }) i.rev c.rev
        (o i.rev).otaSeq ∧
      Quiet crc32 (Function.update o i.rev { o i.rev with otaState := ImgState.valid }) := by
  obtain ⟨hslot, hlt, hne, -⟩ := h.trial ht
  have hvalid := otaSelectValid_iff.mp (onTrial_iff.mp ht).1
  have hset : settled crc32 { o i.rev with otaState := ImgState.valid } = true := by
    rw [settled_iff, otaSelectValid_iff]
    exact ⟨⟨hvalid.1, show ImgState.valid ≠ ImgState.invalid by decide,
      show ImgState.valid ≠ ImgState.aborted by decide, hvalid.2.2.2⟩,
      show ImgState.valid ≠ ImgState.new by decide,
      show ImgState.valid ≠ ImgState.pendingVerify by decide⟩
  refine ⟨⟨.inl ⟨by rwa [Function.update_self], by rw [Function.update_self], hne,
    (calcSlotFromSeq_eq_some.mp hslot).2.2⟩, ?_⟩, fun j => ?_⟩
  · rw [update_rev_apply, Fin.rev_rev]
    intro hv
    obtain ⟨hbase, hseq, hne', -⟩ := h.base.pos (otaSelectValid_iff_intact.mp hv).1
    rw [hseq]
    exact ⟨hne', .inl ⟨hbase, hlt⟩⟩
  · obtain rfl | rfl := eq_or_eq_rev i j
    · rw [Function.update_of_ne (rev_ne j).symm]
      exact h.base.quiet
    · rw [Function.update_self]
      exact onTrial_of_settled hset

/-- Without a trial, a state that is taken for a pending one comes from an entry that is not
valid. -/
theorem find_eq_none_of_pending {slot : Fin 2} (hquiet : Quiet crc32 o)
    (hstate : runningPartitionState crc32 o slot = ImgState.pendingVerify) :
    findOtadataIdxForOtaSlot crc32 o slot = none := by
  have hne := notConfirmed_of_quiet hquiet slot
  rw [findOtadataIdxForOtaSlot_eq_none]
  intro j hj hslot
  have hcrc : (o j).crc = otaSelectCrc crc32 (o j) := (otaSelectValid_iff.mp hj).2.2.2
  have hfound : (getStatePartition crc32 o slot).1 = true := by
    unfold getStatePartition getStateFrom getStateFrom
    obtain rfl | rfl := eq_zero_or_eq_one j
    · rw [if_pos hslot, if_neg (not_not.mpr hcrc)]
    · rw [if_pos hslot, if_neg (not_not.mpr hcrc)]
      split
      · split <;> rfl
      · rfl
  cases hget : getStatePartition crc32 o slot with
  | mk found stored =>
    rw [hget] at hfound
    simp only at hfound
    subst hfound
    rw [runningPartitionState, hget] at hstate
    rw [notConfirmed, hget] at hne
    cases stored with
    | none => exact absurd hstate (by decide)
    | some st =>
      obtain rfl : st = ImgState.pendingVerify := hstate
      exact absurd hne (by rw [beq_self_eq_true]; exact Bool.noConfusion)

/-- In that case there is no active entry at all. -/
theorem getActiveOtadata_eq_none_of_pending (h : Backed crc32 L o i c q)
    (hquiet : Quiet crc32 o) (hstate : runningPartitionState crc32 o c = ImgState.pendingVerify) :
    getActiveOtadata crc32 o = none := by
  obtain hk | ⟨-, hnone⟩ := kept_of_quiet h hquiet
  · have hvalid := otaSelectValid_of_kept hk
    exact absurd (h.base.slot_ne (otaSelectValid_iff_intact.mp hvalid).1)
      (findOtadataIdxForOtaSlot_eq_none.mp (find_eq_none_of_pending hquiet hstate) i hvalid)
  · exact selectOtadata_eq_none.mpr hnone

/-! ## The invariant -/

/-- The slot whose firmware is executed. -/
def State.slot (s : State) : Option (Fin 2) :=
  match s.phase with
  | .off => none
  | .starting slot => some slot
  | .running slot _ => some slot

variable (k) in
/-- The slot `c` holds a complete firmware and is the one that runs, up to a trial of the other
slot. -/
structure Kept (s : State) (i c : Fin 2) (q : UInt32) : Prop where
  backed : Backed k.crc32 (s.loads k c.rev = true) s.otadata i c q
  complete : Complete k (s.parts c)
  runs : ∀ r, s.slot = some r →
    r = c ∧ Quiet k.crc32 s.otadata ∨ r = c.rev ∧ Started k.crc32 s.otadata i
  checked : ∀ r st, s.phase = .running r st → Complete k (s.parts r) ∧
    (st = runningPartitionState k.crc32 s.otadata r ∨ st = ImgState.valid)

variable (k) in
/-- The firmware that is executed has been confirmed. -/
def State.confirmed (s : State) : Bool :=
  s.slot.all fun r => !notConfirmed k.crc32 s.otadata r

variable (k) in
/-- The care that the environment takes. -/
def Careful (s : State) : Label → Prop
  | .boot outs powerLost => powerLost = false → ∀ x ∈ outs, x = .done
  | .mainTaskInit rest _ => rest = true ∨ s.confirmed k = false
  | .markAppValid out powerLost => powerLost = false → out = .done
  | .update u => s.confirmed k = true ∧ SeqLeft k.crc32 2 s.otadata ∧
      (u.powerLost = false → u.otadata = .done)
  | .updateCut _ => s.confirmed k = true
  | .wearLevelling _ | .restart => True

/-- The care can be checked for a label. -/
instance decidableCareful (k : Checks) (s : State) : (l : Label) → Decidable (Careful k s l)
  | .boot outs powerLost =>
      decidable_of_iff (powerLost = true ∨ outs.all (· == .done) = true) (by
        cases powerLost <;> simp [Careful])
  | .mainTaskInit rest _ => inferInstanceAs (Decidable (rest = true ∨ s.confirmed k = false))
  | .markAppValid out powerLost =>
      decidable_of_iff (powerLost = true ∨ out = .done) (by cases powerLost <;> simp [Careful])
  | .update u =>
      decidable_of_iff (s.confirmed k = true ∧ SeqLeft k.crc32 2 s.otadata ∧
          (u.powerLost = true ∨ u.otadata = .done)) (by
        cases hpower : u.powerLost <;> simp [Careful, hpower])
  | .updateCut _ => inferInstanceAs (Decidable (s.confirmed k = true))
  | .wearLevelling _ | .restart => isTrue trivial

variable {s t : State} {r : Fin 2}

variable (crc32) in
/-- What an entry asks for. -/
def trialOf (e : OtaSelectEntry) : Trial :=
  if onTrial crc32 e = true then if e.otaState = ImgState.new then .asked else .started else .none

theorem trialOf_eq_none {e : OtaSelectEntry} (h : onTrial crc32 e = false) :
    trialOf crc32 e = .none := by
  rw [trialOf, h, if_neg Bool.false_ne_true]

theorem trialOf_of_armed (h : Armed crc32 o i) : trialOf crc32 (o i.rev) = .asked := by
  rw [trialOf, if_pos h.1, if_pos h.2]

theorem armed_of_trialOf (h : trialOf crc32 (o i.rev) = .asked) : Armed crc32 o i := by
  unfold trialOf at h
  split at h
  · split at h
    · exact ⟨‹_›, ‹_›⟩
    · exact absurd h (by decide)
  · exact absurd h (by decide)

theorem trialOf_of_started (h : Started crc32 o i) : trialOf crc32 (o i.rev) = .started := by
  rw [trialOf, if_pos h.1, h.2, if_neg (by decide)]

variable (k) in
/-- What a step comes to: the invariant again, and a move of the two firmwares. -/
def Next (s : State) (i c : Fin 2) (ev : Event) (t : State) : Prop :=
  ∃ i' c' q', Kept k t i' c' q' ∧
    Move Fin.rev ev ⟨c, trialOf k.crc32 (s.otadata i.rev), s.slot⟩
      ⟨c', trialOf k.crc32 (t.otadata i'.rev), t.slot⟩

variable {i' : Fin 2} {q' : UInt32} {ev : Event}

theorem slot_of_off (hoff : s.phase = .off) : s.slot = none := by
  rw [State.slot, hoff]

/-- With the power off, only the entries and the firmwares count. -/
theorem kept_of_off (hoff : s.phase = .off)
    (hbacked : Backed k.crc32 (s.loads k c.rev = true) s.otadata i c q)
    (hcomplete : Complete k (s.parts c)) : Kept k s i c q := by
  refine ⟨hbacked, hcomplete, fun r hr => ?_, fun r st hr => ?_⟩
  · rw [slot_of_off hoff] at hr
    exact absurd hr (by simp)
  · exact absurd (hoff.symm.trans hr) (by simp)

/-- A step that ends with the power off and does not add a trial. -/
theorem next_halt (hoff : t.phase = .off)
    (hbacked : Backed k.crc32 (t.loads k c.rev = true) t.otadata i' c q')
    (hcomplete : Complete k (t.parts c))
    (htrial : trialOf k.crc32 (t.otadata i'.rev) = trialOf k.crc32 (s.otadata i.rev) ∨
      trialOf k.crc32 (t.otadata i'.rev) = .none ∨
      trialOf k.crc32 (s.otadata i.rev) = .asked) : Next k s i c ev t := by
  refine ⟨i', c, q', kept_of_off hoff hbacked hcomplete, ?_⟩
  rw [slot_of_off hoff]
  exact .halt htrial

/-- A change of the data partitions that leaves a complete firmware complete. -/
theorem Kept.update_parts (h : Kept k s i c q) {p : Partitions} (happ : p.app = (s.parts r).app)
    (hp : Complete k (s.parts r) → Complete k p) :
    Kept k { s with parts := Function.update s.parts r p } i c q := by
  have hall : ∀ j, Complete k (s.parts j) → Complete k (Function.update s.parts r p j) := by
    intro j hj
    obtain rfl | hne := eq_or_ne j r
    · rw [Function.update_self]
      exact hp hj
    · rwa [Function.update_of_ne hne]
  have hloads : State.loads k { s with parts := Function.update s.parts r p } = s.loads k := by
    funext j
    obtain rfl | hne := eq_or_ne j r
    · simp only [State.loads, Function.update_self, happ]
    · simp only [State.loads, Function.update_of_ne hne]
  exact ⟨by rw [hloads]; exact h.backed, hall c h.complete, h.runs,
    fun r' st hr => (h.checked r' st hr).imp_left (hall r')⟩

/-! ## The steps -/

theorem next_bootStep {outs : List (Outcome OtaSelectEntry)} {powerLost : Bool}
    (h : Kept k s i c q) (hoff : s.phase = .off)
    (hcare : powerLost = false → ∀ x ∈ outs, x = .done)
    (hstep : bootStep k s outs powerLost = some t) : Next k s i c .start t := by
  obtain ⟨o', hw, hstep⟩ := Option.bind_eq_some_iff.mp hstep
  by_cases ha : Armed k.crc32 s.otadata i
  · have hl : s.loads k c.rev = true := (h.backed.trial ha.1).2.2.2
    rw [bootloader_of_armed h.backed ha hl] at hw hstep
    obtain ⟨hbacked, hstarted⟩ := entries_of_armed h.backed ha hw
    cases powerLost with
    | true =>
      obtain rfl := Option.some.inj hstep
      exact next_halt hoff hbacked h.complete (.inr (.inr (trialOf_of_armed ha)))
    | false =>
      obtain ⟨hlen, hstep⟩ := Option.ite_none_right_eq_some.mp hstep
      obtain rfl := Option.some.inj hstep
      have hs : Started k.crc32 o' i := by
        have hentry := hstarted (hcare rfl) (by simpa using hlen)
        rw [Started, hentry]
        exact ⟨(beside_started h.backed.beside ha.1).2, rfl⟩
      refine ⟨i, c, q, ⟨hbacked, h.complete, fun r hr => .inr ⟨(Option.some.inj hr).symm, hs⟩,
        fun r st hr => by simp at hr⟩, ?_⟩
      simp only [trialOf_of_armed ha, trialOf_of_started hs, slot_of_off hoff]
      exact .tryOther
  · have hl : s.loads k c = true := h.complete.imageVerify
    have htrial := fun j => eq_of_onTrial (j := j)
      (fun w hmem => onTrial_of_mem_writes h.backed ha hl hmem) hw
    obtain ⟨⟨i', q', hbacked⟩, hquiet⟩ := entries_of_not_armed h.backed ha hl hw
    cases powerLost with
    | true =>
      obtain rfl := Option.some.inj hstep
      refine next_halt hoff hbacked h.complete ?_
      cases hon : onTrial k.crc32 (o' i'.rev) with
      | false => exact .inr (.inl (trialOf_eq_none hon))
      | true =>
        -- the trial is the one there was
        have hold := htrial _ hon
        obtain hi | hi := eq_or_eq_rev i i'.rev
        · rw [hold, hi, h.backed.base.quiet] at hon
          exact absurd hon Bool.false_ne_true
        · rw [hi] at hold
          exact .inl (by simp only [hi, hold])
    | false =>
      rw [loaded_of_not_armed h.backed ha hl] at hstep
      obtain ⟨hlen, hstep⟩ := Option.ite_none_right_eq_some.mp hstep
      obtain rfl := Option.some.inj hstep
      have hquiet := hquiet (hcare rfl) hlen
      refine ⟨i', c, q', ⟨hbacked, h.complete,
        fun r hr => .inl ⟨(Option.some.inj hr).symm, hquiet⟩, fun r st hr => by simp at hr⟩, ?_⟩
      simp only [trialOf_eq_none (hquiet _), slot_of_off hoff]
      exact .start fun ht => ha (armed_of_trialOf ht)

/-- A rollback by a firmware on trial. -/
theorem next_rollbackStep (hidf : LawfulEspOta k.crc32 idf) {out : Outcome OtaSelectEntry}
    (h : Kept k s i c q) (hs : Started k.crc32 s.otadata i)
    (hstep : rollbackStep k idf s out = some t) : Next k s i c .other t := by
  unfold rollbackStep at hstep
  split at hstep
  · obtain rfl := Option.some.inj hstep
    exact next_halt rfl h.backed h.complete (.inl rfl)
  · rename_i w hmark
    obtain ⟨hactive, hentry⟩ := hidf.markAppInvalid_eq _ _ _ hmark
    rw [getActiveOtadata_of_onTrial h.backed hs.1, Option.some.injEq] at hactive
    obtain rfl : w = (i.rev, { s.otadata i.rev with otaState := ImgState.invalid }) :=
      Prod.ext hactive.symm (hentry.trans (by rw [hactive]))
    obtain ⟨o', hw, rfl⟩ := Option.map_eq_some_iff.mp hstep
    obtain ⟨a, htorn, rfl⟩ := write_eq_some hw
    have hnot : otaSelectValid k.crc32
        { s.otadata i.rev with otaState := ImgState.invalid } = false := by
      simp [otaSelectValid, otaSelectInvalid]
    refine next_halt rfl (h.backed.write (beside_of_not_valid hnot) htorn) h.complete ?_
    simp only [Function.update_self]
    obtain hbad | rfl | rfl := htorn
    · exact .inr (.inl (trialOf_eq_none (onTrial_of_not_intact hbad)))
    · exact .inl rfl
    · exact .inr (.inl (trialOf_eq_none (by rw [onTrial, hnot, Bool.false_and])))

theorem next_mainTaskInitStep (hidf : LawfulEspOta k.crc32 idf) {rest : Bool}
    {out : Outcome OtaSelectEntry} (h : Kept k s i c q) (hphase : s.phase = .starting r)
    (hcare : rest = true ∨ s.confirmed k = false)
    (hstep : mainTaskInitStep k idf s r rest out = some t) : Next k s i c .other t := by
  have hslot : s.slot = some r := by rw [State.slot, hphase]
  have hruns := h.runs r hslot
  have hchecked := h.update_parts (r := r) (p := (selfCheckSignature k (s.parts r)).2)
    app_selfCheckSignature Complete.selfCheck
  unfold mainTaskInitStep at hstep
  simp only at hstep
  split at hstep
  · rename_i hok
    rw [Bool.and_eq_true] at hok
    obtain rfl := Option.some.inj hstep
    refine ⟨i, c, q, ⟨hchecked.backed, hchecked.complete, fun r' hr' => ?_,
      fun r' st hr' => ?_⟩, ?_⟩
    · obtain rfl := Option.some.inj hr'
      exact hruns
    · obtain ⟨rfl, rfl⟩ := Phase.running.inj hr'
      refine ⟨?_, .inl rfl⟩
      simp only [Function.update_self]
      exact (selfCheckSignature_iff.mp hok.1).selfCheck
    · rw [hslot]
      exact .idle _ _
  · rename_i hbad
    obtain ⟨rfl, hquiet⟩ | ⟨rfl, hs⟩ := hruns
    · -- a confirmed firmware is complete, and starts
      have hconf : s.confirmed k = true := by
        rw [State.confirmed, hslot, Option.all_some, notConfirmed_of_quiet hquiet, Bool.not_false]
      obtain hrest | hnot := hcare
      · exact absurd (by rw [selfCheckSignature_iff.mpr h.complete, hrest]; rfl) hbad
      · exact absurd hconf (by rw [hnot]; exact Bool.false_ne_true)
    · have hnext := next_rollbackStep hidf hchecked hs hstep
      exact hnext

/-- The confirmation of a trial. -/
theorem next_confirm {phase : Phase} (h : Kept k s i c q) (hs : Started k.crc32 s.otadata i)
    (hslot : s.slot = some c.rev) (hcomplete : Complete k (s.parts c.rev))
    (hphase : phase = .off ∨ phase = .running c.rev ImgState.valid) :
    Next k s i c .confirm { s with
      otadata := Function.update s.otadata i.rev
        { s.otadata i.rev with otaState := ImgState.valid }
      phase := phase } := by
  obtain ⟨hbacked, hquiet⟩ := h.backed.confirm (s.loads k c.rev.rev = true) hs.1
  refine ⟨i.rev, c.rev, (s.otadata i.rev).otaSeq, ⟨hbacked, hcomplete, fun r' hr' => ?_,
    fun r' st' hr' => ?_⟩, ?_⟩
  · obtain rfl | rfl := hphase
    · exact absurd hr' (by simp [State.slot])
    · exact .inl ⟨(Option.some.inj hr').symm, hquiet⟩
  · obtain rfl | rfl := hphase
    · exact absurd hr' (by simp)
    · obtain ⟨rfl, rfl⟩ := Phase.running.inj hr'
      exact ⟨hcomplete, .inr rfl⟩
  · simp only [trialOf_eq_none (hquiet _), trialOf_of_started hs, hslot]
    refine .confirm ?_
    obtain rfl | rfl := hphase
    · exact .inr rfl
    · exact .inl rfl

/-- The write that confirms a trial.  Unless it is cut off with the old entry still there or with
an entry that is not intact, the other firmware is the committed one. -/
theorem next_confirmWrite {out : Outcome OtaSelectEntry} {powerLost : Bool} {o' : Otadata}
    (h : Kept k s i c q) (hs : Started k.crc32 s.otadata i) (hslot : s.slot = some c.rev)
    (hcomplete : Complete k (s.parts c.rev)) (hcare : powerLost = false → out = .done)
    (hw : write (intact k.crc32) s.otadata
      (i.rev, { s.otadata i.rev with otaState := ImgState.valid }) out = some o') :
    Next k s i c .confirm { s with
      otadata := o'
      phase :=
        if powerLost then .off
        else if out = .done then .running c.rev ImgState.valid
        else s.phase } := by
  cases powerLost with
  | false =>
    obtain rfl := hcare rfl
    obtain rfl := Option.some.inj hw
    exact next_confirm h hs hslot hcomplete (.inr rfl)
  | true =>
    obtain ⟨a, htorn, rfl⟩ := write_eq_some hw
    obtain hbad | rfl | rfl := htorn
    · refine next_halt rfl (h.backed.wipe hbad) h.complete (.inr (.inl ?_))
      simp only [Function.update_self]
      exact trialOf_eq_none (onTrial_of_not_intact hbad)
    · refine @next_halt k i c s _ i q _ rfl ?_ h.complete (.inl ?_)
      · simp only [Function.update_eq_self]
        exact h.backed
      · simp only [Function.update_eq_self]
    · exact next_confirm h hs hslot hcomplete (.inl rfl)

theorem next_markAppValidStep (hidf : LawfulEspOta k.crc32 idf) {st : UInt32}
    {out : Outcome OtaSelectEntry} {powerLost : Bool} (h : Kept k s i c q)
    (hphase : s.phase = .running r st) (hcare : powerLost = false → out = .done)
    (hstep : markAppValidStep k idf s r st out powerLost = some t) :
    Next k s i c .confirm t := by
  have hslot : s.slot = some r := by rw [State.slot, hphase]
  obtain ⟨hcomplete, hst⟩ := h.checked r st hphase
  unfold markAppValidStep at hstep
  split at hstep
  · obtain rfl := Option.some.inj hstep
    exact ⟨i, c, q, h, .idle _ _⟩
  · rename_i hpending
    rw [ne_eq, not_not] at hpending
    have hst' : runningPartitionState k.crc32 s.otadata r = ImgState.pendingVerify := by
      obtain rfl | rfl := hst
      · exact hpending
      · exact absurd hpending (by decide)
    split at hstep
    · obtain rfl := Option.some.inj hstep
      exact ⟨i, c, q, h, .idle _ _⟩
    · obtain rfl := Option.some.inj hstep
      refine ⟨i, c, q, ⟨h.backed, h.complete, fun r' hr' => ?_, fun r' st' hr' => ?_⟩, ?_⟩
      · obtain rfl := Option.some.inj hr'
        exact h.runs r hslot
      · obtain ⟨rfl, rfl⟩ := Phase.running.inj hr'
        exact ⟨hcomplete, .inr rfl⟩
      · rw [hslot]
        exact .idle _ _
    · rename_i w hmark
      obtain ⟨hactive, hentry⟩ := hidf.markAppValid_eq _ _ hmark
      obtain ⟨rfl, hquiet⟩ | ⟨rfl, hs⟩ := h.runs r hslot
      · rw [getActiveOtadata_eq_none_of_pending h.backed hquiet hst'] at hactive
        exact absurd hactive (by simp)
      rw [getActiveOtadata_of_onTrial h.backed hs.1, Option.some.injEq] at hactive
      obtain rfl : w = (i.rev, { s.otadata i.rev with otaState := ImgState.valid }) :=
        Prod.ext hactive.symm (hentry.trans (by rw [hactive]))
      obtain ⟨o', hw, rfl⟩ := Option.map_eq_some_iff.mp hstep
      exact next_confirmWrite h hs hslot hcomplete hcare hw

/-- A firmware that has been confirmed is the one that is backed. -/
theorem Kept.of_confirmed (h : Kept k s i c q) (hslot : s.slot = some r)
    (hconf : s.confirmed k = true) : r = c ∧ Quiet k.crc32 s.otadata := by
  obtain hquiet | ⟨rfl, hs⟩ := h.runs r hslot
  · exact hquiet
  · rw [State.confirmed, hslot, Option.all_some, notConfirmed_of_started h.backed hs] at hconf
    exact absurd hconf Bool.false_ne_true

/-- An update that does not ask for a trial leaves the slot that is backed alone. -/
theorem next_update_rev (h : Kept k s i c q) (hquiet : Quiet k.crc32 s.otadata) (p : Partitions) :
    Next k s i c ev { s with parts := Function.update s.parts c.rev p, phase := .off } := by
  refine next_halt rfl (h.backed.mono hquiet) ?_ (.inl rfl)
  simp only [Function.update_of_ne (rev_ne c).symm]
  exact h.complete

theorem switched_iff {e : FwUpdate.Env} : (fwUpdateTask e).switched = true ↔
    (fwUpdateDoActions e).ok = true ∧ e.setBootPartitionOk = true := by
  obtain ⟨hsw, hok⟩ | ⟨hsw, hno, -⟩ := FwUpdate.fwUpdateTask_cases e
  · exact ⟨fun _ => hok, fun _ => hsw⟩
  · rw [hsw]
    exact ⟨fun h => absurd h Bool.false_ne_true, fun h => absurd h hno⟩

/-- The write that asks for a trial of an image that can be loaded. -/
theorem next_request {w : Fin 2 × OtaSelectEntry} {a : OtaSelectEntry} {p : Partitions}
    (h : Kept k s i c q) (hslot : s.slot = some c) (hquiet : Quiet k.crc32 s.otadata)
    (hseq : SeqLeft k.crc32 2 s.otadata)
    (hw : rewriteOtaData k.crc32 s.otadata (some c) c.rev = some w)
    (htorn : Torn (intact k.crc32) (s.otadata w.1) w.2 a)
    (himage : k.imageVerify p.app = true) :
    Next k s i c .update
      { otadata := Function.update s.otadata w.1 a
        parts := Function.update s.parts c.rev p
        phase := .off } := by
  let t : State :=
    { otadata := Function.update s.otadata w.1 a
      parts := Function.update s.parts c.rev p
      phase := .off }
  have hloads : t.loads k c.rev = true := by
    simp only [t, State.loads, Function.update_self]
    exact himage
  have hbacked : Backed k.crc32 (t.loads k c.rev = true) s.otadata i c q :=
    h.backed.mono hquiet
  obtain ⟨hidx, hbeside⟩ := request_of_quiet hbacked hquiet hseq hw hloads
  have hotadata : Backed k.crc32 (t.loads k c.rev = true) t.otadata i c q := by
    simp only [t, hidx] at hbacked hbeside htorn ⊢
    exact hbacked.write hbeside htorn
  have hcomplete : Complete k (t.parts c) := by
    simp only [t, Function.update_of_ne (rev_ne c).symm]
    exact h.complete
  refine ⟨i, c, q, kept_of_off rfl hotadata hcomplete, ?_⟩
  rw [trialOf_eq_none (hquiet _), hslot]
  cases htrial : trialOf k.crc32 (t.otadata i.rev) with
  | none => exact .halt (.inl rfl)
  | asked => exact .ask
  | started =>
    -- the entry is new, or was there before
    exfalso
    simp only [t, hidx, Function.update_self] at htrial htorn
    obtain hbad | rfl | rfl := htorn
    · rw [trialOf_eq_none (onTrial_of_not_intact hbad)] at htrial
      exact absurd htrial (by decide)
    · rw [trialOf_eq_none (hquiet _)] at htrial
      exact absurd htrial (by decide)
    · have hstate := (requests_of_rewriteOtaData (by decide) hseq hw).1.state
      rw [trialOf, hstate, if_pos rfl] at htrial
      split at htrial <;> exact absurd htrial (by decide)

/-- What a label means for the two firmwares.  An update counts if all of its images have been
downloaded, and the one for the ESP32 has been verified. -/
def Label.event : Label → Event
  | .boot .. => .start
  | .markAppValid .. => .confirm
  | .update u => if (fwUpdateDoActions u.env).ok then .update else .other
  | .mainTaskInit .. | .wearLevelling _ | .updateCut _ | .restart => .other

theorem next_updateStep {u : Update} (h : Kept k s i c q) (hslot : s.slot = some r)
    (hconf : s.confirmed k = true) (hseq : SeqLeft k.crc32 2 s.otadata)
    (hcare : u.powerLost = false → u.otadata = .done) (hstep : updateStep k idf s r u = some t) :
    Next k s i c (Label.update u).event t := by
  obtain ⟨rfl, hquiet⟩ := h.of_confirmed hslot hconf
  obtain ⟨hfits, hstep⟩ := Option.ite_none_left_eq_some.mp hstep
  have hfits := not_not.mp hfits
  split at hstep
  · obtain rfl := Option.some.inj hstep
    simp only [Function.update_idem]
    exact next_update_rev h hquiet _
  · rename_i hok
    rw [Bool.not_eq_true', Bool.not_eq_false] at hok
    split at hstep
    · obtain rfl := Option.some.inj hstep
      simp only [Function.update_idem]
      exact next_update_rev h hquiet _
    · rename_i w hw
      obtain ⟨o', hwrite, hstep⟩ := Option.bind_eq_some_iff.mp hstep
      obtain ⟨a, htorn, rfl⟩ := write_eq_some hwrite
      obtain ⟨hboot, hstep⟩ := Option.ite_none_left_eq_some.mp hstep
      have hboot := not_not.mp hboot
      have hswitch : ((fwUpdateTask u.env).switched || u.powerLost) = true := by
        cases hpower : u.powerLost with
        | true => rw [Bool.or_true]
        | false =>
          rw [Bool.or_false, switched_iff]
          exact ⟨hok, by rw [hboot, hcare hpower, decide_eq_true rfl]⟩
      rw [if_pos hswitch] at hstep
      obtain rfl := Option.some.inj hstep
      rw [Label.event, if_pos hok]
      exact next_request h hslot hquiet hseq hw htorn (hfits.2.2.2.2.2.2.2 hok).1

/-- **Every step is a move of the two firmwares** and keeps one to go back to. -/
theorem next_step (hidf : LawfulEspOta k.crc32 idf) {l : Label} (h : Kept k s i c q)
    (hcare : Careful k s l) (hstep : step k idf s l = some t) : Next k s i c l.event t := by
  cases l with
  | boot outs powerLost =>
    cases hphase : s.phase with
    | off =>
      simp only [step, hphase] at hstep
      exact next_bootStep h hphase hcare hstep
    | starting r => simp [step, hphase] at hstep
    | running r st => simp [step, hphase] at hstep
  | mainTaskInit rest out =>
    cases hphase : s.phase with
    | off => simp [step, hphase] at hstep
    | starting r =>
      simp only [step, hphase] at hstep
      exact next_mainTaskInitStep hidf h hphase hcare hstep
    | running r st => simp [step, hphase] at hstep
  | markAppValid out powerLost =>
    cases hphase : s.phase with
    | off => simp [step, hphase] at hstep
    | starting r => simp [step, hphase] at hstep
    | running r st =>
      simp only [step, hphase] at hstep
      exact next_markAppValidStep hidf h hphase hcare hstep
  | wearLevelling area =>
    have hwear : ∀ r : Fin 2, area.length = (k.wlArea (s.parts r).app).length →
        Next k s i c .other { s with
          parts := Function.update s.parts r
            { s.parts r with nrf52 := withWlArea (s.parts r).nrf52 area } } :=
      fun r hlen => ⟨i, c, q, h.update_parts rfl fun hc => hc.wear hlen, .idle _ _⟩
    cases hphase : s.phase with
    | off => simp [step, hphase] at hstep
    | starting r =>
      simp only [step, hphase] at hstep
      obtain ⟨hlen, hstep⟩ := Option.ite_none_right_eq_some.mp hstep
      exact Option.some.inj hstep ▸ hphase ▸ hwear r hlen
    | running r st =>
      simp only [step, hphase] at hstep
      obtain ⟨hlen, hstep⟩ := Option.ite_none_right_eq_some.mp hstep
      exact Option.some.inj hstep ▸ hphase ▸ hwear r hlen
  | update u =>
    cases hphase : s.phase with
    | off => simp [step, hphase] at hstep
    | starting r => simp [step, hphase] at hstep
    | running r st =>
      simp only [step, hphase] at hstep
      exact next_updateStep h (by rw [State.slot, hphase]) hcare.1 hcare.2.1 hcare.2.2 hstep
  | updateCut contents =>
    cases hphase : s.phase with
    | off => simp [step, hphase] at hstep
    | starting r => simp [step, hphase] at hstep
    | running r st =>
      simp only [step, hphase] at hstep
      obtain ⟨rfl, hquiet⟩ := h.of_confirmed (r := r) (by rw [State.slot, hphase]) hcare
      obtain ⟨-, hstep⟩ := Option.ite_none_left_eq_some.mp hstep
      exact Option.some.inj hstep ▸ next_update_rev h hquiet contents
  | restart =>
    obtain rfl := Option.some.inj hstep
    exact next_halt rfl h.backed h.complete (.inl rfl)

theorem kept_of_reachable (hidf : LawfulEspOta k.crc32 idf)
    (h : (gatewaySystem k idf).ReachableVia (Careful k) s) : ∃ i c q, Kept k s i c q := by
  refine h.invariant (P := fun s => ∃ i c q, Kept k s i c q) (fun s hs => ?_) ?_
  · obtain ⟨hotadata, hcomplete, hoff⟩ := hs
    refine ⟨1, 0, 0, kept_of_off hoff ?_ hcomplete⟩
    rw [hotadata]
    exact ⟨.inr ⟨rfl, rfl, rfl, rfl⟩, beside_of_not_valid rfl⟩
  · rintro s l t - ⟨i, c, q, hkept⟩ hcare hstep
    obtain ⟨i', c', q', hkept', -⟩ := next_step hidf hkept hcare hstep
    exact ⟨i', c', q', hkept'⟩

end Ota
end RuuviGateway
