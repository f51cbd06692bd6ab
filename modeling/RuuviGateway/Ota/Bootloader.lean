import RuuviGateway.Ota.Otadata
import Mathlib.Data.List.FinRange

/-!
# The bootloader

`bootloader_utility_get_selected_boot_partition` and `bootloader_utility_load_boot_image` in
`components/bootloader_support/src/bootloader_utility.c`, with rollback enabled, anti-rollback
disabled and the partitions of `partitions.csv`: there is no factory and no test image.

The bootloader decides on a copy of the entries in memory and does not look at the results of
its writes.  So the selection is a function of the entries, with the list of the writes that
are attempted; what the flash makes of the list is left to `TornWrites`.

## The entry that stands

`Backed` is the invariant of the two entries.  One of them, or the absence of any, stands for the
slot that runs if nothing is asked for; the other one is free: it is not valid, or is out of
date, or asks for a trial of the other slot.  All writes go to the free entry.
-/

namespace RuuviGateway
namespace Ota

open TornWrites

attribute [local instance] neZero_two

/-! ## Selection and loading -/

section Boot

variable (crc32 : UInt32 → UInt32)

/-- What `bootloader_utility_get_selected_boot_partition` leaves behind. -/
structure Selection (n : Nat) where
  /-- The writes to `otadata`, in order. -/
  writes : List (Fin 2 × OtaSelectEntry)
  /-- `boot_index`, `none` for `FACTORY_INDEX`. -/
  bootIndex : Option (Fin n)
  /-- `ota_has_initial_contents`. -/
  otaHasInitialContents : Bool

/-- An entry after the check for `ESP_OTA_IMG_PENDING_VERIFY`. -/
def markAborted (e : OtaSelectEntry) : OtaSelectEntry :=
  if e.otaState = ImgState.pendingVerify then { e with otaState := ImgState.aborted } else e

/-- The writes of this check. -/
def abortWrites (o : Otadata) : List (Fin 2 × OtaSelectEntry) :=
  (List.finRange 2).filterMap fun i =>
    if (o i).otaState = ImgState.pendingVerify then some (i, markAborted (o i)) else none

/-- `bootloader_utility_get_selected_boot_partition`. -/
def getSelectedBootPartition (n : Nat) [NeZero n] (o : Otadata) : Selection n :=
  let otadata : Otadata := fun i => markAborted (o i)
  if otaSelectInvalid (otadata 0) && otaSelectInvalid (otadata 1) then
    { writes := abortWrites o
      bootIndex := some 0
      otaHasInitialContents := !intact crc32 (otadata 0) && !intact crc32 (otadata 1) }
  else
    match getActiveOtadata crc32 otadata with
    | some active =>
        { writes := abortWrites o ++
            if (otadata active).otaState = ImgState.new then
              [(active, { otadata active with otaState := ImgState.pendingVerify })]
            else []
          bootIndex := some (slotOfSeq n (otadata active).otaSeq)
          otaHasInitialContents := false }
    | none => { writes := abortWrites o, bootIndex := none, otaHasInitialContents := false }

/-- The order in which `bootloader_utility_load_boot_image` tries the slots. -/
def tryOrder {n : Nat} (startIndex : Option (Fin n)) : List (Fin n) :=
  match startIndex with
  | some s => ((List.finRange n).filter (· ≤ s)).reverse ++ (List.finRange n).filter (s < ·)
  | none => List.finRange n

/-- The entry of `set_actual_ota_seq`. -/
def actualEntry {n : Nat} (index : Fin n) : OtaSelectEntry where
  otaSeq := UInt32.ofNat (index + 1)
  otaState := ImgState.valid
  crc := crc32 (UInt32.ofNat (index + 1))

/-- What a start of the bootloader does: the slot whose image it loads, and its writes. -/
structure Boot (n : Nat) where
  writes : List (Fin 2 × OtaSelectEntry)
  loaded : Option (Fin n)

/-- The bootloader, where `loads` says which images can be loaded. -/
def bootloader {n : Nat} [NeZero n] (o : Otadata) (loads : Fin n → Bool) : Boot n :=
  let selection := getSelectedBootPartition crc32 n o
  let loaded := (tryOrder selection.bootIndex).find? loads
  { writes := selection.writes ++
      match loaded with
      | some index =>
          if selection.otaHasInitialContents then [(0, actualEntry crc32 index)] else []
      | none => []
    loaded := loaded }

end Boot

/-! ## Entries that are settled and entries on trial -/

variable {crc32 : UInt32 → UInt32} {o : Otadata} {e b : OtaSelectEntry} {i : Fin 2}

variable (crc32) in
/-- A valid entry for an image that has not been confirmed. -/
def onTrial (e : OtaSelectEntry) : Bool :=
  otaSelectValid crc32 e && (e.otaState == ImgState.new || e.otaState == ImgState.pendingVerify)

variable (crc32) in
/-- A valid entry for any other image. -/
def settled (e : OtaSelectEntry) : Bool :=
  otaSelectValid crc32 e && !(e.otaState == ImgState.new || e.otaState == ImgState.pendingVerify)

theorem onTrial_iff : onTrial crc32 e = true ↔ otaSelectValid crc32 e = true ∧
    (e.otaState = ImgState.new ∨ e.otaState = ImgState.pendingVerify) := by
  simp [onTrial]

theorem settled_iff : settled crc32 e = true ↔ otaSelectValid crc32 e = true ∧
    e.otaState ≠ ImgState.new ∧ e.otaState ≠ ImgState.pendingVerify := by
  simp [settled]

/-! ## The invariant -/

variable (crc32) in
/-- The entry `e` leaves the decision to a slot `c` that is backed up to the number `q`, or asks
for a trial of the other slot, which must then be possible: `L`. -/
def Beside (L : Prop) (c : Fin 2) (q : UInt32) (e : OtaSelectEntry) : Prop :=
  otaSelectValid crc32 e = true → e.otaSeq ≠ 0 ∧
    (settled crc32 e = true ∧ e.otaSeq < q ∨
      onTrial crc32 e = true ∧ slotOfSeq 2 e.otaSeq = c.rev ∧ q < e.otaSeq ∧ L)

variable (crc32) in
/-- The entry with index `i` stands for the slot `c`.  The first slot needs no entry. -/
def Base (o : Otadata) (i c : Fin 2) (q : UInt32) : Prop :=
  settled crc32 (o i) = true ∧ (o i).otaSeq = q ∧ q ≠ 0 ∧ slotOfSeq 2 q = c ∨
    i = 1 ∧ intact crc32 (o 1) = false ∧ q = 0 ∧ c = 0

variable (crc32) in
/-- The slot `c` is the one that runs if nothing else is asked for. -/
structure Backed (L : Prop) (o : Otadata) (i c : Fin 2) (q : UInt32) : Prop where
  base : Base crc32 o i c q
  beside : Beside crc32 L c q (o i.rev)

variable {L : Prop} {c : Fin 2} {q : UInt32}

theorem beside_of_not_valid (h : otaSelectValid crc32 e = false) : Beside crc32 L c q e :=
  fun hv => absurd hv (by rw [h]; exact Bool.false_ne_true)

theorem Beside.torn {old new a : OtaSelectEntry} (hold : Beside crc32 L c q old)
    (hnew : Beside crc32 L c q new) (h : Torn (intact crc32) old new a) :
    Beside crc32 L c q a := by
  obtain hbad | rfl | rfl := h
  · exact beside_of_not_valid (otaSelectValid_of_not_intact hbad)
  · exact hold
  · exact hnew

/-- An entry that stands is not touched by a write to the other one. -/
theorem Base.update (h : Base crc32 o i c q) (a : OtaSelectEntry) :
    Base crc32 (Function.update o i.rev a) i c q := by
  obtain h | ⟨rfl, h⟩ := h
  · exact .inl (by rwa [Function.update_of_ne (rev_ne i).symm])
  · exact .inr ⟨rfl, by rwa [Function.update_of_ne (rev_ne 1).symm]⟩

/-- **The free entry can be written**, whatever becomes of the write. -/
theorem Backed.write (h : Backed crc32 L o i c q) {new a : OtaSelectEntry}
    (hnew : Beside crc32 L c q new) (ha : Torn (intact crc32) (o i.rev) new a) :
    Backed crc32 L (Function.update o i.rev a) i c q :=
  ⟨h.base.update a, by rw [Function.update_self]; exact h.beside.torn hnew ha⟩

/-- What is not intact can be left in the free entry. -/
theorem Backed.wipe (h : Backed crc32 L o i c q) {a : OtaSelectEntry}
    (ha : intact crc32 a = false) : Backed crc32 L (Function.update o i.rev a) i c q :=
  ⟨h.base.update a, by
    rw [Function.update_self]
    exact beside_of_not_valid (otaSelectValid_of_not_intact ha)⟩

/-- A base that needs no entry leaves no settled one beside it. -/
theorem Base.pos (h : Base crc32 o i c q) (hi : intact crc32 (o i) = true) :
    settled crc32 (o i) = true ∧ (o i).otaSeq = q ∧ q ≠ 0 ∧ slotOfSeq 2 q = c := by
  obtain h | ⟨rfl, hbad, -⟩ := h
  · exact h
  · exact absurd hi (by rw [hbad]; exact Bool.false_ne_true)

/-! ## The check for images that have not been confirmed -/

@[simp] theorem intact_markAborted : intact crc32 (markAborted e) = intact crc32 e := by
  unfold markAborted
  split <;> rfl

theorem otaSelectValid_markAborted : otaSelectValid crc32 (markAborted e) = true ↔
    otaSelectValid crc32 e = true ∧ e.otaState ≠ ImgState.pendingVerify := by
  unfold markAborted
  split
  · rename_i hpending
    simp [otaSelectValid_iff, hpending]
  · rename_i hne
    simp [hne]

theorem markAborted_of_ne (h : e.otaState ≠ ImgState.pendingVerify) : markAborted e = e :=
  if_neg h

theorem markAborted_of_settled (h : settled crc32 e = true) : markAborted e = e :=
  markAborted_of_ne (settled_iff.mp h).2.2

theorem Beside.markAborted (h : Beside crc32 L c q e) : Beside crc32 L c q (markAborted e) := by
  intro hv
  obtain ⟨hvalid, hne⟩ := otaSelectValid_markAborted.mp hv
  rw [markAborted_of_ne hne]
  exact h hvalid

theorem mem_abortWrites {w : Fin 2 × OtaSelectEntry} (h : w ∈ abortWrites o) :
    (o w.1).otaState = ImgState.pendingVerify ∧ w.2 = markAborted (o w.1) := by
  obtain ⟨i, -, hi⟩ := List.mem_filterMap.mp h
  obtain ⟨hpending, hw⟩ := Option.ite_none_right_eq_some.mp hi
  obtain rfl := Option.some.inj hw
  exact ⟨hpending, rfl⟩

/-! ## The selection -/

/-- What a trial is written as, when it starts. -/
def started (e : OtaSelectEntry) : OtaSelectEntry :=
  { e with otaState := ImgState.pendingVerify }

theorem pending_ne_invalid : ImgState.pendingVerify ≠ ImgState.invalid := by decide

theorem pending_ne_aborted : ImgState.pendingVerify ≠ ImgState.aborted := by decide

theorem beside_started (h : Beside crc32 L c q e) (ht : onTrial crc32 e = true) :
    Beside crc32 L c q (started e) ∧ onTrial crc32 (started e) = true := by
  have hvalid := (onTrial_iff.mp ht).1
  have hstarted : otaSelectValid crc32 (started e) = true := by
    rw [otaSelectValid_iff] at hvalid ⊢
    exact ⟨hvalid.1, pending_ne_invalid, pending_ne_aborted, hvalid.2.2.2⟩
  have htrial : onTrial crc32 (started e) = true := onTrial_iff.mpr ⟨hstarted, .inr rfl⟩
  obtain ⟨hne, ⟨hset, -⟩ | hseq⟩ := h hvalid
  · exact absurd ((settled_iff.mp hset).2) (by rw [onTrial_iff] at ht; tauto)
  · exact ⟨fun _ => ⟨hne, .inr ⟨htrial, hseq.2⟩⟩, htrial⟩

variable (crc32) in
/-- The free entry asks for a trial that has not been started. -/
def Armed (o : Otadata) (i : Fin 2) : Prop :=
  onTrial crc32 (o i.rev) = true ∧ (o i.rev).otaState = ImgState.new

theorem getActiveOtadata_of_armed (h : Backed crc32 L o i c q) (ha : Armed crc32 o i) :
    getActiveOtadata crc32 (fun i => markAborted (o i)) = some i.rev := by
  have hne : (o i.rev).otaState ≠ ImgState.pendingVerify := by
    rw [ha.2]
    decide
  have hvalid := (onTrial_iff.mp ha.1).1
  obtain ⟨-, ⟨hset, -⟩ | ⟨-, -, hlt, -⟩⟩ := h.beside hvalid
  · exact absurd ha.2 (settled_iff.mp hset).2.1
  · apply selectOtadata_of_lt
    · exact otaSelectValid_markAborted.mpr ⟨hvalid, hne⟩
    · rw [Fin.rev_rev, markAborted_of_ne hne]
      intro hv
      have hbase := h.base.pos (by
        rw [← intact_markAborted]
        exact (otaSelectValid_iff_intact.mp hv).1)
      rw [markAborted_of_settled hbase.1, hbase.2.1]
      exact hlt

/-- Without such a trial the free entry does not count. -/
theorem Backed.free_of_not_armed (h : Backed crc32 L o i c q) (ha : ¬Armed crc32 o i)
    (hv : otaSelectValid crc32 (markAborted (o i.rev)) = true) :
    settled crc32 (o i.rev) = true ∧ (o i.rev).otaSeq < q := by
  obtain ⟨hvalid, hne⟩ := otaSelectValid_markAborted.mp hv
  obtain ⟨-, hset | ⟨htrial, -⟩⟩ := h.beside hvalid
  · exact hset
  · exact absurd ⟨htrial, ((onTrial_iff.mp htrial).2).resolve_right hne⟩ ha

/-- The selection when a trial is asked for. -/
theorem selection_of_armed (h : Backed crc32 L o i c q) (ha : Armed crc32 o i) :
    getSelectedBootPartition crc32 2 o =
      { writes := abortWrites o ++ [(i.rev, started (o i.rev))]
        bootIndex := some c.rev
        otaHasInitialContents := false } := by
  have hne : (o i.rev).otaState ≠ ImgState.pendingVerify := by
    rw [ha.2]
    decide
  have hvalid := (onTrial_iff.mp ha.1).1
  have hinv : (otaSelectInvalid (markAborted (o 0)) && otaSelectInvalid (markAborted (o 1))) =
      false := by
    have : otaSelectInvalid (markAborted (o i.rev)) = false := by
      rw [markAborted_of_ne hne]
      simp only [otaSelectValid, Bool.and_eq_true, beq_iff_eq] at hvalid
      exact hvalid.1
    obtain h0 | h1 := eq_zero_or_eq_one i.rev
    · rw [h0] at this
      rw [this, Bool.false_and]
    · rw [h1] at this
      rw [this, Bool.and_false]
  have hslot : slotOfSeq 2 (o i.rev).otaSeq = c.rev := by
    obtain ⟨-, ⟨hset, -⟩ | hseq⟩ := h.beside hvalid
    · exact absurd ha.2 (settled_iff.mp hset).2.1
    · exact hseq.2.1
  unfold getSelectedBootPartition
  simp only [hinv, Bool.false_eq_true, if_false, getActiveOtadata_of_armed h ha,
    markAborted_of_ne hne, if_pos ha.2, hslot, started]

/-- The selection when no trial is asked for: the slot that is backed, or any in order. -/
theorem selection_of_not_armed (h : Backed crc32 L o i c q) (ha : ¬Armed crc32 o i) :
    (getSelectedBootPartition crc32 2 o).writes = abortWrites o ∧
      ((getSelectedBootPartition crc32 2 o).bootIndex = some c ∨
        (getSelectedBootPartition crc32 2 o).bootIndex = none ∧ c = 0) ∧
      ((getSelectedBootPartition crc32 2 o).otaHasInitialContents = true →
        ∀ j, intact crc32 (o j) = false) := by
  obtain hbase | ⟨rfl, hbad, rfl, rfl⟩ := h.base
  · -- an entry stands for the slot
    have hvalid := (settled_iff.mp hbase.1).1
    have hmark := markAborted_of_settled hbase.1
    have hactive : getActiveOtadata crc32 (fun i => markAborted (o i)) = some i := by
      refine selectOtadata_of_lt (by simpa only [hmark] using hvalid) fun hv => ?_
      obtain ⟨hset, hlt⟩ := h.free_of_not_armed ha hv
      rw [markAborted_of_settled hset, hmark, hbase.2.1]
      exact hlt
    have hinv : (otaSelectInvalid (markAborted (o 0)) &&
        otaSelectInvalid (markAborted (o 1))) = false := by
      have : otaSelectInvalid (markAborted (o i)) = false := by
        rw [hmark]
        simp only [otaSelectValid, Bool.and_eq_true, beq_iff_eq] at hvalid
        exact hvalid.1
      obtain rfl | rfl := eq_zero_or_eq_one i
      · rw [this, Bool.false_and]
      · rw [this, Bool.and_false]
    unfold getSelectedBootPartition
    simp only [hinv, Bool.false_eq_true, if_false, hactive, hmark,
      if_neg (settled_iff.mp hbase.1).2.1, List.append_nil, hbase.2.1, hbase.2.2.2, true_or,
      false_implies, and_self]
  · -- no entry stands for the first slot
    have hfree : otaSelectValid crc32 (markAborted (o 0)) = false := by
      rw [Bool.eq_false_iff]
      intro hv
      exact absurd (h.free_of_not_armed ha hv).2 (Nat.not_lt_zero _)
    have hother : otaSelectValid crc32 (markAborted (o 1)) = false :=
      otaSelectValid_of_not_intact (by rw [intact_markAborted, hbad])
    have hactive : getActiveOtadata crc32 (fun i => markAborted (o i)) = none :=
      selectOtadata_eq_none.mpr (Fin.forall_fin_two.mpr ⟨hfree, hother⟩)
    unfold getSelectedBootPartition
    cases hinv : otaSelectInvalid (markAborted (o 0)) && otaSelectInvalid (markAborted (o 1)) with
    | true =>
      simp only [hinv, if_true, true_or, true_and, intact_markAborted, Bool.and_eq_true,
        Bool.not_eq_true']
      exact fun hinit => Fin.forall_fin_two.mpr hinit
    | false =>
      simp only [hinv, Bool.false_eq_true, if_false, hactive, and_self, or_true, false_implies]

/-! ## The image that is loaded -/

theorem tryOrder_some (s : Fin 2) : tryOrder (some s) = [s, s.rev] := by
  revert s
  decide

theorem tryOrder_none : tryOrder (none : Option (Fin 2)) = [0, 1] := by decide

variable {loads : Fin 2 → Bool}

theorem bootloader_of_armed (h : Backed crc32 L o i c q) (ha : Armed crc32 o i)
    (hl : loads c.rev = true) :
    bootloader crc32 o loads =
      { writes := abortWrites o ++ [(i.rev, started (o i.rev))], loaded := some c.rev } := by
  unfold bootloader
  simp only [selection_of_armed h ha, tryOrder_some, List.find?_cons_of_pos hl,
    Bool.false_eq_true, if_false, List.append_nil]

theorem loaded_of_not_armed (h : Backed crc32 L o i c q) (ha : ¬Armed crc32 o i)
    (hl : loads c = true) : (bootloader crc32 o loads).loaded = some c := by
  obtain ⟨-, hindex | ⟨hindex, rfl⟩, -⟩ := selection_of_not_armed h ha
  · simp only [bootloader, hindex, tryOrder_some, List.find?_cons_of_pos hl]
  · simp only [bootloader, hindex, tryOrder_none, List.find?_cons_of_pos hl]

/-- Without a trial, the writes are those of the check for images that have not been confirmed,
and for empty entries the one that makes up for them. -/
theorem writes_of_not_armed (h : Backed crc32 L o i c q) (ha : ¬Armed crc32 o i)
    (hl : loads c = true) :
    (bootloader crc32 o loads).writes = abortWrites o ∨
      (∀ j, intact crc32 (o j) = false) ∧
        (bootloader crc32 o loads).writes = abortWrites o ++ [(0, actualEntry crc32 c)] := by
  have hloaded := loaded_of_not_armed h ha hl
  obtain ⟨hwrites, -, hinit⟩ := selection_of_not_armed h ha
  unfold bootloader at hloaded ⊢
  simp only at hloaded
  simp only [hloaded, hwrites]
  cases hc : (getSelectedBootPartition crc32 2 o).otaHasInitialContents with
  | false => exact .inl (List.append_nil _)
  | true => exact .inr ⟨hinit hc, rfl⟩

/-! ## What becomes of the entries -/

variable {o' : Otadata} {outs : List (Outcome OtaSelectEntry)}

/-- The check for images that have not been confirmed leaves alone what stands. -/
theorem Backed.abort (h : Backed crc32 L o i c q) {m : Otadata} (hm : Backed crc32 L m i c q)
    {w : Fin 2 × OtaSelectEntry} (hw : w ∈ abortWrites o) {a : OtaSelectEntry}
    (ha : Torn (intact crc32) (m w.1) w.2 a) :
    Backed crc32 L (Function.update m w.1 a) i c q := by
  obtain ⟨hpending, hnew⟩ := mem_abortWrites hw
  obtain hi | hi := eq_or_eq_rev i w.1
  · rw [hi] at hpending hnew ha ⊢
    obtain hbase | ⟨rfl, hbad, rfl, rfl⟩ := h.base
    · exact absurd hpending (settled_iff.mp hbase.1).2.2
    · -- the entry is not needed and not intact before and after
      have hbad' : intact crc32 a = false := by
        obtain hbad' | rfl | rfl := ha
        · exact hbad'
        · obtain hset | ⟨-, hbad', -⟩ := hm.base
          · exact absurd rfl hset.2.2.1
          · exact hbad'
        · rw [hnew, intact_markAborted]
          exact hbad
      refine ⟨.inr ⟨rfl, by rwa [Function.update_self], rfl, rfl⟩, ?_⟩
      rw [update_rev_apply]
      exact hm.beside
  · rw [hi] at hnew ha ⊢
    exact hm.write (hnew ▸ h.beside.markAborted) ha

/-- The entries after the check. -/
theorem foldl_abortWrites :
    (abortWrites o).foldl (fun m w => Function.update m w.1 w.2) o =
      fun j => markAborted (o j) := by
  have hrange : List.finRange 2 = [0, 1] := by decide
  funext j
  unfold abortWrites markAborted
  rw [hrange]
  obtain rfl | rfl := eq_zero_or_eq_one j
  · by_cases h0 : (o 0).otaState = ImgState.pendingVerify <;>
      by_cases h1 : (o 1).otaState = ImgState.pendingVerify <;> simp [h0, h1]
  · by_cases h0 : (o 0).otaState = ImgState.pendingVerify <;>
      by_cases h1 : (o 1).otaState = ImgState.pendingVerify <;> simp [h0, h1]

/-- **The start of a trial**, whatever becomes of the writes: the same slot is backed, and if the
writes succeed the trial has been started. -/
theorem entries_of_armed (h : Backed crc32 L o i c q) (ha : Armed crc32 o i)
    (hw : writes (intact crc32) o (abortWrites o ++ [(i.rev, started (o i.rev))]) outs = some o') :
    Backed crc32 L o' i c q ∧
      ((∀ x ∈ outs, x = .done) → outs.length = (abortWrites o).length + 1 →
        o' i.rev = started (o i.rev)) := by
  refine ⟨writes_invariant (P := fun m => Backed crc32 L m i c q) ?_ h hw, fun hdone hlen => ?_⟩
  · intro w hmem m hm a htorn
    obtain hmem | hmem := List.mem_append.mp hmem
    · exact h.abort hm hmem htorn
    · obtain rfl := List.mem_singleton.mp hmem
      exact hm.write (beside_started h.beside ha.1).1 htorn
  · rw [writes_done hdone (by simpa using hlen)] at hw
    rw [← Option.some.inj hw, List.foldl_append, List.foldl_cons, List.foldl_nil,
      Function.update_self]

variable (crc32) in
/-- No entry asks for a trial. -/
def Quiet (o : Otadata) : Prop := ∀ j, onTrial crc32 (o j) = false

theorem onTrial_of_not_intact (h : intact crc32 e = false) : onTrial crc32 e = false := by
  rw [onTrial, otaSelectValid_of_not_intact h, Bool.false_and]

theorem onTrial_of_settled (h : settled crc32 e = true) : onTrial crc32 e = false := by
  rw [settled, Bool.and_eq_true, Bool.not_eq_true'] at h
  rw [onTrial, h.2, Bool.and_false]

theorem Base.quiet (h : Base crc32 o i c q) : onTrial crc32 (o i) = false := by
  obtain h | ⟨rfl, hbad, -⟩ := h
  · exact onTrial_of_settled h.1
  · exact onTrial_of_not_intact hbad

theorem quiet_of_not_armed (h : Backed crc32 L o i c q) (ha : ¬Armed crc32 o i) :
    Quiet crc32 fun j => markAborted (o j) := by
  intro j
  show onTrial crc32 (markAborted (o j)) = false
  obtain rfl | rfl := eq_or_eq_rev i j
  · cases hv : otaSelectValid crc32 (markAborted (o j)) with
    | false => rw [onTrial, hv, Bool.false_and]
    | true =>
      have hbase := h.base.pos (by
        rw [← intact_markAborted]
        exact (otaSelectValid_iff_intact.mp hv).1)
      rw [markAborted_of_settled hbase.1]
      exact onTrial_of_settled hbase.1
  · cases hv : otaSelectValid crc32 (markAborted (o i.rev)) with
    | false => rw [onTrial, hv, Bool.false_and]
    | true =>
      have hset := (h.free_of_not_armed ha hv).1
      rw [markAborted_of_settled hset]
      exact onTrial_of_settled hset

/-- The entry that makes up for empty ones. -/
theorem settled_actualEntry : settled crc32 (actualEntry crc32 (0 : Fin 2)) = true := by
  rw [settled_iff, otaSelectValid_iff]
  exact ⟨⟨by simp [actualEntry], by simp [actualEntry, ImgState.valid, ImgState.invalid],
    by simp [actualEntry, ImgState.valid, ImgState.aborted], rfl⟩,
    by simp [actualEntry, ImgState.valid, ImgState.new],
    by simp [actualEntry, ImgState.valid, ImgState.pendingVerify]⟩

variable (crc32) in
/-- The entries are empty, up to the one that makes up for this. -/
def Fresh (m : Otadata) : Prop :=
  intact crc32 (m 1) = false ∧
    (intact crc32 (m 0) = false ∨ m 0 = actualEntry crc32 (0 : Fin 2))

theorem Fresh.backed {m : Otadata} (h : Fresh crc32 m) : ∃ i q, Backed crc32 L m i 0 q := by
  obtain ⟨h1, h0 | h0⟩ := h
  · exact ⟨1, 0, .inr ⟨rfl, h1, rfl, rfl⟩,
      beside_of_not_valid (otaSelectValid_of_not_intact (by rwa [rev_one]))⟩
  · refine ⟨0, 1, .inl ⟨?_, ?_, by decide, by decide⟩,
      beside_of_not_valid (otaSelectValid_of_not_intact (by rwa [rev_zero]))⟩
    · rw [h0]
      exact settled_actualEntry
    · rw [h0]
      rfl

/-- A write of what is not intact, or of the first entry, leaves the entries empty up to that. -/
theorem Fresh.write {m : Otadata} (h : Fresh crc32 m) {w : Fin 2 × OtaSelectEntry}
    {a : OtaSelectEntry}
    (hnew : intact crc32 w.2 = false ∨ w = (0, actualEntry crc32 (0 : Fin 2)))
    (ha : Torn (intact crc32) (m w.1) w.2 a) : Fresh crc32 (Function.update m w.1 a) := by
  obtain ⟨j, new⟩ := w
  obtain rfl | rfl := eq_zero_or_eq_one j
  · refine ⟨by rw [Function.update_of_ne (by simp)]; exact h.1, ?_⟩
    rw [Function.update_self]
    obtain hbad | rfl | rfl := ha
    · exact .inl hbad
    · exact h.2
    · exact hnew.imp_right fun hw => congrArg Prod.snd hw
  · refine ⟨?_, by rw [Function.update_of_ne (by simp)]; exact h.2⟩
    rw [Function.update_self]
    obtain hbad | rfl | rfl := ha
    · exact hbad
    · exact h.1
    · obtain hbad | hw := hnew
      · exact hbad
      · exact absurd (congrArg Prod.fst hw) (show ¬(1 : Fin 2) = 0 by decide)

/-- **A start without a trial**, whatever becomes of the writes: the same slot is backed, and if
the writes succeed no entry asks for a trial. -/
theorem entries_of_not_armed (h : Backed crc32 L o i c q) (ha : ¬Armed crc32 o i)
    (hl : loads c = true)
    (hw : writes (intact crc32) o (bootloader crc32 o loads).writes outs = some o') :
    (∃ i' q', Backed crc32 L o' i' c q') ∧
      ((∀ x ∈ outs, x = .done) → outs.length = (bootloader crc32 o loads).writes.length →
        Quiet crc32 o') := by
  obtain hwrites | ⟨hbad, hwrites⟩ := writes_of_not_armed h ha hl
  · rw [hwrites] at hw ⊢
    refine ⟨⟨i, q, ?_⟩, fun hdone hlen => ?_⟩
    · exact writes_invariant (P := fun m => Backed crc32 L m i c q)
        (fun w hmem m hm a htorn => h.abort hm hmem htorn) h hw
    · rw [writes_done hdone hlen, foldl_abortWrites] at hw
      exact Option.some.inj hw ▸ quiet_of_not_armed h ha
  · have hc : c = 0 := by
      obtain hbase | ⟨-, -, -, hc⟩ := h.base
      · have hvalid := (otaSelectValid_iff_intact.mp (settled_iff.mp hbase.1).1).1
        exact absurd hvalid (by rw [hbad]; exact Bool.false_ne_true)
      · exact hc
    subst hc
    rw [hwrites] at hw ⊢
    refine ⟨Fresh.backed (writes_invariant (P := Fresh crc32) ?_ ⟨hbad 1, .inl (hbad 0)⟩ hw),
      fun hdone hlen => ?_⟩
    · intro w hmem m hm a htorn
      refine hm.write ?_ htorn
      obtain hmem | hmem := List.mem_append.mp hmem
      · rw [(mem_abortWrites hmem).2, intact_markAborted]
        exact .inl (hbad _)
      · exact .inr (List.mem_singleton.mp hmem)
    · rw [writes_done hdone hlen, List.foldl_append, foldl_abortWrites] at hw
      rw [← Option.some.inj hw, List.foldl_cons, List.foldl_nil]
      intro j
      obtain rfl | rfl := eq_zero_or_eq_one j
      · rw [Function.update_self]
        exact onTrial_of_settled settled_actualEntry
      · rw [Function.update_of_ne (by simp)]
        exact quiet_of_not_armed h ha 1

/-- No write of a start without a trial asks for one. -/
theorem onTrial_of_mem_writes (h : Backed crc32 L o i c q) (ha : ¬Armed crc32 o i)
    (hl : loads c = true) {w : Fin 2 × OtaSelectEntry}
    (hw : w ∈ (bootloader crc32 o loads).writes) : onTrial crc32 w.2 = false := by
  have habort : ∀ w ∈ abortWrites o, onTrial crc32 w.2 = false := by
    intro w hw
    obtain ⟨hpending, hnew⟩ := mem_abortWrites hw
    have hv : otaSelectValid crc32 w.2 = false := by
      rw [hnew, Bool.eq_false_iff, Ne, otaSelectValid_markAborted]
      exact fun h => h.2 hpending
    rw [onTrial, hv, Bool.false_and]
  obtain hwrites | ⟨hbad, hwrites⟩ := writes_of_not_armed h ha hl
  · exact habort w (hwrites ▸ hw)
  · rw [hwrites] at hw
    obtain hmem | hmem := List.mem_append.mp hw
    · exact habort w hmem
    · obtain rfl := List.mem_singleton.mp hmem
      obtain hbase | ⟨-, -, -, rfl⟩ := h.base
      · have hvalid := (otaSelectValid_iff_intact.mp (settled_iff.mp hbase.1).1).1
        exact absurd hvalid (by rw [hbad]; exact Bool.false_ne_true)
      · exact onTrial_of_settled settled_actualEntry

/-- After writes that do not ask for a trial, an entry that does is an old one. -/
theorem eq_of_onTrial {ws : List (Fin 2 × OtaSelectEntry)}
    (hws : ∀ w ∈ ws, onTrial crc32 w.2 = false)
    (hw : writes (intact crc32) o ws outs = some o') {j : Fin 2}
    (ht : onTrial crc32 (o' j) = true) : o' j = o j := by
  refine writes_invariant (P := fun m => ∀ j, onTrial crc32 (m j) = true → m j = o j) ?_
    (fun _ _ => rfl) hw j ht
  intro w hmem m hm a htorn j hj
  obtain rfl | hne := eq_or_ne j w.1
  · rw [Function.update_self] at hj ⊢
    obtain hbad | rfl | rfl := htorn
    · exact absurd hj (by rw [onTrial_of_not_intact hbad]; exact Bool.false_ne_true)
    · exact hm _ hj
    · exact absurd hj (by rw [hws w hmem]; exact Bool.false_ne_true)
  · rw [Function.update_of_ne hne] at hj ⊢
    exact hm j hj

end Ota
end RuuviGateway
