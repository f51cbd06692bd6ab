import RuuviGateway.Lib.TornWrites
import Mathlib.Data.Fin.Rev
import Mathlib.Data.Nat.ModEq

/-!
# Which image the bootloader is to start

The partition `otadata` has two entries, each in a sector of its own.  An entry names a slot by a
sequence number, and the valid one with the higher number counts: `bootloader_common.c`.
`esp_rewrite_ota_data` in `esp_ota_ops_patched.c` asks for another slot: it writes the entry that
is not needed, with the next number that names the slot.

The entry that is needed is the one for the running image.  That is not always the one with the
higher number: the bootloader passes over an image that is damaged.

The checksum covers the sequence number only.  `crc32_le` is in the ROM; here it is any function.
The label of an entry, which nothing reads, is left out.
-/

namespace RuuviGateway
namespace Ota

open TornWrites

theorem neZero_two : NeZero 2 := ⟨by decide⟩

attribute [local instance] neZero_two

/-! ## Entries -/

/-! `esp_ota_img_states_t`, as the words in the flash. -/

def ImgState.new : UInt32 := 0
def ImgState.pendingVerify : UInt32 := 1
def ImgState.valid : UInt32 := 2
def ImgState.invalid : UInt32 := 3
def ImgState.aborted : UInt32 := 4
def ImgState.undefined : UInt32 := 0xFFFFFFFF

/-- `esp_ota_select_entry_t`. -/
structure OtaSelectEntry where
  otaSeq : UInt32
  otaState : UInt32
  crc : UInt32
  deriving DecidableEq

/-- An erased entry. -/
def OtaSelectEntry.erased : OtaSelectEntry := ⟨0xFFFFFFFF, 0xFFFFFFFF, 0xFFFFFFFF⟩

/-- `two_otadata`. -/
abbrev Otadata := Fin 2 → OtaSelectEntry

/-- A step of CRC-32 for one bit. -/
def crc32Bit (c : UInt32) : UInt32 :=
  if c &&& 1 = 1 then (c >>> 1) ^^^ 0xEDB88320 else c >>> 1

/-- `crc32_le(UINT32_MAX, (uint8_t*)&seq, 4)` of the ROM. -/
def crc32Le (seq : UInt32) : UInt32 := ~~~(crc32Bit^[32] seq)

section Select

variable (crc32 : UInt32 → UInt32)

/-- `bootloader_common_ota_select_crc`. -/
def otaSelectCrc (s : OtaSelectEntry) : UInt32 := crc32 s.otaSeq

/-- `bootloader_common_ota_select_invalid`. -/
def otaSelectInvalid (s : OtaSelectEntry) : Bool :=
  s.otaSeq == 0xFFFFFFFF || s.otaState == ImgState.invalid || s.otaState == ImgState.aborted

/-- `bootloader_common_ota_select_valid`. -/
def otaSelectValid (s : OtaSelectEntry) : Bool :=
  otaSelectInvalid s == false && s.crc == otaSelectCrc crc32 s

/-- The entry has been written, and its checksum fits. -/
def intact (s : OtaSelectEntry) : Bool :=
  !(s.otaSeq == 0xFFFFFFFF || s.crc != otaSelectCrc crc32 s)

/-- `bootloader_common_select_otadata` for `max`. -/
def selectOtadata (o : Otadata) (valid : Fin 2 → Bool) : Option (Fin 2) :=
  if valid 0 && valid 1 then
    let condition := if (o 1).otaSeq < (o 0).otaSeq then (o 0).otaSeq else (o 1).otaSeq
    if condition = (o 0).otaSeq then some 0 else some 1
  else if valid 0 then some 0
  else if valid 1 then some 1
  else none

/-- `bootloader_common_get_active_otadata`. -/
def getActiveOtadata (o : Otadata) : Option (Fin 2) :=
  selectOtadata o fun i => otaSelectValid crc32 (o i)

/-- The slot of a sequence number, as the bootloader computes it. -/
def slotOfSeq (n : Nat) [NeZero n] (otaSeq : UInt32) : Fin n :=
  Fin.ofNat n (otaSeq - 1).toNat

/-- `esp_ota_calc_slot_from_seq`. -/
def calcSlotFromSeq (n : Nat) [NeZero n] (otaSeq : UInt32) : Option (Fin n) :=
  if otaSeq = 0xFFFFFFFF ∨ otaSeq = 0 then none else some (slotOfSeq n otaSeq)

/-- `find_otadata_idx_for_ota_slot`. -/
def findOtadataIdxForOtaSlot {n : Nat} [NeZero n] (o : Otadata) (slot : Fin n) :
    Option (Fin 2) :=
  if calcSlotFromSeq n (o 0).otaSeq = some slot ∧ otaSelectValid crc32 (o 0) = true then some 0
  else if calcSlotFromSeq n (o 1).otaSeq = some slot ∧ otaSelectValid crc32 (o 1) = true then
    some 1
  else none

/-! ## A new entry -/

/-- The entry that is kept beside the new one: `active_otadata` in `esp_rewrite_ota_data`,
where it is used. -/
def keptOtadata {n : Nat} [NeZero n] (o : Otadata) (running : Option (Fin n)) :
    Option (Fin 2) :=
  match getActiveOtadata crc32 o, running with
  | some active, some slot =>
      if calcSlotFromSeq n (o active).otaSeq ≠ some slot then
        -- the bootloader has passed over the image it was to start
        match findOtadataIdxForOtaSlot crc32 o slot with
        | some i => some i
        | none => some active
      else some active
  | active, _ => active

/-- `base + i * ota_app_count` in `esp_rewrite_ota_data`. -/
def nextSeq (n slot : Nat) (seq : UInt32) : UInt32 :=
  let base := UInt32.ofNat ((slot + 1) % n)
  let i := if seq < base then 0 else (seq - base + UInt32.ofNat n) / UInt32.ofNat n
  base + i * UInt32.ofNat n

/-- What `rewrite_ota_seq` writes, with the state of `set_new_state_otadata`. -/
def newEntry (seq : UInt32) : OtaSelectEntry where
  otaSeq := seq
  otaState := ImgState.new
  crc := crc32 seq

/-- `esp_rewrite_ota_data`, up to the call of `rewrite_ota_seq`: the entry that is written, or
`none` for `ESP_ERR_INVALID_ARG`. -/
def rewriteOtaData {n : Nat} [NeZero n] (o : Otadata) (running : Option (Fin n)) (subTypeId : Nat) :
    Option (Fin 2 × OtaSelectEntry) :=
  if n ≤ subTypeId then none
  else
    match keptOtadata crc32 o running with
    | some active => some (active.rev, newEntry crc32 (nextSeq n subTypeId (o active).otaSeq))
    | none => some (0, newEntry crc32 (UInt32.ofNat (subTypeId + 1)))

end Select

/-! ## Selection -/

variable {crc32 : UInt32 → UInt32} {o : Otadata} {e : OtaSelectEntry} {i : Fin 2}
  {n : Nat} [NeZero n]

theorem otaSelectValid_iff : otaSelectValid crc32 e = true ↔
    e.otaSeq ≠ 0xFFFFFFFF ∧ e.otaState ≠ ImgState.invalid ∧ e.otaState ≠ ImgState.aborted ∧
      e.crc = crc32 e.otaSeq := by
  simp [otaSelectValid, otaSelectInvalid, otaSelectCrc, and_assoc]

theorem otaSelectValid_iff_intact : otaSelectValid crc32 e = true ↔
    intact crc32 e = true ∧ e.otaState ≠ ImgState.invalid ∧ e.otaState ≠ ImgState.aborted := by
  simp only [otaSelectValid_iff, intact, otaSelectCrc, Bool.not_eq_true', Bool.or_eq_false_iff,
    beq_eq_false_iff_ne, bne_eq_false_iff_eq]
  tauto

theorem otaSelectValid_of_not_intact (h : intact crc32 e = false) :
    otaSelectValid crc32 e = false := by
  rw [Bool.eq_false_iff, Ne, otaSelectValid_iff_intact, h]
  simp

theorem eq_zero_or_eq_one (i : Fin 2) : i = 0 ∨ i = 1 := by omega

theorem rev_zero : Fin.rev (0 : Fin 2) = 1 := rfl

theorem rev_one : Fin.rev (1 : Fin 2) = 0 := rfl

theorem rev_ne (i : Fin 2) : i.rev ≠ i := by
  revert i
  decide

theorem eq_or_eq_rev (i j : Fin 2) : j = i ∨ j = i.rev := by
  revert i j
  decide

/-- The entry that counts is valid, and no other valid entry has a higher number. -/
theorem getActiveOtadata_eq_some (h : getActiveOtadata crc32 o = some i) :
    otaSelectValid crc32 (o i) = true ∧
      (otaSelectValid crc32 (o i.rev) = true → (o i.rev).otaSeq ≤ (o i).otaSeq) := by
  unfold getActiveOtadata selectOtadata at h
  obtain rfl | rfl := eq_zero_or_eq_one i
  · rw [rev_zero]
    grind
  · rw [rev_one]
    grind

/-- An entry is selected if the other one is not to be looked at or has a lower number. -/
theorem selectOtadata_of_lt {valid : Fin 2 → Bool} (hi : valid i = true)
    (hlt : valid i.rev = true → (o i.rev).otaSeq < (o i).otaSeq) :
    selectOtadata o valid = some i := by
  unfold selectOtadata
  obtain rfl | rfl := eq_zero_or_eq_one i
  · rw [rev_zero] at hlt
    grind
  · rw [rev_one] at hlt
    grind

theorem selectOtadata_eq_none {valid : Fin 2 → Bool} :
    selectOtadata o valid = none ↔ ∀ i, valid i = false := by
  unfold selectOtadata
  rw [Fin.forall_fin_two]
  grind

/-! ## The entry that is kept -/

theorem findOtadataIdxForOtaSlot_eq_some {slot : Fin n}
    (h : findOtadataIdxForOtaSlot crc32 o slot = some i) :
    calcSlotFromSeq n (o i).otaSeq = some slot ∧ otaSelectValid crc32 (o i) = true := by
  unfold findOtadataIdxForOtaSlot at h
  grind

theorem findOtadataIdxForOtaSlot_eq_none {slot : Fin n} :
    findOtadataIdxForOtaSlot crc32 o slot = none ↔
      ∀ i, otaSelectValid crc32 (o i) = true → calcSlotFromSeq n (o i).otaSeq ≠ some slot := by
  unfold findOtadataIdxForOtaSlot
  rw [Fin.forall_fin_two]
  grind

/-- The entry that is kept is valid. -/
theorem otaSelectValid_of_kept {running : Option (Fin n)}
    (h : keptOtadata crc32 o running = some i) : otaSelectValid crc32 (o i) = true := by
  unfold keptOtadata at h
  cases hactive : getActiveOtadata crc32 o with
  | none => simp [hactive] at h
  | some active =>
    have hvalid := (getActiveOtadata_eq_some hactive).1
    cases running with
    | none =>
      simp only [hactive, Option.some.injEq] at h
      exact h ▸ hvalid
    | some slot =>
      simp only [hactive] at h
      cases hfind : findOtadataIdxForOtaSlot crc32 o slot with
      | none => grind
      | some j =>
        have := (findOtadataIdxForOtaSlot_eq_some hfind).2
        grind

/-- An entry is kept if there is a valid one. -/
theorem keptOtadata_eq_none {running : Option (Fin n)} :
    keptOtadata crc32 o running = none ↔ ∀ i, otaSelectValid crc32 (o i) = false := by
  rw [← selectOtadata_eq_none (o := o)]
  unfold keptOtadata
  rw [← getActiveOtadata]
  cases getActiveOtadata crc32 o with
  | none => simp
  | some active => cases running <;> grind

/-! ## The next sequence number -/

theorem lt_size {k : Nat} (hk : k < 256) : k < UInt32.size :=
  Nat.lt_trans hk (by decide)

/-- `nextSeq` without overflow. -/
theorem toNat_nextSeq {slot : Nat} {seq : UInt32} (hn : n < 256)
    (hseq : seq.toNat + n < 4294967296) :
    (nextSeq n slot seq).toNat =
      if seq.toNat < (slot + 1) % n then (slot + 1) % n
      else (slot + 1) % n + ((seq.toNat - (slot + 1) % n) / n + 1) * n := by
  have hpos : 0 < n := Nat.pos_of_ne_zero (NeZero.ne n)
  have hbase : (slot + 1) % n < n := Nat.mod_lt _ hpos
  have hbase32 : (UInt32.ofNat ((slot + 1) % n)).toNat = (slot + 1) % n := by
    exact UInt32.toNat_ofNat_of_lt' (lt_size (by omega))
  have hn32 : (UInt32.ofNat n).toNat = n := by
    exact UInt32.toNat_ofNat_of_lt' (lt_size (by omega))
  unfold nextSeq
  simp only [UInt32.lt_iff_toNat_lt, hbase32]
  split
  · rw [UInt32.zero_mul, UInt32.add_zero, hbase32]
  · rename_i hle
    have hsub : (seq - UInt32.ofNat ((slot + 1) % n)).toNat = seq.toNat - (slot + 1) % n := by
      rw [UInt32.toNat_sub_of_le _ _ (UInt32.le_iff_toNat_le.mpr (by omega)), hbase32]
    have hadd : (seq - UInt32.ofNat ((slot + 1) % n) + UInt32.ofNat n).toNat =
        seq.toNat - (slot + 1) % n + n := by
      rw [UInt32.toNat_add, hsub, hn32, Nat.mod_eq_of_lt (by omega)]
    have hdiv : (seq.toNat - (slot + 1) % n + n) / n =
        (seq.toNat - (slot + 1) % n) / n + 1 := Nat.add_div_right _ hpos
    have hmul : (seq.toNat - (slot + 1) % n) / n * n ≤ seq.toNat - (slot + 1) % n :=
      Nat.div_mul_le_self _ _
    have hprod : ((seq.toNat - (slot + 1) % n) / n + 1) * n ≤ seq.toNat - (slot + 1) % n + n := by
      rw [Nat.add_mul, Nat.one_mul]
      omega
    rw [UInt32.toNat_add, UInt32.toNat_mul, UInt32.toNat_div, hadd, hn32, hdiv, hbase32,
      Nat.mod_eq_of_lt (show _ * n < _ by omega), Nat.mod_eq_of_lt (by omega)]

theorem lt_nextSeq {slot : Nat} {seq : UInt32} (hn : n < 256)
    (hseq : seq.toNat + n < 4294967296) : seq < nextSeq n slot seq := by
  have hpos : 0 < n := Nat.pos_of_ne_zero (NeZero.ne n)
  rw [UInt32.lt_iff_toNat_lt, toNat_nextSeq hn hseq]
  split
  · assumption
  · have := Nat.lt_div_mul_add hpos (a := seq.toNat - (slot + 1) % n)
    rw [Nat.add_mul, Nat.one_mul]
    omega

theorem toNat_nextSeq_le {slot : Nat} {seq : UInt32} (hn : n < 256)
    (hseq : seq.toNat + n < 4294967296) : (nextSeq n slot seq).toNat ≤ seq.toNat + n := by
  have hbase : (slot + 1) % n < n := Nat.mod_lt _ (Nat.pos_of_ne_zero (NeZero.ne n))
  have := Nat.div_mul_le_self (seq.toNat - (slot + 1) % n) n
  rw [toNat_nextSeq hn hseq]
  split
  · omega
  · rw [Nat.add_mul, Nat.one_mul]
    omega

theorem slotOfSeq_eq {seq : UInt32} (hseq : seq ≠ 0) :
    (slotOfSeq n seq).val = (seq.toNat - 1) % n := by
  have hpos : 1 ≤ seq := by
    rw [UInt32.le_iff_toNat_le]
    have : seq.toNat ≠ 0 := fun h => hseq (UInt32.toNat_inj.mp h)
    exact Nat.one_le_iff_ne_zero.mpr this
  rw [slotOfSeq, Fin.val_ofNat, UInt32.toNat_sub_of_le _ _ hpos]
  rfl

/-- The next sequence number names the slot that is asked for. -/
theorem slotOfSeq_nextSeq {slot : Nat} {seq : UInt32} (hn : n < 256) (hslot : slot < n)
    (hseq : seq.toNat + n < 4294967296) :
    (slotOfSeq n (nextSeq n slot seq)).val = slot := by
  have hne : nextSeq n slot seq ≠ 0 := by
    have hgt : seq < nextSeq n slot seq := lt_nextSeq hn hseq
    have := UInt32.lt_iff_toNat_lt.mp hgt
    rintro h
    rw [h] at this
    exact absurd this (Nat.not_lt_zero _)
  rw [slotOfSeq_eq hne, toNat_nextSeq hn hseq]
  obtain hlast | hlast : slot + 1 = n ∨ slot + 1 < n := by omega
  · -- the base is zero
    rw [hlast, Nat.mod_self, if_neg (Nat.not_lt_zero _), Nat.zero_add, Nat.add_mul, Nat.one_mul,
      Nat.add_sub_assoc (by omega), Nat.add_comm, Nat.add_mul_mod_self_right,
      Nat.mod_eq_of_lt (by omega)]
    omega
  · rw [Nat.mod_eq_of_lt hlast]
    split
    · exact Nat.mod_eq_of_lt (by omega)
    · rw [Nat.add_right_comm, Nat.add_sub_cancel, Nat.add_mul_mod_self_right,
        Nat.mod_eq_of_lt (by omega)]

/-! ## Asking for another slot -/

variable (crc32 n) in
/-- The sequence numbers do not run out with the next one. -/
def SeqLeft (o : Otadata) : Prop :=
  ∀ i, otaSelectValid crc32 (o i) = true → (o i).otaSeq.toNat + n < 4294967295

instance : Decidable (SeqLeft crc32 n o) := inferInstanceAs (Decidable (∀ _, _))

variable (crc32 n) in
/-- A write that asks for a slot: the entry is valid and new, and no valid entry beside it has a
number as high. -/
structure Requests (o : Otadata) (slot : Nat) (w : Fin 2 × OtaSelectEntry) : Prop where
  valid : otaSelectValid crc32 w.2 = true
  state : w.2.otaState = ImgState.new
  seq : w.2.otaSeq ≠ 0
  slot : (slotOfSeq n w.2.otaSeq).val = slot
  newest : otaSelectValid crc32 (o w.1.rev) = true → (o w.1.rev).otaSeq < w.2.otaSeq

theorem otaSelectValid_newEntry {seq : UInt32} :
    otaSelectValid crc32 (newEntry crc32 seq) = true ↔ seq ≠ 0xFFFFFFFF := by
  rw [otaSelectValid_iff]
  simp [newEntry, ImgState.new, ImgState.invalid, ImgState.aborted]

theorem ne_of_toNat_lt {a b : UInt32} (h : a.toNat < b.toNat) : a ≠ b := by
  rintro rfl
  exact absurd h (Nat.lt_irrefl _)

/-- **What is written asks for the slot**, and the entry beside it is the one that is kept. -/
theorem requests_of_rewriteOtaData {running : Option (Fin n)} {slot : Nat}
    {w : Fin 2 × OtaSelectEntry} (hn : n < 256) (hseq : SeqLeft crc32 n o)
    (h : rewriteOtaData crc32 o running slot = some w) :
    Requests crc32 n o slot w ∧
      (keptOtadata crc32 o running = some w.1.rev ∨
        w.1 = 0 ∧ ∀ i, otaSelectValid crc32 (o i) = false) := by
  obtain ⟨hslot, h⟩ := Option.ite_none_left_eq_some.mp h
  have hlt : slot < n := Nat.lt_of_not_le hslot
  cases hkept : keptOtadata crc32 o running with
  | some active =>
    simp only [hkept, Option.some.injEq] at h
    subst h
    have hleft := hseq active (otaSelectValid_of_kept hkept)
    have hgt : (o active).otaSeq < nextSeq n slot (o active).otaSeq := lt_nextSeq hn (by omega)
    have hle : (nextSeq n slot (o active).otaSeq).toNat ≤ (o active).otaSeq.toNat + n :=
      toNat_nextSeq_le hn (by omega)
    refine ⟨⟨otaSelectValid_newEntry.mpr (ne_of_toNat_lt (Nat.lt_of_le_of_lt hle hleft)), rfl, ?_,
      slotOfSeq_nextSeq hn hlt (by omega), fun _ => by rwa [Fin.rev_rev]⟩,
      .inl (by rw [Fin.rev_rev])⟩
    exact (ne_of_toNat_lt (Nat.lt_of_le_of_lt (Nat.zero_le _) (UInt32.lt_iff_toNat_lt.mp hgt))).symm
  | none =>
    simp only [hkept, Option.some.injEq] at h
    subst h
    have hnone := keptOtadata_eq_none.mp hkept
    have hnum : (UInt32.ofNat (slot + 1)).toNat = slot + 1 :=
      UInt32.toNat_ofNat_of_lt' (Nat.lt_of_le_of_lt hlt (lt_size hn))
    have hne : UInt32.ofNat (slot + 1) ≠ 0 :=
      (ne_of_toNat_lt (by rw [hnum]; exact Nat.succ_pos _)).symm
    refine ⟨⟨otaSelectValid_newEntry.mpr (ne_of_toNat_lt ?_), rfl, hne, ?_, fun hv => ?_⟩,
      .inr ⟨rfl, hnone⟩⟩
    · rw [hnum]
      exact Nat.lt_of_le_of_lt hlt (Nat.lt_trans hn (by decide))
    · exact (slotOfSeq_eq hne).trans (by rw [hnum, Nat.add_sub_cancel, Nat.mod_eq_of_lt hlt])
    · exact absurd hv (by rw [hnone]; exact Bool.false_ne_true)

theorem update_rev_apply (e : OtaSelectEntry) : Function.update o i e i.rev = o i.rev :=
  Function.update_of_ne (rev_ne i) e o

/-- A request that is carried out counts. -/
theorem Requests.getActiveOtadata {slot : Nat} {w : Fin 2 × OtaSelectEntry}
    (h : Requests crc32 n o slot w) :
    getActiveOtadata crc32 (Function.update o w.1 w.2) = some w.1 := by
  apply selectOtadata_of_lt
  · rw [Function.update_self]
    exact h.valid
  · rw [update_rev_apply, Function.update_self]
    exact h.newest

/-- If one entry is not valid, the other one decides. -/
theorem getActiveOtadata_of_not_valid (hi : otaSelectValid crc32 (o i) = false) :
    getActiveOtadata crc32 o =
      if otaSelectValid crc32 (o i.rev) = true then some i.rev else none := by
  split
  · rename_i hrev
    exact selectOtadata_of_lt hrev fun h => absurd h (by rw [Fin.rev_rev, hi]; simp)
  · rename_i hrev
    refine selectOtadata_eq_none.mpr fun j => ?_
    obtain rfl | rfl := eq_or_eq_rev i j
    · exact hi
    · exact Bool.eq_false_iff.mpr hrev

/-- **Asking for a slot is atomic.**  Whatever becomes of the write, the bootloader is asked for
the new slot, or for the slot of the entry that is kept, or for the same as before; and the new
one if the write succeeds. -/
theorem selected_of_rewriteOtaData {running : Option (Fin n)} {slot : Nat}
    {w : Fin 2 × OtaSelectEntry} {out : Outcome OtaSelectEntry} {o' : Otadata} (hn : n < 256)
    (hseq : SeqLeft crc32 n o) (h : rewriteOtaData crc32 o running slot = some w)
    (hw : write (intact crc32) o w out = some o') :
    (getActiveOtadata crc32 o' = some w.1 ∧ (slotOfSeq n (o' w.1).otaSeq).val = slot) ∨
      out ≠ .done ∧ (getActiveOtadata crc32 o' = keptOtadata crc32 o running ∧
        o' w.1.rev = o w.1.rev ∨ o' = o) := by
  obtain ⟨hreq, hkept⟩ := requests_of_rewriteOtaData hn hseq h
  have hdone : getActiveOtadata crc32 (Function.update o w.1 w.2) = some w.1 ∧
      (slotOfSeq n (Function.update o w.1 w.2 w.1).otaSeq).val = slot :=
    ⟨hreq.getActiveOtadata, by rw [Function.update_self]; exact hreq.slot⟩
  cases out with
  | done =>
    obtain rfl := Option.some.inj hw
    exact .inl hdone
  | left a =>
    obtain ⟨hbad | rfl | rfl, heq⟩ := Option.ite_none_right_eq_some.mp hw
    · obtain rfl := Option.some.inj heq
      refine .inr ⟨by simp, .inl ⟨?_, update_rev_apply a⟩⟩
      rw [getActiveOtadata_of_not_valid (i := w.1) (by
        rw [Function.update_self]
        exact otaSelectValid_of_not_intact hbad),
        update_rev_apply]
      obtain hkept | ⟨-, hnone⟩ := hkept
      · rw [hkept, if_pos (otaSelectValid_of_kept hkept)]
      · rw [keptOtadata_eq_none.mpr hnone, hnone, if_neg Bool.false_ne_true]
    · obtain rfl := Option.some.inj heq
      exact .inr ⟨by simp, .inr (Function.update_eq_self _ _)⟩
    · obtain rfl := Option.some.inj heq
      exact .inl hdone

/-- The entries after the first start of a gateway. -/
def afterFirstStart : Otadata := fun i =>
  if i = 0 then ⟨1, ImgState.valid, crc32Le 1⟩ else .erased

/-- The power is lost while the second slot is asked for, for the first time. -/
theorem selected_of_interrupted_rewrite :
    (getActiveOtadata crc32Le (Function.update afterFirstStart 1 .erased) = some 1 ∧
      (slotOfSeq 2 (Function.update afterFirstStart 1 .erased 1).otaSeq).val = 1) ∨
    Outcome.left OtaSelectEntry.erased ≠ .done ∧
      (getActiveOtadata crc32Le (Function.update afterFirstStart 1 .erased) =
          keptOtadata crc32Le afterFirstStart (some (0 : Fin 2)) ∧
        Function.update afterFirstStart 1 .erased 0 = afterFirstStart 0 ∨
      Function.update afterFirstStart 1 .erased = afterFirstStart) :=
  selected_of_rewriteOtaData (by decide) (by decide +kernel)
    (show rewriteOtaData crc32Le afterFirstStart (some (0 : Fin 2)) 1 = some (1, newEntry crc32Le 2)
      by decide +kernel) (write_left (.inl rfl))

end Ota
end RuuviGateway
