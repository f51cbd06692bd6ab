import RuuviGateway.Ota.Bootloader
import Mathlib.Data.List.TakeDrop

/-!
# What a firmware checks when it starts

A firmware is an image in an OTA partition and two data partitions, and there are two sets of
them.  The image carries the signatures of its data partitions: before a firmware goes on to
start it checks its own image and both of them, `fw_update_self_check_signature` in
`fw_update.c`.

The end of the partition for the nRF52 belongs to the wear levelling of the file system and
changes while the file system is used.  The firmware knows what it looked like when it was
signed, and puts it back first.

It also looks up what `otadata` says about it: `esp_ota_get_state_partition_patched`.  Reading
the flash does not fail here.
-/

namespace RuuviGateway
namespace Ota

attribute [local instance] neZero_two

/-- What is in the partitions of a slot. -/
structure Partitions where
  app : List UInt8
  gwui : List UInt8
  nrf52 : List UInt8
  deriving DecidableEq

/-- What the checks compute: the ROM, mbedTLS and the tools that sign an image. -/
structure Checks where
  /-- `crc32_le`, for the number of an entry. -/
  crc32 : UInt32 → UInt32
  /-- `esp_image_verify`, which loading an image rests on too. -/
  imageVerify : List UInt8 → Bool
  /-- `fw_update_check_fatfs_partition_signature` with the signature in the image. -/
  gwuiSignature : List UInt8 → List UInt8 → Bool
  nrf52Signature : List UInt8 → List UInt8 → Bool
  /-- `fatfs_nrf52_wl_area` in the image. -/
  wlArea : List UInt8 → List UInt8

/-! ## The wear levelling area -/

/-- `FW_UPDATE_WL_AREA_TMP_BUF_SIZE`. -/
def wlAreaTmpBufSize : Nat := 512

/-- The loop of `fw_update_compare_nrf52_wl_area`. -/
def compareNrf52WlArea (partition area : List UInt8) (baseOffset offset : Nat) : Bool :=
  if offset < area.length then
    let chunkSize :=
      if offset + wlAreaTmpBufSize < area.length then wlAreaTmpBufSize else area.length - offset
    if (partition.drop (baseOffset + offset)).take chunkSize ≠
        (area.drop offset).take chunkSize then false
    else compareNrf52WlArea partition area baseOffset (offset + chunkSize)
  else offset == area.length
termination_by area.length - offset
decreasing_by
  unfold wlAreaTmpBufSize at *
  split <;> omega

/-- `fw_update_restore_nrf52_wl_area_if_needed`: the partition afterwards. -/
def restoreNrf52WlAreaIfNeeded (partition area : List UInt8) : Option (List UInt8) :=
  if area.length > partition.length then none
  else
    let base := partition.length - area.length
    if compareNrf52WlArea partition area base 0 then some partition
    else some (partition.take base ++ area)

/-- Comparing chunk by chunk is comparing. -/
theorem compareNrf52WlArea_iff {partition area : List UInt8} {base offset : Nat}
    (hle : offset ≤ area.length) (hlen : partition.length = base + area.length) :
    compareNrf52WlArea partition area base offset = true ↔
      partition.drop (base + offset) = area.drop offset := by
  induction hk : area.length - offset using Nat.strongRecOn generalizing offset with
  | ind k ih =>
    rw [compareNrf52WlArea]
    split
    · rename_i hlt
      generalize hchunk : (if offset + wlAreaTmpBufSize < area.length then wlAreaTmpBufSize
        else area.length - offset) = chunk
      have hpos : 0 < chunk ∧ offset + chunk ≤ area.length := by
        unfold wlAreaTmpBufSize at hchunk
        split at hchunk <;> omega
      have hih := ih (area.length - (offset + chunk)) (by omega) hpos.2 rfl
      simp only [ne_eq, ite_not, Bool.if_false_right, Bool.and_eq_true, decide_eq_true_eq]
      refine (and_congr_right' hih).trans ?_
      constructor
      · rintro ⟨htake, hrest⟩
        rw [← List.take_append_drop chunk (partition.drop _),
          ← List.take_append_drop chunk (area.drop _), htake, List.drop_drop, List.drop_drop,
          Nat.add_assoc, hrest]
      · intro heq
        refine ⟨by rw [heq], ?_⟩
        rw [← Nat.add_assoc, ← List.drop_drop, heq, List.drop_drop]
    · have heq : offset = area.length := by omega
      simp only [heq, beq_self_eq_true, List.drop_length, true_iff]
      exact List.drop_eq_nil_of_le (by omega)

/-- The partition with the area as it was signed. -/
def withWlArea (partition area : List UInt8) : List UInt8 :=
  partition.take (partition.length - area.length) ++ area

/-- **The area is restored**, whatever was in it. -/
theorem restoreNrf52WlAreaIfNeeded_eq (partition area : List UInt8) :
    restoreNrf52WlAreaIfNeeded partition area =
      if area.length ≤ partition.length then some (withWlArea partition area) else none := by
  by_cases hle : area.length ≤ partition.length
  · rw [restoreNrf52WlAreaIfNeeded, if_neg (Nat.not_lt.mpr hle), if_pos hle]
    by_cases hcmp : compareNrf52WlArea partition area (partition.length - area.length) 0 = true
    · rw [if_pos hcmp, withWlArea]
      rw [compareNrf52WlArea_iff (Nat.zero_le _) (by omega), List.drop_zero, Nat.add_zero] at hcmp
      conv_rhs => rw [← hcmp]
      rw [List.length_drop, Nat.sub_sub_self (Nat.sub_le _ _), List.take_append_drop]
    · rw [if_neg hcmp, withWlArea]
  · rw [restoreNrf52WlAreaIfNeeded, if_pos (Nat.lt_of_not_le hle), if_neg hle]

theorem length_withWlArea {partition area : List UInt8} (h : area.length ≤ partition.length) :
    (withWlArea partition area).length = partition.length := by
  rw [withWlArea, List.length_append, List.length_take]
  omega

/-- What the wear levelling writes makes no difference. -/
theorem withWlArea_withWlArea {partition area area' : List UInt8}
    (h : area.length ≤ partition.length) (hlen : area'.length = area.length) :
    withWlArea (withWlArea partition area') area = withWlArea partition area := by
  rw [withWlArea, length_withWlArea (by omega), withWlArea, withWlArea, hlen,
    List.take_append_of_le_length (by rw [List.length_take]; omega), List.take_take, Nat.min_self]

/-! ## The signatures -/

variable (k : Checks)

/-- `fw_update_self_check_signature`: the result, and the partitions afterwards. -/
def selfCheckSignature (p : Partitions) : Bool × Partitions :=
  if !k.imageVerify p.app then (false, p)
  else if !k.gwuiSignature p.app p.gwui then (false, p)
  else
    match restoreNrf52WlAreaIfNeeded p.nrf52 (k.wlArea p.app) with
    | none => (false, p)
    | some nrf52 => (k.nrf52Signature p.app nrf52, { p with nrf52 := nrf52 })

/-- A firmware that is complete: all of its parts belong together. -/
structure Complete (p : Partitions) : Prop where
  imageVerify : k.imageVerify p.app = true
  gwuiSignature : k.gwuiSignature p.app p.gwui = true
  wlArea : (k.wlArea p.app).length ≤ p.nrf52.length
  nrf52Signature : k.nrf52Signature p.app (withWlArea p.nrf52 (k.wlArea p.app)) = true

variable {k} {p : Partitions}

/-- **The check passes exactly for a complete firmware.** -/
theorem selfCheckSignature_iff : (selfCheckSignature k p).1 = true ↔ Complete k p := by
  unfold selfCheckSignature
  rw [restoreNrf52WlAreaIfNeeded_eq]
  constructor
  · intro h
    cases himage : k.imageVerify p.app with
    | false => simp [himage] at h
    | true =>
      cases hgwui : k.gwuiSignature p.app p.gwui with
      | false => simp [himage, hgwui] at h
      | true =>
        by_cases hlen : (k.wlArea p.app).length ≤ p.nrf52.length
        · exact ⟨himage, hgwui, hlen, by simpa [himage, hgwui, hlen] using h⟩
        · simp [himage, hgwui, hlen] at h
  · rintro ⟨himage, hgwui, hlen, hnrf52⟩
    simp [himage, hgwui, hlen, hnrf52]

/-- The check touches nothing but the area. -/
theorem selfCheckSignature_snd : (selfCheckSignature k p).2 = p ∨
    (k.wlArea p.app).length ≤ p.nrf52.length ∧
      (selfCheckSignature k p).2 = { p with nrf52 := withWlArea p.nrf52 (k.wlArea p.app) } := by
  unfold selfCheckSignature
  rw [restoreNrf52WlAreaIfNeeded_eq]
  cases k.imageVerify p.app with
  | false => exact .inl rfl
  | true =>
    cases k.gwuiSignature p.app p.gwui with
    | false => exact .inl rfl
    | true =>
      by_cases hlen : (k.wlArea p.app).length ≤ p.nrf52.length
      · exact .inr ⟨hlen, by simp [hlen]⟩
      · exact .inl (by simp [hlen])

/-- What the wear levelling writes leaves a firmware complete. -/
theorem Complete.wear {area : List UInt8} (h : Complete k p)
    (hlen : area.length = (k.wlArea p.app).length) :
    Complete k { p with nrf52 := withWlArea p.nrf52 area } := by
  refine ⟨h.imageVerify, h.gwuiSignature, ?_, ?_⟩
  · rw [length_withWlArea (by rw [hlen]; exact h.wlArea)]
    exact h.wlArea
  · rw [withWlArea_withWlArea h.wlArea hlen]
    exact h.nrf52Signature

theorem Complete.selfCheck (h : Complete k p) : Complete k (selfCheckSignature k p).2 := by
  obtain heq | ⟨-, heq⟩ := selfCheckSignature_snd (k := k) (p := p)
  · rwa [heq]
  · rw [heq]
    exact h.wear rfl

theorem app_selfCheckSignature : (selfCheckSignature k p).2.app = p.app := by
  obtain heq | ⟨-, heq⟩ := selfCheckSignature_snd (k := k) (p := p) <;> rw [heq]

/-! ## The state of a partition -/

section State

variable (crc32 : UInt32 → UInt32) {n : Nat} [NeZero n]

/-- The loop of `esp_ota_get_state_partition_patched`: whether it returns `ESP_OK`, and what it
has stored in `*p_ota_state`. -/
def getStateFrom (o : Otadata) (slot : Fin n) :
    List (Fin 2) → Option UInt32 → Bool × Option UInt32
  | [], stored => (false, stored)
  | i :: rest, stored =>
      if calcSlotFromSeq n (o i).otaSeq = some slot then
        -- stored before the checksum is looked at
        if (o i).crc ≠ otaSelectCrc crc32 (o i) then
          getStateFrom o slot rest (some (o i).otaState)
        else (true, some (o i).otaState)
      else getStateFrom o slot rest stored

/-- `esp_ota_get_state_partition_patched`. -/
def getStatePartition (o : Otadata) (slot : Fin n) : Bool × Option UInt32 :=
  getStateFrom crc32 o slot [0, 1] none

/-- `running_partition_state` after `fw_update_read_flash_info_internal`. -/
def runningPartitionState (o : Otadata) (slot : Fin n) : UInt32 :=
  (getStatePartition crc32 o slot).2.getD ImgState.undefined

/-- The running app has not confirmed its state: the check in `esp_ota_begin_patched` and
`esp_ota_helper_safe_erase_app_partition`. -/
def notConfirmed (o : Otadata) (slot : Fin n) : Bool :=
  getStatePartition crc32 o slot == (true, some ImgState.pendingVerify)

end State

variable {crc32 : UInt32 → UInt32} {o : Otadata} {n : Nat} [NeZero n] {slot : Fin n}

/-- A state that is found is the one of an entry for the slot, and intact. -/
theorem getStateFrom_eq_true {l : List (Fin 2)} {stored found : Option UInt32}
    (h : getStateFrom crc32 o slot l stored = (true, found)) :
    ∃ i ∈ l, calcSlotFromSeq n (o i).otaSeq = some slot ∧
      (o i).crc = otaSelectCrc crc32 (o i) ∧ found = some (o i).otaState := by
  induction l generalizing stored with
  | nil => exact absurd (congrArg Prod.fst h) Bool.false_ne_true
  | cons i l ih =>
    rw [getStateFrom] at h
    split at h
    · rename_i hslot
      split at h
      · obtain ⟨j, hj, hfound⟩ := ih h
        exact ⟨j, List.mem_cons_of_mem _ hj, hfound⟩
      · rename_i hcrc
        exact ⟨i, List.mem_cons_self, hslot, not_not.mp hcrc, (congrArg Prod.snd h).symm⟩
    · obtain ⟨j, hj, hfound⟩ := ih h
      exact ⟨j, List.mem_cons_of_mem _ hj, hfound⟩

theorem calcSlotFromSeq_eq_some {seq : UInt32} : calcSlotFromSeq n seq = some slot ↔
    seq ≠ 0xFFFFFFFF ∧ seq ≠ 0 ∧ slotOfSeq n seq = slot := by
  rw [calcSlotFromSeq, Option.ite_none_left_eq_some, not_or, Option.some.injEq, and_assoc]

/-- An image that has not been confirmed has an entry on trial. -/
theorem onTrial_of_notConfirmed (h : notConfirmed crc32 o slot = true) :
    ∃ i, onTrial crc32 (o i) = true ∧ slotOfSeq n (o i).otaSeq = slot := by
  obtain ⟨i, -, hslot, hcrc, hstate⟩ := getStateFrom_eq_true (beq_iff_eq.mp h)
  obtain ⟨hne, -, hslot⟩ := calcSlotFromSeq_eq_some.mp hslot
  have hpending := (Option.some.inj hstate).symm
  refine ⟨i, onTrial_iff.mpr ⟨otaSelectValid_iff.mpr ⟨hne, ?_, ?_, hcrc⟩, .inr hpending⟩, hslot⟩
  · rw [hpending]
    exact pending_ne_invalid
  · rw [hpending]
    exact pending_ne_aborted

/-- The entry that is found if it is the only one for the slot that is intact. -/
theorem getStatePartition_of_unique {i : Fin 2} (hi : otaSelectValid crc32 (o i) = true)
    (hslot : calcSlotFromSeq n (o i).otaSeq = some slot)
    (hother : intact crc32 (o i.rev) = true → calcSlotFromSeq n (o i.rev).otaSeq ≠ some slot) :
    getStatePartition crc32 o slot = (true, some (o i).otaState) := by
  have hcrc : (o i).crc = otaSelectCrc crc32 (o i) := (otaSelectValid_iff.mp hi).2.2.2
  have hskip : calcSlotFromSeq n (o i.rev).otaSeq = some slot →
      (o i.rev).crc ≠ otaSelectCrc crc32 (o i.rev) := by
    intro hs hc
    refine hother ?_ hs
    have hne := (calcSlotFromSeq_eq_some.mp hs).1
    simp [intact, hne, hc]
  unfold getStatePartition getStateFrom getStateFrom
  obtain rfl | rfl := eq_zero_or_eq_one i
  · rw [if_pos hslot, if_neg (not_not.mpr hcrc)]
  · rw [rev_one] at hskip
    by_cases hs : calcSlotFromSeq n (o 0).otaSeq = some slot
    · rw [if_pos hs, if_pos (hskip hs), if_pos hslot, if_neg (not_not.mpr hcrc)]
    · rw [if_neg hs, if_pos hslot, if_neg (not_not.mpr hcrc)]

end Ota
end RuuviGateway
