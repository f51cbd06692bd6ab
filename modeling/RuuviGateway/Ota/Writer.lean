import Mathlib.Data.List.Basic
import Mathlib.Data.List.TakeDrop

/-!
# Writing an image in blocks

`esp_ota_write_patched` and `esp_ota_end_patched` in `esp_ota_ops_patched.c`.  An encrypted flash
takes blocks of 16 bytes only, but an image comes in pieces of any size.  What does not fill a
block is kept in `partial_data`, and the end of the image is filled up.

The calls of `esp_partition_write` are recorded, with their offsets, and the flash answers each of
them.  After a call that fails nothing more is written: the callback drops all further data.

The bytes that fill up the end are those of `partial_data`: zeros, as it was allocated, or ones,
as it is left behind by the first block.
-/

namespace RuuviGateway
namespace Ota

/-- `ESP_OTA_FLASH_ENCRYPTION_MIN_CHUNK_SIZE`. -/
def minChunkSize : Nat := 16

/-- `ota_ops_entry_t`, without the partition. -/
structure OtaOpsEntry where
  wroteSize : Nat
  partialBytes : Nat
  partialData : List UInt8

/-- The entry that `esp_ota_begin_patched` allocates. -/
def OtaOpsEntry.init : OtaOpsEntry := ⟨0, 0, List.replicate minChunkSize 0⟩

/-- A call of `esp_partition_write`. -/
structure FlashWrite where
  offset : Nat
  bytes : List UInt8
  deriving DecidableEq

/-- What a call of `esp_ota_write_entry` does. -/
structure WriteResult where
  it : OtaOpsEntry
  writes : List FlashWrite
  ok : Bool

/-- A piece of the image, and the answers of the flash to the two writes it can lead to. -/
structure Piece where
  bytes : List UInt8
  blockOk : Bool
  restOk : Bool

/-- The last write of `esp_ota_write_entry`. -/
def writeRest (it : OtaOpsEntry) (writes : List FlashWrite) (data : List UInt8) (restOk : Bool) :
    WriteResult where
  it := if restOk then { it with wroteSize := it.wroteSize + data.length } else it
  writes := writes ++ [⟨it.wroteSize, data⟩]
  ok := restOk

/-- `esp_ota_write_entry`, from where whole blocks are written and the rest is saved. -/
def writeBlocks (it : OtaOpsEntry) (writes : List FlashWrite) (data : List UInt8) (restOk : Bool) :
    WriteResult :=
  let partialBytes := data.length % minChunkSize
  if partialBytes ≠ 0 then
    let cnt := data.length - partialBytes
    writeRest
      { it with
        partialBytes := partialBytes
        partialData := data.drop cnt ++ it.partialData.drop partialBytes }
      writes (data.take cnt) restOk
  else writeRest { it with partialBytes := partialBytes } writes data restOk

/-- `esp_ota_write_entry`, where `encrypted` is `esp_flash_encryption_enabled()`. -/
def otaWriteEntry (encrypted : Bool) (it : OtaOpsEntry) (p : Piece) : WriteResult :=
  if it.wroteSize = 0 ∧ it.partialBytes = 0 ∧ p.bytes.head?.any (· != 0xE9) = true then
    ⟨it, [], false⟩
  else if encrypted then
    if it.partialBytes ≠ 0 then
      let copyLen := min (minChunkSize - it.partialBytes) p.bytes.length
      let filled : OtaOpsEntry :=
        { it with
          partialBytes := it.partialBytes + copyLen
          partialData := it.partialData.take it.partialBytes ++ p.bytes.take copyLen ++
            it.partialData.drop (it.partialBytes + copyLen) }
      if filled.partialBytes ≠ minChunkSize then ⟨filled, [], true⟩
      else if !p.blockOk then ⟨filled, [⟨it.wroteSize, filled.partialData⟩], false⟩
      else
        writeBlocks
          { wroteSize := it.wroteSize + minChunkSize
            partialBytes := 0
            partialData := List.replicate minChunkSize 0xFF }
          [⟨it.wroteSize, filled.partialData⟩] (p.bytes.drop copyLen) p.restOk
    else writeBlocks it [] p.bytes p.restOk
  else writeRest it [] p.bytes p.restOk

/-- The pieces of an image one after the other, as long as none of them fails. -/
def otaWriteAll (encrypted : Bool) : OtaOpsEntry × List FlashWrite → List Piece →
    Option (OtaOpsEntry × List FlashWrite)
  | x, [] => some x
  | (it, writes), p :: rest =>
      let r := otaWriteEntry encrypted it p
      if r.ok then otaWriteAll encrypted (r.it, writes ++ r.writes) rest else none

/-- `esp_ota_end_patched`, up to the verification of the image: the writes of the whole image. -/
def otaEnd (x : OtaOpsEntry × List FlashWrite) (lastOk : Bool) : Option (List FlashWrite) :=
  if x.1.wroteSize = 0 then none
  else if 0 < x.1.partialBytes then
    if lastOk then some (x.2 ++ [⟨x.1.wroteSize, x.1.partialData⟩]) else none
  else some x.2

/-! ## What is on the flash -/

/-- The bytes of the writes. -/
def contents (writes : List FlashWrite) : List UInt8 := writes.flatMap FlashWrite.bytes

theorem contents_append (l l' : List FlashWrite) : contents (l ++ l') = contents l ++ contents l' :=
  List.flatMap_append

@[simp] theorem contents_singleton (offset : Nat) (bytes : List UInt8) :
    contents [⟨offset, bytes⟩] = bytes := List.append_nil _

/-- From the offset on, each write starts where the one before it has ended, so that `contents` is
what the flash holds; and on an encrypted flash the writes are whole blocks. -/
def InOrder (encrypted : Bool) : Nat → List FlashWrite → Prop
  | _, [] => True
  | n, w :: rest => w.offset = n ∧
      (encrypted = true → minChunkSize ∣ w.offset ∧ minChunkSize ∣ w.bytes.length) ∧
      InOrder encrypted (n + w.bytes.length) rest

variable {encrypted : Bool} {it : OtaOpsEntry} {prev writes : List FlashWrite}
  {data d : List UInt8} {n : Nat}

theorem InOrder.snoc {w : FlashWrite} (h : InOrder encrypted n writes)
    (hoffset : w.offset = n + (contents writes).length)
    (hblocks : encrypted = true → minChunkSize ∣ w.offset ∧ minChunkSize ∣ w.bytes.length) :
    InOrder encrypted n (writes ++ [w]) := by
  induction writes generalizing n with
  | nil => exact ⟨hoffset, hblocks, trivial⟩
  | cons v rest ih =>
    obtain ⟨hv, hvb, hrest⟩ := h
    refine ⟨hv, hvb, ih hrest ?_⟩
    rw [hoffset, contents, List.flatMap_cons, List.length_append, Nat.add_assoc]
    rfl

/-- What has been written and what is kept make up the data, and the free part of the buffer is
filled with one byte. -/
structure Buffered (encrypted : Bool) (data : List UInt8) (it : OtaOpsEntry)
    (writes : List FlashWrite) : Prop where
  inOrder : InOrder encrypted 0 writes
  wrote : it.wroteSize = (contents writes).length
  content : contents writes ++ it.partialData.take it.partialBytes = data
  small : it.partialBytes < minChunkSize
  filler : ∃ b, (b = 0 ∨ b = 0xFF) ∧
    it.partialData.drop it.partialBytes = List.replicate (minChunkSize - it.partialBytes) b
  blocks : encrypted = true → minChunkSize ∣ it.wroteSize
  plain : encrypted = false → it.partialBytes = 0

theorem Buffered.init : Buffered encrypted [] .init [] where
  inOrder := trivial
  wrote := rfl
  content := rfl
  small := by decide
  filler := ⟨0, .inl rfl, rfl⟩
  blocks _ := Nat.dvd_zero _
  plain _ := rfl

theorem Buffered.length_partialData (h : Buffered encrypted data it writes) :
    it.partialData.length = minChunkSize := by
  obtain ⟨b, -, hfill⟩ := h.filler
  have hlen := congrArg List.length hfill
  have hsmall := h.small
  rw [List.length_drop, List.length_replicate] at hlen
  unfold minChunkSize at *
  omega

/-- A write of the data that is not kept. -/
theorem Buffered.write (h : Buffered encrypted data it writes) (kept : OtaOpsEntry)
    (d : List UInt8)
    (hsize : kept.wroteSize = it.wroteSize) (hsmall : kept.partialBytes < minChunkSize)
    (hfiller : ∃ b, (b = 0 ∨ b = 0xFF) ∧
      kept.partialData.drop kept.partialBytes =
        List.replicate (minChunkSize - kept.partialBytes) b)
    (hempty : it.partialBytes = 0)
    (hblocks : encrypted = true → minChunkSize ∣ d.length)
    (hplain : encrypted = false → kept.partialBytes = 0) :
    Buffered encrypted (data ++ (d ++ kept.partialData.take kept.partialBytes))
      { kept with wroteSize := kept.wroteSize + d.length }
      (writes ++ [⟨kept.wroteSize, d⟩]) where
  inOrder := h.inOrder.snoc (by simp only [hsize, h.wrote, Nat.zero_add])
    fun henc => ⟨hsize ▸ h.blocks henc, hblocks henc⟩
  wrote := by
    rw [contents_append, contents_singleton, List.length_append, hsize, h.wrote]
  content := by
    have hdata := h.content
    rw [hempty, List.take_zero, List.append_nil] at hdata
    rw [contents_append, contents_singleton, hdata, List.append_assoc]
  small := hsmall
  filler := hfiller
  blocks henc := Nat.dvd_add (hsize ▸ h.blocks henc) (hblocks henc)
  plain := hplain

theorem buffered_writeBlocks {restOk : Bool} (h : Buffered true data it (prev ++ writes))
    (hempty : it.partialBytes = 0) (hok : (writeBlocks it writes d restOk).ok = true) :
    Buffered true (data ++ d) (writeBlocks it writes d restOk).it
      (prev ++ (writeBlocks it writes d restOk).writes) := by
  obtain ⟨b, hb, hfill⟩ := h.filler
  have hpos : 0 < minChunkSize := by decide
  rw [hempty, List.drop_zero, Nat.sub_zero] at hfill
  unfold writeBlocks writeRest at hok ⊢
  simp only at hok ⊢
  split at hok
  · rename_i hne
    rw [if_pos hne]
    obtain rfl : restOk = true := hok
    have hlt := Nat.mod_lt d.length hpos
    have hcut : d.length - d.length % minChunkSize + d.length % minChunkSize = d.length :=
      Nat.sub_add_cancel (Nat.mod_le _ _)
    have hlen : (d.drop (d.length - d.length % minChunkSize)).length =
        d.length % minChunkSize := by
      rw [List.length_drop]
      omega
    have hwrite := h.write
      { it with
        partialBytes := d.length % minChunkSize
        partialData := d.drop (d.length - d.length % minChunkSize) ++
          it.partialData.drop (d.length % minChunkSize) }
      (d.take (d.length - d.length % minChunkSize)) rfl hlt
      ⟨b, hb, by
        simp only
        rw [List.drop_append_of_le_length (Nat.le_of_eq hlen.symm),
          List.drop_eq_nil_of_le (Nat.le_of_eq hlen), List.nil_append, hfill,
          List.drop_replicate]⟩
      hempty
      (fun _ => by
        rw [List.length_take, Nat.min_eq_left (Nat.sub_le _ _)]
        exact Nat.dvd_sub_mod _)
      (fun h => absurd h (by decide))
    simp only at hwrite
    rw [List.take_append_of_le_length (Nat.le_of_eq hlen.symm),
      List.take_of_length_le (Nat.le_of_eq hlen), List.take_append_drop] at hwrite
    rw [← List.append_assoc]
    exact hwrite
  · rename_i hzero
    rw [if_neg hzero]
    rw [not_not] at hzero
    obtain rfl : restOk = true := hok
    have hwrite := h.write { it with partialBytes := d.length % minChunkSize } d rfl
      (by simp only [hzero]; exact hpos)
      ⟨b, hb, by simp only [hzero, List.drop_zero, Nat.sub_zero]; exact hfill⟩ hempty
      (fun _ => Nat.dvd_of_mod_eq_zero hzero) (fun h => absurd h (by decide))
    simp only [hzero, List.take_zero, List.append_nil] at hwrite
    rw [← List.append_assoc]
    simp only [hzero]
    exact hwrite

/-- What does not fill the block is kept. -/
theorem Buffered.keep (h : Buffered true data it writes)
    (hlen : it.partialBytes + d.length < minChunkSize) :
    Buffered true (data ++ d)
      { it with
        partialBytes := it.partialBytes + d.length
        partialData := it.partialData.take it.partialBytes ++ d ++
          it.partialData.drop (it.partialBytes + d.length) }
      writes := by
  have htake : (it.partialData.take it.partialBytes).length = it.partialBytes := by
    rw [List.length_take, h.length_partialData]
    exact Nat.min_eq_left (Nat.le_of_lt h.small)
  have hall : (it.partialData.take it.partialBytes ++ d).length = it.partialBytes + d.length := by
    rw [List.length_append, htake]
  obtain ⟨b, hb, hfill⟩ := h.filler
  refine ⟨h.inOrder, h.wrote, ?_, hlen, ⟨b, hb, ?_⟩, h.blocks, fun h => absurd h (by decide)⟩
  · simp only
    rw [List.take_append_of_le_length (Nat.le_of_eq hall.symm),
      List.take_of_length_le (Nat.le_of_eq hall), ← List.append_assoc, h.content]
  · simp only
    rw [List.drop_append_of_le_length (Nat.le_of_eq hall.symm),
      List.drop_eq_nil_of_le (Nat.le_of_eq hall), List.nil_append, ← List.drop_drop, hfill,
      List.drop_replicate, Nat.sub_sub]

/-- A block that is full is written. -/
theorem Buffered.block (h : Buffered true data it writes)
    (hlen : minChunkSize - it.partialBytes ≤ d.length) :
    Buffered true (data ++ d.take (minChunkSize - it.partialBytes))
      { wroteSize := it.wroteSize + minChunkSize
        partialBytes := 0
        partialData := List.replicate minChunkSize 0xFF }
      (writes ++ [⟨it.wroteSize, it.partialData.take it.partialBytes ++
        d.take (minChunkSize - it.partialBytes) ++
        it.partialData.drop (it.partialBytes + (minChunkSize - it.partialBytes))⟩]) := by
  have hsmall := h.small
  have hsize := h.length_partialData
  have hrest : it.partialData.drop (it.partialBytes + (minChunkSize - it.partialBytes)) = [] :=
    List.drop_eq_nil_of_le (by omega)
  have hblock : (it.partialData.take it.partialBytes ++
      d.take (minChunkSize - it.partialBytes)).length = minChunkSize := by
    rw [List.length_append, List.length_take, List.length_take]
    omega
  rw [hrest, List.append_nil]
  exact
    { inOrder := h.inOrder.snoc (by rw [h.wrote, Nat.zero_add])
        fun henc => ⟨h.blocks henc, 1, by rw [hblock, Nat.mul_one]⟩
      wrote := by
        rw [contents_append, contents_singleton, List.length_append, hblock, h.wrote]
      content := by
        rw [contents_append, contents_singleton, List.take_zero, List.append_nil,
          ← List.append_assoc, h.content]
      small := Nat.zero_lt_succ 15
      filler := ⟨0xFF, .inr rfl, rfl⟩
      blocks := fun henc => Nat.dvd_add (h.blocks henc) (Nat.dvd_refl _)
      plain := fun h => absurd h (by decide) }

/-- **One piece.** -/
theorem buffered_otaWriteEntry {p : Piece} (h : Buffered encrypted data it writes)
    (hok : (otaWriteEntry encrypted it p).ok = true) :
    Buffered encrypted (data ++ p.bytes) (otaWriteEntry encrypted it p).it
      (writes ++ (otaWriteEntry encrypted it p).writes) := by
  unfold otaWriteEntry at hok ⊢
  split at hok
  · exact absurd hok Bool.false_ne_true
  · rename_i hmagic
    rw [if_neg hmagic]
    cases encrypted with
    | false =>
      simp only [Bool.false_eq_true, if_false] at hok ⊢
      have hempty := h.plain rfl
      obtain ⟨b, hb, hfill⟩ := h.filler
      have hwrite := h.write it p.bytes rfl h.small ⟨b, hb, hfill⟩ hempty
        (fun h => absurd h (by decide)) (fun _ => hempty)
      rw [hempty, List.take_zero, List.append_nil] at hwrite
      have hrest : p.restOk = true := hok
      simp only [writeRest, hrest, if_true, List.nil_append, hempty]
      exact hwrite
    | true =>
      simp only [if_true] at hok ⊢
      split at hok
      · rename_i hne
        rw [if_pos hne]
        split at hok
        · rename_i hpart
          rw [if_pos hpart]
          have hlen : p.bytes.length ≤ minChunkSize - it.partialBytes := by
            have := h.small
            omega
          rw [Nat.min_eq_right hlen] at hpart ⊢
          rw [List.take_length, List.append_nil]
          have hsmall := h.small
          exact h.keep (by omega)
        · rename_i hfull
          rw [if_neg hfull]
          have hlen : minChunkSize - it.partialBytes ≤ p.bytes.length := by
            have := h.small
            omega
          rw [Nat.min_eq_left hlen] at hok ⊢
          split at hok
          · exact absurd hok Bool.false_ne_true
          · rename_i hblock
            rw [if_neg hblock]
            have hblocks := buffered_writeBlocks (h.block hlen) rfl hok
            rw [List.append_assoc, List.take_append_drop] at hblocks
            exact hblocks
      · rename_i hempty
        rw [if_neg hempty]
        have h' : Buffered true data it (writes ++ []) := by rwa [List.append_nil]
        exact buffered_writeBlocks h' (not_not.mp hempty) hok

/-- The bytes of the pieces. -/
def imageOf (ps : List Piece) : List UInt8 := ps.flatMap Piece.bytes

theorem buffered_otaWriteAll {ps : List Piece} {x : OtaOpsEntry × List FlashWrite}
    (h : Buffered encrypted data it writes)
    (hall : otaWriteAll encrypted (it, writes) ps = some x) :
    Buffered encrypted (data ++ imageOf ps) x.1 x.2 := by
  induction ps generalizing data it writes with
  | nil =>
    obtain rfl := Option.some.inj hall
    rwa [imageOf, List.flatMap_nil, List.append_nil]
  | cons p ps ih =>
    rw [otaWriteAll] at hall
    obtain ⟨hok, hall⟩ := Option.ite_none_right_eq_some.mp hall
    rw [imageOf, List.flatMap_cons, ← List.append_assoc]
    exact ih (buffered_otaWriteEntry h hok) hall

/-- The number of bytes that fill up the last block. -/
def padding (encrypted : Bool) (length : Nat) : Nat :=
  if encrypted then (minChunkSize - length % minChunkSize) % minChunkSize else 0

/-- What is kept at the end is what does not fill a block. -/
theorem Buffered.partialBytes_eq (h : Buffered true data it writes) :
    it.partialBytes = data.length % minChunkSize := by
  obtain ⟨m, hm⟩ := h.blocks rfl
  have hsmall := h.small
  rw [← h.content, List.length_append, List.length_take, h.length_partialData, ← h.wrote, hm,
    Nat.min_eq_left (Nat.le_of_lt hsmall), Nat.mul_add_mod, Nat.mod_eq_of_lt hsmall]

/-- **What the flash holds at the end** is the image, filled up with one byte, in whatever pieces
it came; and all writes are in order and, on an encrypted flash, whole blocks. -/
theorem contents_of_otaEnd {ps : List Piece} {x : OtaOpsEntry × List FlashWrite} {lastOk : Bool}
    {ws : List FlashWrite} (hall : otaWriteAll encrypted (.init, []) ps = some x)
    (hend : otaEnd x lastOk = some ws) :
    InOrder encrypted 0 ws ∧ ∃ b : UInt8, (b = 0 ∨ b = 0xFF) ∧
      contents ws = imageOf ps ++ List.replicate (padding encrypted (imageOf ps).length) b := by
  have h := buffered_otaWriteAll Buffered.init hall
  rw [List.nil_append] at h
  obtain ⟨b, hb, hfill⟩ := h.filler
  obtain ⟨-, hend⟩ := Option.ite_none_left_eq_some.mp hend
  split at hend
  · rename_i hpos
    obtain ⟨-, hend⟩ := Option.ite_none_right_eq_some.mp hend
    obtain rfl := Option.some.inj hend
    cases encrypted with
    | false => exact absurd (h.plain rfl) (Nat.ne_of_gt hpos)
    | true =>
      have hpart := h.partialBytes_eq
      have hsmall := h.small
      refine ⟨h.inOrder.snoc (by rw [h.wrote, Nat.zero_add]) fun henc =>
        ⟨h.blocks henc, 1, by rw [h.length_partialData, Nat.mul_one]⟩, b, hb, ?_⟩
      rw [contents_append, contents_singleton, padding, if_pos rfl, ← hpart,
        Nat.mod_eq_of_lt (by omega), ← hfill, ← h.content, List.append_assoc,
        List.take_append_drop]
  · rename_i hzero
    obtain rfl := Option.some.inj hend
    have hempty : x.1.partialBytes = 0 := Nat.eq_zero_of_not_pos hzero
    have hcontent := h.content
    rw [hempty, List.take_zero, List.append_nil] at hcontent
    have hpad : padding encrypted (imageOf ps).length = 0 := by
      cases encrypted with
      | false => rfl
      | true => rw [padding, if_pos rfl, ← h.partialBytes_eq, hempty, Nat.sub_zero, Nat.mod_self]
    exact ⟨h.inOrder, b, hb, by rw [hpad, List.replicate_zero, List.append_nil, hcontent]⟩

/-- An image of 20 bytes that comes in two pieces. -/
def twoPieces : List Piece :=
  [⟨0xE9 :: List.replicate 9 1, true, true⟩, ⟨List.replicate 10 1, true, true⟩]

/-- The writes that these pieces lead to. -/
def twoBlocks : List FlashWrite :=
  [⟨0, []⟩, ⟨0, 0xE9 :: List.replicate 15 1⟩, ⟨16, []⟩,
    ⟨16, List.replicate 4 1 ++ List.replicate 12 0xFF⟩]

/-- The last block is filled up. -/
theorem contents_of_twoPieces : InOrder true 0 twoBlocks ∧ ∃ b : UInt8, (b = 0 ∨ b = 0xFF) ∧
    contents twoBlocks =
      imageOf twoPieces ++ List.replicate (padding true (imageOf twoPieces).length) b :=
  contents_of_otaEnd
    (rfl : otaWriteAll true (.init, []) twoPieces = some (_, twoBlocks.dropLast))
    (show otaEnd _ true = some twoBlocks by decide)

end Ota
end RuuviGateway
