import RuuviGateway.Lib.Fallible

/-!
# The firmware update of the nRF52

`nrf52fw.c`, with the operations of `nrf52swd.c` that it calls.  The update reads the list of
segments, checks the file of each segment against its CRC, hashes the files and the flash, and
if the version or the hashes differ it erases the nRF52 and writes the files.

The state is what the nRF52 holds in its flash, the registers of the UICR included, together
with a trace of what the update has done to the files and to the flash.  What the environment
answers to the `n`-th call is `choice n`: any call may fail, a read of a file may take fewer
bytes than it asks for, and an erasure or a write may leave anything in its range.  A failed
call may have had its effect.  Reading the flash returns what it holds or fails.

The files do not change during the update.  What `nrf52fw_info_txt_read` makes of `info.txt` is
any list of segments that fits in `nrf52fw_info_t`.
-/

namespace RuuviGateway
namespace Nrf52Fw

open Fallible

/-- `nrf52fw_segment_t`. -/
structure Segment where
  address : UInt32
  size : UInt32
  fileName : List Char
  crc : UInt32
  deriving DecidableEq

/-- `nrf52fw_info_t`. -/
structure Info where
  fwVer : UInt32
  segments : List Segment
  length_le : segments.length ≤ 5

/-- `crc32_le` and SHA-256, with digests in `D`. -/
class Digests (D : Type) where
  crc32Le : UInt32 → List UInt8 → UInt32
  crc32Le_append : ∀ crc a b, crc32Le crc (a ++ b) = crc32Le (crc32Le crc a) b
  crc32Le_nil : ∀ crc, crc32Le crc [] = crc
  sha256 : List UInt8 → D

open Digests

/-- The answer to a call. -/
structure Choice where
  ok : Bool
  /-- How many bytes a read takes at most. -/
  amount : Nat
  /-- What an erasure or a write leaves in its range, if not what it should. -/
  damage : Option (Nat → UInt8)

/-- The environment of an update. -/
structure Env where
  choice : Nat → Choice
  files : List Char → Option (List UInt8)
  /-- The result of `nrf52fw_info_txt_read`. -/
  infoTxt : Option Info

/-- What the update does. -/
inductive Event where
  | opened (fileName : List Char)
  | fileRead (data : Option (List UInt8))
  | closed
  | eraseAll
  | writeFlash (addr : UInt32) (bytes : List UInt8)
  | cbBeforeUpdating
  | cbProgress (numBytesFlashed totalSize : UInt32)
  | cbAfterUpdating (flagSuccess : Bool)
  deriving DecidableEq

/-- The flash is erased or written. -/
def Event.isDestructive : Event → Bool
  | .eraseAll => true
  | .writeFlash _ _ => true
  | _ => false

/-- The state of an update. -/
structure Sys where
  /-- The flash and the UICR by address. -/
  flash : Nat → UInt8
  /-- The number of calls so far. -/
  clock : Nat
  trace : List Event
  /-- `*p_nrf52_fw_ver`. -/
  nrf52FwVer : UInt32

/-- A part of the update. -/
abbrev Fw (α : Type) := OptionT (StateM Sys) α

/-- `NRF52FW_TMP_BUF_SIZE`. -/
def tmpBufSize : Nat := 256

/-- `NRF52FW_UICR_FW_VER`. -/
def uicrFwVer : UInt32 := 0x10001080

/-- `NRF52FW_FICR_INFO_PART`. -/
def ficrInfoPart : UInt32 := 0x10000100

/-- `NRF52FW_ERASED_FLASH_DWORD_VAL`. -/
def erasedFlashDwordVal : UInt32 := 0xFFFFFFFF

/-- A word, least significant byte first. -/
def wordOfBytes (bytes : List UInt8) : UInt32 :=
  bytes.foldr (fun b w => b.toUInt32 ||| (w <<< 8)) 0

/-- The bytes of a word. -/
def bytesOfWord (w : UInt32) : List UInt8 :=
  [w.toUInt8, (w >>> 8).toUInt8, (w >>> 16).toUInt8, (w >>> 24).toUInt8]

/-! ## The operations on the nRF52 -/

section Operations

variable (env : Env)

/-- The next answer. -/
def next : Fw Choice := do
  let s ← get
  modify fun s => { s with clock := s.clock + 1 }
  pure (env.choice s.clock)

/-- Note what is done. -/
def emit (event : Event) : Fw Unit :=
  modify fun s => { s with trace := s.trace ++ [event] }

/-- A call that may fail and leaves the flash alone. -/
def call : Fw Unit := do
  let c ← next env
  check (c.ok = true)

/-- The bytes in a range. -/
def bytesAt (flash : Nat → UInt8) (addr len : Nat) : List UInt8 :=
  (List.range len).map fun i => flash (addr + i)

/-- `nrf52swd_read_mem`. -/
def nrf52swdReadMem (addr : UInt32) (numWords : Nat) : Fw (List UInt8) := do
  call env
  let s ← get
  pure (bytesAt s.flash addr.toNat (4 * numWords))

/-- The flash after a write: bits are only cleared. -/
def programmed (damage : Option (Nat → UInt8)) (addr : Nat) (bytes : List UInt8)
    (flash : Nat → UInt8) (a : Nat) : UInt8 :=
  if addr ≤ a ∧ a < addr + bytes.length then
    match damage with
    | none => flash a &&& bytes.getD (a - addr) 0xFF
    | some left => left a
  else flash a

/-- `nrf52swd_write_flash`. -/
def nrf52swdWriteFlash (addr : UInt32) (bytes : List UInt8) : Fw Unit := do
  let c ← next env
  emit (.writeFlash addr bytes)
  modify fun s => { s with flash := programmed c.damage addr.toNat bytes s.flash }
  check (c.ok = true)

/-- `nrf52swd_erase_all`. -/
def nrf52swdEraseAll : Fw Unit := do
  let c ← next env
  emit .eraseAll
  modify fun s => { s with flash := c.damage.getD fun _ => 0xFF }
  check (c.ok = true)

/-- `nrf52fw_read_current_fw_ver`. -/
def readCurrentFwVer : Fw UInt32 := do
  let bytes ← nrf52swdReadMem env uicrFwVer 1
  pure (wordOfBytes bytes)

/-- `nrf52fw_write_current_fw_ver`. -/
def writeCurrentFwVer (fwVer : UInt32) : Fw Unit :=
  nrf52swdWriteFlash env uicrFwVer (bytesOfWord fwVer)

/-! ## Files -/

/-- `nrf52fw_file_read`, with the part of the file that has not been read yet.  There is no data
only at its end. -/
def fileRead (rest : List UInt8) (bufSize : Nat) : Fw (List UInt8) := do
  let c ← next env
  if c.ok = true then do
    emit (.fileRead (some (rest.take (min bufSize (max 1 c.amount)))))
    pure (rest.take (min bufSize (max 1 c.amount)))
  else do
    emit (.fileRead none)
    failure

/-- Open a file with `flashfatfs_open`, use it, close it, and fail if the use has failed. -/
def withFile {α : Type} (fileName : List Char) (use : List UInt8 → Fw α) : Fw α := do
  call env
  let content ← ofOption (env.files fileName)
  emit (.opened fileName)
  let res ← attempt (use content)
  emit .closed
  ofOption res

/-- The loop `for (;;)` that reads a file to its end in blocks.  It reads at least one byte each
time, so the length of the file bounds the number of rounds. -/
def readLoop {α : Type} (body : α → List UInt8 → Fw α) : Nat → List UInt8 → α → Fw α
  | 0, _, _ => failure
  | fuel + 1, rest, a => do
      let data ← fileRead env rest tmpBufSize
      if data = [] then pure a
      else do
        let a' ← body a data
        readLoop body fuel (rest.drop data.length) a'

/-- The loop over a whole file. -/
def readFile {α : Type} (body : α → List UInt8 → Fw α) (a : α) (content : List UInt8) : Fw α :=
  readLoop env body (content.length + 1) content a

/-! ## Writing -/

/-- `nrf52fw_flash_write_block`, which returns the new offset. -/
def flashWriteBlock (data : List UInt8) (segmentAddr segmentLen offset : UInt32) :
    Fw UInt32 := do
  check (data.length % 4 = 0)
  check (offset + UInt32.ofNat data.length ≤ segmentLen)
  nrf52swdWriteFlash env (segmentAddr + offset) data
  let rd ← nrf52swdReadMem env (segmentAddr + offset) (data.length / 4)
  check (data = rd)
  pure (offset + UInt32.ofNat data.length)

/-- One round of `nrf52fw_flash_write_segment`, on the offset and
`accum_num_bytes_flashed`. -/
def flashWriteSegmentBlock (segmentAddr segmentLen totalSize : UInt32) (a : UInt32 × UInt32)
    (data : List UInt8) : Fw (UInt32 × UInt32) := do
  let offset ← flashWriteBlock env data segmentAddr segmentLen a.1
  emit (.cbProgress (a.2 + UInt32.ofNat data.length) totalSize)
  pure (offset, a.2 + UInt32.ofNat data.length)

/-- `nrf52fw_write_segment_from_file` with `nrf52fw_flash_write_segment`.  The result is
`accum_num_bytes_flashed`. -/
def writeSegmentFromFile (totalSize accum : UInt32) (seg : Segment) : Fw UInt32 := do
  let a ← withFile env seg.fileName
    (readFile env (flashWriteSegmentBlock env seg.address seg.size totalSize) (0, accum))
  pure a.2

/-- `nrf52fw_flash_write_firmware`. -/
def flashWriteFirmware (info : Info) : Fw Unit := do
  nrf52swdEraseAll env
  let totalSize := (info.segments.map Segment.size).foldl (· + ·) 0
  let _ ← info.segments.foldlM (writeSegmentFromFile env totalSize) 0
  let fwVer ← readCurrentFwVer env
  if fwVer = erasedFlashDwordVal then writeCurrentFwVer env info.fwVer
  else check (fwVer = info.fwVer)

/-! ## Checking -/

variable {D : Type} [Digests D]

/-- One round of `nrf52fw_calc_segment_crc`, on the offset and `actual_crc`. -/
def calcSegmentCrcBlock (D : Type) [Digests D] (segmentLen : UInt32) (a : UInt32 × UInt32)
    (data : List UInt8) : Fw (UInt32 × UInt32) := do
  check (data.length % 4 = 0)
  check (a.1 + UInt32.ofNat data.length ≤ segmentLen)
  pure (a.1 + UInt32.ofNat data.length, crc32Le D a.2 data)

/-- `nrf52fw_check_fw_segment_crc` with `nrf52fw_calc_segment_crc`. -/
def checkFwSegmentCrc (D : Type) [Digests D] (seg : Segment) : Fw Unit := do
  let a ← withFile env seg.fileName (readFile env (calcSegmentCrcBlock D seg.size) (0, 0))
  check (seg.crc = a.2)

/-- `nrf52fw_check_firmware`. -/
def checkFirmware (D : Type) [Digests D] (info : Info) : Fw Unit :=
  info.segments.foldlM (fun _ seg => checkFwSegmentCrc env D seg) ()

/-- `nrf52fw_update_sha256_for_fd`: the data hashed so far.  The first argument bounds the number
of rounds. -/
def updateSha256ForFd : Nat → List UInt8 → Nat → List UInt8 → Fw (List UInt8)
  | 0, _, _, hashed => pure hashed
  | fuel + 1, rest, remLen, hashed =>
      if remLen = 0 then pure hashed
      else do
        let data ← fileRead env rest (min remLen tmpBufSize)
        check (data.length = min remLen tmpBufSize)
        call env
        updateSha256ForFd fuel (rest.drop data.length) (remLen - data.length) (hashed ++ data)

/-- `nrf52fw_update_sha256_for_segment`. -/
def updateSha256ForSegment (hashed : List UInt8) (seg : Segment) : Fw (List UInt8) :=
  withFile env seg.fileName fun content =>
    updateSha256ForFd env seg.size.toNat content seg.size.toNat hashed

/-- `nrf52fw_calc_sha256`.  There is a call for the memory, one for the start and one for the
end. -/
def calcSha256 (D : Type) [Digests D] (info : Info) : Fw D := do
  call env
  call env
  let hashed ← info.segments.foldlM (updateSha256ForSegment env) []
  call env
  pure (sha256 hashed)

/-- The contents of the ranges of the segments, one after the other. -/
def segmentBytes (flash : Nat → UInt8) (segments : List Segment) : List UInt8 :=
  segments.flatMap fun seg => bytesAt flash seg.address.toNat seg.size.toNat

/-- `nrf52swd_calc_sha256_digest_on_nrf52`: a program in the RAM of the nRF52 hashes the
ranges. -/
def calcSha256DigestOnNrf52 (D : Type) [Digests D] (info : Info) : Fw D := do
  call env
  let s ← get
  pure (sha256 (segmentBytes s.flash info.segments))

/-! ## The update -/

/-- Write `*p_nrf52_fw_ver`. -/
def setNrf52FwVer (fwVer : UInt32) : Fw Unit :=
  modify fun s => { s with nrf52FwVer := fwVer }

/-- `nrf52fw_update_fw_step4`, which returns the version that it has read at the end. -/
def updateFwStep4 (info : Info) (curFwVer : UInt32) : Fw UInt32 := do
  let written ← attempt (flashWriteFirmware env info)
  if written.isSome then do
    let fwVer ← attempt (readCurrentFwVer env)
    (if fwVer.isNone then setNrf52FwVer curFwVer else pure ())
    ofOption fwVer
  else do
    let fwVer ← attempt (readCurrentFwVer env)
    setNrf52FwVer (fwVer.getD curFwVer)
    failure

/-- What `nrf52fw_update_fw_step3` has found out when it decides. -/
structure Checks (D : Type) where
  info : Info
  curFwVer : UInt32
  digestNrf52 : D
  digestFatfs : D

/-- `nrf52fw_update_fw_step3` up to the comparison of the versions and the digests. -/
def updateFwChecks (D : Type) [Digests D] : Fw (Checks D) := do
  call env
  let info ← ofOption env.infoTxt
  let _ ← nrf52swdReadMem env ficrInfoPart 1
  let curFwVer ← readCurrentFwVer env
  setNrf52FwVer curFwVer
  let digestNrf52 ← calcSha256DigestOnNrf52 env D info
  checkFirmware env D info
  let digestFatfs ← calcSha256 env D info
  pure ⟨info, curFwVer, digestNrf52, digestFatfs⟩

/-- `nrf52fw_update_fw_step3` from the comparison on. -/
def updateFwDecide {D : Type} [DecidableEq D] (c : Checks D) : Fw Unit :=
  if c.curFwVer = c.info.fwVer ∧ c.digestNrf52 = c.digestFatfs then pure ()
  else do
    emit .cbBeforeUpdating
    let res ← attempt (updateFwStep4 env c.info c.curFwVer)
    emit (.cbAfterUpdating res.isSome)
    let fwVer ← ofOption res
    setNrf52FwVer fwVer

/-- `nrf52fw_update_fw_step3`. -/
def updateFwStep3 (D : Type) [Digests D] [DecidableEq D] : Fw Unit := do
  let c ← updateFwChecks env D
  updateFwDecide env c

/-- `nrf52fw_update_fw_step2` and `nrf52fw_update_fw_step1`: the memory and the file system. -/
def updateFwStep1 (D : Type) [Digests D] [DecidableEq D] : Fw Unit := do
  call env
  call env
  updateFwStep3 env D

/-- `nrf52fw_update_fw_step0`: the debug interface is initialised and the firmware may be started
at the end. -/
def updateFwStep0 (D : Type) [Digests D] [DecidableEq D] (flagRunFwAfterUpdate : Bool) :
    Fw Unit := do
  call env
  updateFwStep1 env D
  if flagRunFwAfterUpdate then call env

/-- `nrf52fw_update_fw_if_necessary`. -/
def updateFwIfNecessary (D : Type) [Digests D] [DecidableEq D] (flagRunFwAfterUpdate : Bool) :
    Fw Unit :=
  updateFwStep0 env D flagRunFwAfterUpdate

end Operations

/-- The state before an update. -/
def Sys.before (flash : Nat → UInt8) (nrf52FwVer : UInt32) : Sys where
  flash := flash
  clock := 0
  trace := []
  nrf52FwVer := nrf52FwVer

end Nrf52Fw
end RuuviGateway
