import Mathlib.Data.List.Forall2
import RuuviGateway.HttpDownload.JsonExact

/-!
# Reading a file from NVS as a stream

`http_stream_reader_nvs.c`.  The HTTP client opens the file and then reads it in pieces, into
buffers that leave room for a zero after each piece.  The reader remembers how far it has come.

`nvs_get_blob_partial` is not part of the repository; `NvsEnv.Stores` says that it returns exactly
the range of the file that it is asked for.  A `size_t` has 32 bits, and no buffer has more than
`PTRDIFF_MAX` bytes.  Closing a handle of NVS is not seen here.
-/

namespace RuuviGateway
namespace HttpPost

open HttpDownload (memcpy memcpy_append memcpy_append_zero)

/-- `http_stream_reader_nvs_ctx_t`. -/
structure StreamReaderNvsCtx where
  filename : List Char
  handle : UInt32
  dataOffset : UInt32
  fileSize : UInt32
  deriving DecidableEq

/-- The functions of NVS that the reader calls. -/
structure NvsEnv where
  /-- The handle that `ruuvi_nvs_open_gw_cfg_storage` opens. -/
  openGwCfgStorage : Option UInt32
  /-- `nvs_get_blob` without a buffer: the size of the blob. -/
  nvsGetBlob : (handle : UInt32) → (key : List Char) → Option UInt32
  /-- `nvs_get_blob_partial`: what is written to the buffer. -/
  nvsGetBlobPartial : (handle : UInt32) → (key : List Char) → (length offset : UInt32) →
    Option (List UInt8)

/-- A buffer of the HTTP client. -/
structure ReadBuf where
  bytes : List UInt8
  length_lt : bytes.length < 2 ^ 31

/-- A file in NVS that is not empty. -/
structure StoredFile where
  bytes : List UInt8
  ne_nil : bytes ≠ []
  length_lt : bytes.length < 2 ^ 32

variable (env : NvsEnv)

/-- `http_stream_reader_nvs_handle_cmd_open`. -/
def httpStreamReaderNvsHandleCmdOpen (ctx : StreamReaderNvsCtx) (filename : List Char) :
    Int × StreamReaderNvsCtx :=
  let ctx := { ctx with filename := filename }
  match env.openGwCfgStorage with
  | none => (-1, ctx)
  | some handle =>
      match env.nvsGetBlob handle filename with
      | none => (-1, { ctx with handle := 0 })
      | some fileSize =>
          if fileSize = 0 then (-1, { ctx with handle := 0, fileSize := fileSize })
          else (0, { ctx with handle := handle, fileSize := fileSize, dataOffset := 0 })

/-- `http_stream_reader_nvs_handle_cmd_read`, with the buffer as it is left.  There is no result if
a byte is written outside the buffer. -/
def httpStreamReaderNvsHandleCmdRead (ctx : StreamReaderNvsCtx) (buf : ReadBuf) :
    Option ((Int × List UInt8) × StreamReaderNvsCtx) :=
  let bufLen := UInt32.ofNat buf.bytes.length
  let remLen := ctx.fileSize - ctx.dataOffset
  let bytesToRead := if bufLen - 1 < remLen then bufLen - 1 else remLen
  match env.nvsGetBlobPartial ctx.handle ctx.filename bytesToRead ctx.dataOffset with
  | none => some ((-1, buf.bytes), ctx)
  | some data => do
      let bytes ← memcpy buf.bytes 0 data
      if UInt32.ofNat data.length ≠ bytesToRead then some ((-1, bytes), ctx)
      else
        let bytes ← memcpy bytes bytesToRead.toNat [0]
        some ((bytesToRead.toNat, bytes), { ctx with dataOffset := ctx.dataOffset + bytesToRead })

/-- Successive reads, with what each of them returns. -/
def streamReads (ctx : StreamReaderNvsCtx) :
    List ReadBuf → Option (List (Int × List UInt8) × StreamReaderNvsCtx)
  | [] => some ([], ctx)
  | buf :: bufs => do
      let r ← httpStreamReaderNvsHandleCmdRead env ctx buf
      let rest ← streamReads r.2 bufs
      some (r.1 :: rest.1, rest.2)

/-! ## What is returned -/

/-- The data that the reads return, one after the other. -/
def received (results : List (Int × List UInt8)) : List UInt8 :=
  results.flatMap fun r => r.2.take r.1.toNat

/-- A read returned no error, and the data and the zero after it are in the buffer. -/
structure Fills (buf : ReadBuf) (result : Int × List UInt8) : Prop where
  nonneg : 0 ≤ result.1
  lt_length : result.1 < buf.bytes.length
  length_eq : result.2.length = buf.bytes.length
  zero : result.2[result.1.toNat]? = some 0

variable {env}

/-- NVS has the file under the name. -/
structure NvsEnv.Stores (env : NvsEnv) (filename : List Char) (file : StoredFile) : Prop where
  size : ∀ handle, env.openGwCfgStorage = some handle →
    env.nvsGetBlob handle filename = some (.ofNat file.bytes.length)
  range : ∀ handle, env.openGwCfgStorage = some handle → ∀ length offset : UInt32,
    offset.toNat + length.toNat ≤ file.bytes.length →
      env.nvsGetBlobPartial handle filename length offset =
        some ((file.bytes.drop offset.toNat).take length.toNat)

/-- The reader has come to the offset `k`. -/
structure ReadsAt (env : NvsEnv) (filename : List Char) (file : StoredFile) (k : Nat)
    (ctx : StreamReaderNvsCtx) : Prop where
  filename : ctx.filename = filename
  handle : env.openGwCfgStorage = some ctx.handle
  fileSize : ctx.fileSize.toNat = file.bytes.length
  dataOffset : ctx.dataOffset.toNat = k
  le : k ≤ file.bytes.length

variable {filename : List Char} {file : StoredFile} {ctx : StreamReaderNvsCtx} {k : Nat}

theorem readsAt_of_open (hstores : env.Stores filename file) {ctx' : StreamReaderNvsCtx}
    (hopen : httpStreamReaderNvsHandleCmdOpen env ctx filename = (0, ctx')) :
    ReadsAt env filename file 0 ctx' := by
  rw [httpStreamReaderNvsHandleCmdOpen] at hopen
  cases hhandle : env.openGwCfgStorage with
  | none =>
    rw [hhandle] at hopen
    exact absurd (congrArg Prod.fst hopen) (show (-1 : Int) ≠ 0 by decide)
  | some handle =>
    simp only [hhandle, hstores.size handle hhandle] at hopen
    split at hopen
    · exact absurd (congrArg Prod.fst hopen) (show (-1 : Int) ≠ 0 by decide)
    · obtain rfl := congrArg Prod.snd hopen
      exact ⟨rfl, hhandle, UInt32.toNat_ofNat_of_lt' file.length_lt, rfl, Nat.zero_le _⟩

/-! ## One read -/

/-- How much is read: what there is room for before the zero, or the rest of the file. -/
def chunkLength (file : StoredFile) (k : Nat) (buf : ReadBuf) : Nat :=
  min (buf.bytes.length - 1) (file.bytes.length - k)

theorem toNat_bytesToRead (h : ReadsAt env filename file k ctx) {buf : ReadBuf}
    (hbuf : 2 ≤ buf.bytes.length) :
    (if UInt32.ofNat buf.bytes.length - 1 < ctx.fileSize - ctx.dataOffset then
      UInt32.ofNat buf.bytes.length - 1 else ctx.fileSize - ctx.dataOffset).toNat =
        chunkLength file k buf := by
  have hlt : buf.bytes.length < 2 ^ 32 := Nat.lt_trans buf.length_lt (by decide)
  have hlen : (UInt32.ofNat buf.bytes.length).toNat = buf.bytes.length :=
    UInt32.toNat_ofNat_of_lt' hlt
  have hroom : (UInt32.ofNat buf.bytes.length - 1).toNat = buf.bytes.length - 1 := by
    have hone : (1 : UInt32) ≤ UInt32.ofNat buf.bytes.length := by
      rw [UInt32.le_iff_toNat_le, hlen]
      exact Nat.le_of_lt hbuf
    rw [UInt32.toNat_sub_of_le _ _ hone, hlen]
    rfl
  have hrem : (ctx.fileSize - ctx.dataOffset).toNat = file.bytes.length - k := by
    have hle : ctx.dataOffset ≤ ctx.fileSize := by
      rw [UInt32.le_iff_toNat_le, h.dataOffset, h.fileSize]
      exact h.le
    rw [UInt32.toNat_sub_of_le _ _ hle, h.fileSize, h.dataOffset]
  rw [chunkLength]
  split
  · rename_i hless
    rw [UInt32.lt_iff_toNat_lt, hroom, hrem] at hless
    rw [hroom, Nat.min_eq_left (Nat.le_of_lt hless)]
  · rename_i hless
    rw [UInt32.lt_iff_toNat_lt, hroom, hrem] at hless
    rw [hrem, Nat.min_eq_right (Nat.le_of_not_lt hless)]

/-- **One read** returns the next bytes of the file, as many as there is room for. -/
theorem httpStreamReaderNvsHandleCmdRead_eq (hstores : env.Stores filename file)
    (h : ReadsAt env filename file k ctx) {buf : ReadBuf} (hbuf : 2 ≤ buf.bytes.length) :
    ∃ ctx', httpStreamReaderNvsHandleCmdRead env ctx buf =
        some (((chunkLength file k buf : Int),
          (file.bytes.drop k).take (chunkLength file k buf) ++ [0] ++
            buf.bytes.drop (chunkLength file k buf + 1)), ctx') ∧
      ReadsAt env filename file (k + chunkLength file k buf) ctx' := by
  have hle : k + chunkLength file k buf ≤ file.bytes.length := by
    have hk := h.le
    rw [chunkLength]
    omega
  have hroom : chunkLength file k buf + 1 ≤ buf.bytes.length := by
    rw [chunkLength]
    omega
  have hread := toNat_bytesToRead h hbuf
  generalize hn : (if UInt32.ofNat buf.bytes.length - 1 < ctx.fileSize - ctx.dataOffset then
    UInt32.ofNat buf.bytes.length - 1 else ctx.fileSize - ctx.dataOffset) = n at hread
  have hdata : env.nvsGetBlobPartial ctx.handle ctx.filename n ctx.dataOffset =
      some ((file.bytes.drop k).take n.toNat) := by
    rw [h.filename, hstores.range ctx.handle h.handle n ctx.dataOffset
      (by rw [h.dataOffset, hread]; exact hle), h.dataOffset]
  have hlength : ((file.bytes.drop k).take n.toNat).length = n.toNat := by
    rw [List.length_take, List.length_drop]
    omega
  have hfits : ((file.bytes.drop k).take n.toNat).length < buf.bytes.length := by
    rw [hlength]
    omega
  have hcopy : memcpy buf.bytes 0 ((file.bytes.drop k).take n.toNat) =
      some ((file.bytes.drop k).take n.toNat ++ buf.bytes.drop n.toNat) := by
    have hwrite := memcpy_append (a := []) (Nat.le_of_lt hfits)
    rwa [hlength] at hwrite
  have hzero : memcpy ((file.bytes.drop k).take n.toNat ++ buf.bytes.drop n.toNat) n.toNat [0] =
      some ((file.bytes.drop k).take n.toNat ++ [0] ++ buf.bytes.drop (n.toNat + 1)) := by
    have hwrite := memcpy_append_zero (a := []) hfits
    rw [List.nil_append, hlength] at hwrite
    rw [hwrite, List.append_assoc]
    rfl
  have hsize : ¬ UInt32.ofNat ((file.bytes.drop k).take n.toNat).length ≠ n := by
    rw [hlength, UInt32.ofNat_toNat]
    exact not_not.mpr rfl
  have hoffset : (ctx.dataOffset + n).toNat = k + chunkLength file k buf := by
    rw [UInt32.toNat_add, h.dataOffset, hread]
    exact Nat.mod_eq_of_lt (Nat.lt_of_le_of_lt hle file.length_lt)
  refine ⟨{ ctx with dataOffset := ctx.dataOffset + n }, ?_, h.filename, h.handle, h.fileSize,
    hoffset, hle⟩
  simp only [httpStreamReaderNvsHandleCmdRead, hn, hdata, Option.bind_eq_bind, hcopy,
    Option.bind_some, if_neg hsize, hzero]
  rw [hread]

/-! ## All reads -/

theorem fills_chunk (file : StoredFile) (k : Nat) {buf : ReadBuf} (hbuf : 2 ≤ buf.bytes.length) :
    Fills buf ((chunkLength file k buf : Int), (file.bytes.drop k).take (chunkLength file k buf) ++
      [0] ++ buf.bytes.drop (chunkLength file k buf + 1)) := by
  have hroom : chunkLength file k buf + 1 ≤ buf.bytes.length := by
    rw [chunkLength]
    omega
  have hlength : ((file.bytes.drop k).take (chunkLength file k buf)).length =
      chunkLength file k buf := by
    rw [List.length_take, List.length_drop, chunkLength]
    omega
  refine ⟨Int.natCast_nonneg _, Int.ofNat_lt.mpr hroom, ?_, ?_⟩
  · simp only [List.length_append, hlength, List.length_singleton, List.length_drop]
    omega
  · rw [Int.toNat_natCast, List.append_assoc, List.getElem?_append_right (Nat.le_of_eq hlength),
      hlength, Nat.sub_self]
    rfl

/-- The reads go on from the offset that the reader has come to, and each of them gets a byte
further at least, up to the end of the file. -/
theorem streamReads_of_readsAt (hstores : env.Stores filename file)
    (h : ReadsAt env filename file k ctx) {bufs : List ReadBuf}
    (hbufs : ∀ buf ∈ bufs, 2 ≤ buf.bytes.length) :
    ∃ results ctx' m, streamReads env ctx bufs = some (results, ctx') ∧
      ReadsAt env filename file m ctx' ∧ List.Forall₂ Fills bufs results ∧
      file.bytes.take k ++ received results = file.bytes.take m ∧
      (m = file.bytes.length ∨ k + bufs.length ≤ m) := by
  induction bufs generalizing ctx k with
  | nil => exact ⟨[], ctx, k, rfl, h, .nil, List.append_nil _, .inr (Nat.le_refl k)⟩
  | cons buf bufs ih =>
    have hbuf := hbufs buf List.mem_cons_self
    obtain ⟨mid, hread, hmid⟩ := httpStreamReaderNvsHandleCmdRead_eq hstores h hbuf
    obtain ⟨results, ctx', m, hreads, hm, hfills, htake, hprogress⟩ :=
      ih hmid fun b hb => hbufs b (List.mem_cons_of_mem buf hb)
    refine ⟨_, ctx', m, ?_, hm, .cons (fills_chunk file k hbuf) hfills, ?_, ?_⟩
    · rw [streamReads, hread]
      simp only [Option.bind_eq_bind, Option.bind_some, hreads]
    · have hlength : ((file.bytes.drop k).take (chunkLength file k buf)).length =
          chunkLength file k buf := by
        rw [List.length_take, List.length_drop, chunkLength]
        omega
      rw [received, List.flatMap_cons, ← received, Int.toNat_natCast, List.append_assoc _ [0],
        List.take_left' hlength, ← List.append_assoc, ← List.take_add]
      exact htake
    · have hk := h.le
      have hmle := hm.le
      rw [List.length_cons]
      rw [chunkLength] at hprogress
      omega

/-- At the end of the file a read returns 0 and goes no further. -/
theorem httpStreamReaderNvsHandleCmdRead_end (hstores : env.Stores filename file)
    (h : ReadsAt env filename file file.bytes.length ctx) {buf : ReadBuf}
    (hbuf : 2 ≤ buf.bytes.length) :
    ∃ bytes ctx', httpStreamReaderNvsHandleCmdRead env ctx buf = some ((0, bytes), ctx') ∧
      ReadsAt env filename file file.bytes.length ctx' := by
  obtain ⟨ctx', hread, hctx'⟩ := httpStreamReaderNvsHandleCmdRead_eq hstores h hbuf
  have hzero : chunkLength file file.bytes.length buf = 0 := by
    rw [chunkLength, Nat.sub_self, Nat.min_zero]
  rw [hzero] at hread hctx'
  exact ⟨_, ctx', hread, hctx'⟩

theorem streamReads_end (hstores : env.Stores filename file)
    (h : ReadsAt env filename file file.bytes.length ctx) {bufs : List ReadBuf}
    (hbufs : ∀ buf ∈ bufs, 2 ≤ buf.bytes.length) :
    ∃ results ctx', streamReads env ctx bufs = some (results, ctx') ∧ ∀ r ∈ results, r.1 = 0 := by
  induction bufs generalizing ctx with
  | nil => exact ⟨[], ctx, rfl, fun r hr => absurd hr List.not_mem_nil⟩
  | cons buf bufs ih =>
    obtain ⟨bytes, mid, hread, hmid⟩ :=
      httpStreamReaderNvsHandleCmdRead_end hstores h (hbufs buf List.mem_cons_self)
    obtain ⟨results, ctx', hreads, hzero⟩ :=
      ih hmid fun b hb => hbufs b (List.mem_cons_of_mem buf hb)
    refine ⟨(0, bytes) :: results, ctx', ?_, ?_⟩
    · rw [streamReads, hread]
      simp only [Option.bind_eq_bind, Option.bind_some, hreads]
    · intro r hr
      rcases List.mem_cons.mp hr with rfl | hr
      · rfl
      · exact hzero r hr

/-- **Streaming returns the file exactly**: what successive reads return is always a prefix of it,
after as many reads as it has bytes all of it, each read stays within its buffer, and once there is
nothing left every read returns 0. -/
theorem streamReads_exact (hstores : env.Stores filename file) {ctx₀ ctx : StreamReaderNvsCtx}
    (hopen : httpStreamReaderNvsHandleCmdOpen env ctx₀ filename = (0, ctx)) {bufs : List ReadBuf}
    (hbufs : ∀ buf ∈ bufs, 2 ≤ buf.bytes.length) :
    ∃ results ctx', streamReads env ctx bufs = some (results, ctx') ∧
      List.Forall₂ Fills bufs results ∧ received results <+: file.bytes ∧
      (file.bytes.length ≤ bufs.length → received results = file.bytes) ∧
      (received results = file.bytes → ∀ more : List ReadBuf,
        (∀ buf ∈ more, 2 ≤ buf.bytes.length) →
          ∃ results' ctx'', streamReads env ctx' more = some (results', ctx'') ∧
            ∀ r ∈ results', r.1 = 0) := by
  obtain ⟨results, ctx', m, hreads, hm, hfills, htake, hprogress⟩ :=
    streamReads_of_readsAt hstores (readsAt_of_open hstores hopen) hbufs
  have htake : received results = file.bytes.take m := htake
  refine ⟨results, ctx', hreads, hfills, ?_, ?_, ?_⟩
  · rw [htake]
    exact List.take_prefix m _
  · intro hlength
    rw [htake, List.take_of_length_le]
    omega
  · intro hall more hmore
    have hend : m = file.bytes.length := by
      have hlength := congrArg List.length (htake.symm.trans hall)
      rw [List.length_take] at hlength
      have hle := hm.le
      omega
    rw [hend] at hm
    exact streamReads_end hstores hm hmore

/-! ## A file of three bytes -/

/-- An NVS with one file. -/
def oneFile : NvsEnv where
  openGwCfgStorage := some 7
  nvsGetBlob := fun _ _ => some 3
  nvsGetBlobPartial := fun _ _ length offset =>
    if offset.toNat + length.toNat ≤ 3 then some (([1, 2, 3].drop offset.toNat).take length.toNat)
    else none

/-- It is read in two pieces. -/
theorem streamReads_oneFile :
    ∃ results ctx', streamReads oneFile ⟨"k".toList, 7, 0, 3⟩
        (List.replicate 2 ⟨[0, 0, 0], by decide⟩) = some (results, ctx') ∧
      List.Forall₂ Fills (List.replicate 2 ⟨[0, 0, 0], by decide⟩) results ∧
      received results <+: [1, 2, 3] ∧
      ([1, 2, 3].length ≤ 2 → received results = [1, 2, 3]) ∧
      (received results = [1, 2, 3] → ∀ more : List ReadBuf,
        (∀ buf ∈ more, 2 ≤ buf.bytes.length) →
          ∃ results' ctx'', streamReads oneFile ctx' more = some (results', ctx'') ∧
            ∀ r ∈ results', r.1 = 0) := by
  have hstores : oneFile.Stores "k".toList ⟨[1, 2, 3], by decide, by decide⟩ :=
    ⟨fun _ _ => rfl, fun _ _ _ _ hle => if_pos hle⟩
  have hopen : httpStreamReaderNvsHandleCmdOpen oneFile ⟨[], 0, 0, 0⟩ "k".toList =
      (0, ⟨"k".toList, 7, 0, 3⟩) := by decide
  refine streamReads_exact hstores hopen fun buf hbuf => ?_
  rw [List.eq_of_mem_replicate hbuf]
  decide

end HttpPost
end RuuviGateway
