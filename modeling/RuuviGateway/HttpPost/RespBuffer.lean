import Mathlib.Data.List.Induction
import RuuviGateway.HttpDownload.JsonExact
import RuuviGateway.Lib.Strtoul

/-!
# The response to a post

`http_post_event_handler.c`, as far as the body of a response is concerned.  A header with the
length of the body allocates a buffer, and a second one starts over with a buffer of its own.  The
data that comes is written behind what the buffer has, up to the announced length, and a zero
after it.

So the buffer holds what has come since the last header with a length, and nothing is kept of what
came before it.  The size of the buffer is computed in 32 bits: for the length `2 ^ 32 - 1` it is
0, and then what happens is up to the allocator.
-/

namespace RuuviGateway
namespace HttpPost

open HttpDownload (Memory memcpy memcpy_append memcpy_append_zero isContentLength)

/-- `http_resp_cb_info_t`. -/
@[ext] structure RespCbInfo where
  contentLength : UInt32
  offset : UInt32
  buf : Option (List UInt8)
  deriving DecidableEq

/-- The data of an event; `data_len` is an `int`. -/
structure Chunk where
  bytes : List UInt8
  length_lt : bytes.length < 2 ^ 31

/-- An event of the HTTP client.  A header comes with the memory that an allocation is given, if
it is; `other` is an event that the handler only logs. -/
inductive RespEvent where
  | onHeader (key value : List Char) (mem : Memory)
  | onData (data : Chunk)
  | other

variable (osStrToUint32Cptr : List Char → UInt32)

/-- `os_malloc`. -/
def osMalloc (mem : Memory) (size : UInt32) : Option (List UInt8) :=
  mem.map fun f => (List.range size.toNat).map f

/-- `http_post_event_handler_on_header`; the other headers that it knows do not change the
buffer.  There is no result if a byte is written outside the buffer. -/
def httpPostEventHandlerOnHeader (key value : List Char) (mem : Memory) (cbInfo : RespCbInfo) :
    Option RespCbInfo :=
  if isContentLength key then
    let contentLength := osStrToUint32Cptr value
    match osMalloc mem (contentLength + 1) with
    | none => some { contentLength := contentLength, offset := 0, buf := none }
    | some buf => do
        let buf ← memcpy buf 0 [0]
        some { contentLength := contentLength, offset := 0, buf := some buf }
  else some cbInfo

/-- `http_post_event_handler_on_data`. -/
def httpPostEventHandlerOnData (data : Chunk) (cbInfo : RespCbInfo) : Option RespCbInfo :=
  match cbInfo.buf with
  | none => some cbInfo
  | some buf => do
      let remainingBuf := cbInfo.contentLength - cbInfo.offset
      let dataLen := UInt32.ofNat data.bytes.length
      let len := if dataLen ≤ remainingBuf then dataLen else remainingBuf
      let buf ← memcpy buf cbInfo.offset.toNat (data.bytes.take len.toNat)
      let offset := cbInfo.offset + len
      let buf ← memcpy buf offset.toNat [0]
      some { cbInfo with offset := offset, buf := some buf }

/-- `http_post_event_handler`, where `user_data` is not NULL. -/
def httpPostEventHandler (cbInfo : RespCbInfo) : RespEvent → Option RespCbInfo
  | .onHeader key value mem => httpPostEventHandlerOnHeader osStrToUint32Cptr key value mem cbInfo
  | .onData data => httpPostEventHandlerOnData data cbInfo
  | .other => some cbInfo

/-- The events of a response, one after the other. -/
def handleRespEvents (cbInfo : RespCbInfo) (evs : List RespEvent) : Option RespCbInfo :=
  evs.foldlM (httpPostEventHandler osStrToUint32Cptr) cbInfo

/-! ## What has been announced -/

/-- A length, whether there is a buffer for it, and the data that has come since. -/
structure Announcement where
  length : UInt32
  granted : Bool
  data : List UInt8

def announce (a : Option Announcement) : RespEvent → Option Announcement
  | .onHeader key value mem =>
      if isContentLength key then some ⟨osStrToUint32Cptr value, mem.isSome, []⟩ else a
  | .onData data => a.map fun x => { x with data := x.data ++ data.bytes }
  | .other => a

/-- The last announcement of a length, and what has come since. -/
def announced (evs : List RespEvent) : Option Announcement :=
  evs.foldl (announce osStrToUint32Cptr) none

/-- All the data. -/
def allData (evs : List RespEvent) : List UInt8 :=
  evs.flatMap fun
    | .onData data => data.bytes
    | _ => []

/-- What a buffer for the announced length holds: the data as far as the length goes, a zero after
it, and in all a byte more than the length. -/
structure Holds (cbInfo : RespCbInfo) (length : UInt32) (data : List UInt8) (buf : List UInt8) :
    Prop where
  contentLength : cbInfo.contentLength = length
  offset : cbInfo.offset.toNat = (data.take length.toNat).length
  size : buf.length = length.toNat + 1
  body : ∃ rest, buf = data.take length.toNat ++ 0 :: rest

/-- The state after an announcement. -/
def Stored (cbInfo : RespCbInfo) : Option Announcement → Prop
  | none => cbInfo.buf = none
  | some a =>
      if a.granted then ∃ buf, cbInfo.buf = some buf ∧ Holds cbInfo a.length a.data buf
      else cbInfo.buf = none

/-- The data comes after all headers with a length. -/
def LengthsFirst (evs : List RespEvent) : Prop :=
  ∀ pre key value mem post, evs = pre ++ .onHeader key value mem :: post →
    isContentLength key = true → allData pre = []

/-- No byte is written outside a buffer, and what a buffer holds is the beginning of all the data,
as far as the announced length goes, and a zero after it. -/
def StoresPrefix (evs : List RespEvent) : Prop :=
  ∀ cbInfo : RespCbInfo, cbInfo.buf = none →
    ∃ cbInfo', handleRespEvents osStrToUint32Cptr cbInfo evs = some cbInfo' ∧
      ∀ buf, cbInfo'.buf = some buf →
        buf.take cbInfo'.offset.toNat <+: (allData evs).take cbInfo'.contentLength.toNat ∧
          buf[cbInfo'.offset.toNat]? = some 0

/-- A header announces the largest length, and the allocation of 0 bytes for it succeeds. -/
def overflows : RespEvent → Bool
  | .onHeader key value mem =>
      isContentLength key && osStrToUint32Cptr value == 0xFFFFFFFF && mem.isSome
  | _ => false

/-! ## One event -/

variable {osStrToUint32Cptr}

theorem httpPostEventHandlerOnHeader_stored {key value : List Char} {mem : Memory}
    {cbInfo : RespCbInfo} {a : Option Announcement} (h : Stored cbInfo a)
    (hno : overflows osStrToUint32Cptr (.onHeader key value mem) = false) :
    ∃ cbInfo', httpPostEventHandlerOnHeader osStrToUint32Cptr key value mem cbInfo = some cbInfo' ∧
      Stored cbInfo' (announce osStrToUint32Cptr a (.onHeader key value mem)) := by
  rw [httpPostEventHandlerOnHeader, announce]
  by_cases hkey : isContentLength key = true
  · rw [if_pos hkey, if_pos hkey]
    cases mem with
    | none => exact ⟨_, rfl, rfl⟩
    | some f =>
      have hne : osStrToUint32Cptr value ≠ 0xFFFFFFFF := by
        rintro heq
        simp [overflows, hkey, heq] at hno
      have hsize : (osStrToUint32Cptr value + 1).toNat = (osStrToUint32Cptr value).toNat + 1 := by
        have hlt := (osStrToUint32Cptr value).toNat_lt
        have hne' : (osStrToUint32Cptr value).toNat ≠ 2 ^ 32 - 1 := fun h =>
          hne (UInt32.toNat_inj.mp h)
        rw [UInt32.toNat_add]
        exact Nat.mod_eq_of_lt (show _ + 1 < _ by omega)
      have hwrite : memcpy ((List.range (osStrToUint32Cptr value + 1).toNat).map f) 0 [0] =
          some (0 :: ((List.range (osStrToUint32Cptr value + 1).toNat).map f).drop 1) := by
        refine memcpy_append (a := []) ?_
        rw [List.length_map, List.length_range, hsize]
        exact Nat.succ_le_succ (Nat.zero_le _)
      simp only [osMalloc, Option.map_some, hwrite, Option.bind_eq_bind, Option.bind_some]
      refine ⟨_, rfl, _, rfl, rfl, ?_, ?_, _, by rw [List.take_nil]; rfl⟩
      · rw [List.take_nil]
        rfl
      · rw [List.length_cons, List.length_drop, List.length_map, List.length_range, hsize]
        rfl
  · rw [if_neg hkey, if_neg hkey]
    exact ⟨_, rfl, h⟩

/-- How much of the data is stored: what there is room for before the zero. -/
theorem toNat_len {contentLength offset : UInt32} (data : Chunk)
    (hle : offset.toNat ≤ contentLength.toNat) :
    (if UInt32.ofNat data.bytes.length ≤ contentLength - offset then
      UInt32.ofNat data.bytes.length else contentLength - offset).toNat =
        min data.bytes.length (contentLength.toNat - offset.toNat) := by
  have hdata : (UInt32.ofNat data.bytes.length).toNat = data.bytes.length :=
    UInt32.toNat_ofNat_of_lt' (Nat.lt_trans data.length_lt (show 2 ^ 31 < 2 ^ 32 by omega))
  have hroom : (contentLength - offset).toNat = contentLength.toNat - offset.toNat :=
    UInt32.toNat_sub_of_le _ _ (UInt32.le_iff_toNat_le.mpr hle)
  split
  · rename_i h
    rw [UInt32.le_iff_toNat_le, hdata, hroom] at h
    rw [hdata, Nat.min_eq_left h]
  · rename_i h
    rw [UInt32.le_iff_toNat_le, hdata, hroom] at h
    rw [hroom, Nat.min_eq_right (Nat.le_of_not_le h)]

/-- The data behind what has come before, as far as the length goes. -/
theorem take_append_data (old bytes : List UInt8) (n : Nat) :
    (old ++ bytes).take n =
      old.take n ++ bytes.take (min bytes.length (n - (old.take n).length)) := by
  rw [List.take_append, List.length_take]
  congr 1
  rw [List.take_eq_take_iff]
  omega

theorem httpPostEventHandlerOnData_holds (data : Chunk) {cbInfo : RespCbInfo} {length : UInt32}
    {old buf : List UInt8} (hbuf : cbInfo.buf = some buf) (h : Holds cbInfo length old buf) :
    ∃ cbInfo' buf', httpPostEventHandlerOnData data cbInfo = some cbInfo' ∧
      cbInfo'.buf = some buf' ∧ Holds cbInfo' length (old ++ data.bytes) buf' := by
  obtain ⟨hlength, hoffset, hsize, rest, hbody⟩ := h
  have hle : cbInfo.offset.toNat ≤ cbInfo.contentLength.toNat := by
    rw [hoffset, hlength, List.length_take]
    exact Nat.min_le_left _ _
  have hlen := toNat_len data hle
  generalize hn : (if UInt32.ofNat data.bytes.length ≤ cbInfo.contentLength - cbInfo.offset then
    UInt32.ofNat data.bytes.length else cbInfo.contentLength - cbInfo.offset) = len at hlen
  rw [hoffset, hlength] at hlen
  -- the new data goes behind the old, over the zero
  have hnew := take_append_data old data.bytes length.toNat
  rw [← hlen] at hnew
  have hroom : (data.bytes.take len.toNat).length = len.toNat := by
    rw [List.length_take]
    omega
  have hsum : (old.take length.toNat).length + len.toNat ≤ length.toNat := by
    rw [hlen, List.length_take]
    omega
  have hrest : length.toNat = (old.take length.toNat).length + rest.length := by
    rw [hbody, List.length_append, List.length_cons] at hsize
    omega
  have hfits : (data.bytes.take len.toNat).length < (0 :: rest).length := by
    rw [hroom, List.length_cons]
    omega
  have hwrite : memcpy buf cbInfo.offset.toNat (data.bytes.take len.toNat) =
      some (old.take length.toNat ++ data.bytes.take len.toNat ++ (0 :: rest).drop len.toNat) := by
    rw [hbody, hoffset, memcpy_append (Nat.le_of_lt hfits), hroom]
  have hend : (cbInfo.offset + len).toNat =
      (old.take length.toNat ++ data.bytes.take len.toNat).length := by
    rw [List.length_append, hroom, ← hoffset, UInt32.toNat_add]
    refine Nat.mod_eq_of_lt ?_
    have hlt := length.toNat_lt
    rw [hoffset]
    omega
  have hzero : memcpy (old.take length.toNat ++ data.bytes.take len.toNat ++
      (0 :: rest).drop len.toNat) (cbInfo.offset + len).toNat [0] =
        some ((old ++ data.bytes).take length.toNat ++ 0 :: rest.drop len.toNat) := by
    have hwritten := memcpy_append_zero (a := old.take length.toNat) hfits
    rw [hroom] at hwritten
    rw [hend, hwritten, hnew]
    rfl
  have hdata : httpPostEventHandlerOnData data cbInfo =
      some { cbInfo with
        offset := cbInfo.offset + len
        buf := some ((old ++ data.bytes).take length.toNat ++ 0 :: rest.drop len.toNat) } := by
    simp only [httpPostEventHandlerOnData, hbuf, hn, Option.bind_eq_bind, hwrite,
      Option.bind_some, hzero]
  refine ⟨_, _, hdata, rfl, hlength, ?_, ?_, rest.drop len.toNat, rfl⟩
  · rw [hend, hnew]
  · simp only [hnew, List.length_append, List.length_drop, List.length_cons, hroom]
    omega

theorem httpPostEventHandlerOnData_stored {data : Chunk} {cbInfo : RespCbInfo}
    {a : Option Announcement} (h : Stored cbInfo a) :
    ∃ cbInfo', httpPostEventHandlerOnData data cbInfo = some cbInfo' ∧
      Stored cbInfo' (announce osStrToUint32Cptr a (.onData data)) := by
  have hnone : cbInfo.buf = none → httpPostEventHandlerOnData data cbInfo = some cbInfo := by
    intro hbuf
    rw [httpPostEventHandlerOnData, hbuf]
  cases a with
  | none => exact ⟨cbInfo, hnone h, h⟩
  | some a =>
    rw [Stored] at h
    by_cases hgranted : a.granted = true
    · rw [if_pos hgranted] at h
      obtain ⟨buf, hbuf, hholds⟩ := h
      obtain ⟨cbInfo', buf', hdata, hbuf', hholds'⟩ :=
        httpPostEventHandlerOnData_holds data hbuf hholds
      refine ⟨cbInfo', hdata, ?_⟩
      rw [announce, Option.map_some, Stored, if_pos hgranted]
      exact ⟨buf', hbuf', hholds'⟩
    · rw [if_neg hgranted] at h
      refine ⟨cbInfo, hnone h, ?_⟩
      rw [announce, Option.map_some, Stored, if_neg hgranted]
      exact h

/-- **One event**: the buffer goes on to hold what has come since the last announcement. -/
theorem httpPostEventHandler_stored {ev : RespEvent} {cbInfo : RespCbInfo}
    {a : Option Announcement} (h : Stored cbInfo a) (hno : overflows osStrToUint32Cptr ev = false) :
    ∃ cbInfo', httpPostEventHandler osStrToUint32Cptr cbInfo ev = some cbInfo' ∧
      Stored cbInfo' (announce osStrToUint32Cptr a ev) := by
  cases ev with
  | onHeader key value mem => exact httpPostEventHandlerOnHeader_stored h hno
  | onData data => exact httpPostEventHandlerOnData_stored h
  | other => exact ⟨cbInfo, rfl, h⟩

/-! ## All events -/

theorem announced_append (evs : List RespEvent) (ev : RespEvent) :
    announced osStrToUint32Cptr (evs ++ [ev]) =
      announce osStrToUint32Cptr (announced osStrToUint32Cptr evs) ev :=
  List.foldl_concat _ _ _ _

theorem handleRespEvents_append (cbInfo : RespCbInfo) (evs : List RespEvent) (ev : RespEvent) :
    handleRespEvents osStrToUint32Cptr cbInfo (evs ++ [ev]) =
      (handleRespEvents osStrToUint32Cptr cbInfo evs).bind fun cbInfo' =>
        httpPostEventHandler osStrToUint32Cptr cbInfo' ev := by
  rw [handleRespEvents, List.foldlM_append]
  congr
  ext cbInfo' : 1
  rw [List.foldlM_cons]
  cases httpPostEventHandler osStrToUint32Cptr cbInfo' ev with
  | none => rfl
  | some r => rfl

theorem allData_append (evs : List RespEvent) (ev : RespEvent) :
    allData (evs ++ [ev]) = allData evs ++ allData [ev] :=
  List.flatMap_append

theorem exists_stored_handleRespEvents {cbInfo : RespCbInfo} (hstart : cbInfo.buf = none)
    (evs : List RespEvent) (hno : ∀ ev ∈ evs, overflows osStrToUint32Cptr ev = false) :
    ∃ cbInfo', handleRespEvents osStrToUint32Cptr cbInfo evs = some cbInfo' ∧
      Stored cbInfo' (announced osStrToUint32Cptr evs) := by
  induction evs using List.reverseRecOn with
  | nil => exact ⟨cbInfo, rfl, hstart⟩
  | append_singleton evs ev ih =>
    obtain ⟨mid, hmid, hstored⟩ := ih fun e he => hno e (List.mem_append_left _ he)
    obtain ⟨cbInfo', hstep, hstored'⟩ := httpPostEventHandler_stored hstored
      (hno ev (List.mem_append_right _ (List.mem_singleton_self ev)))
    refine ⟨cbInfo', ?_, ?_⟩
    · rw [handleRespEvents_append, hmid]
      exact hstep
    · rw [announced_append]
      exact hstored'

/-- The zero at the start of a block of 0 bytes. -/
theorem httpPostEventHandler_of_overflows {ev : RespEvent}
    (h : overflows osStrToUint32Cptr ev = true) (cbInfo : RespCbInfo) :
    httpPostEventHandler osStrToUint32Cptr cbInfo ev = none := by
  cases ev with
  | onHeader key value mem =>
    simp only [overflows, Bool.and_eq_true, beq_iff_eq] at h
    obtain ⟨⟨hkey, hvalue⟩, hmem⟩ := h
    obtain ⟨f, rfl⟩ := Option.isSome_iff_exists.mp hmem
    rw [httpPostEventHandler, httpPostEventHandlerOnHeader, if_pos hkey, hvalue]
    rfl
  | onData data => exact absurd h Bool.false_ne_true
  | other => exact absurd h Bool.false_ne_true

/-- A byte is written outside the buffer in this case only. -/
theorem handleRespEvents_eq_none_iff {cbInfo : RespCbInfo} (hstart : cbInfo.buf = none)
    (evs : List RespEvent) : handleRespEvents osStrToUint32Cptr cbInfo evs = none ↔
      ∃ ev ∈ evs, overflows osStrToUint32Cptr ev = true := by
  constructor
  · intro h
    by_contra hno
    simp only [not_exists, not_and, Bool.not_eq_true] at hno
    obtain ⟨cbInfo', hrun, -⟩ := exists_stored_handleRespEvents hstart evs hno
    exact absurd (hrun.symm.trans h) (by simp)
  · rintro ⟨ev, hev, hover⟩
    induction evs using List.reverseRecOn with
    | nil => exact absurd hev List.not_mem_nil
    | append_singleton evs last ih =>
      rw [handleRespEvents_append]
      rcases List.mem_append.mp hev with hev | hev
      · rw [ih hev]
        rfl
      · obtain rfl := List.mem_singleton.mp hev
        cases handleRespEvents osStrToUint32Cptr cbInfo evs with
        | none => rfl
        | some mid => exact httpPostEventHandler_of_overflows hover mid

/-- Where the lengths come first, all the data has come since the last of them. -/
theorem data_eq_allData {evs : List RespEvent} (hfirst : LengthsFirst evs) {a : Announcement}
    (ha : announced osStrToUint32Cptr evs = some a) : a.data = allData evs := by
  induction evs using List.reverseRecOn generalizing a with
  | nil => exact absurd ha (by simp [announced])
  | append_singleton evs ev ih =>
    have hfirst' : LengthsFirst evs := by
      rintro pre key value mem post rfl hkey
      exact hfirst pre key value mem (post ++ [ev]) (by simp) hkey
    rw [announced_append] at ha
    rw [allData_append]
    cases ev with
    | onHeader key value mem =>
      rw [announce] at ha
      split at ha
      · rename_i hkey
        obtain rfl := Option.some.inj ha
        rw [hfirst evs key value mem [] rfl hkey]
        rfl
      · rw [ih hfirst' ha]
        exact (List.append_nil _).symm
    | onData data =>
      obtain ⟨b, hb, rfl⟩ := Option.map_eq_some_iff.mp ha
      rw [← ih hfirst' hb]
      simp [allData]
    | other =>
      rw [ih hfirst' ha]
      exact (List.append_nil _).symm

/-- **What the buffer holds**: while no allocation of 0 bytes succeeds for the largest length, no
byte is written outside the buffer, and it holds the data that has come since the last header with
a length, as far as this length goes, and a zero after it. -/
theorem handleRespEvents_stored {cbInfo : RespCbInfo} (hstart : cbInfo.buf = none)
    (evs : List RespEvent) (hno : ∀ ev ∈ evs, overflows osStrToUint32Cptr ev = false) :
    ∃ cbInfo', handleRespEvents osStrToUint32Cptr cbInfo evs = some cbInfo' ∧
      Stored cbInfo' (announced osStrToUint32Cptr evs) ∧
      (LengthsFirst evs → ∀ a, announced osStrToUint32Cptr evs = some a →
        a.data = allData evs) := by
  obtain ⟨cbInfo', hrun, hstored⟩ := exists_stored_handleRespEvents hstart evs hno
  exact ⟨cbInfo', hrun, hstored, fun hfirst _ ha => data_eq_allData hfirst ha⟩

/-! ## Repeated lengths -/

/-- A header with a length, and memory for its buffer that is filled with `0xA5`. -/
def lengthHeader (value : String) : RespEvent :=
  .onHeader "Content-Length".toList value.toList (some fun _ => 0xA5)

/-- Two chunks, with a header before each of them. -/
def twoLengths : List RespEvent :=
  [lengthHeader "5", .onData ⟨[97, 98], by decide⟩, lengthHeader "5",
    .onData ⟨[99, 100], by decide⟩]

/-- `strtoul`, without what it leaves. -/
def decimal (s : List Char) : UInt32 := (Strtoul.strtoul s 10).1

/-- The buffer for the second length holds the second chunk. -/
theorem handleRespEvents_twoLengths :
    ∃ cbInfo', handleRespEvents decimal ⟨0, 0, none⟩ twoLengths = some cbInfo' ∧
      Stored cbInfo' (announced decimal twoLengths) ∧
      (LengthsFirst twoLengths → ∀ a, announced decimal twoLengths = some a →
        a.data = allData twoLengths) := by
  refine handleRespEvents_stored rfl twoLengths fun ev hev => ?_
  have hall : twoLengths.all (fun ev => !overflows decimal ev) = true := by decide +kernel
  simpa using List.all_eq_true.mp hall ev hev

/-- It is not the beginning of all the data, and for the length `2 ^ 32 - 1` a zero is written into
a block of 0 bytes. -/
theorem not_storesPrefix :
    ¬ StoresPrefix decimal twoLengths ∧ ¬ StoresPrefix decimal [lengthHeader "4294967295"] := by
  constructor
  · intro h
    have hrun : handleRespEvents decimal ⟨0, 0, none⟩ twoLengths =
        some ⟨5, 2, some [99, 100, 0, 0xA5, 0xA5, 0xA5]⟩ := by decide +kernel
    obtain ⟨cbInfo', hrun', hbuf⟩ := h ⟨0, 0, none⟩ rfl
    obtain rfl := Option.some.inj (hrun.symm.trans hrun')
    exact absurd (hbuf _ rfl).1 (by decide)
  · intro h
    have hrun : handleRespEvents decimal ⟨0, 0, none⟩ [lengthHeader "4294967295"] = none := by
      decide +kernel
    obtain ⟨cbInfo', hrun', -⟩ := h ⟨0, 0, none⟩ rfl
    exact absurd (hrun.symm.trans hrun') (by simp)

end HttpPost
end RuuviGateway
