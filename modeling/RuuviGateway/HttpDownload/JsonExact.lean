import RuuviGateway.HttpDownload.Json

/-!
# What a JSON download delivers

The redirects leave nothing but the counters.  From there the data of the last response fills the
buffer from the offset that it starts at (`Filled`), or the download ends in an error; a body of
unknown length that does not start at zero always does.  So the offset is wrong without an error
in one case only: the counters are both left over from redirects (`delivers_iff`).
-/

namespace RuuviGateway
namespace HttpDownload

variable {osStrToUint32Cptr : List Char → UInt32}

/-! ## Writing -/

theorem memcpy_append {a rest bytes : List UInt8} (h : bytes.length ≤ rest.length) :
    memcpy (a ++ rest) a.length bytes = some (a ++ bytes ++ rest.drop bytes.length) := by
  have hfits : a.length + bytes.length ≤ (a ++ rest).length := by
    rw [List.length_append]
    omega
  rw [memcpy, if_pos hfits, List.take_left, List.drop_append, List.drop_eq_nil_of_le (by omega),
    List.nil_append, Nat.add_sub_cancel_left]

/-- The zero behind what has been written. -/
theorem memcpy_append_zero {a rest bytes : List UInt8} (h : bytes.length < rest.length) :
    memcpy (a ++ bytes ++ rest.drop bytes.length) (a ++ bytes).length [0] =
      some (a ++ bytes ++ 0 :: rest.drop (bytes.length + 1)) := by
  have hroom : ([0] : List UInt8).length ≤ (rest.drop bytes.length).length := by
    rw [List.length_singleton, List.length_drop]
    omega
  rw [memcpy_append hroom, List.drop_drop, List.append_assoc (a ++ bytes)]
  rfl

theorem wrap_of_lt {n : Nat} (h : n < 2 ^ 32) : wrap n = n := Nat.mod_eq_of_lt h

/-- Data that is written behind `a`, over `rest`. -/
theorem storeJsonData_of_lt {info : DownloadInfo} {a rest bytes : List UInt8}
    (hbuf : info.jsonBuf = some (a ++ rest)) (hsize : info.jsonBufSize = a.length + rest.length)
    (hmax : info.jsonBufSize < 2 ^ 31) (h : bytes.length < rest.length) :
    storeJsonData bytes a.length info = some
      ({ info with jsonBuf := some (a ++ bytes ++ 0 :: rest.drop (bytes.length + 1)) }, true) := by
  have hwrap : wrap (a.length + bytes.length) = (a ++ bytes).length := by
    rw [List.length_append]
    exact wrap_of_lt (by omega)
  have hin : ¬(a.length ≥ info.jsonBufSize ∨ (a ++ bytes).length ≥ info.jsonBufSize) := by
    rw [List.length_append]
    omega
  rw [storeJsonData, hwrap, if_neg hin, hbuf]
  simp only [Option.bind_eq_bind, Option.bind_some, memcpy_append (Nat.le_of_lt h),
    memcpy_append_zero h]

/-- Data that does not leave a byte for the zero is an error. -/
theorem storeJsonData_of_le {info : DownloadInfo} {bytes : List UInt8} {offset : Nat}
    (hlen : bytes.length < 2 ^ 31) (hmax : info.jsonBufSize < 2 ^ 31)
    (h : info.jsonBufSize ≤ offset + bytes.length) :
    storeJsonData bytes offset info =
      some ({ info with isError := true, jsonBuf := none }, false) := by
  refine if_pos ?_
  by_cases hoff : offset ≥ info.jsonBufSize
  · exact .inl hoff
  · refine .inr ?_
    rw [wrap_of_lt (by omega)]
    exact h

/-! ## Events without data -/

/-- Events whose data comes under a redirect change the counters only. -/
theorem handleEvents_of_redirect {evs : List Event}
    (h : ∀ d st, Event.data d st ∈ evs → isRedirect st = true) (cb : CbInfo)
    {info : DownloadInfo} (hok : info.isError = false) :
    handleEvents osStrToUint32Cptr (cb, info) evs =
      some (evs.foldl (CbInfo.next osStrToUint32Cptr) cb, info) := by
  induction evs generalizing cb with
  | nil => rfl
  | cons ev evs ih =>
    have hev : httpDownloadEventHandler osStrToUint32Cptr (cb, info) ev =
        some (cb.next osStrToUint32Cptr ev, info) := by
      cases ev with
      | connected | header | other => rfl
      | data d st =>
        have hst := h d st List.mem_cons_self
        simp [httpDownloadEventHandler, cbOnHttpDownloadJsonData, hok, hst]
    rw [handleEvents, List.foldlM_cons, hev]
    exact ih (fun d st hmem => h d st (List.mem_cons_of_mem ev hmem)) (cb.next osStrToUint32Cptr ev)

theorem handleEvents_append (s : CbInfo × DownloadInfo) (evs evs' : List Event) :
    handleEvents osStrToUint32Cptr s (evs ++ evs') =
      (handleEvents osStrToUint32Cptr s evs).bind fun s =>
        handleEvents osStrToUint32Cptr s evs' := List.foldlM_append ..

/-- Headers after the body. -/
theorem handleEvents_headers (hs : List (List Char × List Char)) (s : CbInfo × DownloadInfo) :
    ∃ cb, handleEvents osStrToUint32Cptr s (hs.map fun h => .header h.1 h.2) =
      some (cb, s.2) := by
  induction hs generalizing s with
  | nil => exact ⟨s.1, rfl⟩
  | cons h hs ih => exact ih (s.1.next osStrToUint32Cptr (.header h.1 h.2), s.2)

/-! ## The start of the last response -/

/-- The counters before the data of a response. -/
def Response.counters (osStrToUint32Cptr : List Char → UInt32) (r : Response) (cb : CbInfo) :
    CbInfo :=
  r.head.foldl (CbInfo.next osStrToUint32Cptr) cb

theorem foldl_header_of_not {hs : List (List Char × List Char)}
    (h : hs.any (fun h => isContentLength h.1) = false) (cb : CbInfo) :
    (hs.map fun h => Event.header h.1 h.2).foldl (CbInfo.next osStrToUint32Cptr) cb = cb := by
  induction hs generalizing cb with
  | nil => rfl
  | cons kv hs ih =>
    rw [List.any_cons, Bool.or_eq_false_iff] at h
    rw [List.map_cons, List.foldl_cons]
    have hcb : cb.next osStrToUint32Cptr (.header kv.1 kv.2) = cb :=
      if_neg (Bool.eq_false_iff.mp h.1)
    rw [hcb]
    exact ih h.2 cb

/-- Headers leave an offset of zero as it is. -/
theorem foldl_header_offset (hs : List (List Char × List Char)) {cb : CbInfo}
    (h : cb.offset = 0) :
    ((hs.map fun h => Event.header h.1 h.2).foldl (CbInfo.next osStrToUint32Cptr) cb).offset =
      0 := by
  induction hs generalizing cb with
  | nil => exact h
  | cons kv hs ih =>
    refine ih ?_
    show (if _ then _ else cb).offset = 0
    split
    · rfl
    · exact h

theorem foldl_header_sized {hs : List (List Char × List Char)}
    (h : hs.any (fun h => isContentLength h.1) = true) (cb : CbInfo) :
    ((hs.map fun h => Event.header h.1 h.2).foldl (CbInfo.next osStrToUint32Cptr) cb).offset =
      0 := by
  induction hs generalizing cb with
  | nil => exact absurd h (by simp)
  | cons kv hs ih =>
    rw [List.map_cons, List.foldl_cons]
    by_cases hkv : isContentLength kv.1 = true
    · refine foldl_header_offset hs ?_
      show (if isContentLength kv.1 then _ else cb : CbInfo).offset = 0
      rw [if_pos hkv]
    · refine ih ?_ _
      simpa [hkv] using h

/-- A response on a new connection, or with a length, starts at zero. -/
theorem Response.counters_offset {r : Response} (h : r.connects = true ∨ r.sized = true)
    (cb : CbInfo) : (r.counters osStrToUint32Cptr cb).offset = 0 := by
  rw [Response.counters, Response.head, List.foldl_append]
  rcases h with h | h
  · rw [if_pos h]
    exact @foldl_header_offset _ r.headers (cb.next osStrToUint32Cptr .connected) rfl
  · exact foldl_header_sized h _

/-- Any other response starts where the one before it ended. -/
theorem Response.counters_of_kept {r : Response} (hkept : r.connects = false)
    (hchunked : r.sized = false) (cb : CbInfo) : r.counters osStrToUint32Cptr cb = cb := by
  rw [Response.counters, Response.head, hkept]
  exact foldl_header_of_not hchunked cb

/-! ## The data of the last response -/

/-- The body so far, `w`, has been written from the offset `o` on.  Its last zero is followed by
zeros, as many as the length that the buffer was allocated for has room for. -/
structure Filled (o contentLength status : Nat) (w : List UInt8) (cb : CbInfo)
    (info : DownloadInfo) : Prop where
  cb_eq : cb = { contentLength := contentLength, offset := o + w.length }
  ok : info.isError = false
  status_eq : info.httpRespCode = status
  max : info.jsonBufSize < 2 ^ 31
  buf : ∃ k, info.jsonBufSize = o + w.length + (k + 1) ∧
    info.jsonBuf = some (List.replicate o 0 ++ w ++ List.replicate (k + 1) 0)
  grows : contentLength = 0 → o = 0 ∧ info.jsonBufSize = w.length + 1
  sized : contentLength ≠ 0 → info.jsonBufSize = contentLength + 1

variable {o contentLength status : Nat} {w : List UInt8} {cb : CbInfo} {info : DownloadInfo}

/-- An error is never forgotten. -/
theorem handleEvents_of_error (ds : List Data) (h : info.isError = true) (cb : CbInfo) :
    ∃ cb', handleEvents osStrToUint32Cptr (cb, info) (ds.map fun d => .data d status) =
      some (cb', info) := by
  induction ds generalizing cb with
  | nil => exact ⟨cb, rfl⟩
  | cons d ds ih =>
    have hev : httpDownloadEventHandler osStrToUint32Cptr (cb, info) (.data d status) =
        some (cb.next osStrToUint32Cptr (.data d status), info) := by
      simp [httpDownloadEventHandler, cbOnHttpDownloadJsonData, h]
    rw [List.map_cons, handleEvents, List.foldlM_cons, hev]
    exact ih _

/-- A data event, from what the callback does with the memory. -/
theorem httpDownloadEventHandler_data (cb : CbInfo) {d : Data} (hok : info.isError = false)
    (hst : isRedirect status = false) {info₁ : DownloadInfo}
    (halloc : allocJsonBuf d cb.contentLength { info with httpRespCode := status } = (info₁, true))
    {r : DownloadInfo × Bool} (hstore : storeJsonData d.bytes cb.offset info₁ = some r) :
    httpDownloadEventHandler osStrToUint32Cptr (cb, info) (.data d status) =
      some (cb.next osStrToUint32Cptr (.data d status), r.1) := by
  have hcallback : cbOnHttpDownloadJsonData d cb.offset cb.contentLength status info = some r := by
    rw [cbOnHttpDownloadJsonData, if_neg (by simp [hok]), if_neg (by simp [hst])]
    simp only [halloc, if_true]
    exact hstore
  rw [httpDownloadEventHandler, hcallback]
  rfl

theorem httpDownloadEventHandler_noMemory (cb : CbInfo) {d : Data} (hok : info.isError = false)
    (hst : isRedirect status = false) {info₁ : DownloadInfo}
    (halloc : allocJsonBuf d cb.contentLength { info with httpRespCode := status } =
      (info₁, false)) :
    httpDownloadEventHandler osStrToUint32Cptr (cb, info) (.data d status) =
      some (cb.next osStrToUint32Cptr (.data d status), info₁) := by
  have hcallback : cbOnHttpDownloadJsonData d cb.offset cb.contentLength status info =
      some (info₁, false) := by
    rw [cbOnHttpDownloadJsonData, if_neg (by simp [hok]), if_neg (by simp [hst])]
    simp only [halloc, Bool.false_eq_true, if_false]
  rw [httpDownloadEventHandler, hcallback]
  rfl

theorem length_realloc {mem : Memory} {block block' : List UInt8} {size : Nat}
    (h : osReallocSafeAndClean mem block size = some block') (hsize : block.length ≤ size) :
    size < 2 ^ 31 ∧ ∃ rest, rest.length = size - block.length ∧ block' = block ++ rest := by
  unfold osReallocSafeAndClean at h
  split at h
  · rename_i hgives
    simp only [Memory.gives, Bool.and_eq_true, decide_eq_true_eq] at hgives
    rw [Option.some.injEq, List.take_of_length_le hsize] at h
    exact ⟨hgives.2, _, by simp, h.symm⟩
  · exact absurd h (by simp)

/-- What data ends in: it is written behind the body so far, or the download fails; with a length
that all of the data fits into, it is written exactly if there was memory for that length. -/
def Continues (o contentLength status : Nat) (w : List UInt8) (gives : Bool) (cb : CbInfo)
    (info : DownloadInfo) : Prop :=
  info.isError = true ∧ (contentLength ≠ 0 → gives = true → contentLength < o + w.length) ∨
    Filled o contentLength status w cb info ∧ (contentLength ≠ 0 → gives = true)

/-- Data is written behind the body so far, over `rest`, or it does not fit. -/
theorem store_continues {d : Data} {rest : List UInt8} {gives : Bool}
    (hst : isRedirect status = false) (hok : info.isError = false) {info₁ : DownloadInfo}
    (halloc : allocJsonBuf d contentLength { info with httpRespCode := status } = (info₁, true))
    (hok₁ : info₁.isError = false) (hstatus₁ : info₁.httpRespCode = status)
    (hbuf : info₁.jsonBuf = some (List.replicate o 0 ++ w ++ rest))
    (hsize : info₁.jsonBufSize = o + w.length + rest.length) (hmax : info₁.jsonBufSize < 2 ^ 31)
    (hrest : rest.drop (d.bytes.length + 1) =
      List.replicate (rest.length - (d.bytes.length + 1)) 0)
    (hgrows : contentLength = 0 → info₁.jsonBufSize = w.length + d.bytes.length + 1)
    (hsized : contentLength ≠ 0 → info₁.jsonBufSize = contentLength + 1)
    (hgives : contentLength ≠ 0 → gives = true) :
    ∃ cb' info', httpDownloadEventHandler osStrToUint32Cptr
        ({ contentLength := contentLength, offset := o + w.length }, info) (.data d status) =
        some (cb', info') ∧
      Continues o contentLength status (w ++ d.bytes) gives cb' info' := by
  have hlen := d.length_lt
  let cb : CbInfo := { contentLength := contentLength, offset := o + w.length }
  by_cases hfits : d.bytes.length < rest.length
  · have hstore := @storeJsonData_of_lt _ (List.replicate o 0 ++ w) _ _ hbuf
      (by simp; omega) hmax hfits
    rw [List.length_append, List.length_replicate] at hstore
    refine ⟨_, _, httpDownloadEventHandler_data cb hok hst halloc hstore, .inr ⟨?_, hgives⟩⟩
    refine ⟨?_, hok₁, hstatus₁, hmax, ⟨rest.length - (d.bytes.length + 1), ?_, ?_⟩, ?_, hsized⟩
    · simp only [cb, CbInfo.next, List.length_append]
      rw [wrap_of_lt (by omega), Nat.add_assoc]
    · simp only [List.length_append]
      omega
    · rw [hrest]
      simp [List.replicate_succ]
    · intro hzero
      have := hgrows hzero
      simp only [List.length_append]
      exact ⟨by omega, by omega⟩
  · have hover : info₁.jsonBufSize ≤ o + w.length + d.bytes.length := by omega
    refine ⟨_, _, httpDownloadEventHandler_data cb hok hst halloc
      (storeJsonData_of_le hlen hmax hover), .inl ⟨rfl, fun hne _ => ?_⟩⟩
    have := hsized hne
    rw [List.length_append]
    omega

/-- One data event after the first. -/
theorem Filled.data (hf : Filled o contentLength status w cb info)
    (hst : isRedirect status = false) {gives : Bool} (hgives : contentLength ≠ 0 → gives = true)
    (d : Data) :
    ∃ cb' info', httpDownloadEventHandler osStrToUint32Cptr (cb, info) (.data d status) =
        some (cb', info') ∧
      Continues o contentLength status (w ++ d.bytes) gives cb' info' := by
  obtain ⟨k, hsize, hbuf⟩ := hf.buf
  have hmax := hf.max
  have hlen := d.length_lt
  have hstatus : { info with httpRespCode := status } = info := by
    rw [← hf.status_eq]
  rw [hf.cb_eq]
  by_cases hzero : contentLength = 0
  · obtain ⟨rfl, hgrows⟩ := hf.grows hzero
    have hk : k = 0 := by omega
    subst hk
    have hwrap : wrap (info.jsonBufSize + d.bytes.length) = info.jsonBufSize + d.bytes.length :=
      wrap_of_lt (by omega)
    cases hmem : osReallocSafeAndClean d.mem (w ++ [0]) (info.jsonBufSize + d.bytes.length) with
    | none =>
      have halloc : allocJsonBuf d contentLength { info with httpRespCode := status } =
          ({ info with
            jsonBufSize := info.jsonBufSize + d.bytes.length
            jsonBuf := none
            isError := true }, false) := by
        rw [hstatus]
        simp [allocJsonBuf, hbuf, hzero, hwrap, hmem]
      exact ⟨_, _, httpDownloadEventHandler_noMemory _ hf.ok hst halloc,
        .inl ⟨rfl, fun h => absurd hzero h⟩⟩
    | some buf =>
      obtain ⟨hmax', rest, hrest, rfl⟩ := length_realloc hmem (by simp; omega)
      have halloc : allocJsonBuf d contentLength { info with httpRespCode := status } =
          ({ info with
            jsonBufSize := info.jsonBufSize + d.bytes.length
            jsonBuf := some (w ++ [0] ++ rest) }, true) := by
        rw [hstatus]
        simp [allocJsonBuf, hbuf, hzero, hwrap, hmem]
      rw [List.length_append, List.length_singleton] at hrest
      have hbuf' : some (w ++ [0] ++ rest) = some (List.replicate 0 0 ++ w ++ 0 :: rest) := by simp
      refine store_continues hst hf.ok halloc hf.ok hf.status_eq hbuf' ?_ hmax' ?_ (fun _ => ?_)
        (fun h => absurd hzero h) hgives
      · show info.jsonBufSize + d.bytes.length = 0 + w.length + (rest.length + 1)
        omega
      · rw [List.drop_eq_nil_of_le (by simp; omega), List.length_cons,
          show rest.length + 1 - (d.bytes.length + 1) = 0 by omega]
        rfl
      · show info.jsonBufSize + d.bytes.length = _
        omega
  · have halloc : allocJsonBuf d contentLength { info with httpRespCode := status } =
        (info, true) := by
      rw [hstatus]
      simp [allocJsonBuf, hbuf, hzero]
    refine store_continues hst hf.ok halloc hf.ok hf.status_eq hbuf ?_ hmax ?_
      (fun h => absurd h hzero) hf.sized hgives
    · rw [List.length_replicate]
      exact hsize
    · rw [List.drop_replicate, List.length_replicate]

theorem osCalloc_eq_some {mem : Memory} {size : Nat} (h : mem.gives size = true) :
    osCalloc mem size = some (List.replicate size 0) := if_pos h

theorem osCalloc_eq_none {mem : Memory} {size : Nat} (h : mem.gives size = false) :
    osCalloc mem size = none := if_neg (by simp [h])

theorem Memory.lt_of_gives {mem : Memory} {size : Nat} (h : mem.gives size = true) :
    size < 2 ^ 31 := by
  simp only [Memory.gives, Bool.and_eq_true, decide_eq_true_eq] at h
  exact h.2

/-- Without a length the first allocation is for the data. -/
theorem firstSize_chunked (d : Data) : firstSize d 0 = d.bytes.length + 1 := by
  have hlen := d.length_lt
  rw [firstSize, if_pos rfl]
  exact wrap_of_lt (by omega)

theorem firstSize_sized (d : Data) (h : contentLength ≠ 0) (hlt : contentLength + 1 < 2 ^ 32) :
    firstSize d contentLength = contentLength + 1 := by
  rw [firstSize, if_neg h]
  exact wrap_of_lt hlt

/-- The first data event. -/
theorem first_continues (hst : isRedirect status = false) (d : Data) (o : Nat)
    (hmax : contentLength < 2 ^ 32) :
    ∃ cb' info', httpDownloadEventHandler osStrToUint32Cptr
        ({ contentLength := contentLength, offset := o }, .start) (.data d status) =
        some (cb', info') ∧
      Continues o contentLength status d.bytes (d.mem.gives (contentLength + 1)) cb' info' := by
  have hok : DownloadInfo.start.isError = false := rfl
  let cb : CbInfo := { contentLength := contentLength, offset := o }
  cases hgives : d.mem.gives (firstSize d contentLength) with
  | false =>
    have halloc : allocJsonBuf d contentLength { DownloadInfo.start with httpRespCode := status } =
        ({ DownloadInfo.start with
          httpRespCode := status
          jsonBufSize := firstSize d contentLength
          isError := true }, false) := by
      simp only [allocJsonBuf, DownloadInfo.start, osCalloc_eq_none hgives]
    refine ⟨_, _, httpDownloadEventHandler_noMemory cb hok hst halloc,
      .inl ⟨rfl, fun hne hg => ?_⟩⟩
    have hlt := Memory.lt_of_gives hg
    rw [← firstSize_sized d hne (by omega), hgives] at hg
    exact absurd hg (by simp)
  | true =>
    have hlt := Memory.lt_of_gives hgives
    have halloc : allocJsonBuf d contentLength { DownloadInfo.start with httpRespCode := status } =
        ({ DownloadInfo.start with
          httpRespCode := status
          jsonBufSize := firstSize d contentLength
          jsonBuf := some (List.replicate (firstSize d contentLength) 0) }, true) := by
      simp only [allocJsonBuf, DownloadInfo.start, osCalloc_eq_some hgives]
    by_cases hover : firstSize d contentLength ≤ o + d.bytes.length
    · refine ⟨_, _, httpDownloadEventHandler_data cb hok hst halloc
        (storeJsonData_of_le d.length_lt hlt hover), .inl ⟨rfl, fun hne hg => ?_⟩⟩
      have hlt' := Memory.lt_of_gives hg
      rwa [firstSize_sized d hne (by omega)] at hover
    · have hbuf : some (List.replicate (firstSize d contentLength) 0) =
          some (List.replicate o (0 : UInt8) ++ [] ++
            List.replicate (firstSize d contentLength - o) 0) := by
        rw [List.append_nil, List.replicate_append_replicate]
        exact congrArg (fun n => some (List.replicate n 0)) (by omega)
      have hsized : contentLength ≠ 0 → firstSize d contentLength = contentLength + 1 := by
        intro hne
        by_cases hedge : contentLength + 1 = 2 ^ 32
        · -- the size wraps to zero, which nothing fits into
          rw [firstSize, if_neg hne, hedge] at hover
          exact absurd (Nat.zero_le _) hover
        · exact firstSize_sized d hne (by omega)
      have hgives' : contentLength ≠ 0 → d.mem.gives (contentLength + 1) = true := by
        intro hne
        rw [← hsized hne]
        exact hgives
      refine @store_continues osStrToUint32Cptr o contentLength status [] .start d
        (List.replicate (firstSize d contentLength - o) 0) _ hst hok _ halloc rfl rfl hbuf ?_ hlt ?_
        (fun hzero => ?_) hsized hgives'
      · show firstSize d contentLength = _
        simp only [List.length_nil, List.length_replicate]
        omega
      · rw [List.drop_replicate, List.length_replicate]
      · show firstSize d contentLength = _
        rw [hzero, firstSize_chunked, List.length_nil, Nat.zero_add]

/-- All data after the first. -/
theorem Filled.allData (ds : List Data) (hf : Filled o contentLength status w cb info)
    (hst : isRedirect status = false) {gives : Bool} (hgives : contentLength ≠ 0 → gives = true) :
    ∃ cb' info', handleEvents osStrToUint32Cptr (cb, info) (ds.map fun d => .data d status) =
        some (cb', info') ∧
      Continues o contentLength status (w ++ ds.flatMap Data.bytes) gives cb' info' := by
  induction ds generalizing w cb info with
  | nil =>
    rw [List.flatMap_nil, List.append_nil]
    exact ⟨cb, info, rfl, .inr ⟨hf, hgives⟩⟩
  | cons d ds ih =>
    obtain ⟨cb₁, info₁, hstep, hcont⟩ :=
      @Filled.data osStrToUint32Cptr _ _ _ _ _ _ hf hst _ hgives d
    rw [List.map_cons, handleEvents, List.foldlM_cons, hstep, List.flatMap_cons,
      ← List.append_assoc]
    rcases hcont with ⟨herr, hover⟩ | ⟨hf₁, -⟩
    · obtain ⟨cb₂, hrest⟩ := @handleEvents_of_error osStrToUint32Cptr status _ ds herr cb₁
      refine ⟨cb₂, info₁, hrest, .inl ⟨herr, fun hne hg => ?_⟩⟩
      have := hover hne hg
      rw [List.length_append]
      omega
    · exact ih hf₁

/-- The body of a response, from the counters before it. -/
theorem Response.body_continues {r : Response} (hst : isRedirect r.status = false) (o : Nat)
    (hmax : contentLength < 2 ^ 32) {first : Data} (hfirst : r.body.head? = some first) :
    ∃ cb info, handleEvents osStrToUint32Cptr
        ({ contentLength := contentLength, offset := o }, .start)
        (r.body.map fun d => .data d r.status) = some (cb, info) ∧
      Continues o contentLength r.status r.bytes (first.mem.gives (contentLength + 1)) cb info := by
  cases hbody : r.body with
  | nil => simp [hbody] at hfirst
  | cons d ds =>
    obtain rfl : d = first := by simpa [hbody] using hfirst
    obtain ⟨cb₁, info₁, hstep, hcont⟩ := @first_continues osStrToUint32Cptr _ _ hst d o hmax
    rw [List.map_cons, handleEvents, List.foldlM_cons, hstep, Response.bytes, hbody,
      List.flatMap_cons]
    rcases hcont with ⟨herr, hover⟩ | ⟨hf₁, hgives⟩
    · obtain ⟨cb₂, hrest⟩ := @handleEvents_of_error osStrToUint32Cptr r.status _ ds herr cb₁
      refine ⟨cb₂, info₁, hrest, .inl ⟨herr, fun hne hg => ?_⟩⟩
      have := hover hne hg
      rw [List.length_append]
      omega
    · exact hf₁.allData ds hst hgives

theorem foldl_next_lt (evs : List Event) {cb : CbInfo} (h : cb.contentLength < 2 ^ 32) :
    (evs.foldl (CbInfo.next osStrToUint32Cptr) cb).contentLength < 2 ^ 32 := by
  induction evs generalizing cb with
  | nil => exact h
  | cons ev evs ih =>
    refine ih ?_
    cases ev with
    | connected | data | other => exact h
    | header key value =>
      show (if _ then _ else cb).contentLength < 2 ^ 32
      split
      · exact (osStrToUint32Cptr value).toNat_lt
      · exact h

/-- The counters before the data of the last response. -/
def Download.counters (osStrToUint32Cptr : List Char → UInt32) (d : Download) : CbInfo :=
  d.final.counters osStrToUint32Cptr (d.carried osStrToUint32Cptr)

theorem Download.redirectEvents_status (d : Download) :
    ∀ x st, Event.data x st ∈ d.redirectEvents → isRedirect st = true := by
  intro x st hmem
  obtain ⟨r, hr, hev⟩ := List.mem_flatMap.mp hmem
  have hst : st = r.status := by
    simp only [Response.events, Response.head, List.mem_append, List.mem_map] at hev
    rcases hev with ((hc | ⟨h, -, hc⟩) | ⟨x', -, hc⟩) | ⟨h, -, hc⟩
    · split at hc <;> simp at hc
    · cases hc
    · cases hc
      rfl
    · cases hc
  exact hst ▸ d.redirects_status r hr

/-- Before the data of the last response only the counters have changed. -/
theorem Download.handleEvents_head (d : Download) :
    handleEvents osStrToUint32Cptr (.start, .start) (d.redirectEvents ++ d.final.head) =
      some (d.counters osStrToUint32Cptr, .start) := by
  rw [handleEvents_append, handleEvents_of_redirect d.redirectEvents_status _ rfl,
    Option.bind_some]
  refine handleEvents_of_redirect (fun x st hmem => ?_) _ rfl
  simp only [Response.head, List.mem_append, List.mem_map] at hmem
  rcases hmem with hc | ⟨h, -, hc⟩
  · split at hc <;> simp at hc
  · cases hc

/-- A whole download: without data nothing has changed, otherwise the data is written from the
offset that the last response starts at, or the download has failed. -/
theorem Download.handleEvents_eq (d : Download) :
    ∃ cb info, handleEvents osStrToUint32Cptr (.start, .start)
        (d.redirectEvents ++ d.final.events) = some (cb, info) ∧
      (d.final.body = [] ∧ info = .start ∨
        ∃ first cb', d.final.body.head? = some first ∧
          Continues (d.counters osStrToUint32Cptr).offset
            (d.counters osStrToUint32Cptr).contentLength d.final.status d.final.bytes
            (first.mem.gives ((d.counters osStrToUint32Cptr).contentLength + 1)) cb' info) := by
  have hsplit : d.redirectEvents ++ d.final.events =
      d.redirectEvents ++ d.final.head ++ d.final.body.map (fun x => Event.data x d.final.status) ++
        d.final.trailers.map fun h => Event.header h.1 h.2 := by
    simp [Response.events]
  have hmax : (d.counters osStrToUint32Cptr).contentLength < 2 ^ 32 :=
    foldl_next_lt _ (foldl_next_lt _ (by decide))
  rw [hsplit, handleEvents_append, handleEvents_append, d.handleEvents_head, Option.bind_some]
  cases hfirst : d.final.body.head? with
  | none =>
    have hnil : d.final.body = [] := List.head?_eq_none_iff.mp hfirst
    obtain ⟨cb, htrailers⟩ := @handleEvents_headers osStrToUint32Cptr d.final.trailers
      (d.counters osStrToUint32Cptr, .start)
    rw [hnil]
    exact ⟨cb, _, htrailers, .inl ⟨rfl, rfl⟩⟩
  | some first =>
    obtain ⟨cb₁, info₁, hbody, hcont⟩ := @Response.body_continues osStrToUint32Cptr _ _
      d.final_status (d.counters osStrToUint32Cptr).offset hmax first hfirst
    obtain ⟨cb, htrailers⟩ := @handleEvents_headers osStrToUint32Cptr d.final.trailers (cb₁, info₁)
    rw [hbody]
    exact ⟨cb, info₁, htrailers, .inr ⟨first, cb₁, rfl, hcont⟩⟩

/-! ## The result -/

theorem httpDownloadJson_of_ok {resp : HttpServerResp} (hresp : resp.httpRespCode = 200)
    (hcode : info.httpRespCode = 200) (hbuf : info.jsonBuf.isSome = true)
    (hok : info.isError = false) : httpDownloadJson resp info = info := by
  obtain ⟨buf, hbuf⟩ := Option.isSome_iff_exists.mp hbuf
  simp [httpDownloadJson, hresp, hcode, hbuf, hok]

/-- No error is reported only if there was none, and then nothing is changed. -/
theorem ok_of_httpDownloadJson {resp : HttpServerResp}
    (h : (httpDownloadJson resp info).isError = false) :
    resp.httpRespCode = 200 ∧ info.httpRespCode = 200 ∧ info.jsonBuf.isSome = true ∧
      info.isError = false := by
  have hkeep : ∀ info' : DownloadInfo,
      (if info'.isError ∧ info'.httpRespCode = 200 then { info' with httpRespCode := 400 }
        else info').isError = info'.isError := fun info' => by split <;> rfl
  unfold httpDownloadJson at h
  rw [hkeep] at h
  split at h
  · exact absurd h (by simp)
  · split at h
    · exact absurd h (by simp)
    · split at h
      · exact absurd h (by simp)
      · rename_i hresp hcode hbuf
        refine ⟨not_not.mp hresp, not_not.mp hcode, ?_, h⟩
        cases hcase : info.jsonBuf with
        | none => simp [hcase] at hbuf
        | some buf => rfl

/-- What is itself behind zeros, up to zeros, is zero. -/
theorem eq_zero_of_shift {o a b : Nat} {w : List UInt8} (ho : 0 < o)
    (h : List.replicate o 0 ++ w ++ List.replicate a 0 = w ++ List.replicate b 0) :
    ∀ x ∈ w, x = 0 := by
  have hget : ∀ i (hi : i < w.length), w[i] = 0 := by
    intro i
    induction i using Nat.strongRecOn with
    | ind i ih =>
      intro hi
      have hi' := congrArg (fun l => l[i]?) h
      simp only [List.append_assoc, List.getElem?_append_left hi,
        List.getElem?_eq_getElem hi] at hi'
      by_cases hlt : i < o
      · rw [List.getElem?_append_left (by simpa using hlt)] at hi'
        simpa [hlt] using hi'.symm
      · rw [List.getElem?_append_right (by simpa using hlt), List.length_replicate,
          List.getElem?_append_left (by omega), List.getElem?_eq_getElem (by omega),
          Option.some.injEq] at hi'
        rw [← hi']
        exact ih (i - o) (by omega) (by omega)
  intro x hx
  obtain ⟨i, hi, rfl⟩ := List.mem_iff_getElem.mp hx
  exact hget i hi

/-- A body that is written behind zeros, without `Download.StaleOffset`, has only zeros in it. -/
theorem Download.bytes_eq_zero {d : Download} (hstale : ¬ d.StaleOffset osStrToUint32Cptr)
    {first : Data} (hfirst : d.final.body.head? = some first)
    (hf : Filled (d.counters osStrToUint32Cptr).offset (d.counters osStrToUint32Cptr).contentLength
      d.final.status d.final.bytes cb info)
    (hgives : (d.counters osStrToUint32Cptr).contentLength ≠ 0 →
      first.mem.gives ((d.counters osStrToUint32Cptr).contentLength + 1) = true)
    (ho : (d.counters osStrToUint32Cptr).offset ≠ 0) (hcode : info.httpRespCode = 200)
    (hresp : d.resp.httpRespCode = 200) : ∀ b ∈ d.final.bytes, b = 0 := by
  have hkept : d.final.connects = false := by
    by_contra hc
    exact ho (Response.counters_offset (.inl (by simpa using hc)) _)
  have hchunked : d.final.sized = false := by
    by_contra hc
    exact ho (Response.counters_offset (.inr (by simpa using hc)) _)
  have hcounters : d.counters osStrToUint32Cptr = d.carried osStrToUint32Cptr :=
    Response.counters_of_kept hkept hchunked _
  have hne : (d.counters osStrToUint32Cptr).contentLength ≠ 0 := fun h => ho (hf.grows h).1
  have hsized := hf.sized hne
  obtain ⟨k, hsize, -⟩ := hf.buf
  intro b hb
  by_contra hb0
  refine hstale ⟨hkept, hchunked, ?_, ?_, fun x hx => ?_, hf.status_eq.symm.trans hcode,
    hresp, b, hb, hb0⟩
  · rw [← hcounters]
    omega
  · rw [← hcounters]
    omega
  · obtain rfl := Option.some.inj (hfirst.symm.trans hx)
    rw [← hcounters]
    exact hgives hne

/-- **Exactly the final body.**  A JSON download writes inside its buffer, and delivers the body
of the last response or reports an error, exactly if that response does not start with counters
that are left over from redirects. -/
theorem delivers_iff (osStrToUint32Cptr : List Char → UInt32) (d : Download) :
    d.Delivers osStrToUint32Cptr ↔ ¬ d.StaleOffset osStrToUint32Cptr := by
  obtain ⟨cb, info, hrun, hinfo⟩ := @Download.handleEvents_eq osStrToUint32Cptr d
  constructor
  · rintro ⟨cb', info', hrun', hexact⟩ hstale
    obtain ⟨-, rfl⟩ := Prod.mk.inj (Option.some.inj (hrun.symm.trans hrun'))
    have hcounters : d.counters osStrToUint32Cptr = d.carried osStrToUint32Cptr :=
      Response.counters_of_kept hstale.kept hstale.chunked _
    obtain ⟨b, hb, hne⟩ := hstale.visible
    rw [hcounters] at hinfo
    have hfits := hstale.fits
    have hpos := hstale.offset_pos
    rcases hinfo with ⟨hnil, -⟩ | ⟨first, cb'', hfirst, ⟨-, hover⟩ | ⟨hf, -⟩⟩
    · rw [Response.bytes, hnil] at hb
      exact absurd hb (by simp)
    · exact absurd (hover (by omega) (hstale.memory first hfirst)) (by omega)
    · obtain ⟨k, -, hbuf⟩ := hf.buf
      have hresult : httpDownloadJson d.resp info = info := httpDownloadJson_of_ok hstale.resp
        (hf.status_eq.trans hstale.status) (by rw [hbuf]; rfl) hf.ok
      rw [hresult] at hexact
      obtain ⟨n, hn⟩ := hexact hf.ok
      exact hne (eq_zero_of_shift hpos (Option.some.inj (hbuf.symm.trans hn)) b hb)
  · intro hstale
    refine ⟨cb, info, hrun, fun hok => ?_⟩
    obtain ⟨hresp, hcode, hsome, herr⟩ := ok_of_httpDownloadJson hok
    rw [httpDownloadJson_of_ok hresp hcode hsome herr]
    rcases hinfo with ⟨-, rfl⟩ | ⟨first, cb'', hfirst, ⟨herr', -⟩ | ⟨hf, hgives⟩⟩
    · exact absurd hsome (by decide)
    · exact absurd (herr.symm.trans herr') (by simp)
    · obtain ⟨k, hsize, hbuf⟩ := hf.buf
      rw [hbuf]
      by_cases ho : (d.counters osStrToUint32Cptr).offset = 0
      · exact ⟨k, by rw [ho]; rfl⟩
      -- the offset is left over, so all that the buffer can show of it are zeros
      have hall : ∀ b ∈ d.final.bytes, b = 0 :=
        Download.bytes_eq_zero hstale hfirst hf hgives ho hcode hresp
      have hzeros := List.eq_replicate_iff.mpr ⟨rfl, hall⟩
      refine ⟨(d.counters osStrToUint32Cptr).offset + k, ?_⟩
      rw [hzeros, List.append_assoc, List.replicate_append_replicate,
        List.replicate_append_replicate, List.replicate_append_replicate]
      exact congrArg (fun n => some (List.replicate n 0)) (by omega)

/-! ## Two redirects -/

/-- A number in decimal digits. -/
def decimal (s : List Char) : UInt32 :=
  UInt32.ofNat (s.foldl (fun n c => 10 * n + (c.toNat - '0'.toNat)) 0)

/-- A redirect to another host announces 100 bytes and sends them.  There a second one, in
chunks, leads to another path on the same host, so that the document comes on the same
connection; it is in chunks as well. -/
def twoRedirects : Download where
  redirects := [
    { connects := true
      headers := [("Location".toList, "https://files.example.com/latest.json".toList),
        ("Content-Length".toList, "100".toList)]
      status := 302
      body := [{ bytes := List.replicate 100 60, length_lt := by decide, mem := none }]
      trailers := [] },
    { connects := true
      headers := [("Location".toList, "/v1.16.0.json".toList),
        ("Transfer-Encoding".toList, "chunked".toList)]
      status := 302
      body := [{ bytes := List.replicate 10 60, length_lt := by decide, mem := none }]
      trailers := [] }]
  redirects_status := by decide
  final := {
    connects := false
    headers := [("Transfer-Encoding".toList, "chunked".toList)]
    status := 200
    body := [
      { bytes := [123], length_lt := by decide, mem := some fun _ => 0 },
      { bytes := [125], length_lt := by decide, mem := some fun _ => 0 }]
    trailers := [] }
  final_status := by decide
  resp := { httpRespCode := 200, content := none, copied := false }

/-- No error is reported, and the document stands behind ten zeros. -/
theorem twoRedirects_not_delivered :
    (∃ cb info, handleEvents decimal (.start, .start)
        (twoRedirects.redirectEvents ++ twoRedirects.final.events) = some (cb, info) ∧
      (httpDownloadJson twoRedirects.resp info).isError = false ∧
      (httpDownloadJson twoRedirects.resp info).jsonBuf =
        some (List.replicate 10 0 ++ [123, 125] ++ List.replicate 89 0)) ∧
    ¬ twoRedirects.Delivers decimal := by
  have hrun : handleEvents decimal (.start, .start)
      (twoRedirects.redirectEvents ++ twoRedirects.final.events) =
        some ({ contentLength := 100, offset := 12 },
          { isError := false
            httpRespCode := 200
            jsonBuf := some (List.replicate 10 0 ++ [123, 125] ++ List.replicate 89 0)
            jsonBufSize := 101 }) := by
    decide
  refine ⟨⟨_, _, hrun, rfl, rfl⟩, ?_⟩
  rintro ⟨cb, info, hrun', hexact⟩
  obtain ⟨-, rfl⟩ := Prod.mk.inj (Option.some.inj (hrun.symm.trans hrun'))
  obtain ⟨n, hn⟩ := hexact rfl
  have hhead : some (0 : UInt8) = some 123 := congrArg (fun b => b.bind List.head?) hn
  exact absurd hhead (by decide)

end HttpDownload
end RuuviGateway
