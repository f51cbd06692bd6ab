import Mathlib.Algebra.GroupWithZero.Nat
import Mathlib.Data.List.Basic
import Mathlib.Data.List.TakeDrop

/-!
# Downloading a JSON document

`http_download_json` in `http_download.c`: the handler of the events of the HTTP client, with the
offset and the length that it keeps over all responses of a download, and the callback that
collects the body of the last one in a buffer that it allocates and lets grow.

The client calls the handler for every response, those that redirect it included, and drops what
the handler answers to data (`http_on_body`).  It says `HTTP_EVENT_ON_CONNECTED` for a new
connection only: after a redirect to the same host the next response comes on the old one.

`os_str_to_uint32_cptr` is not part of the repository and stands as a parameter.  Each data event
has the memory that an allocation in it is given, if it is; a reallocation that fails frees the
block.  An allocation never has more than `PTRDIFF_MAX` bytes, and a `size_t` has 32 bits.
-/

namespace RuuviGateway
namespace HttpDownload

/-! ## Memory -/

/-- A number in a `size_t` or an `uint32_t`. -/
def wrap (n : Nat) : Nat := n % 2 ^ 32

/-- `memcpy` to a block; it has no result if the block ends before. -/
def memcpy (block : List UInt8) (offset : Nat) (bytes : List UInt8) : Option (List UInt8) :=
  if offset + bytes.length ≤ block.length then
    some (block.take offset ++ bytes ++ block.drop (offset + bytes.length))
  else none

/-- The memory for an allocation: what a byte of it holds, or that there is none. -/
abbrev Memory := Option (Nat → UInt8)

/-- An allocation of `size` bytes succeeds. -/
def Memory.gives (mem : Memory) (size : Nat) : Bool := mem.isSome && decide (size < 2 ^ 31)

/-- `os_calloc(1, size)`. -/
def osCalloc (mem : Memory) (size : Nat) : Option (List UInt8) :=
  if mem.gives size then some (List.replicate size 0) else none

/-- `os_realloc_safe_and_clean`: bytes that are added hold anything. -/
def osReallocSafeAndClean (mem : Memory) (block : List UInt8) (size : Nat) :
    Option (List UInt8) :=
  if mem.gives size then
    some (block.take size ++
      (List.range' block.length (size - block.length)).map fun i => mem.elim 0 fun f => f i)
  else none

/-! ## The callback -/

/-- `HTTP_EVENT_ON_DATA`: `data_len` is an `int`. -/
structure Data where
  bytes : List UInt8
  length_lt : bytes.length < 2 ^ 31
  mem : Memory

/-- `http_server_download_info_t`. -/
@[ext] structure DownloadInfo where
  isError : Bool
  httpRespCode : Nat
  jsonBuf : Option (List UInt8)
  jsonBufSize : Nat
  deriving DecidableEq

/-- The size of the buffer that the first data is given. -/
def firstSize (d : Data) (contentLength : Nat) : Nat :=
  wrap (if contentLength = 0 then d.bytes.length + 1 else contentLength + 1)

/-- The first half of `cb_on_http_download_json_data`: the buffer is allocated, or grows by the
data if the length of the body is not known. -/
def allocJsonBuf (d : Data) (contentLength : Nat) (info : DownloadInfo) : DownloadInfo × Bool :=
  match info.jsonBuf with
  | none =>
      let size := firstSize d contentLength
      match osCalloc d.mem size with
      | none => ({ info with jsonBufSize := size, isError := true }, false)
      | some buf => ({ info with jsonBufSize := size, jsonBuf := some buf }, true)
  | some buf =>
      if contentLength = 0 then
        let size := wrap (info.jsonBufSize + d.bytes.length)
        match osReallocSafeAndClean d.mem buf size with
        | none => ({ info with jsonBufSize := size, jsonBuf := none, isError := true }, false)
        | some buf => ({ info with jsonBufSize := size, jsonBuf := some buf }, true)
      else (info, true)

/-- The second half: the data is written behind what the buffer has, and a zero after it.  There
is no result if a byte is written that the buffer does not have. -/
def storeJsonData (bytes : List UInt8) (offset : Nat) (info : DownloadInfo) :
    Option (DownloadInfo × Bool) :=
  if offset ≥ info.jsonBufSize ∨ wrap (offset + bytes.length) ≥ info.jsonBufSize then
    some ({ info with isError := true, jsonBuf := none }, false)
  else do
    let buf ← info.jsonBuf
    let buf ← memcpy buf offset bytes
    let buf ← memcpy buf (wrap (offset + bytes.length)) [0]
    some ({ info with jsonBuf := some buf }, true)

/-- A status that the callback takes for a redirect. -/
def isRedirect (httpRespCode : Nat) : Bool := httpRespCode == 301 || httpRespCode == 302

/-- `cb_on_http_download_json_data`. -/
def cbOnHttpDownloadJsonData (d : Data) (offset contentLength httpRespCode : Nat)
    (info : DownloadInfo) : Option (DownloadInfo × Bool) :=
  if info.isError then some (info, false)
  else if isRedirect httpRespCode then some (info, true)
  else
    let r := allocJsonBuf d contentLength { info with httpRespCode := httpRespCode }
    if r.2 then storeJsonData d.bytes offset r.1 else some r

/-! ## The handler -/

/-- An event of the HTTP client; `other` is one that the handler only logs. -/
inductive Event where
  | connected
  | header (key value : List Char)
  | data (d : Data) (statusCode : Nat)
  | other

/-- `strcasecmp` finds the name of the header to be `Content-Length`. -/
def isContentLength (key : List Char) : Bool :=
  key.map Char.toLower == "content-length".toList

/-- What `http_download_cb_info_t` keeps from one event to the next. -/
@[ext] structure CbInfo where
  contentLength : Nat
  offset : Nat
  deriving DecidableEq

variable (osStrToUint32Cptr : List Char → UInt32)

/-- What an event does to the counters. -/
def CbInfo.next (cb : CbInfo) : Event → CbInfo
  | .connected => { cb with offset := 0 }
  | .header key value =>
      if isContentLength key then
        { offset := 0, contentLength := (osStrToUint32Cptr value).toNat }
      else cb
  | .data d _ => { cb with offset := wrap (cb.offset + d.bytes.length) }
  | .other => cb

/-- `http_download_event_handler`, with `cb_on_http_download_json_data` as the callback. -/
def httpDownloadEventHandler (s : CbInfo × DownloadInfo) (ev : Event) :
    Option (CbInfo × DownloadInfo) :=
  match ev with
  | .data d statusCode => do
      let r ← cbOnHttpDownloadJsonData d s.1.offset s.1.contentLength statusCode s.2
      some (s.1.next osStrToUint32Cptr (.data d statusCode), r.1)
  | ev => some (s.1.next osStrToUint32Cptr ev, s.2)

/-- All events of a download, one after the other. -/
def handleEvents (s : CbInfo × DownloadInfo) (evs : List Event) :
    Option (CbInfo × DownloadInfo) :=
  evs.foldlM (httpDownloadEventHandler osStrToUint32Cptr) s

/-- `http_download_or_check_stage_2` before the download. -/
def CbInfo.start : CbInfo := { contentLength := 0, offset := 0 }

/-- `http_download_json` before the download. -/
def DownloadInfo.start : DownloadInfo :=
  { isError := false, httpRespCode := 200, jsonBuf := none, jsonBufSize := 0 }

/-- `http_server_resp_t`, as `http_download_with_auth` returns it: the content, if it is in
memory, and whether there is memory for a copy of it. -/
structure HttpServerResp where
  httpRespCode : Nat
  content : Option (List UInt8)
  copied : Bool

/-- `http_download_json` after the download. -/
def httpDownloadJson (resp : HttpServerResp) (info : DownloadInfo) : DownloadInfo :=
  let info :=
    if resp.httpRespCode ≠ 200 then
      { info with
        isError := true
        httpRespCode := resp.httpRespCode
        jsonBuf :=
          match resp.content with
          | some text => if resp.copied then some (text ++ [0]) else none
          | none => info.jsonBuf }
    else if info.httpRespCode ≠ 200 then { info with isError := true }
    else if info.jsonBuf.isNone then { info with isError := true }
    else info
  if info.isError ∧ info.httpRespCode = 200 then { info with httpRespCode := 400 } else info

/-! ## A download -/

/-- One response; a chunked body may have headers after it. -/
structure Response where
  /-- It comes on a new connection. -/
  connects : Bool
  headers : List (List Char × List Char)
  status : Nat
  body : List Data
  trailers : List (List Char × List Char)

def Response.head (r : Response) : List Event :=
  (if r.connects then [.connected] else []) ++ r.headers.map fun h => .header h.1 h.2

def Response.events (r : Response) : List Event :=
  r.head ++ r.body.map (fun d => .data d r.status) ++ r.trailers.map fun h => .header h.1 h.2

/-- The bytes of the body. -/
def Response.bytes (r : Response) : List UInt8 := r.body.flatMap Data.bytes

/-- It has a `Content-Length`. -/
def Response.sized (r : Response) : Bool := r.headers.any fun h => isContentLength h.1

/-- Any number of redirects, and a last response. -/
structure Download where
  redirects : List Response
  redirects_status : ∀ r ∈ redirects, isRedirect r.status = true
  final : Response
  final_status : isRedirect final.status = false
  /-- What `http_download_with_auth` returns. -/
  resp : HttpServerResp

def Download.redirectEvents (d : Download) : List Event := d.redirects.flatMap Response.events

/-- The counters after the redirects. -/
def Download.carried (d : Download) : CbInfo :=
  d.redirectEvents.foldl (CbInfo.next osStrToUint32Cptr) .start

/-- All events have been handled, no byte has been written outside the buffer, and if
`http_download_json` reports no error the buffer is the body of the last response, a zero and
nothing but zeros. -/
def Download.Delivers (d : Download) : Prop :=
  ∃ cb info, handleEvents osStrToUint32Cptr (.start, .start)
      (d.redirectEvents ++ d.final.events) = some (cb, info) ∧
    ((httpDownloadJson d.resp info).isError = false →
      ∃ n, (httpDownloadJson d.resp info).jsonBuf =
        some (d.final.bytes ++ List.replicate (n + 1) 0))

/-- A last response without `Content-Length` on the connection of a redirect: it is written
behind the bytes that have come on it, into a buffer of the length of a redirect. -/
structure Download.StaleOffset (d : Download) : Prop where
  kept : d.final.connects = false
  chunked : d.final.sized = false
  offset_pos : 0 < (d.carried osStrToUint32Cptr).offset
  fits : (d.carried osStrToUint32Cptr).offset + d.final.bytes.length ≤
    (d.carried osStrToUint32Cptr).contentLength
  memory : ∀ first ∈ d.final.body.head?,
    first.mem.gives ((d.carried osStrToUint32Cptr).contentLength + 1) = true
  status : d.final.status = 200
  resp : d.resp.httpRespCode = 200
  visible : ∃ b ∈ d.final.bytes, b ≠ 0

end HttpDownload
end RuuviGateway
