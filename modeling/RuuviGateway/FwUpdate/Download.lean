import Mathlib.Data.List.Basic
import Mathlib.Data.List.TakeDrop

/-!
# The resumed download of an image

`fw_update_download_with_retries` in `fw_update.c`, with what it uses of
`http_download.c`, of `http.c` and of the HTTP client in `components/esp_http_client`.

The environment is a list of attempts: what the servers answer in each, how each answer
ends, what the flash says to each write, and whether the network comes back after a
failure.  The HTTP client does not look at what the data callback returns
(`http_on_body` drops it), so the exchange of one attempt is computed first and its data
events are then fed to the callback one by one.

Sizes are natural numbers: the time-outs of an attempt keep them far below the range of
`size_t`.

## The two counters

`downloaded_size` is advanced by `fw_update_download_cb_on_recv_data` for all data and
becomes the start of the next range request.  `offset` is advanced by the callback of the
partition for the data it writes.  A run records both at each request.

## When the download is exact

They part when data is received that is not written: the body of a redirect.  And the
client takes a connection that the peer closed cleanly for the end of the body, also
before `Content-Length` bytes have come (`ERR_TCP_TRANSPORT_CONNECTION_CLOSED_BY_FIN` is
not an error in `esp_http_client_perform`).  `exact_iff_clean` says that nothing else
goes wrong.
-/

namespace RuuviGateway
namespace FwUpdate

/-! ## The HTTP client -/

/-- The data of one `HTTP_EVENT_ON_DATA`, and whether the flash takes it if it is
written.  The parser reports no empty data. -/
structure Data where
  bytes : List UInt8
  nonempty : bytes ≠ []
  writeOk : Bool

/-- How the body of a response ends. -/
inductive Ending where
  /-- All of it has been received. -/
  | complete
  /-- The peer closed the connection before. -/
  | closedByFin
  /-- Reading failed or timed out before. -/
  | failed
  deriving DecidableEq

/-- A response. -/
structure Response where
  status : Nat
  /-- The headers ask for a supported kind of authorization. -/
  wwwAuthenticate : Bool
  body : List Data
  ending : Ending

/-- A status of the class 2xx. -/
def isSuccessStatus (status : Nat) : Bool :=
  decide (200 ≤ status ∧ status ≤ 299)

/-- `process_again` after `esp_http_check_response`. -/
def Response.processAgain (r : Response) : Bool :=
  decide (r.status = 301 ∨ r.status = 302 ∨ r.status = 307) ||
    (decide (r.status = 401) && r.wwwAuthenticate)

/-- `DEFAULT_MAX_REDIRECT`. -/
def maxRedirectionCount : Nat := 10

/-- `esp_http_client_perform`, called until it does not answer `ESP_ERR_HTTP_EAGAIN`: the
data events with the status they come under, and the response the client ends with, or
`none` if it ends with an error.  The first argument is `redirect_counter`. -/
def perform : Nat → List Response → List (Nat × Data) × Option Response
  | _, [] => ([], none)
  | redirectCounter, r :: rest =>
      let events := r.body.map fun d => (r.status, d)
      if !isSuccessStatus r.status && decide (maxRedirectionCount ≤ redirectCounter) then
        (events, none)
      else if r.ending = .failed then (events, none)
      else if r.processAgain then
        let next := perform (redirectCounter + 1) rest
        (events ++ next.1, next.2)
      else (events, some r)

/-! ## One attempt -/

/-- What the environment does in one call of `fw_update_download`. -/
structure Attempt where
  /-- `http_download_or_check` gets as far as sending the request. -/
  started : Bool
  /-- The result is collected by `http_wait_until_async_req_completed`. -/
  isAsync : Bool
  responses : List Response
  /-- The network is down when the attempt has failed and up again before the time-out. -/
  reconnected : Bool

/-- The data events of an attempt. -/
def Attempt.events (a : Attempt) : List (Nat × Data) :=
  if a.started then (perform 0 a.responses).1 else []

/-- The response an attempt ends with. -/
def Attempt.answer (a : Attempt) : Option Response :=
  if a.started then (perform 0 a.responses).2 else none

/-- The `http_resp_code` that `http_download_with_auth` returns.  The codes 400, 500 and
503 of a request that is not sent are told apart nowhere. -/
def Attempt.httpRespCode (a : Attempt) : Nat :=
  if !a.started then 500
  else
    match a.answer with
    | none => 502
    | some r => if a.isAsync && isSuccessStatus r.status then 200 else r.status

/-- The result of `http_download`, for `range_end` zero. -/
def Attempt.httpDownload (a : Attempt) (rangeStart : Nat) : Bool :=
  decide (a.httpRespCode = 200) ||
    (decide (rangeStart ≠ 0) && decide (a.httpRespCode = 206))

/-- `*p_flag_allow_retry` of `http_download`. -/
def Attempt.flagAllowRetry (a : Attempt) : Bool :=
  decide (a.httpRespCode = 502)

/-! ## Writing to the partition -/

/-- `fw_update_data_partition_info_t`, with the contents of the partition up to the end
of what has been written. -/
structure PartitionInfo where
  partition : List UInt8
  offset : Nat
  isError : Bool
  deriving DecidableEq

/-- `fw_update_handle_http_resp_code`: the result if the callback ends there. -/
def handleHttpRespCode (expectedHttpRespCode httpRespCode : Nat) : Option Bool :=
  if expectedHttpRespCode ≠ httpRespCode then
    if httpRespCode = 301 ∨ httpRespCode = 302 then some true else some false
  else none

/-- `expected_http_resp_code`. -/
def expectedHttpRespCode (rangeStart : Nat) : Nat :=
  if rangeStart ≠ 0 then 206 else 200

/-- `fw_update_data_partition_cb_on_recv_data`, and
`fw_update_ota_partition_cb_on_recv_data`, where the write is `esp_ota_write_patched`. -/
def partitionCbOnRecvData (rangeStart : Nat) (p : PartitionInfo) (httpRespCode : Nat)
    (d : Data) : Bool × PartitionInfo :=
  if p.isError then (false, p)
  else
    match handleHttpRespCode (expectedHttpRespCode rangeStart) httpRespCode with
    | some result => (result, if result then p else { p with isError := true })
    | none =>
        if d.writeOk then
          (true, { p with
            partition := p.partition.take p.offset ++ d.bytes
            offset := p.offset + d.bytes.length })
        else (false, { p with isError := true })

/-- `fw_update_download_cb_data_t`. -/
structure CbData where
  downloadedSize : Nat
  info : PartitionInfo

/-- `fw_update_download_cb_on_recv_data`. -/
def downloadCbOnRecvData (rangeStart : Nat) (c : CbData) (e : Nat × Data) : CbData where
  downloadedSize := c.downloadedSize + e.2.bytes.length
  info := (partitionCbOnRecvData rangeStart c.info e.1 e.2).2

/-! ## The attempts -/

/-- `fw_update_download_status_e`. -/
inductive DownloadStatus where
  | success
  | retry
  | failed
  deriving DecidableEq

/-- `fw_update_download`: the status and the callback's data at the end. -/
def download (a : Attempt) (startOffset : Nat) (p : PartitionInfo) : DownloadStatus × CbData :=
  let c := a.events.foldl (downloadCbOnRecvData startOffset) ⟨startOffset, p⟩
  if a.httpDownload startOffset then (.success, c)
  else if a.flagAllowRetry && a.reconnected then (.retry, c)
  else (.failed, c)

/-- The result of a download, and for each request its range start and the bytes that
were written before. -/
structure DownloadResult where
  success : Bool
  info : PartitionInfo
  requests : List (Nat × Nat)
  deriving DecidableEq

/-- The loop of `fw_update_download_with_retries`. -/
def downloadLoop : List Attempt → Nat → PartitionInfo → DownloadResult
  | [], _, p => ⟨false, p, []⟩
  | a :: rest, downloadedSize, p =>
      let d := download a downloadedSize p
      match d.1 with
      | .success => ⟨true, d.2.info, [(downloadedSize, p.offset)]⟩
      | .failed => ⟨false, d.2.info, [(downloadedSize, p.offset)]⟩
      | .retry =>
          let r := downloadLoop rest d.2.downloadedSize d.2.info
          { r with requests := (downloadedSize, p.offset) :: r.requests }

/-- `FW_UPDATE_MAX_RETRIES`. -/
def fwUpdateMaxRetries : Nat := 5

/-- `fw_update_download_with_retries` into an erased partition. -/
def downloadWithRetries (attempts : List Attempt) : DownloadResult :=
  downloadLoop (attempts.take fwUpdateMaxRetries) 0 ⟨[], 0, false⟩

/-- What `fw_update_data_partition_download` and `fw_update_ota_partition` report. -/
def DownloadResult.reportsSuccess (r : DownloadResult) : Bool :=
  r.success && !r.info.isError

/-! ## What a server sends -/

/-- The bytes of some data events. -/
def bytesOf (l : List Data) : List UInt8 :=
  l.flatMap Data.bytes

/-- The response is a redirect, or what the server of the file sends for the range that
starts at `start`, as far as it comes. -/
def Response.Serves (file : List UInt8) (start : Nat) (r : Response) : Prop :=
  (r.status = 301 ∨ r.status = 302) ∨
    r.status = expectedHttpRespCode start ∧ bytesOf r.body <+: file.drop start ∧
      (r.ending = .complete → bytesOf r.body = file.drop start) ∧
      (r.ending = .closedByFin → bytesOf r.body ≠ file.drop start)

/-- Every request of the run is answered by exactly the range it asks for. -/
def Served (file : List UInt8) (attempts : List Attempt) : Prop :=
  ∀ q ∈ (downloadWithRetries attempts).requests.zip (attempts.take fwUpdateMaxRetries),
    ∀ r ∈ q.2.responses, r.Serves file q.1.1

instance (file : List UInt8) (start : Nat) (r : Response) : Decidable (r.Serves file start) :=
  inferInstanceAs (Decidable (_ ∨ _))

instance (file : List UInt8) (attempts : List Attempt) : Decidable (Served file attempts) :=
  inferInstanceAs (Decidable (∀ q ∈ _, ∀ r ∈ _, _))

/-- **The download is exact**: every request starts at the bytes already written, and a
reported success means that the partition holds the file. -/
def Exact (file : List UInt8) (attempts : List Attempt) : Prop :=
  (∀ q ∈ (downloadWithRetries attempts).requests, q.1 = q.2) ∧
    ((downloadWithRetries attempts).reportsSuccess = true →
      (downloadWithRetries attempts).info.partition = file)

instance (file : List UInt8) (attempts : List Attempt) : Decidable (Exact file attempts) :=
  inferInstanceAs (Decidable ((∀ q ∈ _, _) ∧ _))

/-! ## When it is -/

/-- The attempt is followed by another one. -/
def Attempt.retried (a : Attempt) : Bool :=
  a.started && a.answer.isNone && a.reconnected

/-- The flash takes all data of the file. -/
def Attempt.writesOk (a : Attempt) : Bool :=
  a.events.all fun e => decide (e.1 = 301 ∨ e.1 = 302) || e.2.writeOk

/-- No data comes with a redirect. -/
def Attempt.redirectsEmpty (a : Attempt) : Bool :=
  a.events.all fun e => !decide (e.1 = 301 ∨ e.1 = 302)

/-- The peer closes the connection before the end of the body. -/
def Attempt.cutShort (a : Attempt) : Bool :=
  a.answer.any fun r => decide (r.ending = .closedByFin)

/-- No attempt that is followed by another one receives data with a redirect or fails to
write, and the last one is not cut short with all writes done. -/
def CleanLoop : List Attempt → Prop
  | [] => True
  | a :: rest =>
      if a.retried then
        (rest ≠ [] → a.redirectsEmpty = true ∧ a.writesOk = true) ∧ CleanLoop rest
      else a.cutShort = true → a.writesOk = false

/-- The condition, on the attempts the loop can make. -/
def Clean (attempts : List Attempt) : Prop :=
  CleanLoop (attempts.take fwUpdateMaxRetries)

instance decidableCleanLoop : (l : List Attempt) → Decidable (CleanLoop l)
  | [] => isTrue trivial
  | a :: rest =>
      have := decidableCleanLoop rest
      have : Decidable (rest ≠ []) :=
        match rest with
        | [] => isFalse fun h => h rfl
        | _ :: _ => isTrue (by simp)
      inferInstanceAs (Decidable (ite _ _ _))

instance (attempts : List Attempt) : Decidable (Clean attempts) :=
  inferInstanceAs (Decidable (CleanLoop _))

end FwUpdate
end RuuviGateway
