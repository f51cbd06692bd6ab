import RuuviGateway.GwCfgJson.CjsonWrap
import RuuviGateway.Lib.Program
import RuuviGateway.Relaying.HttpDownload

/-!
# Downloads of a request handler

The handlers of `http_server_cb.c` suspend relaying around calls that suspend and resume it
themselves.  A handler is a program over what it has added to the counters so far; it has no
result if an assertion fails.  The downloads of handlers all use the small buffer, so that they
give the counters back (`restores_httpCheck`, `restores_httpDownloadJson`).
-/

namespace RuuviGateway
namespace Relaying

open CString GwCfgJson Program

/-- A program over the contribution of a call. -/
abbrev Handler := StateT Net (Except Abort)

/-- `gw_status_suspend_relaying` and `gw_status_suspend_http_relaying`. -/
def suspendRelaying (kind : Kind) (others : GwStatus) : Handler Unit :=
  modify fun n => n.suspend kind others

/-- `gw_status_resume_relaying` and `gw_status_resume_http_relaying`. -/
def resumeRelaying (kind : Kind) (others : GwStatus) : Handler Unit :=
  modify fun n => n.resume kind others

/-- What a call made by a handler finds: the handler has added `n` to the counters. -/
def DownloadEnv.within (e : DownloadEnv) (n : Net) : DownloadEnv :=
  { e with
    suspend := e.suspend.withNet n
    isHttpEnabled := e.isHttpEnabled.withNet n
    isMqttEnabled := e.isMqttEnabled.withNet n
    resume := e.resume.withNet n }

@[simp] theorem DownloadEnv.within_request (e : DownloadEnv) (n : Net) :
    (e.within n).request = e.request := rfl

/-- `http_check`, in a handler. -/
def callHttpCheck (p : DownloadParam) (e : DownloadEnv) : Handler HttpRespCode := fun n => do
  let (code, d) ← httpCheck p (e.within n)
  .ok (code, n.add d)

/-! ## Downloading JSON -/

/-- `http_server_download_info_t`. -/
structure DownloadInfo where
  isError : Bool
  httpRespCode : HttpRespCode
  jsonBuf : Option (List Char)

/-- What `http_download_json` finds and how its steps end. -/
structure JsonEnv where
  download : DownloadEnv
  /-- What `cb_on_http_download_json_data` leaves. -/
  received : DownloadInfo
  /-- The content of the response is in memory. -/
  contentInMemory : Bool
  /-- The copy of that content. -/
  content : Option (List Char)

/-- What `http_download_json` makes of the response and of what was received. -/
def jsonInfo (resp : HttpRespCode) (e : JsonEnv) : DownloadInfo :=
  let info : DownloadInfo :=
    if resp ≠ 200 then
      { isError := true
        httpRespCode := resp
        jsonBuf := if e.contentInMemory then e.content else e.received.jsonBuf }
    else if e.received.httpRespCode ≠ 200 then { e.received with isError := true }
    else if e.received.jsonBuf.isNone then { e.received with isError := true }
    else e.received
  if info.isError ∧ info.httpRespCode = 200 then { info with httpRespCode := 400 } else info

/-- `http_download_json`. -/
def httpDownloadJson (p : DownloadParam) (e : JsonEnv) : Handler DownloadInfo := fun n => do
  let (resp, d) ← httpDownloadOrCheck p false (e.download.within n)
  .ok (jsonInfo resp e, n.add d)

/-! ## The files of an update -/

/-- What `http_server_fw_update_check_file` finds. -/
structure FileEnv where
  urlAllocated : Bool
  download : DownloadEnv

/-- The request for a file of an update. -/
def fwFileParam (fwBinariesUrl fileName : String) : DownloadParam where
  url := fwBinariesUrl ++ "/" ++ fileName
  rangeStart := 0
  rangeEnd := 0
  authType := .none
  httpAuth := false

/-- `http_server_fw_update_check_file`. -/
def httpServerFwUpdateCheckFile (fwBinariesUrl fileName : String) (e : FileEnv) :
    Handler HttpRespCode :=
  if !e.urlAllocated then pure 500
  else callHttpCheck (fwFileParam fwBinariesUrl fileName) e.download

/-- `arr_of_file_names`. -/
def arrOfFileNames : List String :=
  ["ruuvi_gateway_esp.bin", "fatfs_gwui.bin", "fatfs_nrf52.bin"]

/-- The loop of `http_server_check_fw_update_binary_files`: the response, and the name of the
file that is not found. -/
def checkFiles (fwBinariesUrl : String) (e : String → FileEnv) :
    List String → Handler (HttpRespCode × Option String)
  | [] => pure (200, none)
  | fileName :: rest => do
      let code ← httpServerFwUpdateCheckFile fwBinariesUrl fileName (e fileName)
      if code ≠ 200 then pure (code, some fileName) else checkFiles fwBinariesUrl e rest

/-- `http_server_check_fw_update_binary_files`. -/
def httpServerCheckFwUpdateBinaryFiles (fwBinariesUrl : String) (e : String → FileEnv) :
    Handler (HttpRespCode × Option String) :=
  checkFiles fwBinariesUrl e arrOfFileNames

/-! ## The remote configuration -/

/-- What `http_server_gw_cfg_download_and_parse` finds and how its steps end. -/
structure GwCfgDownloadEnv where
  /-- The bytes of the MAC address of the nRF52, in hexadecimal. -/
  nrf52Mac : String
  url1Allocated : Bool
  download1 : JsonEnv
  url2Allocated : Bool
  download2 : JsonEnv
  cfgAllocated : Bool
  /-- `gw_cfg_json_parse`: `use_remote_cfg` of the configuration that has been read. -/
  parsed : Option Bool

/-- `http_server_err_download_info_500`. -/
def httpServerErrDownloadInfo500 : DownloadInfo := ⟨true, 500, none⟩

/-- `http_server_download_gw_cfg_by_url`. -/
def httpServerDownloadGwCfgByUrl (remote : Remote) (url : String) (urlAllocated : Bool)
    (e : JsonEnv) : Handler DownloadInfo :=
  if !urlAllocated then pure httpServerErrDownloadInfo500
  else
    httpDownloadJson
      { url := url
        rangeStart := 0
        rangeEnd := 0
        authType := remote.authType
        httpAuth := true } e

/-- `strrchr`. -/
def strrchr (s : List Char) (c : Char) : Option (List Char) :=
  (s.tails.filter fun t => t.head? == some c).getLast?

/-- The URL without a `/` at its end. -/
def baseUrl (url : List Char) : String :=
  String.ofList (if url.getLast? = some '/' then url.dropLast else url)

/-- `http_server_download_gw_cfg`, with `http_server_download_gw_cfg_internal`; the constant is
`GW_CFG_REMOTE_URL_MIN_LEN`. -/
def httpServerDownloadGwCfg (remote : Remote) (e : GwCfgDownloadEnv) : Handler DownloadInfo :=
  let url := remote.url.chars
  if url.length < 3 then pure httpServerErrDownloadInfo500
  else if strrchr url '.' = some ".json".toList then
    httpServerDownloadGwCfgByUrl remote (String.ofList url) e.url1Allocated e.download1
  else do
    let info ← httpServerDownloadGwCfgByUrl remote (baseUrl url ++ "/" ++ e.nrf52Mac ++ ".json")
      e.url1Allocated e.download1
    if info.isError then
      httpServerDownloadGwCfgByUrl remote (baseUrl url ++ "/gw_cfg.json") e.url2Allocated
        e.download2
    else pure info

/-- The message about a download that has failed. -/
def downloadFailedMsg (info : DownloadInfo) : String :=
  "Download of gw_cfg failed, HTTP error code " ++ toString info.httpRespCode ++ ", message: " ++
    String.ofList (info.jsonBuf.getD "<NULL>".toList)

/-- The message about what is not a JSON object. -/
def firstByteMsg (c : Char) : String :=
  "Invalid first byte of json, expected '\x7b', actual '" ++ toString c ++ "' (" ++
    toString c.toNat ++ ")"

/-- `http_server_gw_cfg_download_and_parse`: the response and `p_err_msg`. -/
def httpServerGwCfgDownloadAndParse (remote : Remote) (e : GwCfgDownloadEnv) :
    Handler (HttpRespCode × Option String) := do
  let info ← httpServerDownloadGwCfg remote e
  let firstByte := (info.jsonBuf.getD []).headD nul
  if info.isError then pure (info.httpRespCode, some (downloadFailedMsg info))
  else if firstByte ≠ '\x7b' then pure (502, some (firstByteMsg firstByte))
  else if !e.cfgAllocated then pure (502, some "Failed to allocate memory for gw_cfg")
  else
    match e.parsed with
    | none => pure (502, some "Failed to parse gw_cfg.json or no memory")
    | some false =>
        pure (502, some "Invalid gw_cfg.json: 'use_remote_cfg' is missing or 'false'")
    | some true => pure (200, none)

/-! ## What they do to the counters -/

/-- A handler has not taken back more than it has added. -/
def NonNeg (n : Net) : Prop := 0 ≤ n.http ∧ 0 ≤ n.mqtt

/-- The contribution while a call holds relaying suspended. -/
def held (kind : Kind) (n : Net) : Net :=
  ⟨n.http + 1, if kind.mqtt then n.mqtt + 1 else n.mqtt⟩

theorem NonNeg.held {n : Net} (h : NonNeg n) (kind : Kind) : NonNeg (held kind n) := by
  obtain ⟨hhttp, hmqtt⟩ := h
  cases kind <;> simp only [NonNeg, Relaying.held, Kind.mqtt, if_true] <;> constructor <;> omega

theorem resume_held {n : Net} (h : NonNeg n) (kind : Kind) (others : GwStatus) :
    (held kind n).resume kind others = n := by
  obtain ⟨hhttp, hmqtt⟩ := h
  have hpos : 0 < (others.cntRelayingViaHttpSuspended : Int) + (held kind n).http := by
    simp only [held]
    omega
  rw [Net.resume_eq kind others _ hpos]
  cases kind with
  | relaying =>
    have hpos' : 0 < (others.cntRelayingViaMqttSuspended : Int) + (n.mqtt + 1) := by omega
    ext
    · simp [held]
    · simp [held, Kind.mqtt, hpos']
  | httpRelaying => ext <;> simp [held, Kind.mqtt]

theorem moves_suspend (kind : Kind) (others : GwStatus) :
    Moves NonNeg id (held kind) (suspendRelaying kind others) := by
  refine (Moves.update _).congr fun n _ => ?_
  exact Net.suspend_eq kind others n

theorem moves_resume (kind : Kind) (others : GwStatus) :
    Moves NonNeg (held kind) id (resumeRelaying kind others) :=
  (Moves.update _).congr fun _ hn => resume_held hn kind others

@[simp] theorem Net.add_zero (n : Net) : n.add .zero = n := by
  ext <;> simp [Net.add, Net.zero]

/-- A call with the small buffer gives back the counters, whatever the handler has added. -/
theorem restores_small {α : Type} (p : DownloadParam) (e : DownloadEnv)
    (k : HttpRespCode → α) :
    Restores NonNeg (fun n => do
      let (code, d) ← httpDownloadOrCheck p false (e.within n)
      .ok (k code, n.add d) : Handler α) := by
  intro n _ a n' hrun
  have hbal := balanced_small p (e.within n)
  cases hcall : httpDownloadOrCheck p false (e.within n) with
  | error b =>
    simp only [id, hcall] at hrun
    exact absurd hrun (by simp [bind, Except.bind])
  | ok r =>
    obtain ⟨code, d⟩ := r
    simp only [id, hcall] at hrun
    rw [hcall] at hbal
    have hd : d = .zero := hbal.net d rfl
    rw [hd] at hrun
    simp only [bind, Except.bind, Net.add_zero, Except.ok.injEq, Prod.mk.injEq] at hrun
    exact hrun.2.symm

theorem restores_httpCheck (p : DownloadParam) (e : DownloadEnv) :
    Restores NonNeg (callHttpCheck p e) := restores_small p e id

theorem restores_httpDownloadJson (p : DownloadParam) (e : JsonEnv) :
    Restores NonNeg (httpDownloadJson p e) :=
  restores_small p e.download fun resp => jsonInfo resp e

theorem restores_checkFile (url fileName : String) (e : FileEnv) :
    Restores NonNeg (httpServerFwUpdateCheckFile url fileName e) :=
  Moves.ite (fun _ => Restores.pure _) fun _ => restores_httpCheck _ _

theorem restores_checkFiles (url : String) (e : String → FileEnv) (files : List String) :
    Restores NonNeg (checkFiles url e files) := by
  induction files with
  | nil => exact Restores.pure _
  | cons fileName rest ih =>
    exact (restores_checkFile url fileName (e fileName)).bind fun code =>
      Moves.ite (fun _ => Restores.pure _) fun _ => ih

theorem restores_downloadGwCfgByUrl (remote : Remote) (url : String) (allocated : Bool)
    (e : JsonEnv) : Restores NonNeg (httpServerDownloadGwCfgByUrl remote url allocated e) :=
  Moves.ite (fun _ => Restores.pure _) fun _ => restores_httpDownloadJson _ _

theorem restores_downloadGwCfg (remote : Remote) (e : GwCfgDownloadEnv) :
    Restores NonNeg (httpServerDownloadGwCfg remote e) := by
  unfold httpServerDownloadGwCfg
  refine Moves.ite (fun _ => Restores.pure _) fun _ => Moves.ite (fun _ => ?_) fun _ => ?_
  · exact restores_downloadGwCfgByUrl _ _ _ _
  · refine (restores_downloadGwCfgByUrl _ _ _ _).bind fun info =>
      Moves.ite (fun _ => ?_) fun _ => ?_
    · exact restores_downloadGwCfgByUrl _ _ _ _
    · exact Restores.pure _

theorem restores_gwCfgDownloadAndParse (remote : Remote) (e : GwCfgDownloadEnv) :
    Restores NonNeg (httpServerGwCfgDownloadAndParse remote e) := by
  unfold httpServerGwCfgDownloadAndParse
  refine (restores_downloadGwCfg remote e).bind fun info => ?_
  refine Moves.ite (fun _ => Restores.pure _) fun _ => Moves.ite (fun _ => Restores.pure _) fun _ =>
    Moves.ite (fun _ => Restores.pure _) fun _ => ?_
  cases e.parsed with
  | none => exact Restores.pure _
  | some useRemoteCfg => cases useRemoteCfg <;> exact Restores.pure _

end Relaying
end RuuviGateway
