import RuuviGateway.Relaying.ValidateUrl

/-!
# Requests that suspend relaying

The handlers of `POST /fw_update.json` and `GET /validate_url`, and the download of the remote
configuration.  Each suspends relaying and resumes it before it returns, except that an update
that has been started goes on without relaying.
-/

namespace RuuviGateway
namespace Relaying

open CJson CString GwCfgJson Program

/-! ## Starting an update -/

/-- `fw_updating_reason_e`, as far as a request sets it. -/
inductive FwUpdatingReason where
  | manualViaLan
  | manualViaHotspot
  deriving DecidableEq, Repr

/-- What the handler of `POST /fw_update.json` finds and how its steps end. -/
structure FwUpdateEnv where
  /-- The byte in front of `g_fw_update_cfg.binaries_url`. -/
  byteBefore : Char
  suspend : GwStatus
  files : String → FileEnv
  resume : GwStatus
  /-- `os_task_create_finite_without_param` in `fw_update_run`. -/
  taskCreated : Bool

/-- How a request has been answered, and the update that runs from then on. -/
structure Handled where
  resp : Response
  updateStarted : Option FwUpdatingReason

/-- `json_fw_update_parse`: the URL, without a `/` at its end.  The last character of an empty
URL is looked for at the index -1, and what is cleared there is not in the URL. -/
def jsonFwUpdateParse (byteBefore : Char) (j : Json) : Option String :=
  (jsonWrapCopyStringVal j "url" 129).map fun url => String.ofList <|
    if url.chars.getLast?.getD byteBefore = '/' then url.chars.dropLast else url.chars

/-- So the URL does not depend on the byte in front of it. -/
theorem jsonFwUpdateParse_eq (byteBefore : Char) (j : Json) :
    jsonFwUpdateParse byteBefore j =
      (jsonWrapCopyStringVal j "url" 129).map fun url => baseUrl url.chars := by
  unfold jsonFwUpdateParse baseUrl
  refine congrArg (Option.map · _) (funext fun url => congrArg String.ofList ?_)
  cases hlast : url.chars.getLast? with
  | none =>
    rw [List.getLast?_eq_none_iff.mp hlast]
    simp
  | some c => simp

/-- `fw_update_run`: the update that has been started. -/
def fwUpdateRun (reason : FwUpdatingReason) (taskCreated : Bool) : Option FwUpdatingReason :=
  if !taskCreated then none else some reason

/-- `http_server_cb_on_post_fw_update`; `body` is `none` if it is not JSON. -/
def httpServerCbOnPostFwUpdate (body : Option Json) (flagAccessFromLan : Bool)
    (e : FwUpdateEnv) : Handler Handled :=
  match body.bind (jsonFwUpdateParse e.byteBefore) with
  | none => pure ⟨.gen 400 "Failed to parse HTTP body", none⟩
  | some url =>
      if !httpDownloadIsUrlValid url then pure ⟨.gen 400 "Bad URL", none⟩
      else do
        suspendRelaying .relaying e.suspend
        let (code, errFileName) ← httpServerCheckFwUpdateBinaryFiles url e.files
        if code ≠ 200 then
          resumeRelaying .relaying e.resume
          pure ⟨.gen code ("Failed to download " ++ errFileName.getD "(null)"), none⟩
        else
          let reason :=
            if flagAccessFromLan then FwUpdatingReason.manualViaLan else .manualViaHotspot
          match fwUpdateRun reason e.taskCreated with
          | none =>
              pure ⟨.gen 503 "Failed to start firmware updating - internal error", none⟩
          | some reason => pure ⟨.gen 200 "OK", some reason⟩

/-! ## Updating the configuration -/

/-- `gw_cfg_update_status_t`. -/
structure GwCfgUpdateStatus where
  flagRuuviCfgModified : Bool
  flagEthCfgModified : Bool
  flagWifiApCfgModified : Bool
  flagWifiStaCfgModified : Bool

/-- What a change of the configuration makes necessary. -/
inductive AfterUpdate where
  | nothing
  | restartServices
  | reboot
  deriving DecidableEq, Repr

/-- What `http_server_gw_cfg_download_and_update` finds and how its steps end. -/
structure GwCfgUpdateEnv where
  /-- `gw_cfg_get_remote_cfg_copy`. -/
  remoteCfg : Option Remote
  suspend : GwStatus
  gwCfg : GwCfgDownloadEnv
  /-- `gw_cfg_update`. -/
  updateStatus : GwCfgUpdateStatus
  resume : GwStatus

/-- What `http_server_gw_cfg_download_and_update` does with the status of the update. -/
def afterUpdate (u : GwCfgUpdateStatus) : AfterUpdate :=
  if u.flagEthCfgModified || u.flagWifiApCfgModified || u.flagWifiStaCfgModified then .reboot
  else if u.flagRuuviCfgModified then .restartServices
  else .nothing

/-- `http_server_gw_cfg_download_and_update`. -/
def httpServerGwCfgDownloadAndUpdate (e : GwCfgUpdateEnv) :
    Handler (HttpRespCode × AfterUpdate) :=
  match e.remoteCfg with
  | none => pure (502, .nothing)
  | some remote => do
      suspendRelaying .httpRelaying e.suspend
      let (code, _) ← httpServerGwCfgDownloadAndParse remote e.gwCfg
      if code ≠ 200 then
        resumeRelaying .httpRelaying e.resume
        pure (code, .nothing)
      else
        resumeRelaying .httpRelaying e.resume
        pure (200, afterUpdate e.updateStatus)

/-! ## Requests -/

/-- A request, and all that its handler finds. -/
inductive Request where
  | postFwUpdate (body : Option Json) (flagAccessFromLan : Bool) (e : FwUpdateEnv)
  | validateUrl (params : Option (List Char)) (e : ValidateUrlEnv)
  | gwCfgDownloadAndUpdate (e : GwCfgUpdateEnv)

/-- The handler of a request. -/
def Request.handle : Request → Handler Handled
  | .postFwUpdate body flagAccessFromLan e => httpServerCbOnPostFwUpdate body flagAccessFromLan e
  | .validateUrl params e => do
      let resp ← Relaying.validateUrl params e
      pure ⟨resp, none⟩
  | .gwCfgDownloadAndUpdate e => do
      let (code, _) ← httpServerGwCfgDownloadAndUpdate e
      pure ⟨.fixed code, none⟩

/-- If the handler returns and no update has been started, it has added nothing to the
counters. -/
def Request.Resumes (r : Request) : Prop :=
  ∀ h n, r.handle .zero = .ok (h, n) → h.updateStarted = none → n = .zero

/-- The check of a file of an update succeeds. -/
def fileFound (fwBinariesUrl fileName : String) (e : FileEnv) : Bool :=
  e.urlAllocated &&
    (downloadChecks (fwFileParam fwBinariesUrl fileName) e.download.request).isNone &&
    e.download.request.tlsBufFree && e.download.request.asyncSemaFree &&
    httpDownloadOrCheckStage2 (fwFileParam fwBinariesUrl fileName) e.download.request == 200

/-- All is ready for the update, but its task cannot be created. -/
def Request.StartFails : Request → Prop
  | .postFwUpdate body _ e =>
      e.taskCreated = false ∧ ∃ url, body.bind (jsonFwUpdateParse e.byteBefore) = some url ∧
        httpDownloadIsUrlValid url = true ∧
        ∀ fileName ∈ arrOfFileNames, fileFound url fileName (e.files fileName) = true
  | .validateUrl .. => False
  | .gwCfgDownloadAndUpdate _ => False

/-! ## The files of an update -/

theorem downloadChecks_ne_200 {p : DownloadParam} {e : RequestEnv} {code : HttpRespCode}
    (h : downloadChecks p e = some code) : code ≠ 200 := by
  unfold downloadChecks at h
  split at h
  · cases h
    decide
  · split at h
    · cases h
      decide
    · split at h
      · cases h
        decide
      · split at h
        · cases h
          decide
        · cases h

/-- A check that gets to the request. -/
theorem callHttpCheck_of_none {p : DownloadParam} {e : DownloadEnv} (n : Net)
    (h : downloadChecks p e.request = none) :
    callHttpCheck p e n =
      if !e.request.tlsBufFree then .error .tlsSharedBuf
      else if !e.request.asyncSemaFree then .error .asyncSema
      else .ok (httpDownloadOrCheckStage2 p e.request, n) := by
  have hcall : httpCheck p (e.within n) = _ :=
    httpDownloadOrCheck_of_none (e := e.within n) false h
  simp only [Bool.false_and, Bool.false_eq_true, if_false, finalNet_false] at hcall
  simp only [callHttpCheck, hcall, DownloadEnv.within_request]
  by_cases hbuf : e.request.tlsBufFree = true
  · by_cases hsema : e.request.asyncSemaFree = true
    · simp [hbuf, hsema, bind, Except.bind]
    · simp [hbuf, hsema, bind, Except.bind]
  · simp [hbuf, bind, Except.bind]

/-- A file is found exactly if the response is 200. -/
theorem checkFile_cases (url fileName : String) (e : FileEnv) (n : Net) :
    (fileFound url fileName e = true ∧
        httpServerFwUpdateCheckFile url fileName e n = .ok (200, n)) ∨
      (fileFound url fileName e = false ∧ ∀ code n',
        httpServerFwUpdateCheckFile url fileName e n = .ok (code, n') → code ≠ 200) := by
  unfold fileFound httpServerFwUpdateCheckFile
  cases e.urlAllocated with
  | false =>
    refine .inr ⟨by simp, fun code n' hrun => ?_⟩
    have hcode : (500 : HttpRespCode) = code := by
      injection hrun with hrun
      exact congrArg Prod.fst hrun
    rw [← hcode]
    decide
  | true =>
    cases hchecks : downloadChecks (fwFileParam url fileName) e.download.request with
    | some code =>
      refine .inr ⟨by simp, fun code' n' hrun => ?_⟩
      have hcall : httpCheck (fwFileParam url fileName) (e.download.within n) = .ok (code, .zero) :=
        httpDownloadOrCheck_of_some (e := e.download.within n) false hchecks
      have hrun' : callHttpCheck (fwFileParam url fileName) e.download n = .ok (code', n') := hrun
      simp only [callHttpCheck, hcall] at hrun'
      have hcode : code = code' := by
        injection hrun' with hrun'
        exact congrArg Prod.fst hrun'
      rw [← hcode]
      exact downloadChecks_ne_200 hchecks
    | none =>
      have hrun := callHttpCheck_of_none (p := fwFileParam url fileName) n hchecks
      simp only [Bool.not_true, Bool.false_eq_true, if_false, hrun]
      cases e.download.request.tlsBufFree with
      | false => exact .inr ⟨by simp, fun _ _ h => absurd h (by simp)⟩
      | true =>
        cases e.download.request.asyncSemaFree with
        | false => exact .inr ⟨by simp, fun _ _ h => absurd h (by simp)⟩
        | true =>
          by_cases hcode :
              httpDownloadOrCheckStage2 (fwFileParam url fileName) e.download.request = 200
          · exact .inl ⟨by simp [hcode], by simp [hcode]⟩
          · refine .inr ⟨by simpa using hcode, fun code n' h => ?_⟩
            simp only [Bool.not_true, Bool.false_eq_true, if_false, Except.ok.injEq,
              Prod.mk.injEq] at h
            rw [← h.1]
            exact hcode

/-- The response is 200 exactly if all files are found. -/
theorem checkFiles_cases (url : String) (e : String → FileEnv) (files : List String) (n : Net) :
    ((∀ fileName ∈ files, fileFound url fileName (e fileName) = true) ∧
        checkFiles url e files n = .ok ((200, none), n)) ∨
      ((∃ fileName ∈ files, fileFound url fileName (e fileName) = false) ∧ ∀ r n',
        checkFiles url e files n = .ok (r, n') → r.1 ≠ 200) := by
  induction files with
  | nil => exact .inl ⟨by simp, rfl⟩
  | cons fileName rest ih =>
    rcases checkFile_cases url fileName (e fileName) n with ⟨hfound, hrun⟩ | ⟨hnot, hrun⟩
    · have hstep : checkFiles url e (fileName :: rest) n = checkFiles url e rest n :=
        run_bind_of_ok hrun
      rw [hstep]
      rcases ih with ⟨hall, hok⟩ | ⟨⟨other, hmem, hother⟩, hne⟩
      · refine .inl ⟨fun f hf => ?_, hok⟩
        rcases List.mem_cons.mp hf with rfl | hf
        · exact hfound
        · exact hall f hf
      · exact .inr ⟨⟨other, List.mem_cons_of_mem _ hmem, hother⟩, hne⟩
    · refine .inr ⟨⟨fileName, List.mem_cons_self, hnot⟩, fun r n' h => ?_⟩
      obtain ⟨code, t, hfile, hrest⟩ := run_bind h
      have hcode : code ≠ 200 := hrun code t hfile
      rw [if_pos hcode] at hrest
      have hr : (code, some fileName) = r := by
        injection hrest with hrest
        exact congrArg Prod.fst hrest
      rw [← hr]
      exact hcode

/-! ## The balance of a request -/

theorem restores_gwCfgDownloadAndUpdate (e : GwCfgUpdateEnv) :
    Restores NonNeg (httpServerGwCfgDownloadAndUpdate e) := by
  unfold httpServerGwCfgDownloadAndUpdate
  cases e.remoteCfg with
  | none => exact Restores.pure _
  | some remote =>
    refine Moves.bind (moves_suspend _ _) fun _ => ?_
    refine Moves.bind ((restores_gwCfgDownloadAndParse _ _).at fun _ h => h.held _) fun r => ?_
    refine Moves.ite (fun _ => ?_) fun _ => ?_
    · exact Moves.bind (moves_resume _ _) fun _ => Moves.pure _
    · exact Moves.bind (moves_resume _ _) fun _ => Moves.pure _

theorem suspendRelaying_zero (others : GwStatus) :
    suspendRelaying .relaying others .zero = .ok (PUnit.unit, held .relaying .zero) := by
  show Except.ok (PUnit.unit, Net.zero.suspend .relaying others) = _
  rw [Net.suspend_eq]
  rfl

theorem nonNeg_zero : NonNeg .zero := ⟨Int.le_refl 0, Int.le_refl 0⟩

/-- With the files that there are, the update is started, or the handler returns with relaying
suspended. -/
theorem postFwUpdate_of_found {body : Option Json} {url : String} (flagAccessFromLan : Bool)
    {e : FwUpdateEnv} (hbody : body.bind (jsonFwUpdateParse e.byteBefore) = some url)
    (hvalid : httpDownloadIsUrlValid url = true)
    (hfound : ∀ fileName ∈ arrOfFileNames, fileFound url fileName (e.files fileName) = true) :
    ∃ h, httpServerCbOnPostFwUpdate body flagAccessFromLan e .zero =
        .ok (h, held .relaying .zero) ∧ (h.updateStarted = none ↔ e.taskCreated = false) := by
  have hfiles : httpServerCheckFwUpdateBinaryFiles url e.files (held .relaying .zero) =
      .ok ((200, none), held .relaying .zero) := by
    rcases checkFiles_cases url e.files arrOfFileNames (held .relaying .zero) with h | h
    · exact h.2
    · obtain ⟨⟨fileName, hmem, hnot⟩, -⟩ := h
      rw [hfound fileName hmem] at hnot
      exact absurd hnot (by simp)
  have hsuspend := suspendRelaying_zero e.suspend
  unfold httpServerCbOnPostFwUpdate
  simp only [hbody, hvalid, Bool.not_true, Bool.false_eq_true, if_false]
  cases hcreated : e.taskCreated with
  | false =>
    refine ⟨⟨.gen 503 "Failed to start firmware updating - internal error", none⟩, ?_, by simp⟩
    simp only [bind, StateT.bind, hsuspend, hfiles, Except.bind, fwUpdateRun]
    rfl
  | true =>
    refine ⟨⟨.gen 200 "OK", some (if flagAccessFromLan then .manualViaLan else
      .manualViaHotspot)⟩, ?_, by simp⟩
    simp only [bind, StateT.bind, hsuspend, hfiles, Except.bind, fwUpdateRun]
    rfl

/-- Without one of the files the handler gives back the counters. -/
theorem postFwUpdate_of_missing {body : Option Json} {url : String} (flagAccessFromLan : Bool)
    {e : FwUpdateEnv} (hbody : body.bind (jsonFwUpdateParse e.byteBefore) = some url)
    (hmissing : ∃ fileName ∈ arrOfFileNames, fileFound url fileName (e.files fileName) = false)
    {h : Handled} {n : Net}
    (hrun : httpServerCbOnPostFwUpdate body flagAccessFromLan e .zero = .ok (h, n)) :
    n = .zero := by
  unfold httpServerCbOnPostFwUpdate at hrun
  simp only [hbody] at hrun
  by_cases hvalid : httpDownloadIsUrlValid url = true
  · have hsuspend := suspendRelaying_zero e.suspend
    simp only [hvalid, Bool.not_true, Bool.false_eq_true, if_false, bind, StateT.bind, hsuspend,
      Except.bind] at hrun
    cases hfiles : httpServerCheckFwUpdateBinaryFiles url e.files (held .relaying .zero) with
    | error b =>
      rw [hfiles] at hrun
      exact absurd hrun (by simp)
    | ok p =>
      obtain ⟨⟨code, errFileName⟩, t⟩ := p
      have hcode : code ≠ 200 := by
        rcases checkFiles_cases url e.files arrOfFileNames (held .relaying .zero) with h | h
        · obtain ⟨fileName, hmem, hnot⟩ := hmissing
          rw [h.1 fileName hmem] at hnot
          exact absurd hnot (by simp)
        · exact h.2 _ _ hfiles
      have ht : t = held .relaying .zero :=
        restores_checkFiles _ _ _ _ (nonNeg_zero.held _) _ _ hfiles
      simp only [hfiles, if_pos hcode, ht] at hrun
      have hend := Moves.bind (moves_resume .relaying e.resume) (fun _ => Moves.pure _)
        .zero nonNeg_zero h n hrun
      exact hend
  · simp only [hvalid, Bool.not_false, if_true] at hrun
    have hend := Restores.pure _ .zero nonNeg_zero h n hrun
    exact hend

theorem postFwUpdate_resumes_iff (body : Option Json) (flagAccessFromLan : Bool)
    (e : FwUpdateEnv) :
    (Request.postFwUpdate body flagAccessFromLan e).Resumes ↔
      ¬(Request.postFwUpdate body flagAccessFromLan e).StartFails := by
  constructor
  · rintro hresumes ⟨hcreated, url, hbody, hvalid, hfound⟩
    obtain ⟨h, hrun, hstarted⟩ := postFwUpdate_of_found flagAccessFromLan hbody hvalid hfound
    have hzero := hresumes h _ hrun (hstarted.mpr hcreated)
    exact absurd hzero (by decide)
  · intro hnot h n hrun hstarted
    have hrun' : httpServerCbOnPostFwUpdate body flagAccessFromLan e .zero = .ok (h, n) := hrun
    cases hbody : body.bind (jsonFwUpdateParse e.byteBefore) with
    | none =>
      simp only [httpServerCbOnPostFwUpdate, hbody] at hrun'
      exact Restores.pure _ .zero nonNeg_zero h n hrun'
    | some url =>
      by_cases hfound : ∀ fileName ∈ arrOfFileNames,
          fileFound url fileName (e.files fileName) = true
      · cases hvalid : httpDownloadIsUrlValid url with
        | false =>
          simp only [httpServerCbOnPostFwUpdate, hbody, hvalid, Bool.not_false, if_true] at hrun'
          exact Restores.pure _ .zero nonNeg_zero h n hrun'
        | true =>
          exfalso
          obtain ⟨h', hrun'', hiff⟩ :=
            postFwUpdate_of_found flagAccessFromLan hbody hvalid hfound
          have heq : h' = h := by
            rw [hrun''] at hrun'
            injection hrun' with hrun'
            exact congrArg Prod.fst hrun'
          refine hnot ⟨?_, url, hbody, hvalid, hfound⟩
          exact hiff.mp (by rw [heq, hstarted])
      · push Not at hfound
        obtain ⟨fileName, hmem, hmissing⟩ := hfound
        exact postFwUpdate_of_missing flagAccessFromLan hbody
          ⟨fileName, hmem, by simpa using hmissing⟩ hrun'

/-- A request gives back the counters, unless it is for an update whose task cannot be
created. -/
theorem request_resumes_iff (r : Request) : r.Resumes ↔ ¬r.StartFails := by
  cases r with
  | postFwUpdate body flagAccessFromLan e =>
    exact postFwUpdate_resumes_iff body flagAccessFromLan e
  | validateUrl params e =>
    refine ⟨fun _ => not_false, fun _ h n hrun _ => ?_⟩
    exact Restores.bind (restores_validateUrl params e) (fun _ => Restores.pure _)
      .zero nonNeg_zero h n hrun
  | gwCfgDownloadAndUpdate e =>
    refine ⟨fun _ => not_false, fun _ h n hrun _ => ?_⟩
    exact Restores.bind (restores_gwCfgDownloadAndUpdate e) (fun _ => Restores.pure _)
      .zero nonNeg_zero h n hrun

/-- A request for an update, for whose task there is no memory. -/
def updateWithoutTask : Request :=
  .postFwUpdate (some (.object [("url", .string "https://fwupdate.ruuvi.com/v1.16.0".toList)]))
    true
    { byteBefore := nul
      suspend := noneSuspended
      files := fun _ => ⟨true, transportChanges "TCP" "TCP"⟩
      resume := noneSuspended
      taskCreated := false }

/-- The handler answers that the update has not been started, and relaying stays suspended. -/
theorem updateWithoutTask_stays_suspended :
    ∃ h, updateWithoutTask.handle .zero = .ok (h, ⟨1, 1⟩) ∧ h.updateStarted = none ∧
      ¬updateWithoutTask.Resumes := by
  refine ⟨⟨.gen 503 "Failed to start firmware updating - internal error", none⟩, rfl, rfl, ?_⟩
  intro hresumes
  have hzero := hresumes _ _ rfl rfl
  exact absurd hzero (by decide)

end Relaying
end RuuviGateway
