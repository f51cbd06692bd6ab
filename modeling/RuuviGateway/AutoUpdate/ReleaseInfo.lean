import RuuviGateway.Lib.CJson
import RuuviGateway.MainLoop.Model
import RuuviGateway.Relaying.Handlers

/-!
# The release that a gateway is updated to

The HTTP server downloads a JSON document with the latest release and, as a rule, a beta release,
chooses one of them by the cycle of automatic updates that is configured, and starts an update if
the version is another one than that of the firmware that is running.  An entry that is incomplete
does not count; without a complete entry `latest` nothing does.
-/

namespace RuuviGateway
namespace AutoUpdate

open CJson CString
open GwCfgJson (AutoUpdateCycle)
open Relaying (arrOfFileNames httpDownloadIsUrlValid)

/-- `fw_update_info_t`. -/
structure FwUpdateInfo where
  isValid : Bool
  isUpdateRequired : Bool
  flagUseBetaVersion : Bool
  url : Option (List Char)
  latestUrl : Option (List Char)
  betaUrl : Option (List Char)

/-- `json_wrap_get_string_val`. -/
def jsonWrapGetStringVal (j : Json) (attrName : String) : Option (List Char) :=
  (getObjectItem j attrName).bind getStringValue

/-- `http_download_is_url_valid`. -/
def isUrlValid (url : List Char) : Bool := httpDownloadIsUrlValid (String.ofList url)

/-- The condition for which `p_beta_url` is set to NULL. -/
def isBetaIncomplete (betaVersion betaUrl : Option (List Char)) : Bool :=
  match betaVersion, betaUrl with
  | some version, some url => version.isEmpty || url.isEmpty || !isUrlValid url
  | _, _ => true

/-- `parse_fw_update_info_json`. -/
def parseFwUpdateInfoJson (root : Json) (esp32FwVer : List Char) (cycle : AutoUpdateCycle) :
    FwUpdateInfo :=
  let info : FwUpdateInfo := ⟨false, false, false, none, none, none⟩
  match getObjectItem root "latest" with
  | none => info
  | some latest =>
      let info := { info with latestUrl := jsonWrapGetStringVal latest "url" }
      match jsonWrapGetStringVal latest "version", info.latestUrl with
      | none, _ => info
      | some _, none => info
      | some latestVersion, some latestUrl =>
          if latestVersion.isEmpty then info
          else if latestUrl.isEmpty then info
          else if !isUrlValid latestUrl then info
          else
            let info := { info with isValid := true }
            let beta := getObjectItem root "beta"
            let betaVersion := beta.bind fun j => jsonWrapGetStringVal j "version"
            let info := { info with betaUrl := beta.bind fun j => jsonWrapGetStringVal j "url" }
            let info :=
              if isBetaIncomplete betaVersion info.betaUrl then { info with betaUrl := none }
              else info
            match cycle with
            | .regular =>
                { info with
                  url := info.latestUrl
                  isUpdateRequired := decide (esp32FwVer ≠ latestVersion) }
            | .betaTester =>
                match info.betaUrl with
                | some betaUrl =>
                    { info with
                      url := some betaUrl
                      flagUseBetaVersion := true
                      isUpdateRequired := decide (some esp32FwVer ≠ betaVersion) }
                | none =>
                    { info with
                      url := info.latestUrl
                      isUpdateRequired := decide (esp32FwVer ≠ latestVersion) }
            | .manual => { info with url := info.latestUrl, isUpdateRequired := false }

/-- `http_server_check_fw_update_binary_files`, where `httpCheck` is the response to `http_check`
for a URL. -/
def checkFwUpdateBinaryFiles (httpCheck : List Char → Nat) (url : List Char) : List String → Nat
  | [] => 200
  | fileName :: rest =>
      let httpRespCode := httpCheck (url ++ '/' :: fileName.toList)
      if httpRespCode ≠ 200 then httpRespCode else checkFwUpdateBinaryFiles httpCheck url rest

/-- `FW_UPDATE_URL_MAX_LEN`. -/
def fwUpdateUrlMaxLen : Nat := 128

/-- What the handler of the request does: the signal it sends to the main task, the URL it stores
with `fw_update_set_binaries_url`, and whether it calls `fw_update_run`. -/
structure UserReq where
  sig : MainLoop.Sig
  binariesUrl : Option (List Char)
  run : Bool

/-- `http_server_cb_on_user_req_download_latest_release_info`: a download that fails is `none`, and
`some none` is a text that is not JSON. -/
def downloadLatestReleaseInfo (download : Option (Option Json)) (esp32FwVer : List Char)
    (cycle : AutoUpdateCycle) (httpCheck : List Char → Nat) : UserReq :=
  match download with
  | none => ⟨.scheduleRetryCheckForFwUpdates, none, false⟩
  | some none => ⟨.scheduleNextCheckForFwUpdates, none, false⟩
  | some (some root) =>
      let info := parseFwUpdateInfoJson root esp32FwVer cycle
      match info.isValid && info.isUpdateRequired, info.url with
      | true, some url =>
          { sig := .scheduleNextCheckForFwUpdates
            binariesUrl := some (snprintf (fwUpdateUrlMaxLen + 1) url).chars
            run := checkFwUpdateBinaryFiles httpCheck url arrOfFileNames == 200 }
      | _, _ => ⟨.scheduleNextCheckForFwUpdates, none, false⟩

/-! ## The release that is chosen -/

/-- A release: its version and where its images are. -/
structure Release where
  version : List Char
  url : List Char

/-- An entry of the document that is complete. -/
def release (root : Json) (key : String) : Option Release := do
  let j ← getObjectItem root key
  let version ← jsonWrapGetStringVal j "version"
  let url ← jsonWrapGetStringVal j "url"
  if version.isEmpty || url.isEmpty || !isUrlValid url then none else some ⟨version, url⟩

/-- The release that the document names for the cycle. -/
def target (root : Json) (cycle : AutoUpdateCycle) : Option Release :=
  (release root "latest").map fun latest =>
    if cycle = .betaTester then (release root "beta").getD latest else latest

theorem release_eq_some {root : Json} {key : String} {r : Release} :
    release root key = some r ↔ ∃ j, getObjectItem root key = some j ∧
      jsonWrapGetStringVal j "version" = some r.version ∧
      jsonWrapGetStringVal j "url" = some r.url ∧
      (r.version.isEmpty || r.url.isEmpty || !isUrlValid r.url) = false := by
  unfold release
  constructor
  · intro h
    obtain ⟨j, hj, h⟩ := Option.bind_eq_some_iff.mp h
    obtain ⟨version, hversion, h⟩ := Option.bind_eq_some_iff.mp h
    obtain ⟨url, hurl, h⟩ := Option.bind_eq_some_iff.mp h
    obtain ⟨hok, h⟩ := Option.ite_none_left_eq_some.mp h
    obtain rfl := Option.some.inj h
    exact ⟨j, hj, hversion, hurl, Bool.eq_false_iff.mpr hok⟩
  · rintro ⟨j, hj, hversion, hurl, hok⟩
    simp only [hj, hversion, hurl, hok, Option.bind_eq_bind, Option.bind_some, Bool.false_eq_true,
      if_false]

/-- The test of the beta entry. -/
theorem beta_eq (root : Json) :
    let beta := getObjectItem root "beta"
    let version := beta.bind fun j => jsonWrapGetStringVal j "version"
    let url := beta.bind fun j => jsonWrapGetStringVal j "url"
    (isBetaIncomplete version url = true ∧ release root "beta" = none) ∨
      ∃ r : Release, version = some r.version ∧ url = some r.url ∧
        isBetaIncomplete version url = false ∧ release root "beta" = some r := by
  intro beta version url
  cases hr : release root "beta" with
  | some r =>
    obtain ⟨j, hj, hversion, hurl, hok⟩ := release_eq_some.mp hr
    have hv : version = some r.version := by
      simp only [version, beta, hj, Option.bind_some, hversion]
    have hu : url = some r.url := by simp only [url, beta, hj, Option.bind_some, hurl]
    exact .inr ⟨r, hv, hu, by rw [hv, hu]; exact hok, rfl⟩
  | none =>
    refine .inl ⟨?_, rfl⟩
    cases hv : version with
    | none => rfl
    | some v =>
      cases hu : url with
      | none => rfl
      | some u =>
        obtain ⟨j, hj, hversion⟩ := Option.bind_eq_some_iff.mp hv
        have hurl : jsonWrapGetStringVal j "url" = some u := by
          simpa only [url, beta, hj, Option.bind_some] using hu
        by_contra hok
        have := release_eq_some (r := ⟨v, u⟩).mpr ⟨j, hj, hversion, hurl, Bool.eq_false_iff.mpr hok⟩
        exact absurd (hr.symm.trans this) (by simp)

/-- Without a complete entry `latest` there is nothing to update to. -/
theorem parse_of_no_latest {root : Json} (h : release root "latest" = none)
    (esp32FwVer : List Char) (cycle : AutoUpdateCycle) :
    let info := parseFwUpdateInfoJson root esp32FwVer cycle
    info.isValid = false ∧ info.url = none ∧ info.isUpdateRequired = false := by
  unfold parseFwUpdateInfoJson
  cases hj : getObjectItem root "latest" with
  | none => exact ⟨rfl, rfl, rfl⟩
  | some j =>
    cases hversion : jsonWrapGetStringVal j "version" with
    | none => simp [hversion]
    | some version =>
      cases hurl : jsonWrapGetStringVal j "url" with
      | none => simp [hversion, hurl]
      | some url =>
        have hbad : (version.isEmpty || url.isEmpty || !isUrlValid url) = true := by
          by_contra hok
          have := release_eq_some (r := ⟨version, url⟩).mpr
            ⟨j, hj, hversion, hurl, Bool.eq_false_iff.mpr hok⟩
          exact absurd (h.symm.trans this) (by simp)
        simp only [Bool.or_eq_true] at hbad
        obtain (hv | hu) | hu := hbad
        · simp [hversion, hurl, hv]
        · by_cases hv : version.isEmpty = true
          · simp [hversion, hurl, hv]
          · simp [hversion, hurl, hv, hu]
        · by_cases hv : version.isEmpty = true
          · simp [hversion, hurl, hv]
          · by_cases hu' : url.isEmpty = true
            · simp [hversion, hurl, hv, hu']
            · simp [hversion, hurl, hv, hu', hu]

/-- **What the parser finds** is the release that the document names for the cycle. -/
theorem parse_eq (root : Json) (esp32FwVer : List Char) (cycle : AutoUpdateCycle) :
    let info := parseFwUpdateInfoJson root esp32FwVer cycle
    info.isValid = (target root cycle).isSome ∧ info.url = (target root cycle).map Release.url ∧
      info.isUpdateRequired =
        (target root cycle).any fun r => decide (cycle ≠ .manual ∧ esp32FwVer ≠ r.version) := by
  cases hlatest : release root "latest" with
  | none =>
    rw [target, hlatest]
    exact parse_of_no_latest hlatest esp32FwVer cycle
  | some latest =>
    obtain ⟨j, hj, hversion, hurl, hok⟩ := release_eq_some.mp hlatest
    simp only [Bool.or_eq_false_iff, Bool.not_eq_false'] at hok
    obtain ⟨⟨hv, hu⟩, hvalid⟩ := hok
    rw [target, hlatest]
    unfold parseFwUpdateInfoJson
    simp only [hj, hversion, hurl, hv, hu, hvalid, Bool.false_eq_true, if_false, Bool.not_true]
    obtain ⟨hbeta, hnone⟩ | ⟨r, hbv, hbu, hbeta, hr⟩ := beta_eq root
    · rw [if_pos hbeta, hnone]
      cases cycle <;> simp
    · rw [hbu, hbv] at hbeta ⊢
      rw [if_neg (by rw [hbeta]; exact Bool.false_ne_true), hr]
      cases cycle <;> simp

/-! ## An update -/

theorem checkFwUpdateBinaryFiles_eq_200 {httpCheck : List Char → Nat} {url : List Char}
    {files : List String} : checkFwUpdateBinaryFiles httpCheck url files = 200 ↔
      ∀ fileName ∈ files, httpCheck (url ++ '/' :: fileName.toList) = 200 := by
  induction files with
  | nil => simp [checkFwUpdateBinaryFiles]
  | cons fileName rest ih =>
    rw [checkFwUpdateBinaryFiles, List.forall_mem_cons, ← ih]
    by_cases hcode : httpCheck (url ++ '/' :: fileName.toList) = 200 <;> simp [hcode]

/-- The release that an update is needed to. -/
def wanted (root : Json) (esp32FwVer : List Char) (cycle : AutoUpdateCycle) : Option Release :=
  (target root cycle).filter fun r => decide (cycle ≠ .manual ∧ esp32FwVer ≠ r.version)

theorem wanted_eq_some {root : Json} {esp32FwVer : List Char} {cycle : AutoUpdateCycle}
    {r : Release} : wanted root esp32FwVer cycle = some r ↔
      target root cycle = some r ∧ cycle ≠ .manual ∧ esp32FwVer ≠ r.version := by
  rw [wanted, Option.filter_eq_some_iff, decide_eq_true_iff]

/-- The handler, by the release that an update is needed to. -/
theorem downloadLatestReleaseInfo_eq (root : Json) (esp32FwVer : List Char)
    (cycle : AutoUpdateCycle) (httpCheck : List Char → Nat) :
    downloadLatestReleaseInfo (some (some root)) esp32FwVer cycle httpCheck =
      match wanted root esp32FwVer cycle with
      | some r =>
          { sig := .scheduleNextCheckForFwUpdates
            binariesUrl := some (snprintf (fwUpdateUrlMaxLen + 1) r.url).chars
            run := checkFwUpdateBinaryFiles httpCheck r.url arrOfFileNames == 200 }
      | none => ⟨.scheduleNextCheckForFwUpdates, none, false⟩ := by
  obtain ⟨hvalid, hurl, hrequired⟩ := parse_eq root esp32FwVer cycle
  unfold downloadLatestReleaseInfo wanted
  simp only [hvalid, hurl, hrequired]
  cases target root cycle with
  | none => rfl
  | some r =>
    by_cases hneeded : cycle ≠ .manual ∧ esp32FwVer ≠ r.version
    · have hdec := decide_eq_true hneeded
      simp only [Option.filter_some, Option.any_some, Option.isSome_some, hdec, Bool.and_self,
        Option.map_some, if_true]
    · have hdec := decide_eq_false hneeded
      simp only [Option.filter_some, Option.any_some, Option.isSome_some, hdec, Bool.and_false,
        Bool.false_eq_true, if_false]

/-- **An update is started** exactly for another version than the one that runs, if all files of
the release that the document names for the cycle can be downloaded.  The URL that is stored is
that of the release, as far as it fits. -/
theorem run_iff {download : Option (Option Json)} {esp32FwVer : List Char}
    {cycle : AutoUpdateCycle} {httpCheck : List Char → Nat} {binariesUrl : Option (List Char)} :
    (∃ sig, downloadLatestReleaseInfo download esp32FwVer cycle httpCheck =
      ⟨sig, binariesUrl, true⟩) ↔
      ∃ root r, download = some (some root) ∧ target root cycle = some r ∧
        cycle ≠ .manual ∧ esp32FwVer ≠ r.version ∧
        binariesUrl = some (snprintf (fwUpdateUrlMaxLen + 1) r.url).chars ∧
        ∀ fileName ∈ arrOfFileNames, httpCheck (r.url ++ '/' :: fileName.toList) = 200 := by
  constructor
  · rintro ⟨sig, h⟩
    cases download with
    | none => simp [downloadLatestReleaseInfo] at h
    | some text =>
      cases text with
      | none => simp [downloadLatestReleaseInfo] at h
      | some root =>
        rw [downloadLatestReleaseInfo_eq] at h
        cases hr : wanted root esp32FwVer cycle with
        | none => simp [hr] at h
        | some r =>
          rw [hr] at h
          obtain ⟨htarget, hcycle, hver⟩ := wanted_eq_some.mp hr
          simp only [UserReq.mk.injEq, beq_iff_eq] at h
          exact ⟨root, r, rfl, htarget, hcycle, hver, h.2.1.symm,
            checkFwUpdateBinaryFiles_eq_200.mp h.2.2⟩
  · rintro ⟨root, r, rfl, htarget, hcycle, hver, rfl, hfiles⟩
    refine ⟨.scheduleNextCheckForFwUpdates, ?_⟩
    rw [downloadLatestReleaseInfo_eq, wanted_eq_some.mpr ⟨htarget, hcycle, hver⟩]
    simp [checkFwUpdateBinaryFiles_eq_200.mpr hfiles]

/-! ## A check -/

/-- A check for releases. -/
structure Check where
  download : Option (Option Json)
  cycle : AutoUpdateCycle
  httpCheck : List Char → Nat

/-- The version that is named in a check. -/
def Check.names (c : Check) : Option (List Char) :=
  (c.download.bind id).bind fun root => (target root c.cycle).map Release.version

/-- A check by a firmware with this version starts an update. -/
def Check.starts (c : Check) (esp32FwVer : List Char) : Bool :=
  (downloadLatestReleaseInfo c.download esp32FwVer c.cycle c.httpCheck).run

/-- An update is to another version than the one that runs. -/
theorem ne_of_starts {c : Check} {esp32FwVer version : List Char} (hnames : c.names = some version)
    (hrun : c.starts esp32FwVer = true) : esp32FwVer ≠ version := by
  obtain ⟨root, hroot, hversion⟩ := Option.bind_eq_some_iff.mp hnames
  obtain ⟨text, hdownload, htext⟩ := Option.bind_eq_some_iff.mp hroot
  obtain ⟨r, htarget, rfl⟩ := Option.map_eq_some_iff.mp hversion
  obtain rfl : text = some root := htext
  rw [Check.starts, hdownload, downloadLatestReleaseInfo_eq] at hrun
  cases hr : wanted root esp32FwVer c.cycle with
  | none => simp [hr] at hrun
  | some r' =>
    obtain ⟨htarget', -, hver⟩ := wanted_eq_some.mp hr
    obtain rfl := Option.some.inj (htarget'.symm.trans htarget)
    exact hver

end AutoUpdate
end RuuviGateway
