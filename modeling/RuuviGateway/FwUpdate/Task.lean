import RuuviGateway.FwUpdate.DownloadWhole

/-!
# The firmware update task

`fw_update_task` in `fw_update.c`: the three images are downloaded into the partitions
that are not in use, the nRF52 is updated, and then the boot partition is switched.  The
environment gives the outcome of each step; a download is a list of attempts as in
`Download`.  What the task does before (relaying is suspended, the hotspot is started)
is left out.

The boot partition is switched only if all steps report success.  Whether the images are
then complete depends on the downloads alone: `task_safe_iff`.
-/

namespace RuuviGateway
namespace FwUpdate

/-! ## The environment -/

/-- `ruuvi_flash_info_t`, as `fw_update_read_flash_info_internal` reads it: for the data
partitions it says which of the four were found. -/
structure FlashInfo where
  bootPartition : Option String
  nextUpdatePartition : Option String
  isOta0Active : Bool
  runningAppPubKeyDigest : List UInt8
  gwuiFound : Bool
  gwui2Found : Bool
  nrf52Found : Bool
  nrf522Found : Bool

/-- `p_next_fatfs_gwui_partition`. -/
def FlashInfo.nextFatfsGwuiPartition (f : FlashInfo) : Option String :=
  if f.isOta0Active then
    if f.gwui2Found then some "fatfs_gwui_2" else none
  else if f.gwuiFound then some "fatfs_gwui" else none

/-- `p_next_fatfs_nrf52_partition`. -/
def FlashInfo.nextFatfsNrf52Partition (f : FlashInfo) : Option String :=
  if f.isOta0Active then
    if f.nrf522Found then some "fatfs_nrf52_2" else none
  else if f.nrf52Found then some "fatfs_nrf52" else none

/-- `fw_update_get_inactive_fatfs_nrf52_partition_name`. -/
def FlashInfo.inactiveFatfsNrf52PartitionName (f : FlashInfo) : String :=
  if !f.isOta0Active then "fatfs_nrf52" else "fatfs_nrf52_2"

/-- The result of `esp_ota_end_patched`. -/
inductive OtaEnd where
  /-- `ESP_OK` and the digest of the public key in the image. -/
  | ok (pubKeyDigest : List UInt8)
  /-- `ESP_ERR_OTA_VALIDATE_FAILED`. -/
  | validateFailed
  | otherError
  deriving DecidableEq

/-- Downloading one image. -/
structure ImageEnv where
  /-- Memory for the URL. -/
  urlAllocated : Bool
  /-- The partition is erased (for the OTA image in `esp_ota_begin_patched`). -/
  eraseOk : Bool
  attempts : List Attempt

/-- `fw_updating_reason_e`. -/
inductive FwUpdatingReason where
  | none
  | auto
  | manualViaHotspot
  | manualViaLan
  deriving DecidableEq

/-- The outcomes of the steps of one run of the task. -/
structure Env where
  flash : FlashInfo
  reason : FwUpdatingReason
  ota : ImageEnv
  /-- The verification of what is in the OTA partition. -/
  otaEnd : List UInt8 → OtaEnd
  gwui : ImageEnv
  nrf52 : ImageEnv
  /-- `nrf52fw_update_fw_if_necessary` with the firmware from this partition. -/
  nrf52fwUpdateFwIfNecessary : String → Bool
  /-- `esp_ota_set_boot_partition_patched` returns `ESP_OK`. -/
  setBootPartitionOk : Bool
  apStaIpAssigned : Bool

/-! ## The actions -/

/-- Whether an action succeeds, and `p_error_message_info->p_message`. -/
structure ActionResult where
  ok : Bool
  message : Option String
  deriving DecidableEq

/-- `fw_update_ota`. -/
def fwUpdateOta (e : Env) : ActionResult :=
  match e.flash.nextUpdatePartition with
  | none => ⟨false, none⟩
  | some _ =>
      let r := downloadWithRetries e.ota.attempts
      if !e.ota.eraseOk then ⟨false, none⟩
      else if !r.reportsSuccess then
        ⟨false, some "Firmware image download ended with an error"⟩
      else
        match e.otaEnd r.info.partition with
        | .validateFailed => ⟨false, some "Firmware signature verification failed"⟩
        | .otherError => ⟨false, none⟩
        | .ok pubKeyDigest =>
            if pubKeyDigest ≠ e.flash.runningAppPubKeyDigest then
              ⟨false, some "Firmware signature verification failed"⟩
            else ⟨true, none⟩

/-- `fw_update_ruuvi_gateway_esp_bin`. -/
def fwUpdateRuuviGatewayEspBin (e : Env) : ActionResult :=
  if !e.ota.urlAllocated then ⟨false, none⟩ else fwUpdateOta e

/-- `fw_update_data_partition`. -/
def fwUpdateDataPartition (i : ImageEnv) : ActionResult :=
  if i.eraseOk && (downloadWithRetries i.attempts).reportsSuccess then ⟨true, none⟩
  else ⟨false, some "Firmware image download ended with an error"⟩

/-- The common body of `fw_update_fatfs_gwui_bin` and `fw_update_fatfs_nrf52_bin`. -/
def fwUpdateFatfsBin (partition : Option String) (i : ImageEnv) : ActionResult :=
  match partition with
  | none => ⟨false, none⟩
  | some _ => if !i.urlAllocated then ⟨false, none⟩ else fwUpdateDataPartition i

/-- `fw_update_fatfs_gwui_bin`. -/
def fwUpdateFatfsGwuiBin (e : Env) : ActionResult :=
  fwUpdateFatfsBin e.flash.nextFatfsGwuiPartition e.gwui

/-- `fw_update_fatfs_nrf52_bin`. -/
def fwUpdateFatfsNrf52Bin (e : Env) : ActionResult :=
  fwUpdateFatfsBin e.flash.nextFatfsNrf52Partition e.nrf52

/-- A failed action without a message of its own. -/
def ActionResult.withMessage (r : ActionResult) (message : String) : ActionResult :=
  ⟨false, r.message.orElse fun _ => some message⟩

/-- `fw_update_do_actions`. -/
def fwUpdateDoActions (e : Env) : ActionResult :=
  let ota := fwUpdateRuuviGatewayEspBin e
  if !ota.ok then ota.withMessage "Failed to update OTA"
  else
    let gwui := fwUpdateFatfsGwuiBin e
    if !gwui.ok then gwui.withMessage "Failed to update GWUI"
    else
      let nrf52 := fwUpdateFatfsNrf52Bin e
      if !nrf52.ok then nrf52.withMessage "Failed to update nRF52"
      else if !e.nrf52fwUpdateFwIfNecessary e.flash.inactiveFatfsNrf52PartitionName then
        ⟨false, some "Failed to update nRF52 firmware"⟩
      else ⟨true, none⟩

/-! ## The task -/

/-- What the task leaves behind when it restarts the gateway. -/
structure TaskResult where
  flash : FlashInfo
  /-- `esp_ota_set_boot_partition_patched` has switched the boot partition. -/
  switched : Bool
  /-- The partitions whose invalidation was attempted, `none` where there is none. -/
  invalidated : List (Option String)
  message : Option String
  reason : FwUpdatingReason
  /-- `settings_write_flag_rebooting_after_auto_update(true)`. -/
  flagRebootingAfterAutoUpdate : Bool
  /-- `settings_write_flag_force_start_wifi_hotspot`. -/
  flagForceStartWifiHotspot : Bool
  rebootReasonMsg : String

/-- `fw_update_get_reboot_reason_msg`. -/
def fwUpdateGetRebootReasonMsg (reason : FwUpdatingReason) (flagFwUpdateSuccessful : Bool) :
    String :=
  if !flagFwUpdateSuccessful then
    match reason with
    | .none => "Restart the system after firmware update (failed)"
    | .auto => "Restart the system after firmware update (auto-updating failed)"
    | .manualViaHotspot =>
        "Restart the system after firmware update (manual updating via WiFi hotspot failed)"
    | .manualViaLan =>
        "Restart the system after firmware update (manual updating via LAN failed)"
  else
    match reason with
    | .none => "Restart the system after firmware update (completed successfully)"
    | .auto =>
        "Restart the system after firmware update (auto-updating completed successfully)"
    | .manualViaHotspot =>
        "Restart the system after firmware update (manual updating via WiFi hotspot completed successfully)"
    | .manualViaLan =>
        "Restart the system after firmware update (manual updating via LAN completed successfully)"

/-- The partitions of `fw_update_invalidate_all_next_partitions`: the failure of one does
not stop the next. -/
def FlashInfo.allNextPartitions (f : FlashInfo) : List (Option String) :=
  [f.nextUpdatePartition, f.nextFatfsGwuiPartition, f.nextFatfsNrf52Partition]

/-- The end of the task after a failure. -/
def taskFailed (e : Env) (message : Option String) : TaskResult where
  flash := e.flash
  switched := false
  invalidated := e.flash.allNextPartitions
  message := message
  reason := .none
  flagRebootingAfterAutoUpdate := false
  flagForceStartWifiHotspot := false
  rebootReasonMsg := fwUpdateGetRebootReasonMsg e.reason false

/-- `fw_update_task`, from `fw_update_do_actions` on. -/
def fwUpdateTask (e : Env) : TaskResult :=
  let r := fwUpdateDoActions e
  if !r.ok then taskFailed e r.message
  else if !e.setBootPartitionOk then
    taskFailed e (r.message.orElse fun _ => some "Failed to switch boot partition")
  else
    { flash :=
        { e.flash with
          bootPartition := e.flash.nextUpdatePartition
          isOta0Active := !e.flash.isOta0Active }
      switched := true
      invalidated := []
      message := r.message
      reason := e.reason
      flagRebootingAfterAutoUpdate := decide (e.reason = .auto)
      flagForceStartWifiHotspot := decide (e.reason = .manualViaHotspot) && e.apStaIpAssigned
      rebootReasonMsg := fwUpdateGetRebootReasonMsg e.reason true }

/-! ## What the switch depends on -/

variable {e : Env}

/-- An image step reports success. -/
def ImageEnv.ReportsSuccess (i : ImageEnv) : Prop :=
  i.urlAllocated = true ∧ i.eraseOk = true ∧
    (downloadWithRetries i.attempts).reportsSuccess = true

/-- The OTA image in the partition is valid and signed with the key of the running one. -/
def Env.OtaValidated (e : Env) : Prop :=
  e.otaEnd (downloadWithRetries e.ota.attempts).info.partition =
    .ok e.flash.runningAppPubKeyDigest

/-- Every step of the task reports success. -/
structure Env.AllStepsSucceed (e : Env) : Prop where
  nextUpdatePartition : e.flash.nextUpdatePartition ≠ none
  ota : e.ota.ReportsSuccess
  otaValidated : e.OtaValidated
  nextFatfsGwuiPartition : e.flash.nextFatfsGwuiPartition ≠ none
  gwui : e.gwui.ReportsSuccess
  nextFatfsNrf52Partition : e.flash.nextFatfsNrf52Partition ≠ none
  nrf52 : e.nrf52.ReportsSuccess
  nrf52fw : e.nrf52fwUpdateFwIfNecessary e.flash.inactiveFatfsNrf52PartitionName = true
  setBootPartition : e.setBootPartitionOk = true

theorem fwUpdateOta_ok_iff :
    (fwUpdateOta e).ok = true ↔ e.flash.nextUpdatePartition ≠ none ∧ e.ota.eraseOk = true ∧
      (downloadWithRetries e.ota.attempts).reportsSuccess = true ∧ e.OtaValidated := by
  unfold fwUpdateOta Env.OtaValidated
  cases e.flash.nextUpdatePartition with
  | none => simp
  | some part =>
    cases e.ota.eraseOk with
    | false => simp
    | true =>
      cases hr : (downloadWithRetries e.ota.attempts).reportsSuccess with
      | false => simp [hr]
      | true =>
        cases hend : e.otaEnd (downloadWithRetries e.ota.attempts).info.partition with
        | validateFailed => simp [hr, hend]
        | otherError => simp [hr, hend]
        | ok digest =>
          by_cases hkey : digest = e.flash.runningAppPubKeyDigest
          · simp [hr, hend, hkey]
          · simp [hr, hend, hkey]

theorem fwUpdateRuuviGatewayEspBin_ok_iff :
    (fwUpdateRuuviGatewayEspBin e).ok = true ↔
      e.flash.nextUpdatePartition ≠ none ∧ e.ota.ReportsSuccess ∧ e.OtaValidated := by
  unfold fwUpdateRuuviGatewayEspBin ImageEnv.ReportsSuccess
  cases hurl : e.ota.urlAllocated with
  | false => simp
  | true =>
    rw [Bool.not_true, if_neg (by simp), fwUpdateOta_ok_iff]
    simp only [true_and, and_assoc]

theorem fwUpdateFatfsBin_ok_iff (partition : Option String) (i : ImageEnv) :
    (fwUpdateFatfsBin partition i).ok = true ↔ partition ≠ none ∧ i.ReportsSuccess := by
  unfold fwUpdateFatfsBin fwUpdateDataPartition ImageEnv.ReportsSuccess
  cases partition with
  | none => simp
  | some part =>
    cases i.urlAllocated with
    | false => simp
    | true =>
      cases i.eraseOk with
      | false => simp
      | true => cases (downloadWithRetries i.attempts).reportsSuccess <;> simp

theorem withMessage_ok (r : ActionResult) (m : String) : (r.withMessage m).ok = false := rfl

/-- **The chain of actions** succeeds exactly if each of them does. -/
theorem fwUpdateDoActions_ok_iff :
    (fwUpdateDoActions e).ok = true ↔
      (fwUpdateRuuviGatewayEspBin e).ok = true ∧ (fwUpdateFatfsGwuiBin e).ok = true ∧
        (fwUpdateFatfsNrf52Bin e).ok = true ∧
        e.nrf52fwUpdateFwIfNecessary e.flash.inactiveFatfsNrf52PartitionName = true := by
  unfold fwUpdateDoActions
  cases hota : (fwUpdateRuuviGatewayEspBin e).ok with
  | false => simp [hota, withMessage_ok]
  | true =>
    cases hgwui : (fwUpdateFatfsGwuiBin e).ok with
    | false => simp [hota, hgwui, withMessage_ok]
    | true =>
      cases hnrf52 : (fwUpdateFatfsNrf52Bin e).ok with
      | false => simp [hota, hgwui, hnrf52, withMessage_ok]
      | true =>
        cases e.nrf52fwUpdateFwIfNecessary e.flash.inactiveFatfsNrf52PartitionName <;>
          simp [hota, hgwui, hnrf52]

theorem fwUpdateTask_cases (e : Env) :
    (fwUpdateTask e).switched = true ∧ (fwUpdateDoActions e).ok = true ∧
        e.setBootPartitionOk = true ∨
      (fwUpdateTask e).switched = false ∧
        ¬((fwUpdateDoActions e).ok = true ∧ e.setBootPartitionOk = true) ∧
        ∃ m, fwUpdateTask e = taskFailed e m := by
  cases hok : (fwUpdateDoActions e).ok with
  | false =>
    have htask : fwUpdateTask e = taskFailed e (fwUpdateDoActions e).message := by
      simp [fwUpdateTask, hok]
    exact Or.inr ⟨by rw [htask]; rfl, by simp, _, htask⟩
  | true =>
    cases hset : e.setBootPartitionOk with
    | false =>
      have htask : fwUpdateTask e = taskFailed e ((fwUpdateDoActions e).message.orElse
          fun _ => some "Failed to switch boot partition") := by
        simp [fwUpdateTask, hok, hset]
      exact Or.inr ⟨by rw [htask]; rfl, by simp, _, htask⟩
    | true =>
      have hswitched : (fwUpdateTask e).switched = true := by
        simp [fwUpdateTask, hok, hset]
      exact Or.inl ⟨hswitched, rfl, rfl⟩

/-- The boot partition is switched if and only if every step reports success. -/
theorem switched_iff : (fwUpdateTask e).switched = true ↔ e.AllStepsSucceed := by
  have hok : (fwUpdateDoActions e).ok = true ∧ e.setBootPartitionOk = true ↔
      e.AllStepsSucceed := by
    rw [fwUpdateDoActions_ok_iff, fwUpdateRuuviGatewayEspBin_ok_iff, fwUpdateFatfsGwuiBin,
      fwUpdateFatfsNrf52Bin, fwUpdateFatfsBin_ok_iff, fwUpdateFatfsBin_ok_iff]
    constructor
    · rintro ⟨⟨⟨h1, h2, h3⟩, ⟨h4, h5⟩, ⟨h6, h7⟩, h8⟩, h9⟩
      exact ⟨h1, h2, h3, h4, h5, h6, h7, h8, h9⟩
    · rintro ⟨h1, h2, h3, h4, h5, h6, h7, h8, h9⟩
      exact ⟨⟨⟨h1, h2, h3⟩, ⟨h4, h5⟩, ⟨h6, h7⟩, h8⟩, h9⟩
  rw [← hok]
  rcases fwUpdateTask_cases e with ⟨hs, h⟩ | ⟨hs, h, -⟩
  · exact ⟨fun _ => h, fun _ => hs⟩
  · rw [hs]
    exact ⟨fun h' => absurd h' (by simp), fun h' => absurd h' h⟩

/-! ## The images -/

/-- The files of the release. -/
structure Files where
  ota : List UInt8
  gwui : List UInt8
  nrf52 : List UInt8

/-- A complete, verified set of images. -/
structure Env.Verified (f : Files) (e : Env) : Prop where
  ota : FullyWritten f.ota e.ota.attempts
  otaValidated : e.OtaValidated
  gwui : FullyWritten f.gwui e.gwui.attempts
  nrf52 : FullyWritten f.nrf52 e.nrf52.attempts
  nrf52fw : ∃ partition, e.flash.nextFatfsNrf52Partition = some partition ∧
    e.nrf52fwUpdateFwIfNecessary partition = true

/-- **The task is safe**: the boot partition is switched only to a complete, verified set
of images, and after any failure it is the one it was and all next partitions have been
tried to invalidate. -/
structure Env.Safe (f : Files) (e : Env) : Prop where
  verified : (fwUpdateTask e).switched = true → e.Verified f
  unchanged : (fwUpdateTask e).switched = false →
    (fwUpdateTask e).flash.bootPartition = e.flash.bootPartition
  invalidated : (fwUpdateTask e).switched = false →
    (fwUpdateTask e).invalidated = e.flash.allNextPartitions

/-- The servers answer the requests for the three images by what they ask for. -/
structure Env.ServesFiles (f : Files) (e : Env) : Prop where
  ota : Served f.ota e.ota.attempts
  gwui : Served f.gwui e.gwui.attempts
  nrf52 : Served f.nrf52 e.nrf52.attempts

/-- The downloads of the three images meet the condition of `fullyWritten_iff`. -/
def Env.WholeDownloads (f : Files) (e : Env) : Prop :=
  Whole f.ota e.ota.attempts ∧ Whole f.gwui e.gwui.attempts ∧ Whole f.nrf52 e.nrf52.attempts

/-- The firmware that the nRF52 gets is the one that has just been downloaded. -/
theorem inactiveFatfsNrf52PartitionName_eq {f : FlashInfo}
    (h : f.nextFatfsNrf52Partition ≠ none) :
    f.nextFatfsNrf52Partition = some f.inactiveFatfsNrf52PartitionName := by
  unfold FlashInfo.nextFatfsNrf52Partition at h ⊢
  unfold FlashInfo.inactiveFatfsNrf52PartitionName
  cases hactive : f.isOta0Active with
  | true =>
    rw [hactive, if_pos rfl] at h
    have hfound : f.nrf522Found = true := by
      by_contra hf
      exact h (if_neg hf)
    simp [hfound]
  | false =>
    rw [hactive, if_neg (by simp)] at h
    have hfound : f.nrf52Found = true := by
      by_contra hf
      exact h (if_neg hf)
    simp [hfound]

/-- **When the task is safe**: whenever every step reports success, nothing of the three
files was lost. -/
theorem task_safe_iff {f : Files} (hserved : e.ServesFiles f) :
    e.Safe f ↔ (e.AllStepsSucceed → e.WholeDownloads f) := by
  constructor
  · intro hsafe hall
    obtain ⟨hota, -, hgwui, hnrf52, -⟩ := hsafe.verified (switched_iff.mpr hall)
    exact ⟨(fullyWritten_iff hserved.ota hota.1).mp hota,
      (fullyWritten_iff hserved.gwui hgwui.1).mp hgwui,
      (fullyWritten_iff hserved.nrf52 hnrf52.1).mp hnrf52⟩
  · intro h
    refine ⟨fun hs => ?_, fun hs => ?_, fun hs => ?_⟩
    · have hall := switched_iff.mp hs
      obtain ⟨hota, hgwui, hnrf52⟩ := h hall
      exact
        { ota := (fullyWritten_iff hserved.ota hall.ota.2.2).mpr hota
          otaValidated := hall.otaValidated
          gwui := (fullyWritten_iff hserved.gwui hall.gwui.2.2).mpr hgwui
          nrf52 := (fullyWritten_iff hserved.nrf52 hall.nrf52.2.2).mpr hnrf52
          nrf52fw := ⟨_, inactiveFatfsNrf52PartitionName_eq hall.nextFatfsNrf52Partition,
            hall.nrf52fw⟩ }
    all_goals
      rcases fwUpdateTask_cases e with ⟨hs', -⟩ | ⟨-, -, m, hm⟩
      · rw [hs'] at hs
        exact absurd hs (by simp)
      · rw [hm]
        rfl

/-- An image that arrives in the given attempts. -/
def ImageEnv.ofAttempts (attempts : List Attempt) : ImageEnv := ⟨true, true, attempts⟩

/-- All steps succeed; the OTA and nRF52 images are resumed once, the web UI image arrives in
the given attempts. -/
def sampleEnv (gwuiAttempts : List Attempt) : Env where
  flash := ⟨some "ota_0", some "ota_1", true, [7], true, true, true, true⟩
  reason := .auto
  ota := .ofAttempts resumedRun
  otaEnd := fun _ => .ok [7]
  gwui := .ofAttempts gwuiAttempts
  nrf52 := .ofAttempts resumedRun
  nrf52fwUpdateFwIfNecessary := fun _ => true
  setBootPartitionOk := true
  apStaIpAssigned := false

/-- The three files. -/
def sampleFiles : Files := ⟨[1, 2, 3], [1, 2, 3], [1, 2, 3]⟩

/-- A safe update. -/
theorem sampleEnv_safe : (sampleEnv resumedRun).Safe sampleFiles :=
  (task_safe_iff ⟨by decide, by decide, by decide⟩).mpr
    fun _ => ⟨by decide, by decide, by decide⟩

/-- The connection for the web UI image is closed by the server after one byte of three,
and the boot partition is switched with the image incomplete. -/
theorem cutShort_switches :
    (sampleEnv cutShortRun).ServesFiles sampleFiles ∧
      (fwUpdateTask (sampleEnv cutShortRun)).switched = true ∧
      (downloadWithRetries (sampleEnv cutShortRun).gwui.attempts).info.partition = [1] ∧
      ¬ (sampleEnv cutShortRun).Safe sampleFiles := by
  have hswitched : (fwUpdateTask (sampleEnv cutShortRun)).switched = true := by decide
  have hnot : ¬ FullyWritten sampleFiles.gwui (sampleEnv cutShortRun).gwui.attempts := by decide
  exact ⟨⟨by decide, by decide, by decide⟩, hswitched, by decide,
    fun hsafe => hnot (hsafe.verified hswitched).gwui⟩

end FwUpdate
end RuuviGateway
