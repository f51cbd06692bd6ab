import Mathlib.Logic.Basic

/-!
# The configuration in NVS

`settings.c`: the configuration is one string of the NVS partition, and older firmware left two
blobs there, the one of the gateway and the one of the Wi-Fi component.  At boot the string is
read; if there is none, the blob of the gateway is converted; then the Wi-Fi settings are taken
from the other blob, if it is there.  Whatever came from a blob is saved as a string, and the
blobs are done away with.

Every operation of NVS and every allocation may fail, which is the argument `Faults` of a boot:
true for an operation that works.  What a boot uses of other modules is a `Codec`.  The contents
that NVS goes through are recorded one after the other.
-/

namespace RuuviGateway
namespace Settings

/-- What the settings use of other modules. -/
structure Codec (Text Cfg GwBlob WifiBlob : Type) where
  /-- The empty string. -/
  empty : Text
  /-- `gw_cfg_json_generate_for_saving`. -/
  generate : Cfg → Text
  /-- `gw_cfg_json_parse` over the default configuration. -/
  parse : Text → Option Cfg
  /-- `gw_cfg_default_get`. -/
  default : Cfg
  /-- The header and the version are those that `settings_get_gw_cfg_blob_from_nvs` expects. -/
  isBlobValid : GwBlob → Bool
  /-- `gw_cfg_blob_convert`. -/
  convertBlob : GwBlob → Cfg
  /-- `wifi_manager_cfg_blob_read`: what it writes into `wifi_cfg`. -/
  setWifi : WifiBlob → Cfg → Cfg
  /-- A printed object is not empty. -/
  generate_ne_empty : ∀ c, generate c ≠ empty
  /-- What is printed can be parsed. -/
  parse_generate : ∀ c, ∃ c', parse (generate c) = some c'

variable {Text Cfg GwBlob WifiBlob : Type} [DecidableEq Text]

/-- The keys of NVS that hold a configuration. -/
structure Nvs (Text GwBlob WifiBlob : Type) where
  /-- `RUUVI_GATEWAY_NVS_CFG_JSON_KEY`. -/
  json : Option Text
  /-- `RUUVI_GATEWAY_NVS_CFG_BLOB_KEY`. -/
  gwBlob : Option GwBlob
  /-- The blob of the Wi-Fi component, if it is not marked as deprecated. -/
  wifiBlob : Option WifiBlob
  deriving DecidableEq

/-- The partition after `ruuvi_nvs_erase`. -/
def Nvs.erased : Nvs Text GwBlob WifiBlob := ⟨none, none, none⟩

/-! ## Saving -/

/-- `esp_err_t`, as far as `settings_save_to_flash_cjson` tells errors apart. -/
inductive EspErr where
  | ok
  | notEnoughSpace
  | fail
  deriving DecidableEq

/-- How `nvs_set_str` and `nvs_commit` end: a commit that fails may have written. -/
inductive WriteResult where
  | ok
  | notEnoughSpace
  | error (written : Bool)
  deriving DecidableEq

/-- The outcomes in `settings_save_to_flash_cjson_ret_err`. -/
structure SaveAttempt where
  nvsOpen : Bool
  /-- `settings_read_gw_cfg_json_from_nvs`. -/
  readPrev : Bool
  write : WriteResult

/-- `settings_save_to_flash_cjson_ret_err`. -/
def settingsSaveToFlashCjsonRetErr (f : SaveAttempt) (t : Text) (n : Nvs Text GwBlob WifiBlob) :
    EspErr × Nvs Text GwBlob WifiBlob :=
  if !f.nvsOpen then (.fail, n)
  else if f.readPrev && decide (n.json = some t) then (.ok, n)
  else match f.write with
    | .ok => (.ok, { n with json := some t })
    | .notEnoughSpace => (.notEnoughSpace, n)
    | .error written => (.fail, if written then { n with json := some t } else n)

/-- The outcomes in `settings_save_to_flash_cjson`: `erase` is whether the partition is erased
when there is not enough space. -/
structure SaveFaults where
  first : SaveAttempt
  erase : Bool
  second : SaveAttempt

/-- What saving does: its result, the contents of NVS on the way, and the content at the
end. -/
structure Saved (Text GwBlob WifiBlob : Type) where
  success : Bool
  between : List (Nvs Text GwBlob WifiBlob)
  nvs : Nvs Text GwBlob WifiBlob

/-- `settings_save_to_flash_cjson`. -/
def settingsSaveToFlashCjson (f : SaveFaults) (t : Text) (n : Nvs Text GwBlob WifiBlob) :
    Saved Text GwBlob WifiBlob :=
  match settingsSaveToFlashCjsonRetErr f.first t n with
  | (.notEnoughSpace, n) =>
      let erased := if f.erase then Nvs.erased else n
      let r := settingsSaveToFlashCjsonRetErr f.second t erased
      ⟨decide (r.1 = .ok), [erased], r.2⟩
  | r => ⟨decide (r.1 = .ok), [], r.2⟩

variable (k : Codec Text Cfg GwBlob WifiBlob)

/-- `settings_save_to_flash`; `generated` is whether there is memory for the text. -/
def settingsSaveToFlash (generated : Bool) (f : SaveFaults) (c : Option Cfg)
    (n : Nvs Text GwBlob WifiBlob) : Saved Text GwBlob WifiBlob :=
  match c with
  | none => settingsSaveToFlashCjson f k.empty n
  | some c => if generated then settingsSaveToFlashCjson f (k.generate c) n else ⟨false, [], n⟩

/-! ## Reading -/

/-- `settings_in_nvs_status_e`. -/
inductive Status where
  | ok
  | notExist
  | empty
  deriving DecidableEq

/-- The outcomes in `settings_get_gw_cfg_from_nvs`: the two calls of `nvs_get_str`, the
allocation between them, and the memory for parsing. -/
structure JsonFaults where
  size : Bool
  malloc : Bool
  str : Bool
  parse : Bool

/-- `settings_read_gw_cfg_json_from_nvs`. -/
def settingsReadGwCfgJsonFromNvs (f : JsonFaults) (n : Nvs Text GwBlob WifiBlob) : Option Text :=
  if f.size && f.malloc && f.str then n.json else none

/-- `settings_get_gw_cfg_from_nvs`. -/
def settingsGetGwCfgFromNvs (f : JsonFaults) (n : Nvs Text GwBlob WifiBlob) : Status × Cfg :=
  match settingsReadGwCfgJsonFromNvs f n with
  | none => (.notExist, k.default)
  | some t =>
      if t = k.empty then (.empty, k.default)
      else match k.parse t with
        | some c => if f.parse then (.ok, c) else (.notExist, k.default)
        | none => (.notExist, k.default)

/-- The outcomes in `settings_read_from_blob`: the allocation and the two calls of
`nvs_get_blob`. -/
structure BlobFaults where
  calloc : Bool
  size : Bool
  read : Bool

/-- `settings_get_gw_cfg_blob_from_nvs`. -/
def settingsGetGwCfgBlobFromNvs (f : BlobFaults) (n : Nvs Text GwBlob WifiBlob) :
    Option GwBlob :=
  if f.size && f.read then n.gwBlob.filter k.isBlobValid else none

/-- `settings_read_from_blob`. -/
def settingsReadFromBlob (f : BlobFaults) (n : Nvs Text GwBlob WifiBlob) : Option Cfg :=
  if f.calloc then (settingsGetGwCfgBlobFromNvs k f n).map k.convertBlob else none

/-! ## The boot -/

/-- `nvs_handle`: operations on a handle that is not open fail. -/
inductive Handle where
  | null
  | opened
  | closed
  deriving DecidableEq

/-- The outcomes of `nvs_get_blob` and `nvs_erase_key`, for a handle that is open. -/
structure EraseFaults where
  size : Bool
  erase : Bool

/-- `settings_erase_gw_cfg_blob_if_exist`. -/
def settingsEraseGwCfgBlobIfExist (h : Handle) (f : EraseFaults) (n : Nvs Text GwBlob WifiBlob) :
    Nvs Text GwBlob WifiBlob :=
  if h = .opened ∧ f.size = true ∧ f.erase = true then { n with gwBlob := none } else n

/-- The outcomes in `settings_get_from_flash`. -/
structure Faults where
  calloc : Bool
  nvsOpen : Bool
  json : JsonFaults
  blob : BlobFaults
  /-- `wifi_manager_cfg_blob_read`, if there is a blob. -/
  wifiRead : Bool
  generate : Bool
  save : SaveFaults
  eraseBlob : EraseFaults
  /-- `wifi_manager_cfg_blob_mark_deprecated`. -/
  markDeprecated : Bool

/-- What is read at boot: the status, whether the blob of the gateway was used, and the
configuration. -/
structure Read (Cfg : Type) where
  status : Status
  blobUsed : Bool
  cfg : Cfg

/-- The first part of `settings_get_from_flash`, while the handle is open. -/
def readSettings (f : Faults) (n : Nvs Text GwBlob WifiBlob) : Read Cfg :=
  if !f.nvsOpen then ⟨.notExist, false, k.default⟩
  else match settingsGetGwCfgFromNvs k f.json n with
    | (.notExist, _) =>
        match settingsReadFromBlob k f.blob n with
        | some c => ⟨.ok, true, c⟩
        | none => ⟨.notExist, false, k.default⟩
    | (status, c) => ⟨status, false, c⟩

/-- The blob that `wifi_manager_cfg_blob_read` finds. -/
def readWifi (f : Faults) (n : Nvs Text GwBlob WifiBlob) : Option WifiBlob :=
  if f.wifiRead then n.wifiBlob else none

/-- `wifi_cfg` is taken from the blob of the Wi-Fi component, if it was found. -/
def Codec.withWifi (w : Option WifiBlob) (c : Cfg) : Cfg :=
  match w with
  | none => c
  | some w => k.setWifi w c

/-- The call of `settings_save_to_flash_cjson` or `settings_save_to_flash` in
`settings_get_from_flash`. -/
def saveSettings (f : Faults) (n : Nvs Text GwBlob WifiBlob) : Saved Text GwBlob WifiBlob :=
  let r := readSettings k f n
  if r.status = .notExist then settingsSaveToFlashCjson f.save k.empty n
  else if r.blobUsed || (readWifi f n).isSome then
    settingsSaveToFlash k f.generate f.save (some (k.withWifi (readWifi f n) r.cfg)) n
  else ⟨true, [], n⟩

/-- What a boot does: the status and the configuration that it returns, and the contents that
NVS goes through. -/
structure Boot (Text Cfg GwBlob WifiBlob : Type) where
  result : Option (Status × Cfg)
  contents : List (Nvs Text GwBlob WifiBlob)
  nvs : Nvs Text GwBlob WifiBlob

/-- `settings_get_from_flash`.  The blob of the gateway is erased through the handle that has
been closed. -/
def settingsGetFromFlash (flagAllowCfgUpdating : Bool) (f : Faults)
    (n : Nvs Text GwBlob WifiBlob) : Boot Text Cfg GwBlob WifiBlob :=
  if !f.calloc then ⟨none, [], n⟩
  else
    let r := readSettings k f n
    let result := some (r.status, k.withWifi (readWifi f n) r.cfg)
    if !flagAllowCfgUpdating then ⟨result, [], n⟩
    else
      let saved := saveSettings k f n
      let handle := if f.nvsOpen then Handle.closed else Handle.null
      let erased := settingsEraseGwCfgBlobIfExist handle f.eraseBlob saved.nvs
      let marked :=
        if (readWifi f n).isSome && f.markDeprecated then { erased with wifiBlob := none }
        else erased
      ⟨result, saved.between ++ [saved.nvs, erased, marked], marked⟩

end Settings
end RuuviGateway
