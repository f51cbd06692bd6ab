import RuuviGateway.Ota.SelfCheck
import RuuviGateway.FwUpdate.Task
import RuuviGateway.Lib.TransitionSystem

/-!
# Starting and updating a gateway

The life of the two firmwares of a gateway, from the first start on: the bootloader, `app_main`
with the self check, the confirmation of a new firmware, and `fw_update_task`.  The power can be
lost at any point: between any two writes of the bootloader, in the middle of a write, and at any
point of a download.

`esp_ota_get_next_update_partition` of ESP-IDF gives the other slot.  Three more of its functions
stand as parameters, `EspOta`, and what is used of their documentation is `LawfulEspOta`.
-/

namespace RuuviGateway
namespace Ota

open TornWrites TransitionSystem
open FwUpdate (fwUpdateDoActions fwUpdateTask downloadWithRetries)

attribute [local instance] neZero_two

/-! ## ESP-IDF -/

/-- The functions of ESP-IDF that tell and change what `otadata` has about the running app. -/
structure EspOta where
  /-- `esp_ota_get_state_partition`: the state, unless there is an error. -/
  getStatePartition : Otadata → Fin 2 → Option UInt32
  /-- `esp_ota_mark_app_valid_cancel_rollback`: the entry that it writes, if it has to write one,
  unless there is an error. -/
  markAppValidCancelRollback : Otadata → Option (Option (Fin 2 × OtaSelectEntry))
  /-- `esp_ota_mark_app_invalid_rollback_and_reboot`, for the slots with an image that can be
  loaded: the entry that it writes, if there is another app to go back to. -/
  markAppInvalidRollbackAndReboot : Otadata → (Fin 2 → Bool) → Option (Fin 2 × OtaSelectEntry)

/-- The state of a partition is the one of its entry, and the running app is marked by the state
of the active entry. -/
structure LawfulEspOta (crc32 : UInt32 → UInt32) (idf : EspOta) : Prop where
  getStatePartition_of_unique : ∀ o slot i, otaSelectValid crc32 (o i) = true →
    calcSlotFromSeq 2 (o i).otaSeq = some slot →
    (intact crc32 (o i.rev) = true → calcSlotFromSeq 2 (o i.rev).otaSeq ≠ some slot) →
    idf.getStatePartition o slot = some (o i).otaState
  markAppValid_eq : ∀ o w, idf.markAppValidCancelRollback o = some (some w) →
    getActiveOtadata crc32 o = some w.1 ∧ w.2 = { o w.1 with otaState := ImgState.valid }
  markAppInvalid_eq : ∀ o loads w, idf.markAppInvalidRollbackAndReboot o loads = some w →
    getActiveOtadata crc32 o = some w.1 ∧ w.2 = { o w.1 with otaState := ImgState.invalid }

/-! ## The gateway -/

/-- What the CPU executes. -/
inductive Phase where
  /-- The bootloader, or nothing. -/
  | off
  /-- `main_task_init`. -/
  | starting (slot : Fin 2)
  /-- `main_loop`, with `running_partition_state`. -/
  | running (slot : Fin 2) (runningPartitionState : UInt32)
  deriving DecidableEq

/-- The flash, and what is executed. -/
structure State where
  otadata : Otadata
  parts : Fin 2 → Partitions
  phase : Phase

/-- How a run of `fw_update_task` goes. -/
structure Update where
  env : FwUpdate.Env
  /-- The partitions of the other slot when `fw_update_do_actions` ends. -/
  contents : Partitions
  /-- The write of `esp_rewrite_ota_data`. -/
  otadata : Outcome OtaSelectEntry
  /-- The power is lost in this write if it does not succeed. -/
  powerLost : Bool
  /-- The erasing of the first sectors of the other slot, where it comes to that. -/
  eraseApp : Outcome (List UInt8)
  eraseGwui : Outcome (List UInt8)
  eraseNrf52 : Outcome (List UInt8)

/-- What happens next. -/
inductive Label where
  /-- The bootloader starts; `powerLost` if the power is lost before it is through. -/
  | boot (outs : List (Outcome OtaSelectEntry)) (powerLost : Bool)
  /-- `main_task_init`: whether all but the self check succeeds, and otherwise the write of
  `esp_ota_mark_app_invalid_rollback_and_reboot`. -/
  | mainTaskInit (rest : Bool) (out : Outcome OtaSelectEntry)
  /-- `fw_update_mark_app_valid_cancel_rollback`. -/
  | markAppValid (out : Outcome OtaSelectEntry) (powerLost : Bool)
  /-- The wear levelling of the file system for the nRF52 writes its area. -/
  | wearLevelling (area : List UInt8)
  /-- `fw_update_task`, up to the restart. -/
  | update (u : Update)
  /-- The power is lost in `fw_update_do_actions`, with this in the other slot. -/
  | updateCut (contents : Partitions)
  /-- Any restart, or loss of power. -/
  | restart

variable (k : Checks) (idf : EspOta)

/-- An image that the bootloader can load. -/
def State.loads (s : State) (slot : Fin 2) : Bool := k.imageVerify (s.parts slot).app

/-- The bootloader. -/
def bootStep (s : State) (outs : List (Outcome OtaSelectEntry)) (powerLost : Bool) :
    Option State :=
  let b := bootloader k.crc32 s.otadata (s.loads k)
  (writes (intact k.crc32) s.otadata b.writes outs).bind fun otadata =>
    if powerLost then some { s with otadata := otadata }
    else if outs.length = b.writes.length then
      some { s with
        otadata := otadata
        phase := match b.loaded with
          | some slot => .starting slot
          | none => .off }
    else none

/-- `app_main` after `main_task_init` has failed. -/
def rollbackStep (s : State) (out : Outcome OtaSelectEntry) : Option State :=
  match idf.markAppInvalidRollbackAndReboot s.otadata (s.loads k) with
  | none => some { s with phase := .off }
  | some w =>
      (write (intact k.crc32) s.otadata w out).map fun otadata =>
        { s with otadata := otadata, phase := .off }

/-- `app_main` up to `main_loop`. -/
def mainTaskInitStep (s : State) (slot : Fin 2) (rest : Bool) (out : Outcome OtaSelectEntry) :
    Option State :=
  let check := selfCheckSignature k (s.parts slot)
  let s' := { s with parts := Function.update s.parts slot check.2 }
  if check.1 && rest then
    some { s' with phase := .running slot (runningPartitionState k.crc32 s.otadata slot) }
  else rollbackStep k idf s' out

/-- `fw_update_mark_app_valid_cancel_rollback`. -/
def markAppValidStep (s : State) (slot : Fin 2) (runningPartitionState : UInt32)
    (out : Outcome OtaSelectEntry) (powerLost : Bool) : Option State :=
  if runningPartitionState ≠ ImgState.pendingVerify then some s
  else
    match idf.markAppValidCancelRollback s.otadata with
    | none => some s
    | some none => some { s with phase := .running slot ImgState.valid }
    | some (some w) =>
        (write (intact k.crc32) s.otadata w out).map fun otadata =>
          { s with
            otadata := otadata
            phase :=
              if powerLost then .off
              else if out = .done then .running slot ImgState.valid
              else s.phase }

/-- The environment of an update fits the gateway. -/
def Update.Fits (s : State) (slot : Fin 2) (u : Update) : Prop :=
  u.env.flash.isOta0Active = decide (slot = 0) ∧
    u.env.flash.nextUpdatePartition = some (if slot = 0 then "ota_1" else "ota_0") ∧
    u.env.flash.gwuiFound = true ∧ u.env.flash.gwui2Found = true ∧
    u.env.flash.nrf52Found = true ∧ u.env.flash.nrf522Found = true ∧
    -- `esp_ota_begin_patched` refuses before it erases
    (notConfirmed k.crc32 s.otadata slot = true →
      u.env.ota.eraseOk = false ∧ u.contents = s.parts slot.rev) ∧
    ((fwUpdateDoActions u.env).ok = true →
      k.imageVerify u.contents.app = true ∧
        (downloadWithRetries u.env.ota.attempts).info.partition <+: u.contents.app ∧
        (downloadWithRetries u.env.gwui.attempts).info.partition <+: u.contents.gwui ∧
        -- the new firmware of the nRF52 has been read through the wear levelling
        (downloadWithRetries u.env.nrf52.attempts).info.partition.take
          (u.contents.nrf52.length - (k.wlArea u.contents.app).length) <+: u.contents.nrf52)

instance (s : State) (slot : Fin 2) (u : Update) : Decidable (u.Fits k s slot) :=
  inferInstanceAs (Decidable (_ ∧ _))

/-- A partition with its first sector erased. -/
def eraseFirstSector (contents : List UInt8) : List UInt8 :=
  List.replicate 4096 0xFF ++ contents.drop 4096

/-- The contents after the erasing. -/
def erased (contents : List UInt8) : Outcome (List UInt8) → List UInt8
  | .done => eraseFirstSector contents
  | .left a => a

/-- `fw_update_invalidate_all_next_partitions`.  The image is protected during a trial:
`esp_ota_helper_safe_erase_app_partition`. -/
def invalidateAllNextPartitions (s : State) (slot : Fin 2) (u : Update) (p : Partitions) :
    Partitions where
  app :=
    if idf.getStatePartition s.otadata slot = some ImgState.pendingVerify then p.app
    else erased p.app u.eraseApp
  gwui := erased p.gwui u.eraseGwui
  nrf52 := erased p.nrf52 u.eraseNrf52

/-- `fw_update_task`. -/
def updateStep (s : State) (slot : Fin 2) (u : Update) : Option State :=
  if ¬u.Fits k s slot then none
  else
    let s' := { s with parts := Function.update s.parts slot.rev u.contents, phase := .off }
    let failed (t : State) : State :=
      { t with
        parts := Function.update t.parts slot.rev
          (invalidateAllNextPartitions idf t slot u u.contents) }
    if !(fwUpdateDoActions u.env).ok then some (failed s')
    else
      match rewriteOtaData k.crc32 s.otadata (some slot) slot.rev with
      | none => some (failed s')
      | some w =>
          (write (intact k.crc32) s.otadata w u.otadata).bind fun otadata =>
            let t := { s' with otadata := otadata }
            if u.env.setBootPartitionOk ≠ decide (u.otadata = .done) then none
            else if (fwUpdateTask u.env).switched || u.powerLost then some t
            else some (failed t)

/-- One step. -/
def step (s : State) : Label → Option State
  | .boot outs powerLost =>
      match s.phase with
      | .off => bootStep k s outs powerLost
      | _ => none
  | .mainTaskInit rest out =>
      match s.phase with
      | .starting slot => mainTaskInitStep k idf s slot rest out
      | _ => none
  | .markAppValid out powerLost =>
      match s.phase with
      | .running slot state => markAppValidStep k idf s slot state out powerLost
      | _ => none
  | .wearLevelling area =>
      match s.phase with
      | .off => none
      | .starting slot | .running slot _ =>
          if area.length = (k.wlArea (s.parts slot).app).length then
            some { s with
              parts := Function.update s.parts slot
                { s.parts slot with nrf52 := withWlArea (s.parts slot).nrf52 area } }
          else none
  | .update u =>
      match s.phase with
      | .running slot _ => updateStep k idf s slot u
      | _ => none
  | .updateCut contents =>
      match s.phase with
      | .running slot _ =>
          if notConfirmed k.crc32 s.otadata slot = true ∧ contents.app ≠ (s.parts slot.rev).app then
            none
          else
            some { s with parts := Function.update s.parts slot.rev contents, phase := .off }
      | _ => none
  | .restart => some { s with phase := .off }

/-- A gateway, from the first start on: `otadata` is empty, and there is a complete firmware in
the first slot. -/
def gatewaySystem : System State Label where
  init s := s.otadata = (fun _ => .erased) ∧ Complete k (s.parts 0) ∧ s.phase = .off
  step := step k idf

end Ota
end RuuviGateway
