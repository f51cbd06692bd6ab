import RuuviGateway.GwCfgJson.Instance
import RuuviGateway.GwCfgJson.Ops

/-!
# Memory and flash

The operations that change the configuration call `settings_save_to_flash` at their end, under
the mutex of the configuration: with NULL if the configuration has become empty, and else with
the configuration in memory.  So NVS holds the empty string or the saved text of what is in
memory (`InSync`), and a reboot decides in the same way whether the gateway is configured.

One operation does not look whether the configuration is empty: `gw_cfg_update_fw_update_url`
saves it in any case.  Everything here is for saving that succeeds.
-/

namespace RuuviGateway
namespace Settings

open GwCfg

variable {R E A S Json Remote Text GwBlob WifiBlob : Type} [DecidableEq Text]

/-- The operations that change the configuration after boot. -/
inductive CfgOp (R E A S : Type) where
  /-- `gw_cfg_update`, of NULL for `none`. -/
  | update (c : Option (Cfg R E A S))
  /-- `gw_cfg_update_ruuvi_cfg`. -/
  | updateRuuvi (r : R)
  /-- `gw_cfg_update_eth_cfg`. -/
  | updateEth (e : E)
  /-- `gw_cfg_update_wifi_ap_config`. -/
  | updateWifiAp (a : A)
  /-- `gw_cfg_update_wifi_sta_config`. -/
  | updateWifiSta (sta : S)
  /-- `gw_cfg_update_fw_update_url`. -/
  | updateFwUpdateUrl (url : String)
  /-- `cb_save_wifi_config`. -/
  | saveWifiConfig (sta : S)

/-- The configuration in memory and the content of NVS. -/
structure CfgState (R E A S Text GwBlob WifiBlob : Type) where
  store : Store R E A S
  nvs : Nvs Text GwBlob WifiBlob

variable (ops : Ops R E A S Json Remote) (k : Codec Text (Cfg R E A S) GwBlob WifiBlob)

/-- `ruuvi_cb_on_change_cfg`, where saving succeeds; the text that is stored may or may not be
readable. -/
def cbOnChangeCfg (readPrev : Bool) (c : Option (Cfg R E A S)) (n : Nvs Text GwBlob WifiBlob) :
    Nvs Text GwBlob WifiBlob :=
  let attempt : SaveAttempt := { nvsOpen := true, readPrev, write := .ok }
  (settingsSaveToFlash k true { first := attempt, erase := true, second := attempt } c n).nvs

/-- The end of `gw_cfg_set`. -/
def afterSet (readPrev : Bool) (st : Store R E A S) (n : Nvs Text GwBlob WifiBlob) :
    CfgState R E A S Text GwBlob WifiBlob :=
  ⟨st, cbOnChangeCfg k readPrev (if st.isEmpty then none else some st.cfg) n⟩

/-- One operation. -/
def exec (op : CfgOp R E A S) (readPrev : Bool) (s : CfgState R E A S Text GwBlob WifiBlob) :
    CfgState R E A S Text GwBlob WifiBlob :=
  match op with
  | .update none => afterSet k readPrev (gwCfgSet ops none none none none s.store) s.nvs
  | .update (some c) => afterSet k readPrev (gwCfgUpdate ops c s.store) s.nvs
  | .updateRuuvi r => afterSet k readPrev (gwCfgUpdateRuuviCfg ops r s.store) s.nvs
  | .updateEth e => afterSet k readPrev (gwCfgUpdateEthCfg ops e s.store) s.nvs
  | .updateWifiAp a => afterSet k readPrev (gwCfgUpdateWifiApConfig ops a s.store) s.nvs
  | .updateWifiSta sta => afterSet k readPrev (gwCfgUpdateWifiStaConfig ops sta s.store) s.nvs
  | .updateFwUpdateUrl url =>
      let st := gwCfgUpdateFwUpdateUrl ops url s.store
      ⟨st, cbOnChangeCfg k readPrev (some st.cfg) s.nvs⟩
  | .saveWifiConfig sta =>
      let st := if ops.hasSsid sta then gwCfgSetEthUseEth ops false s.store else s.store
      afterSet k readPrev (gwCfgUpdateWifiStaConfig ops sta st) s.nvs

/-- A sequence of operations. -/
def execAll (calls : List (CfgOp R E A S × Bool)) (s : CfgState R E A S Text GwBlob WifiBlob) :
    CfgState R E A S Text GwBlob WifiBlob :=
  calls.foldl (fun s c => exec ops k c.1 c.2 s) s

/-- NVS holds the empty string if the configuration is empty, and else the saved text of the
configuration in memory. -/
def InSync (s : CfgState R E A S Text GwBlob WifiBlob) : Prop :=
  s.nvs.json = some (if s.store.isEmpty then k.empty else k.generate s.store.cfg)

/-- The operation saves a configuration that counts as empty. -/
def SavesEmpty (op : CfgOp R E A S) (s : CfgState R E A S Text GwBlob WifiBlob) : Prop :=
  ∃ url, op = .updateFwUpdateUrl url ∧ s.store.isEmpty = true

variable {ops k}

theorem cbOnChangeCfg_json (readPrev : Bool) (c : Option (Cfg R E A S))
    (n : Nvs Text GwBlob WifiBlob) :
    (cbOnChangeCfg k readPrev c n).json = some (match c with
      | none => k.empty
      | some c => k.generate c) := by
  have hsaved : ∀ t, (settingsSaveToFlashCjsonRetErr ⟨true, readPrev, .ok⟩ t n).1 = .ok ∧
      (settingsSaveToFlashCjsonRetErr ⟨true, readPrev, .ok⟩ t n).2.json = some t := by
    intro t
    unfold settingsSaveToFlashCjsonRetErr
    rw [if_neg (by simp)]
    split
    · rename_i heq
      rw [Bool.and_eq_true, decide_eq_true_eq] at heq
      exact ⟨rfl, heq.2⟩
    · exact ⟨rfl, rfl⟩
  have hcjson : ∀ t, (settingsSaveToFlashCjson ⟨⟨true, readPrev, .ok⟩, true,
      ⟨true, readPrev, .ok⟩⟩ t n).nvs.json = some t := by
    intro t
    obtain ⟨hok, hjson⟩ := hsaved t
    unfold settingsSaveToFlashCjson
    split
    · rename_i hne
      exact absurd hok (by rw [hne]; simp)
    · exact hjson
  cases c with
  | none => exact hcjson k.empty
  | some c => exact hcjson (k.generate c)

theorem inSync_afterSet (readPrev : Bool) (st : Store R E A S) (n : Nvs Text GwBlob WifiBlob) :
    InSync k (afterSet k readPrev st n) := by
  unfold InSync afterSet
  rw [cbOnChangeCfg_json]
  cases st.isEmpty <;> rfl

/-- What an operation leaves behind is in sync, whatever it started from, unless it saves an
empty configuration. -/
theorem inSync_exec_iff (op : CfgOp R E A S) (readPrev : Bool)
    (s : CfgState R E A S Text GwBlob WifiBlob) :
    InSync k (exec ops k op readPrev s) ↔ ¬ SavesEmpty op s := by
  have hset : (∀ url, op ≠ .updateFwUpdateUrl url) → ¬ SavesEmpty op s := by
    rintro hne ⟨url, rfl, -⟩
    exact hne url rfl
  cases op with
  | update c =>
    cases c with
    | none => exact iff_of_true (inSync_afterSet ..) (hset (by simp))
    | some c => exact iff_of_true (inSync_afterSet ..) (hset (by simp))
  | updateRuuvi r => exact iff_of_true (inSync_afterSet ..) (hset (by simp))
  | updateEth e => exact iff_of_true (inSync_afterSet ..) (hset (by simp))
  | updateWifiAp a => exact iff_of_true (inSync_afterSet ..) (hset (by simp))
  | updateWifiSta sta => exact iff_of_true (inSync_afterSet ..) (hset (by simp))
  | saveWifiConfig sta => exact iff_of_true (inSync_afterSet ..) (hset (by simp))
  | updateFwUpdateUrl url =>
    -- the flag is left as it is, and a text is saved in any case
    have hjson : (exec ops k (.updateFwUpdateUrl url) readPrev s).nvs.json =
        some (k.generate (gwCfgUpdateFwUpdateUrl ops url s.store).cfg) := cbOnChangeCfg_json ..
    have hempty : (exec ops k (.updateFwUpdateUrl url) readPrev s).store.isEmpty =
        s.store.isEmpty := rfl
    unfold InSync
    rw [hjson, hempty]
    cases hflag : s.store.isEmpty with
    | true =>
      refine iff_of_false (fun h => ?_) (not_not.mpr ⟨url, rfl, hflag⟩)
      exact k.generate_ne_empty _ (Option.some.inj h)
    | false =>
      refine iff_of_true rfl ?_
      rintro ⟨-, -, h⟩
      exact absurd (hflag.symm.trans h) (by simp)

theorem execAll_snoc (calls : List (CfgOp R E A S × Bool)) (c : CfgOp R E A S × Bool)
    (s : CfgState R E A S Text GwBlob WifiBlob) :
    execAll ops k (calls ++ [c]) s = exec ops k c.1 c.2 (execAll ops k calls s) := by
  simp [execAll]

/-- **When memory and flash agree.**  In a sequence of operations, memory and flash agree after
each operation if and only if no operation saves an empty configuration. -/
theorem inSync_execAll_iff (calls : List (CfgOp R E A S × Bool))
    (s : CfgState R E A S Text GwBlob WifiBlob) :
    (∀ done c rest, calls = done ++ c :: rest → InSync k (execAll ops k (done ++ [c]) s)) ↔
      ∀ done c rest, calls = done ++ c :: rest → ¬ SavesEmpty c.1 (execAll ops k done s) := by
  refine forall_congr' fun done => forall_congr' fun c => forall_congr' fun rest =>
    imp_congr_right fun _ => ?_
  rw [execAll_snoc]
  exact inSync_exec_iff c.1 c.2 (execAll ops k done s)

/-! ## An unconfigured gateway -/

open GwCfgJson GwCfgJson.Sample

/-- A gateway after its first boot, or after its configuration has been cleared. -/
def unconfigured (d : GwCfgJson.GwCfg) :
    CfgState Ruuvi Eth WifiAp WifiSta NvsText Blob (WifiAp × WifiSta) where
  store := { cfg := toStore d, isEmpty := true }
  nvs := { json := some .empty, gwBlob := none, wifiBlob := none }

/-- When its update URL is set, NVS holds a configuration while the one in memory counts as
empty. -/
theorem fwUpdateUrl_out_of_sync :
    ∃ d, gwCfgDefaultInit param = some d ∧ InSync (settingsCodec d) (unconfigured d) ∧
      ¬ InSync (settingsCodec d) (execAll (gwCfgOps d) (settingsCodec d)
        [(.updateFwUpdateUrl "https://example.com/firmwareupdate", true)] (unconfigured d)) := by
  have hsome : (gwCfgDefaultInit param).isSome = true := by decide +kernel
  obtain ⟨d, hd⟩ := Option.isSome_iff_exists.mp hsome
  refine ⟨d, hd, rfl, fun h => ?_⟩
  exact (inSync_exec_iff _ true (unconfigured d)).mp h ⟨_, rfl, rfl⟩

end Settings
end RuuviGateway
