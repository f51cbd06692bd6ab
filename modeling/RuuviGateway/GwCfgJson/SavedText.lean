import RuuviGateway.GwCfgJson.Instance
import RuuviGateway.GwCfgJson.Ops

/-!
# The text that is saved and the comparisons

`gw_cfg_set` writes a section only if its comparison finds a difference, and whoever saves the
configuration generates its text from what is in memory.  A comparison may overlook what no
text has: the credentials of a type of authorization that is not used, addresses behind the
length of the scan filter, and some parameters of Wi-Fi.  It overlooks nothing that a text has.
-/

namespace RuuviGateway
namespace GwCfgJson

open CJson CString

/-! ## The sections -/

variable {hide : Bool}

theorem httpCustomAuth_eq_of_cmp {t : HttpAuthType} {a b : HttpAuth} (h : authCmp t a b = true) :
    gwCfgJsonAddItemsHttpCustomAuth hide t a = gwCfgJsonAddItemsHttpCustomAuth hide t b := by
  cases t <;> simp only [authCmp, Bool.and_eq_true, beq_iff_eq] at h <;>
    simp only [gwCfgJsonAddItemsHttpCustomAuth, h]

theorem remoteAuth_eq_of_cmp {t : HttpAuthType} {a b : HttpAuth} (h : authCmp t a b = true) :
    gwCfgJsonAddItemsRemoteAuth hide t a = gwCfgJsonAddItemsRemoteAuth hide t b := by
  cases t <;> simp only [authCmp, Bool.and_eq_true, beq_iff_eq] at h <;>
    simp only [gwCfgJsonAddItemsRemoteAuth, h]

theorem remote_eq_of_cmp {a b : Remote} (h : remoteCmp a b = true) :
    gwCfgJsonAddItemsRemote hide a = gwCfgJsonAddItemsRemote hide b := by
  simp only [remoteCmp, Bool.and_eq_true, beq_iff_eq] at h
  obtain ⟨⟨⟨⟨⟨⟨huse, hurl⟩, htype⟩, hauth⟩, hinterval⟩, hclient⟩, hserver⟩ := h
  rw [htype] at hauth
  simp only [gwCfgJsonAddItemsRemote, remoteAuth_eq_of_cmp hauth, huse, hurl, htype, hinterval,
    hclient, hserver]

/-- A server that is saved as the one of older firmware is recognized by what is compared. -/
theorem http_eq_of_cmp (d : Http) {a b : Http} (h : httpCmp a b = true) :
    gwCfgJsonAddItemsHttp hide d a = gwCfgJsonAddItemsHttp hide d b := by
  simp only [httpCmp, Bool.and_eq_true, beq_iff_eq] at h
  obtain ⟨⟨⟨⟨⟨⟨⟨⟨⟨⟨⟨hruuvi, huse⟩, hclient⟩, hserver⟩, hpath⟩, hquery⟩, hheaders⟩, hurl⟩, hperiod⟩,
    hformat⟩, htype⟩, hauth⟩ := h
  rw [htype] at hauth
  have hwrites : a.writesDefault = b.writesDefault := by
    simp only [Http.writesDefault, Http.isRuuviDefault, hruuvi, huse, hformat, htype, hurl]
  have hparams : gwCfgJsonAddItemsHttpCustomParams hide a =
      gwCfgJsonAddItemsHttpCustomParams hide b := by
    simp only [gwCfgJsonAddItemsHttpCustomParams, httpCustomAuth_eq_of_cmp hauth, hurl, hperiod,
      hformat, htype, hclient, hserver, hpath, hquery, hheaders]
  simp only [gwCfgJsonAddItemsHttp, httpItems, hwrites, hruuvi, huse, hparams]

section scanFilter

variable [Components]

theorem scanFilter_eq_of_cmp {a b : ScanFilter} (h : scanFilterCmp a b = true) :
    gwCfgJsonAddItemsScanFilter a = gwCfgJsonAddItemsScanFilter b := by
  simp only [scanFilterCmp, Bool.and_eq_true, beq_iff_eq, List.all_eq_true, List.mem_range] at h
  obtain ⟨⟨hallow, hlen⟩, hmacs⟩ := h
  have htake : a.scanFilterList.toList.take a.scanFilterLength =
      b.scanFilterList.toList.take b.scanFilterLength := by
    rw [← hlen]
    refine List.ext_getElem? fun k => ?_
    by_cases hk : k < a.scanFilterLength
    · rw [List.getElem?_take_of_lt hk, List.getElem?_take_of_lt hk, Vector.getElem?_toList,
        Vector.getElem?_toList]
      exact hmacs k hk
    · rw [List.getElem?_take_eq_none (by omega), List.getElem?_take_eq_none (by omega)]
  simp only [gwCfgJsonAddItemsScanFilter, hallow, htake]

end scanFilter

/-- What is not compared of the Wi-Fi sections has no item. -/
theorem wifi_eq_of_cmp {ap ap' : WifiAp} {sta sta' : WifiSta}
    (hap : wifimanConfigApCmp ap ap' = true) (hsta : wifimanConfigStaCmp sta sta' = true) :
    gwCfgJsonAddItemsWifi hide ap sta = gwCfgJsonAddItemsWifi hide ap' sta' := by
  rw [← wifimanConfigApCmp_iff.mp hap, ← wifimanConfigStaCmp_iff.mp hsta]
  rfl

/-! ## The configuration -/

section cfg

variable [Components]

/-- The text of a Ruuvi section depends on what is compared. -/
theorem generate_eq_of_cmp (d : Ruuvi) {a b : GwCfg} (h : gwCfgCmp a b = true) :
    gwCfgJsonGenerateForSaving d a = gwCfgJsonGenerateForSaving d b := by
  simp only [gwCfgCmp, gwCfgRuuviCmp, Bool.and_eq_true] at h
  obtain ⟨⟨⟨hruuvi, heth⟩, hap⟩, hsta⟩ := h
  obtain ⟨⟨⟨⟨⟨⟨⟨⟨⟨⟨⟨hremote, hhttp⟩, hstat⟩, hmqtt⟩, hlan⟩, hupdate⟩, hntp⟩, hfilter⟩, hscan⟩,
    hscanFilter⟩, hcoordinates⟩, hurl⟩ := hruuvi
  simp only [beq_iff_eq] at hcoordinates hurl
  simp only [gwCfgJsonGenerateForSaving, gwCfgJsonAddItems, remote_eq_of_cmp hremote,
    http_eq_of_cmp d.http hhttp, httpStatCmp_iff.mp hstat, mqttCmp_iff.mp hmqtt,
    lanAuthCmp_iff.mp hlan, autoUpdateCmp_iff.mp hupdate, ntpCmp_iff.mp hntp,
    filterCmp_iff.mp hfilter, scanCmp_iff.mp hscan, scanFilter_eq_of_cmp hscanFilter,
    gwCfgEthCmp_iff.mp heth, wifi_eq_of_cmp hap hsta, hcoordinates, hurl]

theorem gwCfgRuuviCmp_self (r : Ruuvi) : gwCfgRuuviCmp r r = true := by
  simp [gwCfgRuuviCmp, remoteCmp, httpCmp, httpStatCmp_iff, mqttCmp_iff, lanAuthCmp_iff,
    autoUpdateCmp_iff, ntpCmp_iff, filterCmp_iff, scanCmp_iff, scanFilterCmp, authCmp_self]

/-! ## `gw_cfg_update` -/

/-- `gw_cfg_update_status_t`. -/
structure GwCfgUpdateStatus where
  flagRuuviCfgModified : Bool
  flagEthCfgModified : Bool
  flagWifiApCfgModified : Bool
  flagWifiStaCfgModified : Bool
  deriving DecidableEq

/-- What `gw_cfg_update` returns for the new configuration `new`. -/
def gwCfgUpdateStatus (d new : GwCfg) (s : GwCfg.Store Ruuvi Eth WifiAp WifiSta) :
    GwCfgUpdateStatus where
  flagRuuviCfgModified := !(gwCfgOps d).ruuviCmp s.cfg.ruuvi new.ruuvi
  flagEthCfgModified := !(gwCfgOps d).ethCmp s.cfg.eth new.eth
  flagWifiApCfgModified := !(gwCfgOps d).apCmp s.cfg.wifiAp new.wifiAp
  flagWifiStaCfgModified := !(gwCfgOps d).staCmp s.cfg.wifiSta new.wifiSta

omit [Components] in
/-- A section that is kept compares equal to the new one, and one that is overwritten is it. -/
theorem cmp_setSection {α : Type} {cmp : α → α → Bool} (hself : ∀ v, cmp v v = true)
    (v dst : α) : cmp (GwCfg.setSection cmp (some v) dst) v = true := by
  cases hcmp : cmp dst v with
  | true => simp [GwCfg.setSection, hcmp]
  | false => simp [GwCfg.setSection, hcmp, hself]

/-- What is in memory after `gw_cfg_update` compares equal to what it was given. -/
theorem gwCfgCmp_update (d new : GwCfg) (s : GwCfg.Store Ruuvi Eth WifiAp WifiSta) :
    gwCfgCmp (ofStore (GwCfg.gwCfgUpdate (gwCfgOps d) (toStore new) s).cfg) new = true := by
  have hruuvi := cmp_setSection gwCfgRuuviCmp_self new.ruuvi s.cfg.ruuvi
  have heth := cmp_setSection (fun _ => gwCfgEthCmp_iff.mpr rfl) new.eth s.cfg.eth
  have hap := cmp_setSection wifimanConfigApCmp_self new.wifiAp s.cfg.wifiAp
  have hsta := cmp_setSection wifimanConfigStaCmp_self new.wifiSta s.cfg.wifiSta
  simp only [gwCfgCmp, Bool.and_eq_true]
  exact ⟨⟨⟨hruuvi, heth⟩, hap⟩, hsta⟩

/-- **The comparisons are sound for saving.**  Configurations that compare equal have the same
text; so what is in memory after `gw_cfg_update` has the text of what it was given, and when no
part is reported as modified the text has not changed. -/
theorem savedText_of_cmp (d : GwCfg) :
    (∀ a b, gwCfgCmp a b = true →
      gwCfgJsonGenerateForSaving d.ruuvi a = gwCfgJsonGenerateForSaving d.ruuvi b) ∧
    ∀ (new : GwCfg) (s : GwCfg.Store Ruuvi Eth WifiAp WifiSta),
      gwCfgJsonGenerateForSaving d.ruuvi
          (ofStore (GwCfg.gwCfgUpdate (gwCfgOps d) (toStore new) s).cfg) =
        gwCfgJsonGenerateForSaving d.ruuvi new ∧
      (gwCfgUpdateStatus d new s = ⟨false, false, false, false⟩ →
        gwCfgJsonGenerateForSaving d.ruuvi (ofStore s.cfg) =
          gwCfgJsonGenerateForSaving d.ruuvi new) := by
  refine ⟨fun a b h => generate_eq_of_cmp d.ruuvi h, fun new s => ⟨?_, fun hstatus => ?_⟩⟩
  · exact generate_eq_of_cmp d.ruuvi (gwCfgCmp_update d new s)
  · refine generate_eq_of_cmp d.ruuvi ?_
    simp only [gwCfgUpdateStatus, GwCfgUpdateStatus.mk.injEq, Bool.not_eq_false'] at hstatus
    simp only [gwCfgCmp, Bool.and_eq_true]
    exact ⟨⟨⟨hstatus.1, hstatus.2.1⟩, hstatus.2.2.1⟩, hstatus.2.2.2⟩

end cfg

open Sample

/-- A token that is kept under a type of authorization without one is compared by neither. -/
theorem savedText_of_unusedToken :
    ∃ d, gwCfgDefaultInit param = some d ∧
      gwCfgJsonGenerateForSaving d.ruuvi d =
        gwCfgJsonGenerateForSaving d.ruuvi { d with ruuvi := { d.ruuvi with
          http := { d.ruuvi.http with
            auth := HttpAuth.setToken "token".toList d.ruuvi.http.auth } } } := by
  have hrun : (do
      let d ← gwCfgDefaultInit param
      some (gwCfgCmp d { d with ruuvi := { d.ruuvi with
        http := { d.ruuvi.http with
          auth := HttpAuth.setToken "token".toList d.ruuvi.http.auth } } })) = some true := by
    decide +kernel
  simp only [Option.bind_eq_bind, Option.bind_eq_some_iff, Option.some.injEq] at hrun
  obtain ⟨d, hd, hcmp⟩ := hrun
  exact ⟨d, hd, (savedText_of_cmp d).1 _ _ hcmp⟩

end GwCfgJson
end RuuviGateway
