import RuuviGateway.GwCfg.Writers
import RuuviGateway.GwCfgJson.Blob
import RuuviGateway.GwCfgJson.RoundTrip
import RuuviGateway.Settings.Nvs

/-!
# The JSON of the writers and of the settings

The writers of `gw_cfg.c` and the settings in NVS are modelled over what they use of other
modules.  Here this is the parser, the generator, the comparisons and the conversion of the
blob.  A document on which the parser leaves its memory changes nothing here.

Whether a document can be parsed does not depend on what it is parsed over; so neither does
whether it sets `remote_cfg_use`.
-/

namespace RuuviGateway
namespace GwCfgJson

open CJson CString

variable {j : Json}

/-! ## Documents that can be parsed -/

theorem parseRemote_isSome (r : Remote) : (gwCfgJsonParseRemote j r).isSome =
    (jsonWrapGetUint16Val j "remote_cfg_refresh_interval_minutes").isSome := by
  unfold gwCfgJsonParseRemote getUint16Val
  cases jsonWrapGetUint16Val j "remote_cfg_refresh_interval_minutes" <;> rfl

theorem parseFilter_isSome (f : Filter) : (gwCfgJsonParseFilter j f).isSome =
    (jsonWrapGetUint16Val j "company_id").isSome := by
  unfold gwCfgJsonParseFilter getUint16Val
  cases jsonWrapGetUint16Val j "company_id" <;> rfl

theorem parseAutoUpdate_isSome (a : AutoUpdate) : (gwCfgJsonParseAutoUpdate j a).isSome =
    ((jsonWrapGetUint8Val j "auto_update_weekdays_bitmask").isSome &&
      (jsonWrapGetUint8Val j "auto_update_interval_from").isSome &&
      (jsonWrapGetUint8Val j "auto_update_interval_to").isSome &&
      (jsonWrapGetInt8Val j "auto_update_tz_offset_hours").isSome) := by
  unfold gwCfgJsonParseAutoUpdate getUint8Val getInt8Val
  cases jsonWrapGetUint8Val j "auto_update_weekdays_bitmask" <;>
    cases jsonWrapGetUint8Val j "auto_update_interval_from" <;>
    cases jsonWrapGetUint8Val j "auto_update_interval_to" <;>
    cases jsonWrapGetInt8Val j "auto_update_tz_offset_hours" <;> rfl

theorem parseRemote_generated_isSome {hide : Bool} {c : Remote}
    (h : Has j (gwCfgJsonAddItemsRemote hide c)) (old : Remote) :
    (gwCfgJsonParseRemote j old).isSome = true := by
  simp only [gwCfgJsonAddItemsRemote, has_append, has_cons, has_nil, and_true] at h
  have hread := getUint16Val_of_number h.2.2.2 0
  simp only [getUint16Val, Option.map_eq_some_iff] at hread
  obtain ⟨x, hx, -⟩ := hread
  rw [parseRemote_isSome, hx, Option.isSome_some]

theorem parseWifiAp_generated_isSome {c : WifiAp} (h : Has j (wifiApConfigItems false c))
    (old : WifiAp) : (gwCfgJsonParseWifiApConfig j old).isSome = true := by
  have hchannel : ∃ v : UInt8,
      getObjectItem j "channel" = some (.number ((v.toNat : Int) : ℚ)) := by
    simp only [wifiApConfigItems, has_append, has_cons, has_nil, and_true] at h
    by_cases hzero : c.channel ≠ 0
    · rw [if_pos hzero] at h
      exact ⟨c.channel, h.2⟩
    · rw [if_neg hzero] at h
      exact ⟨1, h.2⟩
  obtain ⟨v, hv⟩ := hchannel
  simp only [gwCfgJsonParseWifiApConfig, getUint8Val_of_number hv, Option.bind_eq_bind,
    Option.bind_some, Option.isSome_some]

section cfg

variable [Components]

theorem parseHttp_isSome (h : Http) : (gwCfgJsonParseHttp j h).isSome =
    (jsonWrapGetUint32Val j "http_period").isSome := by
  unfold gwCfgJsonParseHttp getUint32Val
  cases jsonWrapGetUint32Val j "http_period" <;> rfl

theorem parseMqtt_isSome (dflt : Option Mqtt) (m : Mqtt) :
    (gwCfgJsonParseMqtt dflt j m).isSome = ((jsonWrapGetUint16Val j "mqtt_port").isSome &&
      (jsonWrapGetUint32Val j "mqtt_sending_interval").isSome) := by
  unfold gwCfgJsonParseMqtt getUint16Val getUint32Val
  cases jsonWrapGetUint16Val j "mqtt_port" <;>
    cases jsonWrapGetUint32Val j "mqtt_sending_interval" <;> rfl

theorem parseScanFilterList_isSome (items : List Json) (i : Nat) (list list' : Vector MacAddr 100) :
    (parseScanFilterList items i list).isSome = (parseScanFilterList items i list').isSome := by
  induction items generalizing i list list' with
  | nil => rfl
  | cons item items ih =>
    unfold parseScanFilterList
    split
    · exact ih _ _ _
    · rfl

theorem parseScanFilter_isSome (f f' : ScanFilter) :
    (gwCfgJsonParseScanFilter j f).isSome = (gwCfgJsonParseScanFilter j f').isSome := by
  unfold gwCfgJsonParseScanFilter
  cases getObjectItem j "scan_filter_list" with
  | none => rfl
  | some v =>
    have h := parseScanFilterList_isSome (arrayItems v) 0 f.scanFilterList f'.scanFilterList
    cases hl : parseScanFilterList (arrayItems v) 0 f.scanFilterList <;>
      cases hl' : parseScanFilterList (arrayItems v) 0 f'.scanFilterList <;>
      simp_all

theorem parseCjsonRuuviCfg_isSome (dflt : Option Ruuvi) (r r' : Ruuvi) :
    (gwCfgJsonParseCjsonRuuviCfg dflt j r).isSome =
      (gwCfgJsonParseCjsonRuuviCfg dflt j r').isSome := by
  have hsections : ∀ r, (gwCfgJsonParseCjsonRuuviCfg dflt j r).isSome =
      ((gwCfgJsonParseRemote j r.remote).isSome && (gwCfgJsonParseHttp j r.http).isSome &&
        (gwCfgJsonParseMqtt (dflt.map Ruuvi.mqtt) j r.mqtt).isSome &&
        (gwCfgJsonParseAutoUpdate j r.autoUpdate).isSome &&
        (gwCfgJsonParseFilter j r.filter).isSome &&
        (gwCfgJsonParseScanFilter j r.scanFilter).isSome) := by
    intro r
    unfold gwCfgJsonParseCjsonRuuviCfg
    cases gwCfgJsonParseRemote j r.remote <;> cases gwCfgJsonParseHttp j r.http <;>
      cases gwCfgJsonParseMqtt (dflt.map Ruuvi.mqtt) j r.mqtt <;>
      cases gwCfgJsonParseAutoUpdate j r.autoUpdate <;> cases gwCfgJsonParseFilter j r.filter <;>
      cases gwCfgJsonParseScanFilter j r.scanFilter <;> rfl
  rw [hsections, hsections]
  simp only [parseRemote_isSome, parseHttp_isSome, parseMqtt_isSome, parseAutoUpdate_isSome,
    parseFilter_isSome]
  rw [parseScanFilter_isSome r.scanFilter r'.scanFilter]

/-! ## Generated documents -/

theorem parseHttp_generated_isSome {hide : Bool} {d c : Http}
    (h : Has j (gwCfgJsonAddItemsHttp hide d c)) (old : Http) :
    (gwCfgJsonParseHttp j old).isSome = true := by
  have hperiod : ∃ v : UInt32,
      getObjectItem j "http_period" = some (.number ((v.toNat : Int) : ℚ)) := by
    unfold gwCfgJsonAddItemsHttp at h
    split at h <;>
      simp only [httpItems, gwCfgJsonAddItemsHttpCustomParams, has_append, has_cons] at h
    · exact ⟨d.httpPeriod, h.2.1.1.2.1⟩
    · exact ⟨c.httpPeriod, h.2.1.1.2.1⟩
  obtain ⟨v, hv⟩ := hperiod
  have hread := getUint32Val_of_number hv 0
  rw [parseHttp_isSome]
  simp only [getUint32Val, Option.map_eq_some_iff] at hread
  obtain ⟨x, hx, -⟩ := hread
  rw [hx, Option.isSome_some]

theorem parseMqtt_generated_isSome {hide : Bool} {c : Mqtt}
    (h : Has j (gwCfgJsonAddItemsMqtt hide c)) (dflt : Option Mqtt) (old : Mqtt) :
    (gwCfgJsonParseMqtt dflt j old).isSome = true := by
  simp only [gwCfgJsonAddItemsMqtt, has_append, has_cons, has_nil, and_true] at h
  obtain ⟨⟨⟨-, -, -, -, -, hport, hinterval, -⟩, -⟩, -⟩ := h
  have hport' := getUint16Val_of_number hport 0
  have hinterval' := getUint32Val_of_number hinterval 0
  simp only [getUint16Val, getUint32Val, Option.map_eq_some_iff] at hport' hinterval'
  obtain ⟨x, hx, -⟩ := hport'
  obtain ⟨y, hy, -⟩ := hinterval'
  rw [parseMqtt_isSome, hx, hy]
  rfl

theorem parseScanFilterList_isSome_of_length (items : List Json) (i : Nat)
    (list : Vector MacAddr 100) (h : i + items.length ≤ 100) :
    (parseScanFilterList items i list).isSome = true := by
  induction items generalizing i list with
  | nil => rfl
  | cons item items ih =>
    rw [List.length_cons] at h
    rw [parseScanFilterList, dif_pos (by omega)]
    exact ih (i + 1) _ (by omega)

theorem parseScanFilter_generated_isSome {c : ScanFilter}
    (h : Has j (gwCfgJsonAddItemsScanFilter c)) (old : ScanFilter) :
    (gwCfgJsonParseScanFilter j old).isSome = true := by
  simp only [gwCfgJsonAddItemsScanFilter, has_cons, has_nil, and_true] at h
  have hsome := parseScanFilterList_isSome_of_length
    ((c.scanFilterList.toList.take c.scanFilterLength).map
      fun a => Json.string (macAddressToStr a)) 0 old.scanFilterList
    (by simp only [List.length_map, List.length_take, Vector.length_toList]; omega)
  obtain ⟨list, hlist⟩ := Option.isSome_iff_exists.mp hsome
  simp only [gwCfgJsonParseScanFilter, h.2, arrayItems, hlist, Option.bind_eq_bind,
    Option.bind_some, Option.isSome_some]

/-- A document is parsed without fault if it has these sections as they are generated: numbers
where the parser takes numbers, and a list that is short enough. -/
theorem parse_of_has {ap : WifiAp} {c : Ruuvi}
    (hap : getObjectItem j "wifi_ap_config" = some (.object (wifiApConfigItems false ap)))
    (hremote : Has j (gwCfgJsonAddItemsRemote false c.remote)) {d : Ruuvi}
    (hhttp : Has j (gwCfgJsonAddItemsHttp false d.http c.http))
    (hmqtt : Has j (gwCfgJsonAddItemsMqtt false c.mqtt))
    (hupdate : Has j (gwCfgJsonAddItemsAutoUpdate c.autoUpdate))
    (hfilter : Has j (gwCfgJsonAddItemsFilter c.filter))
    (hscanFilter : Has j (gwCfgJsonAddItemsScanFilter c.scanFilter)) (old : GwCfg) :
    ∃ r, gwCfgJsonParse (some d) j old = some r := by
  obtain ⟨remote, hremote'⟩ :=
    Option.isSome_iff_exists.mp (parseRemote_generated_isSome hremote old.ruuvi.remote)
  obtain ⟨http, hhttp'⟩ :=
    Option.isSome_iff_exists.mp (parseHttp_generated_isSome hhttp old.ruuvi.http)
  obtain ⟨mqtt, hmqtt'⟩ := Option.isSome_iff_exists.mp
    (parseMqtt_generated_isSome hmqtt ((some d).map Ruuvi.mqtt) old.ruuvi.mqtt)
  obtain ⟨scanFilter, hscanFilter'⟩ :=
    Option.isSome_iff_exists.mp (parseScanFilter_generated_isSome hscanFilter old.ruuvi.scanFilter)
  have hapNames : ((names (wifiApConfigItems false ap)).map foldCase).Nodup := by
    change (["password", "channel"].map foldCase).Nodup
    decide
  obtain ⟨ap, hap'⟩ := Option.isSome_iff_exists.mp
    (parseWifiAp_generated_isSome (has_object hapNames) old.wifiAp)
  simp only [gwCfgJsonParse, gwCfgJsonParseCjsonRuuviCfg, hremote', hhttp', hmqtt',
    parseAutoUpdate_generated hupdate, parseFilter_generated hfilter, hscanFilter', hap,
    hap', Option.bind_eq_bind, Option.bind_some]
  exact ⟨_, rfl⟩

/-- What is generated is parsed without fault. -/
theorem parse_generated (d c old : GwCfg) :
    ∃ r, gwCfgJsonParse (some d.ruuvi) (gwCfgJsonGenerateForSaving d.ruuvi c) old = some r := by
  have hall := has_saving d.ruuvi c
  simp only [gwCfgJsonAddItems, gwCfgJsonAddItemsWifi, has_append, has_cons, has_nil,
    and_true] at hall
  obtain ⟨⟨⟨⟨⟨⟨⟨⟨⟨⟨⟨⟨⟨-, hap⟩, -⟩, hremote⟩, hhttp⟩, -⟩, hmqtt⟩, -⟩, hupdate⟩, -⟩, hfilter⟩, -⟩,
    hscanFilter⟩, -⟩ := hall
  exact parse_of_has hap hremote hhttp hmqtt hupdate hfilter hscanFilter old

/-! ## The writers -/

/-- `gw_cfg_json_parse_cjson` for the Ruuvi section. -/
def parseRuuviOrKeep (d : GwCfg) (j : Json) (r : Ruuvi) : Ruuvi :=
  (gwCfgJsonParseCjsonRuuviCfg (some d.ruuvi) j r).getD r

/-- `use_remote_cfg` is set. -/
def Ruuvi.setUseRemoteCfg (b : Bool) (r : Ruuvi) : Ruuvi :=
  { r with remote := { r.remote with useRemoteCfg := b } }

theorem useRemoteCfg_parseRuuvi (d : GwCfg) (j : Json) (r r' : Ruuvi) :
    (parseRuuviOrKeep d j (r.setUseRemoteCfg false)).remote.useRemoteCfg =
      (parseRuuviOrKeep d j (r'.setUseRemoteCfg false)).remote.useRemoteCfg := by
  have hread : ∀ r s, gwCfgJsonParseCjsonRuuviCfg (some d.ruuvi) j (Ruuvi.setUseRemoteCfg false r) =
      some s → s.remote.useRemoteCfg = getBoolVal j "remote_cfg_use" false := by
    intro r s h
    obtain ⟨hremote, -⟩ := gwCfgJsonParseCjsonRuuviCfg_eq_some.mp h
    simp only [gwCfgJsonParseRemote, Option.bind_eq_bind, Option.bind_eq_some_iff,
      Option.some.injEq] at hremote
    obtain ⟨interval, -, hs⟩ := hremote
    rw [← hs]
    rfl
  have hsome := parseCjsonRuuviCfg_isSome (j := j) (some d.ruuvi) (r.setUseRemoteCfg false)
    (r'.setUseRemoteCfg false)
  unfold parseRuuviOrKeep
  cases h : gwCfgJsonParseCjsonRuuviCfg (some d.ruuvi) j (r.setUseRemoteCfg false) with
  | some s =>
    cases h' : gwCfgJsonParseCjsonRuuviCfg (some d.ruuvi) j (r'.setUseRemoteCfg false) with
    | some s' => exact (hread r s h).trans (hread r' s' h').symm
    | none => simp [h, h'] at hsome
  | none =>
    cases h' : gwCfgJsonParseCjsonRuuviCfg (some d.ruuvi) j (r'.setUseRemoteCfg false) with
    | some s' => simp [h, h'] at hsome
    | none => rfl

/-- What the writers of `gw_cfg.c` compute, over the default configuration `d`. -/
def gwCfgOps (d : GwCfg) : GwCfg.Ops Ruuvi Eth WifiAp WifiSta Json Remote where
  ruuviCmp := gwCfgRuuviCmp
  ethCmp := gwCfgEthCmp
  apCmp := wifimanConfigApCmp
  staCmp := wifimanConfigStaCmp
  parseRuuvi := parseRuuviOrKeep d
  parseEth := gwCfgJsonParseEth
  parseAp j w :=
    match getObjectItem j "wifi_ap_config" with
    | none => w
    | some ap => (gwCfgJsonParseWifiApConfig ap w).getD w
  parseSta j w :=
    match getObjectItem j "wifi_sta_config" with
    | none => w
    | some sta => gwCfgJsonParseWifiStaConfig sta w
  getUseEth j := jsonWrapGetBoolVal j "use_eth"
  default := { ruuvi := d.ruuvi, eth := d.eth, wifiAp := d.wifiAp, wifiSta := d.wifiSta }
  setUseEth b e := { e with useEth := b }
  eq_of_ethCmp _ _ h := gwCfgEthCmp_iff.mp h
  setUseEth_setUseEth _ _ _ := rfl
  setFwUpdateUrl url r := { r with fwUpdateUrl := snprintf 256 url.toList }
  remote := Ruuvi.remote
  setUseRemoteCfg := Ruuvi.setUseRemoteCfg
  useRemoteCfg r := r.remote.useRemoteCfg
  useRemoteCfg_parse := useRemoteCfg_parseRuuvi d
  hasSsid w := !w.ssid.chars.isEmpty

/-! ## The settings -/

/-- A string in NVS: the empty one, a document, or anything else. -/
inductive NvsText where
  | empty
  | json (document : Json)
  | other (text : String)
  deriving DecidableEq

/-- A configuration of the writers, as the generator takes it. -/
def ofStore (c : GwCfg.Cfg Ruuvi Eth WifiAp WifiSta) : GwCfg where
  ruuvi := c.ruuvi
  eth := c.eth
  wifiAp := c.wifiAp
  wifiSta := c.wifiSta

/-- A configuration, as the writers keep it. -/
def toStore (c : GwCfg) : GwCfg.Cfg Ruuvi Eth WifiAp WifiSta where
  ruuvi := c.ruuvi
  eth := c.eth
  wifiAp := c.wifiAp
  wifiSta := c.wifiSta

/-- What the settings use, over the default configuration `d`; the blob of the Wi-Fi component
is the configuration of its access point and of its station. -/
def settingsCodec (d : GwCfg) :
    Settings.Codec NvsText (GwCfg.Cfg Ruuvi Eth WifiAp WifiSta) Blob (WifiAp × WifiSta) where
  empty := .empty
  generate c := .json (gwCfgJsonGenerateForSaving d.ruuvi (ofStore c))
  parse
    | .json j => (gwCfgJsonParse (some d.ruuvi) j d).map toStore
    | .empty => none
    | .other _ => none
  default := toStore d
  isBlobValid := Blob.isValid
  convertBlob b := toStore (gwCfgBlobConvert d b)
  setWifi w c := { c with wifiAp := w.1, wifiSta := w.2 }
  generate_ne_empty _ h := by cases h
  parse_generate c := by
    obtain ⟨r, hr⟩ := parse_generated d (ofStore c) d
    exact ⟨toStore r, congrArg (Option.map toStore) hr⟩

end cfg

end GwCfgJson
end RuuviGateway
