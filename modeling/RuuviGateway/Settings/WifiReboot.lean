import RuuviGateway.Settings.InSync

/-!
# The credentials of a network after a reboot

In `wifi_sta_config_t` the SSID is an array of 32 bytes and the password, behind it, one of 64.
The Wi-Fi driver takes an SSID or a password that fills its array; then no NUL follows it.  The
comparison and the generator read both as C strings, which go on into whatever comes next, and
the parser copies only what leaves room for a NUL.

In the other modules the configuration of the station has both as C strings with their NUL.
Here it is the memory of the structure; the operations and the settings are those of
`gwCfgOps` and `settingsCodec`, with this station in place of the other.
-/

namespace RuuviGateway
namespace Settings

open CJson CString GwCfg GwCfgJson

/-! ## The station in memory -/

/-- `sizeof(wifi_sta_config_t)`. -/
abbrev staConfigSize : Nat := 132

/-- `sizeof(ssid)`, which is also the offset of the password. -/
abbrev ssidSize : Nat := 32

/-- `sizeof(password)`. -/
abbrev passwordSize : Nat := 64

/-- `wifiman_config_sta_t`: the memory of `wifi_config_sta`, and the members of
`wifi_settings_sta`. -/
structure WifimanConfigSta where
  config : Mem staConfigSize
  staPowerSave : Bool
  staStaticIp : Bool
  staticIp : BitVec 32
  staticNetmask : BitVec 32
  staticGw : BitVec 32
  deriving DecidableEq

/-- The SSID: the bytes of its array, up to a NUL if there is one. -/
def WifimanConfigSta.ssid (w : WifimanConfigSta) : List Char :=
  str (w.config.bytes.take ssidSize)

/-- The password, in the same way. -/
def WifimanConfigSta.password (w : WifimanConfigSta) : List Char :=
  str ((w.config.bytes.drop ssidSize).take passwordSize)

/-- Offset and size of the other members that are compared: `scan_method`, `bssid_set`,
`bssid`, `channel`, `listen_interval`, `sort_method`, `threshold.rssi`, `threshold.authmode`,
`pmf_cfg.capable`, `pmf_cfg.required`. -/
def comparedMembers : List (Nat × Nat) :=
  [(96, 4), (100, 1), (101, 6), (107, 1), (108, 2), (112, 4), (116, 1), (120, 4), (124, 1),
    (125, 1)]

/-- `wifiman_config_cmp_sta_config`. -/
def wifimanConfigCmpStaConfig (a b : Mem staConfigSize) : Bool :=
  a.read 0 == b.read 0 && a.read ssidSize == b.read ssidSize &&
    comparedMembers.all fun m => (a.bytes.drop m.1).take m.2 == (b.bytes.drop m.1).take m.2

/-- `wifiman_config_sta_cmp`. -/
def WifimanConfigSta.cmp (a b : WifimanConfigSta) : Bool :=
  wifimanConfigCmpStaConfig a.config b.config && a.staPowerSave == b.staPowerSave &&
    a.staStaticIp == b.staStaticIp && a.staticIp == b.staticIp &&
    a.staticNetmask == b.staticNetmask && a.staticGw == b.staticGw

/-- `gw_cfg_json_add_items_wifi_sta_config`: the object of that name. -/
def WifimanConfigSta.items (hide : Bool) (w : WifimanConfigSta) : List (String × Json) :=
  ("ssid", .string (w.config.read 0)) ::
    unlessHidden hide [("password", .string (w.config.read ssidSize))]

/-- `json_wrap_copy_string_val` into the array at an offset. -/
def copyStringValAt {n : Nat} (j : Json) (name : String) (off size : Nat)
    (h : 0 < size ∧ off + size ≤ n) (m : Mem n) : Mem n :=
  match (getObjectItem j name).bind getStringValue with
  | none => m
  | some s => m.write off size h s

/-- `gw_cfg_json_parse_wifi_sta_config`. -/
def WifimanConfigSta.parse (j : Json) (w : WifimanConfigSta) : WifimanConfigSta :=
  let config := copyStringValAt j "ssid" 0 ssidSize (by decide) w.config
  { w with config := copyStringValAt j "password" ssidSize passwordSize (by decide) config }

/-- The call of `gw_cfg_json_parse_wifi_sta_config` in `gw_cfg_json_parse_cjson`. -/
def parseSta (j : Json) (w : WifimanConfigSta) : WifimanConfigSta :=
  match getObjectItem j "wifi_sta_config" with
  | none => w
  | some sta => w.parse sta

/-! ## The configuration -/

section cfg

variable [Components]

/-- `gw_cfg_json_add_items` for saving. -/
def staItems (dflt : Ruuvi) (c : Cfg Ruuvi Eth WifiAp WifimanConfigSta) : List (String × Json) :=
  [("wifi_sta_config", .object (c.wifiSta.items false)),
      ("wifi_ap_config", .object (wifiApConfigItems false c.wifiAp))] ++
    gwCfgJsonAddItemsEth c.eth ++
    gwCfgJsonAddItemsRemote false c.ruuvi.remote ++
    gwCfgJsonAddItemsHttp false dflt.http c.ruuvi.http ++
    gwCfgJsonAddItemsHttpStat false c.ruuvi.httpStat ++
    gwCfgJsonAddItemsMqtt false c.ruuvi.mqtt ++
    gwCfgJsonAddItemsLanAuth false dflt.lanAuth c.ruuvi.lanAuth ++
    gwCfgJsonAddItemsAutoUpdate c.ruuvi.autoUpdate ++
    gwCfgJsonAddItemsNtp c.ruuvi.ntp ++
    gwCfgJsonAddItemsFilter c.ruuvi.filter ++
    gwCfgJsonAddItemsScan c.ruuvi.scan ++
    gwCfgJsonAddItemsScanFilter c.ruuvi.scanFilter ++
    [("coordinates", Buf.json c.ruuvi.coordinates),
      ("fw_update_url", Buf.json c.ruuvi.fwUpdateUrl)]

/-- The saved document has its members. -/
theorem has_staItems (d : GwCfg) (c : Cfg Ruuvi Eth WifiAp WifimanConfigSta) :
    Has (.object (staItems d.ruuvi c)) (staItems d.ruuvi c) := by
  have hnames : names (staItems d.ruuvi c) = names (gwCfgJsonAddItems false d.ruuvi
      { ruuvi := c.ruuvi, eth := c.eth, wifiAp := c.wifiAp, wifiSta := d.wifiSta }) := rfl
  refine has_object (List.Nodup.sublist ?_ (itemNames_nodup false))
  rw [hnames]
  exact ((names_items_sublist false d.ruuvi _).trans (List.sublist_append_right _ _)).map _

/-- `gwCfgOps`, with the default station `dsta`. -/
def staOps (d : GwCfg) (dsta : WifimanConfigSta) :
    GwCfg.Ops Ruuvi Eth WifiAp WifimanConfigSta Json Remote :=
  { gwCfgOps d with
    staCmp := WifimanConfigSta.cmp
    parseSta := parseSta
    default := { ruuvi := d.ruuvi, eth := d.eth, wifiAp := d.wifiAp, wifiSta := dsta }
    hasSsid := fun w => w.config.bytes.head? != some nul }

/-- What is read of a document or a blob, with the station `sta`. -/
def withSta (sta : WifimanConfigSta) (c : GwCfg) : Cfg Ruuvi Eth WifiAp WifimanConfigSta where
  ruuvi := c.ruuvi
  eth := c.eth
  wifiAp := c.wifiAp
  wifiSta := sta

/-- `settingsCodec`, with the default station `dsta`. -/
def staCodec (d : GwCfg) (dsta : WifimanConfigSta) :
    Codec NvsText (Cfg Ruuvi Eth WifiAp WifimanConfigSta) Blob (WifiAp × WifimanConfigSta) where
  empty := .empty
  generate c := .json (.object (staItems d.ruuvi c))
  parse
    | .json j => (gwCfgJsonParse (some d.ruuvi) j d).map (withSta (parseSta j dsta))
    | .empty => none
    | .other _ => none
  default := withSta dsta d
  isBlobValid := Blob.isValid
  convertBlob b := withSta dsta (gwCfgBlobConvert d b)
  setWifi w c := { c with wifiAp := w.1, wifiSta := w.2 }
  generate_ne_empty _ h := by cases h
  parse_generate c := by
    have hall := has_staItems d c
    generalize Json.object (staItems d.ruuvi c) = j at hall
    simp only [staItems, has_append, has_cons, has_nil, and_true] at hall
    obtain ⟨⟨⟨⟨⟨⟨⟨⟨⟨⟨⟨⟨⟨-, hap⟩, -⟩, hremote⟩, hhttp⟩, -⟩, hmqtt⟩, -⟩, hupdate⟩, -⟩, hfilter⟩, -⟩,
      hscanFilter⟩, -⟩ := hall
    obtain ⟨r, hr⟩ := parse_of_has hap hremote hhttp hmqtt hupdate hfilter hscanFilter d
    exact ⟨withSta (parseSta j dsta) r, congrArg (Option.map _) hr⟩

/-! ## Reading no byte beyond the arrays -/

/-- What the comparison with the old configuration and the generator read lies in the arrays;
`kept` is the station that the configuration holds after the comparison.  The passwords are
compared only if the names agree. -/
structure ReadsInArrays (old new kept : Mem staConfigSize) : Prop where
  cmpSsid : strcmpReads old.bytes new.bytes ≤ ssidSize
  cmpPassword : old.read 0 = new.read 0 →
    strcmpReads (old.bytes.drop ssidSize) (new.bytes.drop ssidSize) ≤ passwordSize
  generateSsid : (kept.read 0).length + 1 ≤ ssidSize
  generatePassword : (kept.read ssidSize).length + 1 ≤ passwordSize

/-- Every operation of NVS and every allocation works. -/
def JsonFaults.none : JsonFaults := ⟨true, true, true, true⟩

variable (d : GwCfg) (dsta : WifimanConfigSta) (readPrev : Bool)

/-- `cb_save_wifi_config`. -/
def cbSaveWifiConfig (w : WifimanConfigSta)
    (s : CfgState Ruuvi Eth WifiAp WifimanConfigSta NvsText Blob (WifiAp × WifimanConfigSta)) :
    CfgState Ruuvi Eth WifiAp WifimanConfigSta NvsText Blob (WifiAp × WifimanConfigSta) :=
  exec (staOps d dsta) (staCodec d dsta) (.saveWifiConfig w) readPrev s

/-- The credentials of `w`, saved in the state `s`, are those that the next boot loads from the
text in NVS, and no byte beyond the arrays has been read. -/
structure SurvivesReboot (w : WifimanConfigSta)
    (s : CfgState Ruuvi Eth WifiAp WifimanConfigSta NvsText Blob (WifiAp × WifimanConfigSta)) :
    Prop where
  loaded : ∃ c, settingsGetGwCfgFromNvs (staCodec d dsta) .none
    (cbSaveWifiConfig d dsta readPrev w s).nvs = (.ok, c) ∧
    c.wifiSta.ssid = w.ssid ∧ c.wifiSta.password = w.password
  reads : ReadsInArrays s.store.cfg.wifiSta.config w.config
    (cbSaveWifiConfig d dsta readPrev w s).store.cfg.wifiSta.config

end cfg

/-! ## The C strings of the station -/

variable {w : WifimanConfigSta}

theorem ssid_eq (w : WifimanConfigSta) : w.ssid = (w.config.read 0).take ssidSize :=
  str_take _ _

theorem password_eq (w : WifimanConfigSta) :
    w.password = (w.config.read ssidSize).take passwordSize :=
  str_take _ _

theorem ssid_length (w : WifimanConfigSta) :
    w.ssid.length < ssidSize ↔ (w.config.read 0).length < ssidSize := by
  rw [ssid_eq, List.length_take]
  omega

theorem password_length (w : WifimanConfigSta) :
    w.password.length < passwordSize ↔ (w.config.read ssidSize).length < passwordSize := by
  rw [password_eq, List.length_take]
  omega

/-- A station that compares equal is kept, and the C strings of the arrays are the same. -/
theorem kept_read (old w : WifimanConfigSta) {off : Nat} (hoff : off = 0 ∨ off = ssidSize) :
    (setSection WifimanConfigSta.cmp (some w) old).config.read off = w.config.read off := by
  cases hcmp : old.cmp w with
  | false => simp only [setSection, hcmp, Bool.not_false, if_true]
  | true =>
    simp only [setSection, hcmp, Bool.not_true, Bool.false_eq_true, if_false]
    simp only [WifimanConfigSta.cmp, wifimanConfigCmpStaConfig, Bool.and_eq_true,
      beq_iff_eq] at hcmp
    obtain ⟨⟨⟨⟨⟨⟨⟨hssid, hpassword⟩, -⟩, -⟩, -⟩, -⟩, -⟩, -⟩ := hcmp
    rcases hoff with rfl | rfl
    · exact hssid
    · exact hpassword

/-- What the parser leaves in the arrays of a station with these C strings: each without the
byte that a NUL takes. -/
theorem parse_items {sta : Json} {v : WifimanConfigSta} (h : Has sta (v.items false))
    (old : WifimanConfigSta) :
    (old.parse sta).ssid = (v.config.read 0).take (ssidSize - 1) ∧
      (old.parse sta).password = (v.config.read ssidSize).take (passwordSize - 1) := by
  simp only [WifimanConfigSta.items, unlessHidden, Bool.false_eq_true, if_false, has_cons,
    has_nil, and_true] at h
  have hconfig : (old.parse sta).config =
      (old.config.write 0 ssidSize (by decide) (v.config.read 0)).write ssidSize passwordSize
        (by decide) (v.config.read ssidSize) := by
    simp only [WifimanConfigSta.parse, copyStringValAt, h.1, h.2, Option.bind_some,
      getStringValue]
  have hwritten : ∀ off size : Nat, written size (v.config.read off) =
      (v.config.read off).take (size - 1) := fun off size => by
    rw [written, str_eq_self (v.config.nul_notMem_read off)]
  have hssid : (old.parse sta).config.read 0 = (v.config.read 0).take (ssidSize - 1) := by
    have hself := old.config.read_write_self
      (show 0 < ssidSize ∧ 0 + ssidSize ≤ staConfigSize by decide) (v.config.read 0)
    rw [hwritten] at hself
    rw [hconfig, Mem.read_write_of_lt, hself]
    rw [hself, List.length_take, Nat.zero_add]
    exact Nat.lt_of_le_of_lt (Nat.min_le_left _ _) (by decide)
  have hpassword : (old.parse sta).config.read ssidSize =
      (v.config.read ssidSize).take (passwordSize - 1) := by
    rw [hconfig, Mem.read_write_self, hwritten]
  rw [ssid_eq, password_eq, hssid, hpassword, List.take_take, List.take_take]
  exact ⟨rfl, rfl⟩

section cfg

variable [Components]

variable (d : GwCfg) (dsta : WifimanConfigSta) (readPrev : Bool) (w : WifimanConfigSta)
  (s : CfgState Ruuvi Eth WifiAp WifimanConfigSta NvsText Blob (WifiAp × WifimanConfigSta))

/-- After `cb_save_wifi_config` the configuration has the C strings of the new station. -/
theorem cbSaveWifiConfig_read {off : Nat} (hoff : off = 0 ∨ off = ssidSize) :
    (cbSaveWifiConfig d dsta readPrev w s).store.cfg.wifiSta.config.read off =
      w.config.read off := by
  have hsta : (cbSaveWifiConfig d dsta readPrev w s).store.cfg.wifiSta =
      setSection WifimanConfigSta.cmp (some w) s.store.cfg.wifiSta := by
    simp only [cbSaveWifiConfig, exec, afterSet, GwCfg.gwCfgUpdateWifiStaConfig, GwCfg.gwCfgSet]
    split <;> rfl
  rw [hsta]
  exact kept_read _ w hoff

/-- The text that the parser is given has been generated from this configuration. -/
theorem cbSaveWifiConfig_json :
    (cbSaveWifiConfig d dsta readPrev w s).nvs.json =
      some ((staCodec d dsta).generate (cbSaveWifiConfig d dsta readPrev w s).store.cfg) := by
  have hsync : InSync (staCodec d dsta) (cbSaveWifiConfig d dsta readPrev w s) :=
    inSync_afterSet ..
  have hempty : (cbSaveWifiConfig d dsta readPrev w s).store.isEmpty = false := rfl
  unfold InSync at hsync
  rw [hsync, hempty]
  rfl

/-- What is loaded: each C string without the byte that a NUL takes. -/
theorem loaded_cbSaveWifiConfig :
    ∃ c, settingsGetGwCfgFromNvs (staCodec d dsta) .none
        (cbSaveWifiConfig d dsta readPrev w s).nvs = (.ok, c) ∧
      c.wifiSta.ssid = (w.config.read 0).take (ssidSize - 1) ∧
      c.wifiSta.password = (w.config.read ssidSize).take (passwordSize - 1) := by
  have hjson := cbSaveWifiConfig_json d dsta readPrev w s
  have hread := fun (off : Nat) (hoff : off = 0 ∨ off = ssidSize) =>
    cbSaveWifiConfig_read d dsta readPrev w s hoff
  generalize cbSaveWifiConfig d dsta readPrev w s = s' at hjson hread
  have hsta : getObjectItem (.object (staItems d.ruuvi s'.store.cfg)) "wifi_sta_config" =
      some (.object (s'.store.cfg.wifiSta.items false)) :=
    (has_staItems d s'.store.cfg).get (by simp [staItems])
  have hnames : ((names (s'.store.cfg.wifiSta.items false)).map foldCase).Nodup := by
    change (["ssid", "password"].map foldCase).Nodup
    decide
  obtain ⟨hssid, hpassword⟩ := parse_items (has_object hnames) dsta
  rw [hread 0 (.inl rfl)] at hssid
  rw [hread ssidSize (.inr rfl)] at hpassword
  have hparsed : ∀ c, (staCodec d dsta).parse ((staCodec d dsta).generate s'.store.cfg) = some c →
      c.wifiSta = dsta.parse (.object (s'.store.cfg.wifiSta.items false)) := by
    intro c hc
    obtain ⟨r, -, rfl⟩ := Option.map_eq_some_iff.mp hc
    simp only [withSta, parseSta, hsta]
  obtain ⟨c, hc⟩ := (staCodec d dsta).parse_generate s'.store.cfg
  refine ⟨c, ?_, ?_, ?_⟩
  · simp only [settingsGetGwCfgFromNvs, settingsReadGwCfgJsonFromNvs, JsonFaults.none, hjson,
      Bool.and_self, if_true, if_neg ((staCodec d dsta).generate_ne_empty _), hc]
  · rw [hparsed c hc, hssid]
  · rw [hparsed c hc, hpassword]

/-- **When credentials survive a reboot.**  In whatever state they are saved, the next boot
loads them as they were, and no byte beyond the arrays is read, if and only if neither array is
full. -/
theorem survivesReboot_iff :
    SurvivesReboot d dsta readPrev w s ↔
      w.ssid.length < ssidSize ∧ w.password.length < passwordSize := by
  rw [ssid_length, password_length]
  have hread := fun (off : Nat) (hoff : off = 0 ∨ off = ssidSize) =>
    cbSaveWifiConfig_read d dsta readPrev w s hoff
  constructor
  · intro h
    have hssid := h.reads.generateSsid
    have hpassword := h.reads.generatePassword
    rw [hread 0 (.inl rfl)] at hssid
    rw [hread ssidSize (.inr rfl)] at hpassword
    exact ⟨hssid, hpassword⟩
  · rintro ⟨hssid, hpassword⟩
    refine ⟨?_, ?_, ?_, ?_, ?_⟩
    · obtain ⟨c, hc, hc₁, hc₂⟩ := loaded_cbSaveWifiConfig d dsta readPrev w s
      refine ⟨c, hc, ?_, ?_⟩
      · rw [hc₁, ssid_eq, List.take_of_length_le (Nat.le_sub_one_of_lt hssid),
          List.take_of_length_le hssid.le]
      · rw [hc₂, password_eq, List.take_of_length_le (Nat.le_sub_one_of_lt hpassword),
          List.take_of_length_le hpassword.le]
    · exact (strcmpReads_le _ w.config.bytes).trans hssid
    · exact fun _ => (strcmpReads_le _ (w.config.bytes.drop ssidSize)).trans hpassword
    · rw [hread 0 (.inl rfl)]
      exact hssid
    · rw [hread ssidSize (.inr rfl)]
      exact hpassword

end cfg

/-! ## Stations with given credentials -/

/-- An array of `n` bytes that begins with `s`. -/
def padded (n : Nat) (s : List Char) : List Char := s ++ List.replicate (n - s.length) nul

theorem padded_length {n : Nat} {s : List Char} (h : s.length ≤ n) : (padded n s).length = n := by
  rw [padded, List.length_append, List.length_replicate]
  omega

theorem str_padded {s : List Char} (h : nul ∉ s) (n : Nat) : str (padded n s) = s := by
  unfold padded
  cases n - s.length with
  | zero => rw [List.replicate_zero, List.append_nil, str_eq_self h]
  | succ k => exact str_append_nul h _

/-- A station with these credentials, whose other members are zero. -/
def station (ssid password : List Char) (hssid : ssid.length ≤ ssidSize)
    (hpassword : password.length ≤ passwordSize) : WifimanConfigSta where
  config :=
    { bytes := padded ssidSize ssid ++ (padded passwordSize password ++ List.replicate 36 nul)
      length_eq := by
        rw [List.length_append, List.length_append, padded_length hssid,
          padded_length hpassword, List.length_replicate]
        rfl }
  staPowerSave := false
  staStaticIp := false
  staticIp := 0
  staticNetmask := 0
  staticGw := 0

/-- Every pair of credentials that fits is that of a station. -/
theorem station_credentials (ssid password : List Char) (hssid : ssid.length ≤ ssidSize)
    (hpassword : password.length ≤ passwordSize) (hs : nul ∉ ssid) (hp : nul ∉ password) :
    (station ssid password hssid hpassword).ssid = ssid ∧
      (station ssid password hssid hpassword).password = password := by
  constructor
  · rw [WifimanConfigSta.ssid, station, List.take_left' (padded_length hssid), str_padded hs]
  · rw [WifimanConfigSta.password, station, List.drop_left' (padded_length hssid),
      List.take_left' (padded_length hpassword), str_padded hp]

open Sample

/-- A gateway without configuration that has this station by default. -/
def unconfiguredSta [Components] (d : GwCfg) (dsta : WifimanConfigSta) :
    CfgState Ruuvi Eth WifiAp WifimanConfigSta NvsText Blob (WifiAp × WifimanConfigSta) where
  store := { cfg := withSta dsta d, isEmpty := true }
  nvs := { json := some .empty, gwBlob := none, wifiBlob := none }

/-- Of a name of 32 bytes 31 are left after the reboot, and the generator reads it together with
the password behind it. -/
theorem fullSsid_cut :
    ∃ d, gwCfgDefaultInit param = some d ∧
      ∃ dsta w : WifimanConfigSta, w.ssid = List.replicate 32 'A' ∧
        w.password = "secret".toList ∧
        (∃ c, settingsGetGwCfgFromNvs (staCodec d dsta) .none
            (cbSaveWifiConfig d dsta true w (unconfiguredSta d dsta)).nvs = (.ok, c) ∧
          c.wifiSta.ssid = List.replicate 31 'A') ∧
        ¬ SurvivesReboot d dsta true w (unconfiguredSta d dsta) := by
  have hsome : (gwCfgDefaultInit param).isSome = true := by decide +kernel
  obtain ⟨d, hd⟩ := Option.isSome_iff_exists.mp hsome
  obtain ⟨hssid, hpassword⟩ := station_credentials (List.replicate 32 'A') "secret".toList
    (by decide) (by decide) (by decide) (by decide)
  refine ⟨d, hd, station [] [] (by decide) (by decide), _, hssid, hpassword, ?_, fun h => ?_⟩
  · obtain ⟨c, hc, hcut, -⟩ := loaded_cbSaveWifiConfig d (station [] [] (by decide) (by decide))
      true (station (List.replicate 32 'A') "secret".toList (by decide) (by decide))
      (unconfiguredSta d (station [] [] (by decide) (by decide)))
    exact ⟨c, hc, hcut.trans (by decide)⟩
  · have hreads := h.reads.generateSsid
    rw [cbSaveWifiConfig_read _ _ _ _ _ (.inl rfl)] at hreads
    exact absurd hreads (by decide)

end Settings
end RuuviGateway
