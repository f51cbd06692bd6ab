import RuuviGateway.GwCfgJson.Ops
import RuuviGateway.GwCfgJson.SaveLoad

/-!
# The boot after the blob

When NVS has a blob of older firmware, `settings_get_from_flash` converts it, uses the result
and saves it as JSON.  From the next boot on, the configuration is what this text is parsed to
on top of the default one.  The two are compared by `gw_cfg_ruuvi_cmp` and `gw_cfg_eth_cmp`, up
to the fields that are not in effect: those of `withDisabledOf`, and the credentials of LAN
when its type has none.

The conversion fills fields that no parser fills: a prefix may be empty, and credentials that
are cut may become the default ones.
-/

namespace RuuviGateway
namespace GwCfgJson

open CJson CString

/-! ## Strings -/

theorem snprintf_chars_eq_nil {n : Nat} [NeZero n] (hn : 1 < n) {s : List Char} :
    (snprintf n s).chars = [] ↔ str s = [] := by
  have hpos : n - 1 ≠ 0 := by omega
  simp only [snprintf, List.take_eq_nil_iff, hpos, false_or]

/-- What is shorter than its buffer has not been cut. -/
theorem str_eq_of_snprintf {n : Nat} [NeZero n] {s t : List Char}
    (h : (snprintf n s).chars = t) (ht : t.length < n - 1) : str s = t := by
  have hlen := congrArg List.length h
  simp only [snprintf, List.length_take] at hlen
  have hall : (str s).length ≤ n - 1 := by omega
  have hself : (snprintf n s).chars = str s := List.take_of_length_le hall
  exact hself.symm.trans h

theorem snprintf_of_str {n : Nat} [NeZero n] {s : List Char} {b : Buf n} (h : str s = b.chars) :
    snprintf n s = b := by
  refine Buf.ext ?_
  simp only [snprintf, h]
  exact List.take_of_length_le (by have := b.length_lt; omega)

theorem orDefault_eq_self_iff {n : Nat} {d b : Buf n} :
    orDefault d b = b ↔ (b.chars = [] → d.chars = []) := by
  constructor
  · intro h hb
    rw [orDefault, if_pos hb] at h
    rw [h]
    exact hb
  · exact orDefault_eq_self

/-! ## MQTT -/

/-- The MQTT section is read back up to its interval, and an empty string is read back only if
the default is empty as well. -/
theorem mqttCmp_over {d c : Mqtt} :
    mqttCmp c (Mqtt.withUnusedOf { Mqtt.restored false d c with
      mqttPrefix := orDefault d.mqttPrefix c.mqttPrefix
      mqttClientId := orDefault d.mqttClientId c.mqttClientId } c) = true ↔
      (c.useMqtt = true → c.mqttSendingInterval.toNat < 65536 ∧ d.OkFor c) := by
  simp only [mqttCmp_iff, Mqtt.withUnusedOf]
  by_cases huse : c.useMqtt = true
  · rw [if_pos huse, ← throughUint16_eq_self_iff]
    constructor
    · intro h _
      refine ⟨(congrArg Mqtt.mqttSendingInterval h).symm, ?_, ?_⟩
      · exact orDefault_eq_self_iff.mp (congrArg Mqtt.mqttPrefix h).symm
      · exact orDefault_eq_self_iff.mp (congrArg Mqtt.mqttClientId h).symm
    · intro h
      obtain ⟨hinterval, hok⟩ := h huse
      rw [orDefault_eq_self hok.mqttPrefix, orDefault_eq_self hok.mqttClientId]
      simp only [Mqtt.restored, huse, if_true, Bool.false_eq_true, if_false, hinterval]
      rw [← huse]
  · rw [if_neg huse]
    exact ⟨fun _ h => absurd h huse, fun _ => rfl⟩

theorem convertMqtt_useMqtt (d : Mqtt) (b : BlobMqtt) :
    (gwCfgBlobConvertMqtt d b).useMqtt = b.useMqtt ∧
      (gwCfgBlobConvertMqtt d b).mqttSendingInterval = d.mqttSendingInterval := ⟨rfl, rfl⟩

/-- The default prefix begins with `ruuvi/`. -/
theorem mqttPrefix_default_ne_nil [Components] {p : DefaultInitParam} {d : GwCfg}
    (hd : gwCfgDefaultInit p = some d) : d.ruuvi.mqtt.mqttPrefix.chars ≠ [] := by
  simp only [gwCfgDefaultInit, Option.map_eq_some_iff] at hd
  obtain ⟨c, -, rfl⟩ := hd
  simp only [setDeviceDefaults, ne_eq]
  rw [snprintf_chars_eq_nil (by omega)]
  exact List.cons_ne_nil 'r' _

/-- Of the strings that a blob is converted to, only the prefix can be empty where the default
is not. -/
theorem Mqtt.okFor_converted {d : Mqtt} {b : BlobMqtt} (hd : d.mqttPrefix.chars ≠ []) :
    d.OkFor (gwCfgBlobConvertMqtt d b) ↔
      (b.mqttUseDefaultPrefix = false → str b.mqttPrefix ≠ []) := by
  have hid : (gwCfgBlobConvertMqtt d b).mqttClientId.chars = [] → d.mqttClientId.chars = [] := by
    simp only [gwCfgBlobConvertMqtt]
    split
    · rename_i hne
      rw [snprintf_chars_eq_nil (by omega)]
      exact fun h => absurd h hne
    · exact id
  have hmqtt : ((gwCfgBlobConvertMqtt d b).mqttPrefix.chars = [] → d.mqttPrefix.chars = []) ↔
      (b.mqttUseDefaultPrefix = false → str b.mqttPrefix ≠ []) := by
    cases hdef : b.mqttUseDefaultPrefix with
    | true => simp [gwCfgBlobConvertMqtt, hdef]
    | false =>
      have hc : (gwCfgBlobConvertMqtt d b).mqttPrefix = snprintf 257 b.mqttPrefix := by
        simp [gwCfgBlobConvertMqtt, hdef]
      rw [hc, snprintf_chars_eq_nil (by omega)]
      exact ⟨fun h _ hnil => hd (h hnil), fun h hnil => absurd hnil (h rfl)⟩
  exact ⟨fun h => hmqtt.mp h.mqttPrefix, fun h => ⟨hmqtt.mpr h, hid⟩⟩

/-! ## HTTP -/

/-- The blob posts to the Ruuvi cloud. -/
def BlobHttp.isRuuviCloud (b : BlobHttp) : Prop :=
  str b.httpUrl = ruuviGatewayHttpDefaultUrl.toList ∧ str b.httpUser = []

instance (b : BlobHttp) : Decidable b.isRuuviCloud :=
  inferInstanceAs (Decidable (_ ∧ _))

theorem convertHttp_off (d : Http) {b : BlobHttp} (huse : b.useHttp = false) :
    gwCfgBlobConvertHttp d b =
      { d with dataFormat := .ruuvi, useHttpRuuvi := false, useHttp := false } := by
  simp [gwCfgBlobConvertHttp, huse]

theorem convertHttp_cloud (d : Http) {b : BlobHttp} (huse : b.useHttp = true)
    (hcloud : b.isRuuviCloud) : gwCfgBlobConvertHttp d b =
      { d with dataFormat := .ruuvi, useHttpRuuvi := true, useHttp := false } := by
  unfold BlobHttp.isRuuviCloud at hcloud
  simp [gwCfgBlobConvertHttp, huse, hcloud]

/-- A custom server, without a user and with one. -/
theorem convertHttp_custom (d : Http) {b : BlobHttp} (huse : b.useHttp = true)
    (hcloud : ¬ b.isRuuviCloud) :
    (gwCfgBlobConvertHttp d b).useHttp = true ∧
      (gwCfgBlobConvertHttp d b).httpPeriod = d.httpPeriod ∧
      (gwCfgBlobConvertHttp d b).httpUrl = snprintf 256 b.httpUrl ∧
      (str b.httpUser = [] ∧ (gwCfgBlobConvertHttp d b).authType = .none ∧
          (gwCfgBlobConvertHttp d b).auth = d.auth ∨
        str b.httpUser ≠ [] ∧ (gwCfgBlobConvertHttp d b).authType = .basic ∧
          (gwCfgBlobConvertHttp d b).auth =
            HttpAuth.setPassword b.httpPass (HttpAuth.setUser b.httpUser d.auth)) := by
  unfold BlobHttp.isRuuviCloud at hcloud
  simp only [gwCfgBlobConvertHttp, huse, Bool.not_true, Bool.false_eq_true, if_false,
    if_neg hcloud]
  refine ⟨trivial, trivial, trivial, ?_⟩
  by_cases huser : str b.httpUser = []
  · exact Or.inl ⟨huser, if_pos huser, if_pos huser⟩
  · exact Or.inr ⟨huser, if_neg huser, if_neg huser⟩

/-- The converted credentials end inside their buffers. -/
theorem basicFits_converted (a : HttpAuth) (user pass : List Char) :
    (HttpAuth.setPassword pass (HttpAuth.setUser user a)).BasicFits := by
  have huser : (HttpAuth.setUser user a).user.length < 51 := by
    rw [HttpAuth.user_setUser]
    exact written_length_lt (by omega) user
  refine ⟨?_, ?_⟩
  · rw [HttpAuth.user_setPassword pass huser]
    exact huser
  · rw [HttpAuth.password_setPassword]
    exact written_length_lt (by omega) pass

theorem Http.Ok.converted {d : Http} (hd : d.Ok) (b : BlobHttp) :
    (gwCfgBlobConvertHttp d b).Ok := by
  cases huse : b.useHttp with
  | false =>
    rw [convertHttp_off d huse]
    exact ⟨fun h => absurd h (by simp), hd.token⟩
  | true =>
    by_cases hcloud : b.isRuuviCloud
    · rw [convertHttp_cloud d huse hcloud]
      exact ⟨fun h => absurd h (by simp), hd.token⟩
    · obtain ⟨-, -, hurl, hauth⟩ := convertHttp_custom d huse hcloud
      rcases hauth with ⟨huser, -, hmem⟩ | ⟨-, htype, hmem⟩
      · refine ⟨fun _ => ?_, by rw [hmem]; exact hd.token⟩
        have hne : (snprintf 256 b.httpUrl).chars ≠ ruuviGatewayHttpDefaultUrl.toList :=
          fun h => hcloud ⟨str_eq_of_snprintf h (by decide), huser⟩
        simp [Http.isRuuviDefault, hurl, hne]
      · refine ⟨fun _ => by simp [Http.isRuuviDefault, htype], ?_⟩
        rw [hmem]
        exact HttpAuth.token_length_setPassword _ _

/-- A custom server is read back if the default period is, and the Ruuvi cloud if the default
parameters are those of older firmware. -/
theorem httpCmp_converted {d : Http} (hd : d.Ok) (b : BlobHttp) :
    httpCmp (gwCfgBlobConvertHttp d b) ((Http.generated false d d
        (gwCfgBlobConvertHttp d b)).withDisabledOf (gwCfgBlobConvertHttp d b)) = true ↔
      (b.useHttp = true → ¬ b.isRuuviCloud → d.httpPeriod.toNat < 65536) ∧
        (b.useHttp = true → b.isRuuviCloud → d.isRuuviDefault = true) := by
  rw [httpCmp_generated false d d (hd.converted b)]
  cases huse : b.useHttp with
  | false => simp [convertHttp_off d huse]
  | true =>
    by_cases hcloud : b.isRuuviCloud
    · simp [convertHttp_cloud d huse hcloud, hcloud]
    · obtain ⟨hcustom, hperiod, -, hauth⟩ := convertHttp_custom d huse hcloud
      have hfits : AuthFits (gwCfgBlobConvertHttp d b).authType
          (gwCfgBlobConvertHttp d b).auth := by
        rcases hauth with ⟨-, htype, -⟩ | ⟨-, htype, hmem⟩
        · rw [htype]
          trivial
        · rw [htype, hmem]
          exact basicFits_converted _ _ _
      simp [hcustom, hperiod, hcloud, authCmp_authRestored_saved hfits]

/-! ## LAN authorization -/

section lanAuth

variable [Components]

/-- `r`, with the user and the password from `c` if the type of `c` has none. -/
def LanAuth.withUnusedOf (r c : LanAuth) : LanAuth :=
  match c.lanAuthType with
  | .basic | .digest | .ruuvi | .default => r
  | .allow | .deny | .bearer =>
      { r with lanAuthUser := c.lanAuthUser, lanAuthPass := c.lanAuthPass }

/-- A section is read back unless it has the default credentials under `lan_auth_ruuvi`. -/
theorem lanAuthCmp_readBack {d c : LanAuth} (hdef : c.lanAuthType = .default →
    c.lanAuthUser = d.lanAuthUser ∧ c.lanAuthPass = d.lanAuthPass) :
    lanAuthCmp c ((LanAuth.readBack d c).withUnusedOf c) = true ↔
      (c.lanAuthType = .ruuvi →
        ¬ (d.lanAuthUser = c.lanAuthUser ∧ d.lanAuthPass = c.lanAuthPass)) := by
  simp only [lanAuthCmp_iff]
  constructor
  · rintro h hruuvi ⟨huser, hpass⟩
    have htype := congrArg LanAuth.lanAuthType h
    simp only [LanAuth.withUnusedOf, LanAuth.readBack, hruuvi,
      LanAuth.shownType_default hruuvi huser hpass] at htype
    exact absurd htype (by simp)
  · intro h
    unfold LanAuth.withUnusedOf LanAuth.readBack
    rw [LanAuth.shownType_eq h]
    cases ht : c.lanAuthType
    case default =>
      obtain ⟨huser, hpass⟩ := hdef ht
      simp only [← huser, ← hpass, ← ht]
    case allow | deny | bearer =>
      dsimp only
      rw [← ht]
    all_goals rfl

/-- What distinguishes a user and a password of the blob from the default ones is not cut
off. -/
def BlobLanAuth.Distinct (d : LanAuth) (b : BlobLanAuth) : Prop :=
  snprintf authUserSize b.lanAuthUser = d.lanAuthUser →
    snprintf authPassSize b.lanAuthPass = d.lanAuthPass →
    str b.lanAuthUser = d.lanAuthUser.chars ∧ str b.lanAuthPass = d.lanAuthPass.chars

theorem lanAuthCmp_converted (d : LanAuth) (b : BlobLanAuth) :
    lanAuthCmp (gwCfgBlobConvertLanAuth d b) ((LanAuth.readBack d
        (gwCfgBlobConvertLanAuth d b)).withUnusedOf (gwCfgBlobConvertLanAuth d b)) = true ↔
      (str b.lanAuthType = "lan_auth_ruuvi".toList → b.Distinct d) := by
  have hdefault : (gwCfgBlobConvertLanAuth d b).lanAuthType = .default →
      (gwCfgBlobConvertLanAuth d b).lanAuthUser = d.lanAuthUser ∧
        (gwCfgBlobConvertLanAuth d b).lanAuthPass = d.lanAuthPass := by
    intro ht
    simp only [gwCfgBlobConvertLanAuth, gwCfgBlobConvertLanAuthType] at ht
    split_ifs at ht with h1 h2 h3 h4 h5
    exact ⟨snprintf_of_str h5.1, snprintf_of_str h5.2⟩
  rw [lanAuthCmp_readBack hdefault]
  have htype : (gwCfgBlobConvertLanAuth d b).lanAuthType = .ruuvi ↔
      str b.lanAuthType = "lan_auth_ruuvi".toList ∧
        ¬ (str b.lanAuthUser = d.lanAuthUser.chars ∧
          str b.lanAuthPass = d.lanAuthPass.chars) := by
    simp only [gwCfgBlobConvertLanAuth, gwCfgBlobConvertLanAuthType]
    split_ifs with h1 h2 h3 h4 h5
    · simp [h1]
    · simp [h2]
    · simp [h3]
    · simp [h4, h5]
    · simp [h4, h5]
    · simp only [false_iff]
      exact fun h => h4 h.1
  rw [htype]
  have hcreds : (d.lanAuthUser = (gwCfgBlobConvertLanAuth d b).lanAuthUser ∧
      d.lanAuthPass = (gwCfgBlobConvertLanAuth d b).lanAuthPass) ↔
      snprintf authUserSize b.lanAuthUser = d.lanAuthUser ∧
        snprintf authPassSize b.lanAuthPass = d.lanAuthPass :=
    and_congr eq_comm eq_comm
  rw [hcreds]
  unfold BlobLanAuth.Distinct
  constructor
  · intro h hruuvi huser hpass
    by_contra hne
    exact h ⟨hruuvi, hne⟩ ⟨huser, hpass⟩
  · rintro h ⟨hruuvi, hne⟩ ⟨huser, hpass⟩
    exact hne (h hruuvi huser hpass)

end lanAuth

/-! ## The configuration -/

section cfg

variable [Components]

/-- `r`, with the fields that are not in effect in `c` taken from there. -/
def Ruuvi.withIneffectiveOf (r c : Ruuvi) : Ruuvi :=
  { r.withDisabledOf c with lanAuth := r.lanAuth.withUnusedOf c.lanAuth }

/-- What the next boot loads from the text that is saved for `c` agrees with `c` in every field
in effect. -/
def SavedAgrees (d c : GwCfg) : Prop :=
  ∃ r, gwCfgJsonParse (some d.ruuvi) (gwCfgJsonGenerateForSaving d.ruuvi c) d = some r ∧
    gwCfgRuuviCmp c.ruuvi (r.ruuvi.withIneffectiveOf c.ruuvi) = true ∧
      gwCfgEthCmp c.eth (r.eth.withDisabledOf c.eth) = true

/-- What a blob needs, over the default configuration `d`:
* if MQTT is used, a prefix, which may be the default one, and a default interval of 16 bits;
* for a custom server, a default period of 16 bits;
* for the Ruuvi cloud, default parameters that are those of older firmware;
* for `lan_auth_ruuvi`, credentials that are the default ones only if they are so before they
  are cut. -/
structure Blob.Migrates (d : Ruuvi) (b : Blob) : Prop where
  mqttPrefix : b.mqtt.useMqtt = true → b.mqtt.mqttUseDefaultPrefix = false →
    str b.mqtt.mqttPrefix ≠ []
  mqttInterval : b.mqtt.useMqtt = true → d.mqtt.mqttSendingInterval.toNat < 65536
  httpPeriod : b.http.useHttp = true → ¬ b.http.isRuuviCloud → d.http.httpPeriod.toNat < 65536
  ruuviCloud : b.http.useHttp = true → b.http.isRuuviCloud → d.http.isRuuviDefault = true
  lanAuth : str b.lanAuth.lanAuthType = "lan_auth_ruuvi".toList → b.lanAuth.Distinct d.lanAuth

/-- The MQTT section that is loaded from the text that is saved. -/
theorem loaded_mqtt {d c r : GwCfg}
    (hr : gwCfgJsonParse (some d.ruuvi) (gwCfgJsonGenerateForSaving d.ruuvi c) d = some r) :
    r.ruuvi.mqtt = { Mqtt.restored false d.ruuvi.mqtt c.ruuvi.mqtt with
      mqttPrefix := orDefault d.ruuvi.mqtt.mqttPrefix c.ruuvi.mqtt.mqttPrefix
      mqttClientId := orDefault d.ruuvi.mqtt.mqttClientId c.ruuvi.mqtt.mqttClientId } := by
  have hall := (holds_saving d.ruuvi c).has
  simp only [gwCfgJsonAddItems, has_append, has_cons, has_nil, and_true] at hall
  obtain ⟨⟨⟨⟨⟨⟨⟨⟨-, hmqtt⟩, -⟩, -⟩, -⟩, -⟩, -⟩, -⟩, -⟩ := hall
  obtain ⟨hruuvi, -⟩ := gwCfgJsonParse_eq_some.mp hr
  obtain ⟨-, -, -, rmqtt, -⟩ := gwCfgJsonParseCjsonRuuviCfg_eq_some.mp hruuvi
  exact Option.some.inj (rmqtt.symm.trans
    (parseMqtt_generated_over hmqtt (fun h => absurd h (by simp)) d.ruuvi.mqtt d.ruuvi.mqtt))

/-- The sections that are loaded from the text that is saved for a converted blob. -/
theorem loaded_converted [LawfulComponents] {p : DefaultInitParam} {d c r : GwCfg} {b : Blob}
    (hd : gwCfgDefaultInit p = some d) (hb : b.isValid = true) (hc : gwCfgBlobConvert d b = c)
    (hr : gwCfgJsonParse (some d.ruuvi) (gwCfgJsonGenerateForSaving d.ruuvi c) d = some r) :
    r.eth = Eth.restored d.eth c.eth ∧
      (gwCfgRuuviCmp c.ruuvi (r.ruuvi.withIneffectiveOf c.ruuvi) = true ↔
        mqttCmp c.ruuvi.mqtt (Mqtt.withUnusedOf { Mqtt.restored false d.ruuvi.mqtt c.ruuvi.mqtt with
          mqttPrefix := orDefault d.ruuvi.mqtt.mqttPrefix c.ruuvi.mqtt.mqttPrefix
          mqttClientId := orDefault d.ruuvi.mqtt.mqttClientId c.ruuvi.mqtt.mqttClientId }
            c.ruuvi.mqtt) = true ∧
        httpCmp c.ruuvi.http ((Http.generated false d.ruuvi.http d.ruuvi.http
          c.ruuvi.http).withDisabledOf c.ruuvi.http) = true ∧
        lanAuthCmp c.ruuvi.lanAuth ((LanAuth.readBack d.ruuvi.lanAuth
          c.ruuvi.lanAuth).withUnusedOf c.ruuvi.lanAuth) = true) := by
  obtain ⟨hok, -⟩ := Ruuvi.ok_default hd
  have hsections : c.ruuvi.remote = d.ruuvi.remote ∧ c.ruuvi.ntp = d.ruuvi.ntp ∧
      c.ruuvi.scanFilter = d.ruuvi.scanFilter ∧ c.ruuvi.scan.scanDefault = false := by
    rw [← hc, (gwCfgBlobConvert_of_isValid hb).2]
    exact ⟨rfl, rfl, rfl, rfl⟩
  obtain ⟨hremote, hntp, hscanFilter, hscan⟩ := hsections
  have emqtt := loaded_mqtt hr
  have hj := holds_saving d.ruuvi c
  generalize gwCfgJsonGenerateForSaving d.ruuvi c = j at hr hj
  have hno : ∀ {P : Prop}, false = true → P := fun h => absurd h (by simp)
  have hall := hj.has
  simp only [gwCfgJsonAddItems, has_append, has_cons, has_nil, and_true] at hall
  obtain ⟨⟨⟨⟨⟨⟨⟨⟨⟨⟨⟨⟨-, heth⟩, hremote'⟩, hhttp⟩, hstat⟩, -⟩, hlan⟩, hupdate⟩, hntp'⟩, hfilter⟩,
    hscan'⟩, hscanFilter'⟩, hcoordinates, hurl⟩ := hall
  obtain ⟨hruuvi, hethRead, -⟩ := gwCfgJsonParse_eq_some.mp hr
  obtain ⟨rremote, rhttp, rstat, -, rlan, rupdate, rntp, rfilter, rscan, rscanFilter,
    rcoordinates, rurl⟩ := gwCfgJsonParseCjsonRuuviCfg_eq_some.mp hruuvi
  refine ⟨hethRead.symm.trans (parseEth_generated heth d.eth), ?_⟩
  have hremoteOk : RemoteAuthOk c.ruuvi.remote.authType c.ruuvi.remote.auth := by
    rw [hremote]
    exact hok.remote
  have eremote := Option.some.inj
    (rremote.symm.trans (parseRemote_generated hremote' hno hno hremoteOk d.ruuvi.remote))
  have ehttp := Option.some.inj (rhttp.symm.trans (parseHttp_generated_over hhttp hno d.ruuvi.http))
  have estat := rstat.symm.trans (parseHttpStat_generated hstat hno d.ruuvi.httpStat)
  have elan := rlan.symm.trans (parseLanAuth_generated_over hlan hno hno)
  have eupdate := Option.some.inj
    (rupdate.symm.trans (parseAutoUpdate_generated hupdate d.ruuvi.autoUpdate))
  have entp := rntp.symm.trans
    (parseNtp_generated hntp' (by rw [hntp]; exact hok.ntp) d.ruuvi.ntp)
  have efilter := Option.some.inj
    (rfilter.symm.trans (parseFilter_generated hfilter d.ruuvi.filter))
  have escan : r.ruuvi.scan = c.ruuvi.scan := by
    have h := rscan.symm.trans (parseScan_generated (d := d.ruuvi.scan) hscan' hj.extended
      d.ruuvi.scan)
    simpa [hscan] using h
  obtain ⟨f, hf, hfcmp⟩ := parseScanFilter_generated hscanFilter'
    (by rw [hscanFilter]; exact hok.scanFilter) d.ruuvi.scanFilter
  have escanFilter : r.ruuvi.scanFilter = f := Option.some.inj (rscanFilter.symm.trans hf)
  have ecoordinates := rcoordinates.symm.trans
    (copyStringVal_of_chars hcoordinates d.ruuvi.coordinates)
  have eurl := rurl.symm.trans (copyStringVal_of_chars hurl d.ruuvi.fwUpdateUrl)
  simp only [gwCfgRuuviCmp, Ruuvi.withIneffectiveOf, Ruuvi.withDisabledOf, eremote, ehttp, estat,
    emqtt, elan, eupdate, entp, efilter, escan, escanFilter, ecoordinates, eurl,
    remoteCmp_restored hremoteOk hno, httpStatCmp_restored hno, ntpCmp_restored, hfcmp,
    autoUpdateCmp_iff, filterCmp_iff, scanCmp_iff, BEq.rfl, Bool.and_eq_true, and_true, true_and]
  tauto

/-- **When the migration is stable.**  The configuration that a valid blob is converted to
agrees, in every field in effect, with the one that the next boot loads from the text that is
saved for it, if and only if the blob `Migrates`. -/
theorem blob_savedAgrees_iff [LawfulComponents] {p : DefaultInitParam} {d : GwCfg} {b : Blob}
    (hd : gwCfgDefaultInit p = some d) (hb : b.isValid = true) :
    SavedAgrees d (gwCfgBlobConvert d b) ↔ b.Migrates d.ruuvi := by
  generalize hc : gwCfgBlobConvert d b = c
  obtain ⟨r, hr⟩ := parse_generated d c d
  obtain ⟨heth, hruuvi⟩ := loaded_converted hd hb hc hr
  have hsections : c.ruuvi.mqtt = gwCfgBlobConvertMqtt d.ruuvi.mqtt b.mqtt ∧
      c.ruuvi.http = gwCfgBlobConvertHttp d.ruuvi.http b.http ∧
      c.ruuvi.lanAuth = gwCfgBlobConvertLanAuth d.ruuvi.lanAuth b.lanAuth := by
    rw [← hc, (gwCfgBlobConvert_of_isValid hb).2]
    exact ⟨rfl, rfl, rfl⟩
  obtain ⟨hmqtt, hhttp, hlan⟩ := hsections
  obtain ⟨huse, hinterval⟩ := convertMqtt_useMqtt d.ruuvi.mqtt b.mqtt
  have hagrees : SavedAgrees d c ↔
      gwCfgRuuviCmp c.ruuvi (r.ruuvi.withIneffectiveOf c.ruuvi) = true := by
    constructor
    · rintro ⟨r', hr', hcmp, -⟩
      rwa [Option.some.inj (hr'.symm.trans hr)] at hcmp
    · intro hcmp
      refine ⟨r, hr, hcmp, ?_⟩
      rw [heth]
      exact gwCfgEthCmp_restored d.eth c.eth
  rw [hagrees, hruuvi, hmqtt, hhttp, hlan, mqttCmp_over, huse, hinterval,
    Mqtt.okFor_converted (mqttPrefix_default_ne_nil hd),
    httpCmp_converted (Ruuvi.ok_default hd).1.http, lanAuthCmp_converted]
  constructor
  · rintro ⟨hm, ⟨hperiod, hcloud⟩, hl⟩
    exact ⟨fun h => (hm h).2, fun h => (hm h).1, hperiod, hcloud, hl⟩
  · intro h
    exact ⟨fun hu => ⟨h.mqttInterval hu, h.mqttPrefix hu⟩, ⟨h.httpPeriod, h.ruuviCloud⟩, h.lanAuth⟩

end cfg

open Sample

/-- A blob with MQTT under the given prefix, and with a custom server. -/
def blobWithPrefix (mqttPrefix : String) : Blob where
  header := 0xAABB
  fmtVersion := 0x0008
  eth := {
    useEth := true
    ethDhcp := true
    ethStaticIp := []
    ethNetmask := []
    ethGw := []
    ethDns1 := []
    ethDns2 := [] }
  mqtt := {
    useMqtt := true
    mqttUseDefaultPrefix := false
    mqttServer := "test.mosquitto.org".toList
    mqttPort := 1883
    mqttPrefix := mqttPrefix.toList
    mqttClientId := []
    mqttUser := []
    mqttPass := [] }
  http := {
    useHttp := true
    httpUrl := "https://example.com/record".toList
    httpUser := "user".toList
    httpPass := "pass".toList }
  lanAuth := {
    lanAuthType := "lan_auth_deny".toList
    lanAuthUser := "user".toList
    lanAuthPass := [] }
  autoUpdate := {
    autoUpdateCycle := some .regular
    autoUpdateWeekdaysBitmask := 0x7F
    autoUpdateIntervalFrom := 0
    autoUpdateIntervalTo := 24
    autoUpdateTzOffsetHours := 3 }
  filter := {
    companyId := 0x0499
    companyUseFiltering := true }
  scan := {
    scanCodedPhy := false
    scan1mbitPhy := true
    scan2mbitPhy := true
    scanChannel37 := true
    scanChannel38 := true
    scanChannel39 := true }
  coordinates := []

theorem blobWithPrefix_migrates :
    ∃ d, gwCfgDefaultInit param = some d ∧
      SavedAgrees d (gwCfgBlobConvert d (blobWithPrefix "ruuvi/")) := by
  have hrun : (do
      let d ← gwCfgDefaultInit param
      some (decide (d.ruuvi.http.httpPeriod.toNat < 65536 ∧
        d.ruuvi.mqtt.mqttSendingInterval.toNat < 65536))) = some true := by decide +kernel
  simp only [Option.bind_eq_bind, Option.bind_eq_some_iff, Option.some.injEq,
    decide_eq_true_eq] at hrun
  obtain ⟨d, hd, hperiod, hinterval⟩ := hrun
  have hmigrates : (blobWithPrefix "ruuvi/").Migrates d.ruuvi := by
    refine ⟨fun _ _ => by decide, fun _ => hinterval, fun _ _ => hperiod, ?_, ?_⟩
    · intro _ hcloud
      exact absurd hcloud (by decide)
    · intro hruuvi
      exact absurd hruuvi (by decide)
  exact ⟨d, hd, (blob_savedAgrees_iff hd rfl).mpr hmigrates⟩

/-- With an empty prefix, the gateway publishes under the default one after the next boot. -/
theorem emptyPrefix_does_not_migrate :
    ∃ d c r, gwCfgDefaultInit param = some d ∧
      (blobWithPrefix "").isValid = true ∧ gwCfgBlobConvert d (blobWithPrefix "") = c ∧
      gwCfgJsonParse (some d.ruuvi) (gwCfgJsonGenerateForSaving d.ruuvi c) d = some r ∧
      c.ruuvi.mqtt.useMqtt = true ∧ c.ruuvi.mqtt.mqttPrefix.chars = [] ∧
      r.ruuvi.mqtt.mqttPrefix.chars = "ruuvi/AA:BB:CC:DD:EE:FF/".toList ∧
      ¬ SavedAgrees d c := by
  have hrun : (gwCfgDefaultInit param).map (fun d => d.ruuvi.mqtt.mqttPrefix.chars) =
      some "ruuvi/AA:BB:CC:DD:EE:FF/".toList := by
    decide +kernel
  obtain ⟨d, hd, hdefault⟩ := Option.map_eq_some_iff.mp hrun
  obtain ⟨c, hc, hmqtt⟩ : ∃ c, gwCfgBlobConvert d (blobWithPrefix "") = c ∧
      c.ruuvi.mqtt = gwCfgBlobConvertMqtt d.ruuvi.mqtt (blobWithPrefix "").mqtt := ⟨_, rfl, rfl⟩
  have huse : c.ruuvi.mqtt.useMqtt = true := congrArg Mqtt.useMqtt hmqtt
  have hprefix : c.ruuvi.mqtt.mqttPrefix.chars = [] := by
    rw [hmqtt]
    exact (snprintf_chars_eq_nil (by decide)).mpr rfl
  obtain ⟨r, hr⟩ := parse_generated d c d
  have hread : r.ruuvi.mqtt.mqttPrefix = d.ruuvi.mqtt.mqttPrefix := by
    rw [loaded_mqtt hr]
    exact if_pos hprefix
  refine ⟨d, c, r, hd, rfl, hc, hr, huse, hprefix, hread ▸ hdefault, ?_⟩
  rintro ⟨r', hr', hagrees, -⟩
  obtain rfl := Option.some.inj (hr'.symm.trans hr)
  have hkept := ((loaded_converted hd rfl hc hr').2.mp hagrees).1
  -- The default prefix would have to be empty as well.
  have hempty := (mqttCmp_over.mp hkept huse).2.mqttPrefix hprefix
  rw [hdefault] at hempty
  exact absurd hempty (by decide)

end GwCfgJson
end RuuviGateway
