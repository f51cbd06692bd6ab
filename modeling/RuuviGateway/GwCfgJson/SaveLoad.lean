import RuuviGateway.GwCfgJson.Instance
import RuuviGateway.GwCfgJson.RoundTrip

/-!
# Saving and loading the configuration

A configuration is saved by `gw_cfg_json_generate_for_saving`, and at boot the text is parsed on
top of the default configuration.  What is loaded is compared with what was saved by the
comparisons of the code, once the fields of `c` that are not in effect have been taken over.

Two sets of such fields are considered.  `withUnusedOf` takes over the parameters of a custom
server that is not used, the addresses and servers that DHCP provides, and the parameters of
MQTT and of the statistics when they are switched off.  `withDisabledOf` takes over what is
lost by design besides these: a gateway that posts to the Ruuvi cloud only is saved with the
parameters of older firmware, and without Ethernet its DHCP flag is not read.
-/

namespace RuuviGateway
namespace GwCfgJson

open CJson CString

/-! ## Fields that are not in effect -/

/-- `r`, with the parameters of the statistics from `c` if these are disabled. -/
def HttpStat.withUnusedOf (r c : HttpStat) : HttpStat :=
  if c.useHttpStat then r else { c with useHttpStat := r.useHttpStat }

/-- `r`, with the parameters of MQTT from `c` if it is disabled. -/
def Mqtt.withUnusedOf (r c : Mqtt) : Mqtt :=
  if c.useMqtt then r else { c with useMqtt := r.useMqtt }

/-- `r`, with the URL, the period, the format and the authorization from `c` if this has no
custom server. -/
def Http.withUnusedOf (r c : Http) : Http :=
  if c.useHttp then r
  else { r with
    httpUrl := c.httpUrl
    httpPeriod := c.httpPeriod
    dataFormat := c.dataFormat
    authType := c.authType
    auth := c.auth }

/-- `r`, with the names of the servers from `c` if this does not use them. -/
def Ntp.withUnusedOf (r c : Ntp) : Ntp :=
  if c.ntpUse && !c.ntpUseDhcp then r
  else { c with ntpUse := r.ntpUse, ntpUseDhcp := r.ntpUseDhcp }

/-- `r`, with the static addresses from `c` if this does not use them. -/
def Eth.withUnusedOf (r c : Eth) : Eth :=
  if c.useEth && !c.ethDhcp then r else { c with useEth := r.useEth, ethDhcp := r.ethDhcp }

/-- `r`, with all parameters of the custom server from `c` if this posts to the Ruuvi cloud
only. -/
def Http.withDisabledOf (r c : Http) : Http :=
  if c.useHttpRuuvi && !c.useHttp then
    { c with useHttpRuuvi := r.useHttpRuuvi, useHttp := r.useHttp }
  else r.withUnusedOf c

/-- `r`, with the DHCP flag too from `c` if this does not use Ethernet. -/
def Eth.withDisabledOf (r c : Eth) : Eth :=
  if c.useEth then r.withUnusedOf c else { c with useEth := r.useEth }

/-! ## The sections that are read back -/

variable {hide : Bool}

theorem httpStatCmp_restored {old c : HttpStat} (hold : hide = true → old = c) :
    httpStatCmp c ((HttpStat.restored hide old c).withUnusedOf c) = true := by
  simp only [httpStatCmp_iff, HttpStat.withUnusedOf]
  by_cases huse : c.useHttpStat = true
  · have heq : HttpStat.restored hide old c = c := by
      cases hide with
      | false =>
        simp only [HttpStat.restored, huse, if_true, Bool.false_eq_true, if_false]
        rw [← huse]
      | true => simp only [HttpStat.restored, ite_self, hold rfl]
    rw [if_pos huse, heq]
  · rw [if_neg huse]
    rfl

/-- Of the MQTT parameters, the sending interval is read back as far as 16 bits go. -/
theorem mqttCmp_restored {old c : Mqtt} (hold : hide = true → old = c) :
    mqttCmp c ((Mqtt.restored hide old c).withUnusedOf c) = true ↔
      (c.useMqtt = true → c.mqttSendingInterval.toNat < 65536) := by
  simp only [mqttCmp_iff, Mqtt.withUnusedOf]
  by_cases huse : c.useMqtt = true
  · have heq : Mqtt.restored hide old c =
        { c with mqttSendingInterval := throughUint16 c.mqttSendingInterval } := by
      cases hide with
      | false => simp only [Mqtt.restored, huse, if_true, Bool.false_eq_true, if_false]
      | true => simp only [Mqtt.restored, ite_self, hold rfl]
    rw [if_pos huse, heq, ← throughUint16_eq_self_iff]
    constructor
    · intro h _
      exact (congrArg Mqtt.mqttSendingInterval h).symm
    · intro h
      rw [h huse]
  · rw [if_neg huse]
    exact ⟨fun _ h => absurd h huse, fun _ => rfl⟩

theorem ntpCmp_restored (old c : Ntp) :
    ntpCmp c ((Ntp.restored old c).withUnusedOf c) = true := by
  simp only [ntpCmp_iff, Ntp.withUnusedOf, Ntp.restored]
  split <;> rfl

theorem gwCfgEthCmp_restored (old c : Eth) :
    gwCfgEthCmp c ((Eth.restored old c).withDisabledOf c) = true := by
  obtain ⟨useEth, ethDhcp, ip, mask, gw, dns1, dns2⟩ := c
  cases useEth <;> cases ethDhcp <;>
    simp [gwCfgEthCmp_iff, Eth.withDisabledOf, Eth.withUnusedOf, Eth.restored]

theorem scanCmp_restored {d c : Scan} (hok : d.OkFor c) :
    scanCmp c (if c.scanDefault then d else c) = true ↔
      (c.scanDefault = true → d.scanDefault = true) := by
  simp only [scanCmp_iff]
  cases hdef : c.scanDefault with
  | false => simp
  | true =>
    simp only [if_true, forall_const]
    constructor
    · intro h
      rw [← h]
      exact hdef
    · intro h
      rw [hok hdef, ← h]

/-- A custom server is read back up to its period and its credentials; without it, posting to
the Ruuvi cloud is read back if the default parameters are those of older firmware. -/
theorem httpCmp_generated (hide : Bool) (d old : Http) {c : Http} (hok : c.Ok) :
    httpCmp c ((Http.generated hide d old c).withDisabledOf c) = true ↔
      (c.useHttp = true → c.httpPeriod.toNat < 65536) ∧
      (c.useHttp = true →
        authCmp c.authType c.auth (authRestored hide old.auth c.authType c.auth) = true) ∧
      (c.useHttpRuuvi = true → c.useHttp = false → d.isRuuviDefault = true) := by
  cases hcustom : c.useHttp with
  | true =>
    have hnot := hok.custom hcustom
    have hgenerated : (Http.generated hide d old c).withDisabledOf c = { c with
        auth := authRestored hide old.auth c.authType c.auth
        httpPeriod := throughUint16 c.httpPeriod } := by
      simp [Http.generated, Http.writesDefault, Http.withDisabledOf, Http.withUnusedOf, hcustom,
        hnot, Http.restored]
    have hperiod : c.httpPeriod = throughUint16 c.httpPeriod ↔ c.httpPeriod.toNat < 65536 :=
      eq_comm.trans throughUint16_eq_self_iff
    rw [hgenerated]
    simp [httpCmp, hperiod]
  | false =>
    cases hruuvi : c.useHttpRuuvi with
    | true =>
      have hgenerated : (Http.generated hide d old c).withDisabledOf c =
          { c with useHttpRuuvi := true, useHttp := !d.isRuuviDefault } := by
        simp [Http.generated, Http.writesDefault, Http.withDisabledOf, hcustom, hruuvi,
          Http.restored]
      rw [hgenerated]
      simp [httpCmp, hcustom, hruuvi, authCmp_self]
    | false =>
      have hgenerated : (Http.generated hide d old c).withDisabledOf c = c := by
        obtain ⟨useHttpRuuvi, useHttp⟩ := c
        subst hcustom hruuvi
        simp [Http.generated, Http.writesDefault, Http.withDisabledOf, Http.withUnusedOf,
          Http.restored]
      rw [hgenerated]
      simp [httpCmp, authCmp_self]

theorem wifiAp_restored {d c : WifiAp} {ap : Json} (h : Has ap (wifiApConfigItems false c))
    (hok : d.OkFor c) : gwCfgJsonParseWifiApConfig ap d = some c := by
  simp only [wifiApConfigItems, unlessHidden, Bool.false_eq_true, if_false, has_append, has_cons,
    has_nil, and_true, if_pos hok.channel] at h
  have hchannel : getObjectItem ap "channel" = some (.number ((c.channel.toNat : Int) : ℚ)) := h.2
  simp only [gwCfgJsonParseWifiApConfig, getUint8Val_of_number hchannel, Option.bind_eq_bind,
    Option.bind_some, copyStringVal_of_chars h.1, if_neg hok.channel]
  exact congrArg some hok.eq.symm

theorem wifiSta_restored {d c : WifiSta} {sta : Json}
    (h : Has sta (wifiStaConfigItems false c)) (hok : d.OkFor c) :
    gwCfgJsonParseWifiStaConfig sta d = c := by
  simp only [wifiStaConfigItems, unlessHidden, Bool.false_eq_true, if_false, has_cons, has_nil,
    and_true] at h
  simp only [gwCfgJsonParseWifiStaConfig, copyStringVal_of_chars h.1, copyStringVal_of_chars h.2]
  exact hok.symm

section cfg

variable [Components]

theorem lanAuthCmp_restored {c : LanAuth} :
    lanAuthCmp c c.restored = true ↔
      (c.lanAuthType = .allow ∨ c.lanAuthType = .deny ∨ c.lanAuthType = .bearer →
        c.lanAuthUser = Buf.empty authUserSize ∧ c.lanAuthPass = Buf.empty authPassSize) := by
  have hnone : c = { c with
      lanAuthUser := Buf.empty authUserSize
      lanAuthPass := Buf.empty authPassSize } ↔
        c.lanAuthUser = Buf.empty authUserSize ∧ c.lanAuthPass = Buf.empty authPassSize := by
    constructor
    · intro h
      exact ⟨congrArg LanAuth.lanAuthUser h, congrArg LanAuth.lanAuthPass h⟩
    · rintro ⟨huser, hpass⟩
      rw [← huser, ← hpass]
  simp only [lanAuthCmp_iff]
  cases ht : c.lanAuthType <;> simp only [LanAuth.restored, ht]
  case allow => simpa [ht] using hnone
  case deny => simpa [ht] using hnone
  case bearer => simpa [ht] using hnone
  all_goals simp

/-! ## The configuration -/

/-- What the text of `c` needs in order to be read back:
* the period of a custom server and the interval of MQTT fit into 16 bits;
* the user of a custom server ends inside its buffer, as it may not after the type of
  authorization has been changed;
* posting to the Ruuvi cloud only needs a default that is the one of older firmware, and a scan
  by default one that scans by default;
* a type of LAN authorization without credentials has none. -/
structure Ruuvi.Restorable (d c : Ruuvi) : Prop where
  httpPeriod : c.http.useHttp = true → c.http.httpPeriod.toNat < 65536
  httpUser : c.http.useHttp = true → c.http.authType = .basic → c.http.auth.user.length < 51
  ruuviCloud : c.http.useHttpRuuvi = true → c.http.useHttp = false → d.http.isRuuviDefault = true
  mqttInterval : c.mqtt.useMqtt = true → c.mqtt.mqttSendingInterval.toNat < 65536
  lanAuth : c.lanAuth.lanAuthType = .allow ∨ c.lanAuth.lanAuthType = .deny ∨
      c.lanAuth.lanAuthType = .bearer →
    c.lanAuth.lanAuthUser = Buf.empty authUserSize ∧
      c.lanAuth.lanAuthPass = Buf.empty authPassSize
  scan : c.scan.scanDefault = true → d.scan.scanDefault = true

/-- `r`, with the fields that are not in effect in `c` taken from there. -/
def GwCfg.withUnusedOf (r c : GwCfg) : GwCfg := { r with
  ruuvi := { r.ruuvi with
    http := r.ruuvi.http.withUnusedOf c.ruuvi.http
    httpStat := r.ruuvi.httpStat.withUnusedOf c.ruuvi.httpStat
    mqtt := r.ruuvi.mqtt.withUnusedOf c.ruuvi.mqtt
    ntp := r.ruuvi.ntp.withUnusedOf c.ruuvi.ntp }
  eth := r.eth.withUnusedOf c.eth }

/-- `r`, with these fields and those of disabled sections taken from `c`. -/
def Ruuvi.withDisabledOf (r c : Ruuvi) : Ruuvi := { r with
  http := r.http.withDisabledOf c.http
  httpStat := r.httpStat.withUnusedOf c.httpStat
  mqtt := r.mqtt.withUnusedOf c.mqtt
  ntp := r.ntp.withUnusedOf c.ntp }

/-- `r`, with these fields and those of disabled sections taken from `c`. -/
def GwCfg.withDisabledOf (r c : GwCfg) : GwCfg := { r with
  ruuvi := r.ruuvi.withDisabledOf c.ruuvi
  eth := r.eth.withDisabledOf c.eth }

/-- What is read back agrees up to the credentials of the custom server, if and only if the
text can be read back. -/
theorem gwCfgRuuviCmp_restored {d old c r : Ruuvi} (hr : Ruuvi.Restored hide d old c r)
    (hok : c.Ok) (hfor : d.OkFor c) (hold : hide = true → old = c) :
    gwCfgRuuviCmp c (r.withDisabledOf c) = true ↔
      (c.http.useHttp = true → c.http.httpPeriod.toNat < 65536) ∧
      (c.http.useHttp = true → authCmp c.http.authType c.http.auth
        (authRestored hide old.http.auth c.http.authType c.http.auth) = true) ∧
      (c.http.useHttpRuuvi = true → c.http.useHttp = false → d.http.isRuuviDefault = true) ∧
      (c.mqtt.useMqtt = true → c.mqtt.mqttSendingInterval.toNat < 65536) ∧
      (c.lanAuth.lanAuthType = .allow ∨ c.lanAuth.lanAuthType = .deny ∨
          c.lanAuth.lanAuthType = .bearer →
        c.lanAuth.lanAuthUser = Buf.empty authUserSize ∧
          c.lanAuth.lanAuthPass = Buf.empty authPassSize) ∧
      (c.scan.scanDefault = true → d.scan.scanDefault = true) := by
  have hstat := httpStatCmp_restored fun hh => congrArg Ruuvi.httpStat (hold hh)
  have hmqtt := mqttCmp_restored fun hh => congrArg Ruuvi.mqtt (hold hh)
  have hhttp := httpCmp_generated hide d.http old.http hok.http
  have hscan := scanCmp_restored hfor.scan
  simp only [gwCfgRuuviCmp, Ruuvi.withDisabledOf, hr.http, hr.httpStat, hr.mqtt, hr.lanAuth,
    hr.autoUpdate, hr.ntp, hr.filter, hr.scan, hr.coordinates, hr.fwUpdateUrl, hr.remote,
    hr.scanFilter, hstat, ntpCmp_restored, Bool.and_eq_true, hmqtt, hhttp, hscan,
    lanAuthCmp_restored, autoUpdateCmp_iff, filterCmp_iff, BEq.rfl, and_true, true_and, and_assoc]

/-- **A saved configuration is loaded again.**  Whatever documents have led from the default
configuration `d` to `c`, the text that is saved for `c` is parsed on top of `d` without fault,
and the result agrees with `c` in all four comparisons, up to the fields that are not in effect
in `c`. -/
theorem load_save_agrees [LawfulComponents] {p : DefaultInitParam} {d c : GwCfg}
    (hd : gwCfgDefaultInit p = some d) (hap : p.wifiAp.channel ≠ 0) (hc : Parsed d c)
    (hr : d.ruuvi.Restorable c.ruuvi)
    (hpass : c.ruuvi.http.useHttp = true → c.ruuvi.http.authType = .basic →
      c.ruuvi.http.auth.password.length < 51) :
    ∃ r, gwCfgJsonParse (some d.ruuvi) (gwCfgJsonGenerateForSaving d.ruuvi c) d = some r ∧
      gwCfgCmp c (r.withDisabledOf c) = true := by
  obtain ⟨hok, hokFor⟩ := hc.ruuvi_ok hd
  obtain ⟨hokAp, hokSta⟩ := hc.wifi_ok hd hap
  have hj := holds_saving d.ruuvi c
  obtain ⟨r, hparse, hrestored⟩ := parseRuuvi_generated d.ruuvi hj hok hokFor
    (fun h => absurd h (by simp))
  have hitems := hj.has
  simp only [gwCfgJsonAddItems, gwCfgJsonAddItemsWifi, has_append, has_cons, has_nil,
    and_true] at hitems
  obtain ⟨⟨⟨⟨⟨⟨⟨⟨⟨⟨⟨⟨⟨hsta, hap'⟩, heth⟩, -⟩, -⟩, -⟩, -⟩, -⟩, -⟩, -⟩, -⟩, -⟩, -⟩, -⟩ := hitems
  have hapNames : ((names (wifiApConfigItems false c.wifiAp)).map foldCase).Nodup := by
    change (["password", "channel"].map foldCase).Nodup
    decide
  have hstaNames : ((names (wifiStaConfigItems false c.wifiSta)).map foldCase).Nodup := by
    change (["ssid", "password"].map foldCase).Nodup
    decide
  have hapParse := wifiAp_restored (has_object hapNames) hokAp
  have hstaParse := wifiSta_restored (has_object hstaNames) hokSta
  refine ⟨{
      ruuvi := r
      eth := Eth.restored d.eth c.eth
      wifiAp := c.wifiAp
      wifiSta := c.wifiSta }, ?_, ?_⟩
  · refine gwCfgJsonParse_eq_some.mpr ⟨hparse, parseEth_generated heth d.eth, ?_, ?_⟩
    · rw [hap']
      exact hapParse
    · rw [hsta]
      exact hstaParse
  · have hauth : c.ruuvi.http.useHttp = true → authCmp c.ruuvi.http.authType c.ruuvi.http.auth
        (authRestored false d.ruuvi.http.auth c.ruuvi.http.authType c.ruuvi.http.auth) = true := by
      intro huse
      refine authCmp_authRestored_saved ?_ _
      cases ht : c.ruuvi.http.authType with
      | none => trivial
      | basic => exact ⟨hr.httpUser huse ht, hpass huse ht⟩
      | bearer => exact hok.http.token
      | token => exact hok.http.token
      | apikey => exact hok.http.token
    have hruuvi := (gwCfgRuuviCmp_restored hrestored hok hokFor
      (fun h => absurd h (by simp))).mpr
      ⟨hr.httpPeriod, hauth, hr.ruuviCloud, hr.mqttInterval, hr.lanAuth, hr.scan⟩
    simp only [gwCfgCmp, GwCfg.withDisabledOf, hruuvi, gwCfgEthCmp_restored,
      wifimanConfigApCmp_self, wifimanConfigStaCmp_self, Bool.and_self]

end cfg

/-! ## Examples -/

open Sample

/-- A server with a user and a password. -/
def basicServer : Json := .object [
  ("use_http_ruuvi", .bool false),
  ("use_http", .bool true),
  ("http_url", lit "https://example.com/record"),
  ("http_auth", lit "basic"),
  ("http_user", lit "user"),
  ("http_pass", lit "secret")]

theorem load_save_agrees_basicServer :
    ∃ d c r, gwCfgDefaultInit param = some d ∧
      gwCfgJsonParse (some d.ruuvi) basicServer d = some c ∧
      gwCfgJsonParse (some d.ruuvi) (gwCfgJsonGenerateForSaving d.ruuvi c) d = some r ∧
      gwCfgCmp c (r.withDisabledOf c) = true := by
  have hrun : (do
      let d ← gwCfgDefaultInit param
      let c ← gwCfgJsonParse (some d.ruuvi) basicServer d
      some (decide (c.ruuvi.http.useHttp = true ∧ c.ruuvi.http.httpPeriod.toNat < 65536 ∧
        c.ruuvi.http.auth.user.length < 51 ∧ c.ruuvi.http.auth.password.length < 51 ∧
        c.ruuvi.mqtt.useMqtt = false ∧ c.ruuvi.lanAuth.lanAuthType = .default ∧
        d.ruuvi.scan.scanDefault = true))) = some true := by decide +kernel
  simp only [Option.bind_eq_bind, Option.bind_eq_some_iff, Option.some.injEq,
    decide_eq_true_eq] at hrun
  obtain ⟨d, hd, c, hc, hcustom, hperiod, huser, hpass, hmqtt, hlan, hscan⟩ := hrun
  have hrestorable : d.ruuvi.Restorable c.ruuvi := by
    refine ⟨fun _ => hperiod, fun _ _ => huser, ?_, ?_, ?_, fun _ => hscan⟩
    · intro _ hno
      exact absurd (hcustom.symm.trans hno) (by simp)
    · intro huse
      exact absurd (hmqtt.symm.trans huse) (by simp)
    · rw [hlan]
      rintro (h | h | h) <;> exact absurd h (by simp)
  obtain ⟨r, hr, hcmp⟩ := load_save_agrees hd (by decide) (.parse basicServer .dflt hc)
    hrestorable fun _ _ => hpass
  exact ⟨d, c, r, hd, hc, hr, hcmp⟩

/-- Whether the configuration after `documents` agrees with what is loaded after it has been
saved, up to `withUnusedOf`. -/
def agreesAfter (documents : List Json) : Option Bool := do
  let d ← gwCfgDefaultInit param
  let c ← documents.foldlM (fun c j => gwCfgJsonParse (some d.ruuvi) j c) d
  let r ← gwCfgJsonParse (some d.ruuvi) (gwCfgJsonGenerateForSaving d.ruuvi c) d
  some (gwCfgCmp c (r.withUnusedOf c))

theorem Parsed.foldlM {d c c' : GwCfg} (hc : Parsed d c) {documents : List Json}
    (h : documents.foldlM (fun c j => gwCfgJsonParse (some d.ruuvi) j c) c = some c') :
    Parsed d c' := by
  induction documents generalizing c with
  | nil => exact Option.some.inj h ▸ hc
  | cons j documents ih =>
    rw [List.foldlM_cons, Option.bind_eq_bind, Option.bind_eq_some_iff] at h
    obtain ⟨c₁, hparse, hrest⟩ := h
    exact ih (hc.parse j hparse) hrest

theorem exists_of_agreesAfter {documents : List Json} {b : Bool}
    (h : agreesAfter documents = some b) :
    ∃ d c r, gwCfgDefaultInit param = some d ∧ Parsed d c ∧
      gwCfgJsonParse (some d.ruuvi) (gwCfgJsonGenerateForSaving d.ruuvi c) d = some r ∧
      gwCfgCmp c (r.withUnusedOf c) = b := by
  simp only [agreesAfter, Option.bind_eq_bind, Option.bind_eq_some_iff, Option.some.injEq] at h
  obtain ⟨d, hd, c, hc, r, hr, hcmp⟩ := h
  exact ⟨d, c, r, hd, Parsed.dflt.foldlM hc, hr, hcmp⟩

/-- A gateway that posts to the Ruuvi cloud only, with the certificate flag of the custom server
set. -/
def cloudWithCertificate : List Json := [.object [
  ("use_http_ruuvi", .bool true),
  ("use_http", .bool false),
  ("http_use_ssl_client_cert", .bool true)]]

/-- Ethernet that is switched off after DHCP has been. -/
def ethernetSwitchedOff : List Json := [
  .object [("use_eth", .bool true), ("eth_dhcp", .bool false)],
  .object [("use_eth", .bool false)]]

/-- In these two configurations a flag is not loaded as it was saved. -/
theorem load_save_loses_flag :
    (∃ d c r, gwCfgDefaultInit param = some d ∧ Parsed d c ∧
      gwCfgJsonParse (some d.ruuvi) (gwCfgJsonGenerateForSaving d.ruuvi c) d = some r ∧
      gwCfgCmp c (r.withUnusedOf c) = false) ∧
    ∃ d c r, gwCfgDefaultInit param = some d ∧ Parsed d c ∧
      gwCfgJsonParse (some d.ruuvi) (gwCfgJsonGenerateForSaving d.ruuvi c) d = some r ∧
      gwCfgCmp c (r.withUnusedOf c) = false := by
  have hcloud : agreesAfter cloudWithCertificate = some false := by decide +kernel
  have heth : agreesAfter ethernetSwitchedOff = some false := by decide +kernel
  exact ⟨exists_of_agreesAfter hcloud, exists_of_agreesAfter heth⟩

end GwCfgJson
end RuuviGateway
