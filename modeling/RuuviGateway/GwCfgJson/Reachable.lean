import RuuviGateway.GwCfgJson.Generate

/-!
# Configurations that the parser produces

What holds of every configuration that comes from the default one by parsing documents, each
over the result of the one before.  The parsers put a section into shape: settings of older
firmware are rewritten, the default LAN user has the default type, and a string that is stored
for a type of authorization ends inside its buffer.

Each section has its invariant, with one lemma for its parser; those that refer to the default
configuration have it as an argument.
-/

namespace RuuviGateway
namespace GwCfgJson

open CJson CString

/-! ## Credentials in memory -/

namespace HttpAuth

variable (a : HttpAuth) (s : List Char)

@[simp] theorem user_setUser : (a.setUser s).user = written 51 s := Mem.read_write_self a _ s

@[simp] theorem password_setUser : (a.setUser s).password = a.password :=
  Mem.read_write_of_ge s (by omega)

@[simp] theorem password_setPassword : (a.setPassword s).password = written 51 s :=
  Mem.read_write_self a _ s

@[simp] theorem token_setToken : (a.setToken s).token = written 256 s := Mem.read_write_self a _ s

variable {a}

theorem user_setPassword (h : a.user.length < 51) : (a.setPassword s).user = a.user :=
  Mem.read_write_of_lt s (by simpa [user] using h)

/-- The user and the password end inside their buffers. -/
def BasicFits (a : HttpAuth) : Prop := a.user.length < 51 ∧ a.password.length < 51

theorem basicFits_zero : BasicFits (Mem.zero 256) := by
  simp [BasicFits, user, password, Mem.read_zero]

theorem BasicFits.setUser (h : a.BasicFits) : (a.setUser s).BasicFits := by
  refine ⟨?_, ?_⟩
  · rw [user_setUser]
    exact written_length_lt (by omega) s
  · rw [password_setUser]
    exact h.2

theorem BasicFits.setPassword (h : a.BasicFits) : (a.setPassword s).BasicFits := by
  refine ⟨?_, ?_⟩
  · rw [user_setPassword s h.1]
    exact h.1
  · rw [password_setPassword]
    exact written_length_lt (by omega) s

end HttpAuth

/-- A property that a write keeps is kept when a string of the document is copied. -/
theorem copyStringTo_keeps {P : HttpAuth → Prop} {set : List Char → HttpAuth → HttpAuth}
    {a : HttpAuth} (j : Json) (name : String) (h : P a) (hset : ∀ s, P (set s a)) :
    P (copyStringTo j name set a) := by
  unfold copyStringTo
  split
  · exact hset _
  · exact h

/-! ## The remote configuration -/

/-- The types that the remote configuration can have, with what is stored for each. -/
def RemoteAuthOk (authType : HttpAuthType) (auth : HttpAuth) : Prop :=
  match authType with
  | .none => True
  | .basic => auth.BasicFits
  | .bearer => auth.token.length < 256
  | .token | .apikey => False

theorem remoteAuthTypeFromStr_cases (s : List Char) :
    remoteAuthTypeFromStr s = .none ∨ remoteAuthTypeFromStr s = .basic ∨
      remoteAuthTypeFromStr s = .bearer := by
  unfold remoteAuthTypeFromStr fromStr
  cases hfind : [HttpAuthType.none, .basic, .bearer].find?
      (fun v => s == (HttpAuthType.toStr v).toList) with
  | none => exact Or.inl rfl
  | some v =>
    have hmem := List.mem_of_find?_eq_some hfind
    simpa using hmem

theorem RemoteAuthOk.parse {authType : HttpAuthType} {auth : HttpAuth}
    (h : RemoteAuthOk authType auth) (j : Json) :
    RemoteAuthOk (gwCfgJsonParseRemoteAuth j authType auth).1
      (gwCfgJsonParseRemoteAuth j authType auth).2 := by
  unfold gwCfgJsonParseRemoteAuth
  split
  · exact h
  · rename_i s _
    rcases remoteAuthTypeFromStr_cases s.chars with hs | hs | hs <;> rw [hs]
    · trivial
    · have hbase : HttpAuth.BasicFits (if authType ≠ .basic then Mem.zero 256 else auth) := by
        split
        · exact HttpAuth.basicFits_zero
        · rename_i heq
          have heq : authType = .basic := not_not.mp heq
          subst heq
          exact h
      have huser := copyStringTo_keeps j "remote_cfg_auth_basic_user" hbase hbase.setUser
      exact copyStringTo_keeps j "remote_cfg_auth_basic_pass" huser
        (HttpAuth.BasicFits.setPassword · huser)
    · have hbase :
          (HttpAuth.token (if authType ≠ .bearer then Mem.zero 256 else auth)).length < 256 := by
        split
        · simp [HttpAuth.token, Mem.read_zero]
        · rename_i heq
          have heq : authType = .bearer := not_not.mp heq
          subst heq
          exact h
      refine copyStringTo_keeps (P := fun a => a.token.length < 256) j
        "remote_cfg_auth_bearer_token" hbase fun t => ?_
      rw [HttpAuth.token_setToken]
      exact written_length_lt (by omega) t

/-! ## HTTP -/

/-- The settings of older firmware are not those of a custom server, and the stored token ends
inside the union. -/
structure Http.Ok (h : Http) : Prop where
  custom : h.useHttp = true → h.isRuuviDefault = false
  token : h.auth.token.length < 256

theorem gwCfgJsonPatchHttpLegacyPreV114_custom (h : Http)
    (huse : (gwCfgJsonPatchHttpLegacyPreV114 h).useHttp = true) :
    (gwCfgJsonPatchHttpLegacyPreV114 h).isRuuviDefault = false := by
  unfold gwCfgJsonPatchHttpLegacyPreV114 at huse ⊢
  by_cases hd : h.isRuuviDefault = true
  · simp [hd] at huse
  · simp [hd]

theorem gwCfgJsonPatchHttpLegacyPreV114_auth (h : Http) :
    (gwCfgJsonPatchHttpLegacyPreV114 h).auth = h.auth := by
  unfold gwCfgJsonPatchHttpLegacyPreV114
  split <;> rfl

theorem HttpAuth.token_length_setUser (a : HttpAuth) (s : List Char) :
    (a.setUser s).token.length < 256 := by
  have h : (Mem.read (a.setUser s) 0).length < 0 + 51 - 0 :=
    Mem.read_write_length s (Nat.le_refl 0)
  exact lt_trans h (by omega)

theorem HttpAuth.token_length_setPassword (a : HttpAuth) (s : List Char) :
    (a.setPassword s).token.length < 256 := by
  have h : (Mem.read (a.setPassword s) 0).length < 51 + 51 - 0 :=
    Mem.read_write_length s (Nat.zero_le 51)
  exact lt_trans h (by omega)

theorem token_length_parseHttpAuth {a : HttpAuth} (j : Json) (authType : HttpAuthType)
    (h : a.token.length < 256) : (gwCfgJsonParseHttpAuth j authType a).token.length < 256 := by
  have htoken : ∀ name, (copyStringTo j name HttpAuth.setToken a).token.length < 256 := by
    intro name
    refine copyStringTo_keeps (P := fun a => a.token.length < 256) j name h fun s => ?_
    rw [HttpAuth.token_setToken]
    exact written_length_lt (by omega) s
  cases authType with
  | none => exact h
  | basic =>
    have huser := copyStringTo_keeps (P := fun a => a.token.length < 256) j "http_user" h
      a.token_length_setUser
    exact copyStringTo_keeps (P := fun a => a.token.length < 256) j "http_pass" huser
      (HttpAuth.token_length_setPassword _)
  | bearer => exact htoken _
  | token => exact htoken _
  | apikey => exact htoken _

theorem Http.Ok.parse [Components] {j : Json} {h h' : Http} (hok : h.Ok)
    (hparse : gwCfgJsonParseHttp j h = some h') : h'.Ok := by
  simp only [gwCfgJsonParseHttp, Option.bind_eq_bind, Option.bind_eq_some_iff,
    Option.some.injEq] at hparse
  obtain ⟨period, -, rfl⟩ := hparse
  by_cases huse : getBoolVal j "use_http" h.useHttp = true
  · simp only [huse, if_true]
    refine ⟨gwCfgJsonPatchHttpLegacyPreV114_custom _, ?_⟩
    simp only [gwCfgJsonPatchHttpLegacyPreV114_auth]
    exact token_length_parseHttpAuth j _ hok.token
  · simp only [huse]
    exact ⟨fun hu => absurd hu (by simp), hok.token⟩

/-! ## The other sections -/

/-- NTP by DHCP is switched off together with NTP. -/
def Ntp.Ok (n : Ntp) : Prop := n.ntpUse = false → n.ntpUseDhcp = false

theorem Ntp.ok_parse (j : Json) (n : Ntp) : (gwCfgJsonParseNtp j n).Ok := by
  intro huse
  simp only [gwCfgJsonParseNtp] at huse ⊢
  cases hget : getBoolVal j "ntp_use" n.ntpUse <;> simp_all
  split at huse <;> simp_all

/-- The list of the scan filter has room for its length. -/
def ScanFilter.Ok (f : ScanFilter) : Prop := f.scanFilterLength ≤ 100

section scanFilter

variable [Components]

theorem parseScanFilterList_length {items : List Json} {i : Nat} {list list' : Vector MacAddr 100}
    (h : parseScanFilterList items i list = some list') (hi : i ≤ 100) :
    i + items.length ≤ 100 := by
  induction items generalizing i list with
  | nil => exact hi
  | cons item items ih =>
    rw [parseScanFilterList] at h
    split at h
    · have := ih h (by omega)
      rw [List.length_cons]
      omega
    · exact absurd h (by simp)

theorem ScanFilter.Ok.parse {j : Json} {f f' : ScanFilter} (hok : f.Ok)
    (hparse : gwCfgJsonParseScanFilter j f = some f') : f'.Ok := by
  unfold gwCfgJsonParseScanFilter at hparse
  split at hparse
  · rw [← Option.some.inj hparse]
    exact hok
  · simp only [Option.bind_eq_bind, Option.bind_eq_some_iff, Option.some.injEq] at hparse
    obtain ⟨list, hlist, rfl⟩ := hparse
    have := parseScanFilterList_length hlist (by omega)
    simpa [ScanFilter.Ok] using this

end scanFilter

/-! ## Relative to the default configuration -/

/-- A prefix or a client identifier is empty only if the default one is. -/
structure Mqtt.OkFor (d m : Mqtt) : Prop where
  mqttPrefix : m.mqttPrefix.chars = [] → d.mqttPrefix.chars = []
  mqttClientId : m.mqttClientId.chars = [] → d.mqttClientId.chars = []

theorem copyStringOrDefault_eq_nil {n : Nat} [NeZero n] {j : Json} {name : String}
    {d old : Buf n} (h : (copyStringOrDefault j name (some d) old).chars = []) :
    d.chars = [] := by
  simp only [copyStringOrDefault, Option.getD_some] at h
  split at h
  · exact h
  · contradiction

theorem Mqtt.okFor_parse [Components] {d m m' : Mqtt} {j : Json}
    (hparse : gwCfgJsonParseMqtt (some d) j m = some m') : d.OkFor m' := by
  simp only [gwCfgJsonParseMqtt, Option.bind_eq_bind, Option.bind_eq_some_iff,
    Option.some.injEq] at hparse
  obtain ⟨port, -, interval, -, rfl⟩ := hparse
  exact ⟨copyStringOrDefault_eq_nil, copyStringOrDefault_eq_nil⟩

/-- A scan by default has the fields of the default one. -/
def Scan.OkFor (d s : Scan) : Prop := s.scanDefault = true → s = { d with scanDefault := true }

theorem Scan.okFor_parse {d s : Scan} (j : Json) :
    Scan.OkFor d (gwCfgJsonParseScan (some d) j s) := by
  intro h
  simp only [gwCfgJsonParseScan, Option.getD_some] at h ⊢
  by_cases hdef : getBoolVal j "scan_default" s.scanDefault = true
  · simp only [hdef, if_true] at h ⊢
    cases d
    simp_all
  · rw [Bool.not_eq_true] at hdef
    simp only [hdef, Bool.false_eq_true, if_false] at h ⊢
    -- only the deprecated flag leads back to the default scan
    split at h
    · rename_i hext
      rw [if_pos hext]
      split at h
      · rename_i hfull
        rw [if_pos hfull]
        rfl
      · exact absurd h (by simp)
    · exact absurd h (by simp)

/-- Of the Wi-Fi access point, a document sets the password and the channel, which is not 0. -/
structure WifiAp.OkFor (d w : WifiAp) : Prop where
  eq : w = { d with password := w.password, channel := w.channel }
  channel : w.channel ≠ 0

theorem WifiAp.OkFor.parse {d w w' : WifiAp} {j : Json} (h : d.OkFor w)
    (hparse : gwCfgJsonParseWifiApConfig j w = some w') : d.OkFor w' := by
  simp only [gwCfgJsonParseWifiApConfig, Option.bind_eq_bind, Option.bind_eq_some_iff,
    Option.some.injEq] at hparse
  obtain ⟨channel, -, rfl⟩ := hparse
  refine ⟨?_, ?_⟩
  · rw [h.eq]
  · by_cases hc : channel = 0 <;> simp [hc]

/-- Of the Wi-Fi station, a document sets the SSID and the password. -/
def WifiSta.OkFor (d w : WifiSta) : Prop :=
  w = { d with ssid := w.ssid, password := w.password }

theorem WifiSta.OkFor.parse {d w : WifiSta} (h : d.OkFor w) (j : Json) :
    d.OkFor (gwCfgJsonParseWifiStaConfig j w) := by
  unfold WifiSta.OkFor gwCfgJsonParseWifiStaConfig
  rw [h]

section lanAuth

variable [Components]

/-- The default user and password have the default type, and only they have it. -/
structure LanAuth.OkFor (d l : LanAuth) : Prop where
  ruuvi : l.lanAuthType = .ruuvi →
    ¬ (d.lanAuthUser = l.lanAuthUser ∧ d.lanAuthPass = l.lanAuthPass)
  default : l.lanAuthType = .default →
    l.lanAuthUser = d.lanAuthUser ∧ l.lanAuthPass = d.lanAuthPass

theorem gwCfgJsonParseLanAuthUserPassword_type (dflt : Option LanAuth) (j : Json) (l : LanAuth) :
    (gwCfgJsonParseLanAuthUserPassword dflt j l).lanAuthType = l.lanAuthType := by
  unfold gwCfgJsonParseLanAuthUserPassword
  split <;> rfl

theorem LanAuth.okFor_patch {d l : LanAuth} (h : l.lanAuthType = .default →
    l.lanAuthUser = d.lanAuthUser ∧ l.lanAuthPass = d.lanAuthPass) :
    d.OkFor (gwCfgJsonPatchLanAuthDefault (some d) l) := by
  unfold gwCfgJsonPatchLanAuthDefault
  split
  · rename_i hc
    exact ⟨fun hr => absurd hr (by simp), fun _ => ⟨hc.2.1.symm, hc.2.2.symm⟩⟩
  · rename_i hc
    exact ⟨fun hr he => hc ⟨hr, he⟩, h⟩

theorem LanAuth.OkFor.parse {d l : LanAuth} (h : d.OkFor l) (j : Json) :
    d.OkFor (gwCfgJsonParseLanAuth (some d) j l) := by
  have hkeys : ∀ (l : LanAuth) (key keyRw : Buf authApiKeySize), d.OkFor l →
      d.OkFor { l with lanAuthApiKey := key, lanAuthApiKeyRw := keyRw } :=
    fun _ _ _ hl => ⟨hl.ruuvi, hl.default⟩
  simp only [gwCfgJsonParseLanAuth]
  refine hkeys _ _ _ ?_
  cases jsonWrapCopyStringVal j "lan_auth_type" authTypeStrSize with
  | none => exact h
  | some s =>
    refine LanAuth.okFor_patch fun htype => ?_
    rw [gwCfgJsonParseLanAuthUserPassword_type] at htype
    simp only at htype
    simp only [gwCfgJsonParseLanAuthUserPassword, htype]
    exact ⟨rfl, rfl⟩

/-- While the default configuration is parsed, `lan_auth_ruuvi` always becomes the default
type. -/
theorem lanAuthType_ne_ruuvi_of_parse {l : LanAuth} (h : l.lanAuthType ≠ .ruuvi) (j : Json) :
    (gwCfgJsonParseLanAuth none j l).lanAuthType ≠ .ruuvi := by
  simp only [gwCfgJsonParseLanAuth]
  cases jsonWrapCopyStringVal j "lan_auth_type" authTypeStrSize with
  | none => exact h
  | some s =>
    simp only [gwCfgJsonPatchLanAuthDefault, Option.getD_none, and_true]
    split
    · simp
    · assumption

end lanAuth

/-! ## The configuration -/

section cfg

variable [Components]

/-- The invariant of a `gw_cfg_ruuvi_t`. -/
structure Ruuvi.Ok (r : Ruuvi) : Prop where
  remote : RemoteAuthOk r.remote.authType r.remote.auth
  http : r.http.Ok
  ntp : r.ntp.Ok
  scanFilter : r.scanFilter.Ok

/-- Its part that refers to the default configuration. -/
structure Ruuvi.OkFor (d r : Ruuvi) : Prop where
  mqtt : d.mqtt.OkFor r.mqtt
  lanAuth : d.lanAuth.OkFor r.lanAuth
  scan : d.scan.OkFor r.scan

/-- The sections of a parsed configuration. -/
theorem gwCfgJsonParseCjsonRuuviCfg_eq_some {dflt : Option Ruuvi} {j : Json} {r r' : Ruuvi} :
    gwCfgJsonParseCjsonRuuviCfg dflt j r = some r' ↔
      gwCfgJsonParseRemote j r.remote = some r'.remote ∧
      gwCfgJsonParseHttp j r.http = some r'.http ∧
      gwCfgJsonParseHttpStat j r.httpStat = r'.httpStat ∧
      gwCfgJsonParseMqtt (dflt.map Ruuvi.mqtt) j r.mqtt = some r'.mqtt ∧
      gwCfgJsonParseLanAuth (dflt.map Ruuvi.lanAuth) j r.lanAuth = r'.lanAuth ∧
      gwCfgJsonParseAutoUpdate j r.autoUpdate = some r'.autoUpdate ∧
      gwCfgJsonParseNtp j r.ntp = r'.ntp ∧
      gwCfgJsonParseFilter j r.filter = some r'.filter ∧
      gwCfgJsonParseScan (dflt.map Ruuvi.scan) j r.scan = r'.scan ∧
      gwCfgJsonParseScanFilter j r.scanFilter = some r'.scanFilter ∧
      copyStringVal j "coordinates" r.coordinates = r'.coordinates ∧
      copyStringVal j "fw_update_url" r.fwUpdateUrl = r'.fwUpdateUrl := by
  simp only [gwCfgJsonParseCjsonRuuviCfg, Option.bind_eq_bind, Option.bind_eq_some_iff,
    Option.some.injEq]
  constructor
  · rintro ⟨remote, h1, http, h2, mqtt, h3, autoUpdate, h4, filter, h5, scanFilter, h6, rfl⟩
    exact ⟨h1, h2, rfl, h3, rfl, h4, rfl, h5, rfl, h6, rfl, rfl⟩
  · rintro ⟨h1, h2, h3, h4, h5, h6, h7, h8, h9, h10, h11, h12⟩
    refine ⟨_, h1, _, h2, _, h4, _, h6, _, h8, _, h10, ?_⟩
    rw [h3, h5, h7, h9, h11, h12]

theorem Ruuvi.Ok.parse {dflt : Option Ruuvi} {j : Json} {r r' : Ruuvi} (hok : r.Ok)
    (hparse : gwCfgJsonParseCjsonRuuviCfg dflt j r = some r') : r'.Ok := by
  obtain ⟨hremote, hhttp, -, -, -, -, hntp, -, -, hfilter, -, -⟩ :=
    gwCfgJsonParseCjsonRuuviCfg_eq_some.mp hparse
  refine ⟨?_, hok.http.parse hhttp, ?_, hok.scanFilter.parse hfilter⟩
  · simp only [gwCfgJsonParseRemote, Option.bind_eq_bind, Option.bind_eq_some_iff,
      Option.some.injEq] at hremote
    obtain ⟨interval, -, hr⟩ := hremote
    rw [← hr]
    exact hok.remote.parse j
  · rw [← hntp]
    exact Ntp.ok_parse j r.ntp

theorem Ruuvi.OkFor.parse {d r r' : Ruuvi} {j : Json} (hok : d.OkFor r)
    (hparse : gwCfgJsonParseCjsonRuuviCfg (some d) j r = some r') : d.OkFor r' := by
  obtain ⟨-, -, -, hmqtt, hlan, -, -, -, hscan, -, -, -⟩ :=
    gwCfgJsonParseCjsonRuuviCfg_eq_some.mp hparse
  refine ⟨Mqtt.okFor_parse hmqtt, ?_, ?_⟩
  · rw [← hlan]
    exact hok.lanAuth.parse j
  · rw [← hscan]
    exact Scan.okFor_parse j

/-- The sections of a parsed configuration. -/
theorem gwCfgJsonParse_eq_some {dflt : Option Ruuvi} {j : Json} {c c' : GwCfg} :
    gwCfgJsonParse dflt j c = some c' ↔
      gwCfgJsonParseCjsonRuuviCfg dflt j c.ruuvi = some c'.ruuvi ∧
      gwCfgJsonParseEth j c.eth = c'.eth ∧
      (match getObjectItem j "wifi_ap_config" with
        | none => some c.wifiAp
        | some ap => gwCfgJsonParseWifiApConfig ap c.wifiAp) = some c'.wifiAp ∧
      (match getObjectItem j "wifi_sta_config" with
        | none => c.wifiSta
        | some sta => gwCfgJsonParseWifiStaConfig sta c.wifiSta) = c'.wifiSta := by
  unfold gwCfgJsonParse
  cases getObjectItem j "wifi_ap_config" with
  | none =>
    simp only [Option.bind_eq_bind, Option.bind_some, Option.bind_eq_some_iff,
      Option.some.injEq]
    constructor
    · rintro ⟨ruuvi, hruuvi, rfl⟩
      exact ⟨hruuvi, rfl, rfl, rfl⟩
    · obtain ⟨ruuvi', eth', wifiAp', wifiSta'⟩ := c'
      rintro ⟨hruuvi, rfl, rfl, rfl⟩
      exact ⟨_, hruuvi, rfl⟩
  | some ap =>
    simp only [Option.bind_eq_bind, Option.bind_eq_some_iff, Option.some.injEq]
    constructor
    · rintro ⟨ruuvi, hruuvi, wifiAp, hap, rfl⟩
      exact ⟨hruuvi, rfl, hap, rfl⟩
    · obtain ⟨ruuvi', eth', wifiAp', wifiSta'⟩ := c'
      rintro ⟨hruuvi, rfl, hap, rfl⟩
      exact ⟨_, hruuvi, _, hap, rfl⟩

/-- The configurations that come from `d` by parsing documents. -/
inductive Parsed (d : GwCfg) : GwCfg → Prop where
  | dflt : Parsed d d
  | parse {c c' : GwCfg} (j : Json) (hc : Parsed d c)
      (hparse : gwCfgJsonParse (some d.ruuvi) j c = some c') : Parsed d c'

/-! ## The default configuration -/

theorem ok_gatewayConfigDefaultRuuvi : gatewayConfigDefaultRuuvi.Ok where
  remote := trivial
  http := by
    refine ⟨fun h => absurd h (by simp [gatewayConfigDefaultRuuvi]), ?_⟩
    simp [gatewayConfigDefaultRuuvi, HttpAuth.token, Mem.read_zero]
  ntp := fun h => absurd h (by simp [gatewayConfigDefaultRuuvi])
  scanFilter := Nat.zero_le 100

theorem Ruuvi.Ok.setDeviceDefaults {p : DefaultInitParam} {c : GwCfg} (h : c.ruuvi.Ok) :
    (setDeviceDefaults p c).ruuvi.Ok :=
  ⟨h.remote, h.http, h.ntp, h.scanFilter⟩

/-- The default configuration satisfies the invariant of its sections over itself. -/
theorem Ruuvi.ok_default {p : DefaultInitParam} {d : GwCfg} (hd : gwCfgDefaultInit p = some d) :
    d.ruuvi.Ok ∧ d.ruuvi.OkFor d.ruuvi := by
  simp only [gwCfgDefaultInit, Option.map_eq_some_iff] at hd
  obtain ⟨c, hc, rfl⟩ := hd
  have hfacts : c.ruuvi.Ok ∧ c.ruuvi.lanAuth.lanAuthType ≠ .ruuvi := by
    cases hj : p.gwCfgDefault with
    | none =>
      rw [hj] at hc
      rw [← Option.some.inj hc]
      exact ⟨ok_gatewayConfigDefaultRuuvi, by simp [gatewayConfigDefaultRuuvi]⟩
    | some j =>
      rw [hj] at hc
      obtain ⟨hruuvi, -⟩ := gwCfgJsonParse_eq_some.mp hc
      refine ⟨ok_gatewayConfigDefaultRuuvi.parse hruuvi, ?_⟩
      obtain ⟨-, -, -, -, hlan, -⟩ := gwCfgJsonParseCjsonRuuviCfg_eq_some.mp hruuvi
      rw [← hlan]
      exact lanAuthType_ne_ruuvi_of_parse (by simp [gatewayConfigDefaultRuuvi]) j
  obtain ⟨hruuvi, hlan⟩ := hfacts
  refine ⟨hruuvi.setDeviceDefaults, ⟨id, id⟩, ⟨fun h => absurd h hlan, fun _ => ⟨rfl, rfl⟩⟩, ?_⟩
  intro hscan
  rw [← hscan]

/-- So does its access point, if the Wi-Fi component gives it a channel. -/
theorem WifiAp.okFor_default {p : DefaultInitParam} {d : GwCfg}
    (hd : gwCfgDefaultInit p = some d) (hap : p.wifiAp.channel ≠ 0) :
    d.wifiAp.OkFor d.wifiAp := by
  simp only [gwCfgDefaultInit, Option.map_eq_some_iff] at hd
  obtain ⟨c, hc, rfl⟩ := hd
  refine ⟨rfl, ?_⟩
  cases hj : p.gwCfgDefault with
  | none =>
    rw [hj] at hc
    rw [← Option.some.inj hc]
    exact hap
  | some j =>
    rw [hj] at hc
    obtain ⟨-, -, hparse, -⟩ := gwCfgJsonParse_eq_some.mp hc
    split at hparse
    · have heq : p.wifiAp = c.wifiAp := Option.some.inj hparse
      exact fun h => hap ((congrArg WifiAp.channel heq).trans h)
    · exact (WifiAp.OkFor.parse (d := p.wifiAp) ⟨rfl, hap⟩ hparse).channel

theorem Parsed.ruuvi_ok {p : DefaultInitParam} {d c : GwCfg} (hc : Parsed d c)
    (hd : gwCfgDefaultInit p = some d) : c.ruuvi.Ok ∧ d.ruuvi.OkFor c.ruuvi := by
  induction hc with
  | dflt => exact Ruuvi.ok_default hd
  | parse j _ hparse ih =>
    obtain ⟨hruuvi, -⟩ := gwCfgJsonParse_eq_some.mp hparse
    exact ⟨ih.1.parse hruuvi, ih.2.parse hruuvi⟩

theorem Parsed.wifi_ok {p : DefaultInitParam} {d c : GwCfg} (hc : Parsed d c)
    (hd : gwCfgDefaultInit p = some d) (hap : p.wifiAp.channel ≠ 0) :
    d.wifiAp.OkFor c.wifiAp ∧ d.wifiSta.OkFor c.wifiSta := by
  induction hc with
  | dflt => exact ⟨WifiAp.okFor_default hd hap, rfl⟩
  | parse j _ hparse ih =>
    obtain ⟨-, -, hap, hsta⟩ := gwCfgJsonParse_eq_some.mp hparse
    refine ⟨?_, ?_⟩
    · split at hap
      · rw [← Option.some.inj hap]
        exact ih.1
      · exact ih.1.parse hap
    · rw [← hsta]
      split
      · exact ih.2
      · exact ih.2.parse _

end cfg

end GwCfgJson
end RuuviGateway
