import RuuviGateway.GwCfgJson.SaveLoad

/-!
# Saving from the UI what the UI was given

The UI posts back the text that it was given, without secrets, and the parser takes what is
missing from the configuration as it is.  The result is compared with the configuration once
the fields of disabled sections have been taken over; the flags that enable sections always
count.

Everything is kept exactly for a configuration that is `Restorable`: the remaining fields go
through the text, and some of them do not come back from it.
-/

namespace RuuviGateway
namespace GwCfgJson

open CJson CString

/-- `r`, with the parameters of the custom server from `c` if this is disabled. -/
def Http.withParamsOf (r c : Http) : Http :=
  if c.useHttp then r
  else { c with useHttpRuuvi := r.useHttpRuuvi, useHttp := r.useHttp }

/-- Besides what is lost on saving, nothing of a disabled server is lost. -/
theorem withParamsOf_generated (d c : Http) (hide : Bool) :
    (Http.generated hide d c c).withParamsOf c = (Http.generated hide d c c).withDisabledOf c := by
  unfold Http.withParamsOf Http.withDisabledOf Http.withUnusedOf
  cases hcustom : c.useHttp with
  | true => simp
  | false =>
    cases hruuvi : c.useHttpRuuvi with
    | true => simp
    | false =>
      have hw : c.writesDefault = false := by simp [Http.writesDefault, hcustom, hruuvi]
      simp [Http.generated, hw, Http.restored, hcustom, hruuvi]

section cfg

variable [Components]

/-- `r`, with the fields of the sections that are disabled in `c` taken from there. -/
def Ruuvi.withDisabledSectionsOf (r c : Ruuvi) : Ruuvi := { r with
  http := r.http.withParamsOf c.http
  httpStat := r.httpStat.withUnusedOf c.httpStat
  mqtt := r.mqtt.withUnusedOf c.mqtt
  ntp := r.ntp.withUnusedOf c.ntp }

/-- **When saving from the UI keeps everything.**  For a configuration `c` that documents have
led to, the text that the UI was given is parsed on top of `c` without fault, and the result
agrees with `c` up to disabled sections, if and only if `c` is restorable. -/
theorem uiSave_keeps_iff [LawfulComponents] {p : DefaultInitParam} {d c : GwCfg}
    (hd : gwCfgDefaultInit p = some d) (hc : Parsed d c) (info : DeviceInfo) :
    (∃ r, gwCfgJsonParseCjsonRuuviCfg (some d.ruuvi)
        (gwCfgJsonGenerateForUiClient d.ruuvi info c) c.ruuvi = some r ∧
      gwCfgRuuviCmp c.ruuvi (r.withDisabledSectionsOf c.ruuvi) = true) ↔
    d.ruuvi.Restorable c.ruuvi := by
  obtain ⟨hok, hokFor⟩ := hc.ruuvi_ok hd
  obtain ⟨r, hparse, hrestored⟩ :=
    parseRuuvi_generated c.ruuvi (holds_ui d.ruuvi info c) hok hokFor fun _ => rfl
  have hsame : r.withDisabledSectionsOf c.ruuvi = r.withDisabledOf c.ruuvi := by
    simp only [Ruuvi.withDisabledSectionsOf, Ruuvi.withDisabledOf, hrestored.http,
      withParamsOf_generated]
  have hagrees : (∃ r, gwCfgJsonParseCjsonRuuviCfg (some d.ruuvi)
        (gwCfgJsonGenerateForUiClient d.ruuvi info c) c.ruuvi = some r ∧
      gwCfgRuuviCmp c.ruuvi (r.withDisabledSectionsOf c.ruuvi) = true) ↔
      gwCfgRuuviCmp c.ruuvi (r.withDisabledOf c.ruuvi) = true := by
    constructor
    · rintro ⟨r', hparse', hcmp⟩
      have heq : r' = r := Option.some.inj (hparse'.symm.trans hparse)
      rwa [heq, hsame] at hcmp
    · intro hcmp
      exact ⟨r, hparse, hsame ▸ hcmp⟩
  rw [hagrees, gwCfgRuuviCmp_restored hrestored hok hokFor fun _ => rfl]
  simp only [authCmp_authRestored_ui]
  constructor
  · rintro ⟨hperiod, huser, hcloud, hinterval, hlan, hscan⟩
    exact ⟨hperiod, huser, hcloud, hinterval, hlan, hscan⟩
  · intro h
    exact ⟨h.httpPeriod, h.httpUser, h.ruuviCloud, h.mqttInterval, h.lanAuth, h.scan⟩

end cfg

open Sample

/-- A custom server and a broker with credentials, and a LAN user. -/
def customServers : Json := .object [
  ("use_http_ruuvi", .bool false),
  ("use_http", .bool true),
  ("http_url", lit "https://example.com/record"),
  ("http_period", num 30),
  ("http_auth", lit "basic"),
  ("http_user", lit "gateway"),
  ("http_pass", lit "secret"),
  ("use_mqtt", .bool true),
  ("mqtt_server", lit "broker.example.com"),
  ("mqtt_user", lit "gateway"),
  ("mqtt_pass", lit "hidden"),
  ("lan_auth_type", lit "lan_auth_ruuvi"),
  ("lan_auth_user", lit "Admin"),
  ("lan_auth_pass", lit "9e107d9d372bb6826bd81d3542a419d6")]

/-- The secrets, which the text for the UI does not contain, are kept. -/
theorem uiSave_keeps_customServers :
    ∃ d c r, gwCfgDefaultInit param = some d ∧ Parsed d c ∧
      c.ruuvi.http.useHttp = true ∧ c.ruuvi.http.auth.password = "secret".toList ∧
      c.ruuvi.mqtt.useMqtt = true ∧ c.ruuvi.mqtt.mqttPass.chars = "hidden".toList ∧
      gwCfgJsonParseCjsonRuuviCfg (some d.ruuvi)
        (gwCfgJsonGenerateForUiClient d.ruuvi deviceInfo c) c.ruuvi = some r ∧
      gwCfgRuuviCmp c.ruuvi (r.withDisabledSectionsOf c.ruuvi) = true := by
  have hrun : (do
      let d ← gwCfgDefaultInit param
      let c ← gwCfgJsonParse (some d.ruuvi) customServers d
      some (decide (c.ruuvi.http.useHttp = true ∧ c.ruuvi.http.httpPeriod = 30 ∧
        c.ruuvi.http.auth.user = "gateway".toList ∧
        c.ruuvi.http.auth.password = "secret".toList ∧
        c.ruuvi.mqtt.useMqtt = true ∧ c.ruuvi.mqtt.mqttSendingInterval = 0 ∧
        c.ruuvi.mqtt.mqttPass.chars = "hidden".toList ∧
        c.ruuvi.lanAuth.lanAuthType = .ruuvi ∧ d.ruuvi.scan.scanDefault = true))) =
      some true := by decide +kernel
  simp only [Option.bind_eq_bind, Option.bind_eq_some_iff, Option.some.injEq,
    decide_eq_true_eq] at hrun
  obtain ⟨d, hd, c, hc, hcustom, hperiod, huser, hpass, hmqtt, hinterval, hmqttPass, hlan,
    hscan⟩ := hrun
  have hrestorable : d.ruuvi.Restorable c.ruuvi := by
    refine ⟨fun _ => ?_, fun _ _ => ?_, fun _ h => ?_, fun _ => ?_, fun h => ?_, fun _ => hscan⟩
    · rw [hperiod]
      decide
    · rw [huser]
      decide
    · rw [hcustom] at h
      exact absurd h (by simp)
    · rw [hinterval]
      decide
    · rw [hlan] at h
      rcases h with h | h | h <;> exact absurd h (by simp)
  have hparsed : Parsed d c := .parse customServers .dflt hc
  obtain ⟨r, hr, hcmp⟩ := (uiSave_keeps_iff hd hparsed deviceInfo).mpr hrestorable
  exact ⟨d, c, r, hd, hparsed, hcustom, hpass, hmqtt, hmqttPass, hr, hcmp⟩

/-- A custom server with a period of more than 16 bits, which is a string of the document. -/
def longPeriod : Json := .object [
  ("use_http_ruuvi", .bool false),
  ("use_http", .bool true),
  ("http_url", lit "https://example.com/record"),
  ("http_period", lit "100000")]

/-- The period is given to the UI as a number, and posted back it is another one. -/
theorem uiSave_changes_period :
    ∃ d c r, gwCfgDefaultInit param = some d ∧ Parsed d c ∧
      gwCfgJsonParseCjsonRuuviCfg (some d.ruuvi)
        (gwCfgJsonGenerateForUiClient d.ruuvi deviceInfo c) c.ruuvi = some r ∧
      c.ruuvi.http.useHttp = true ∧ c.ruuvi.http.httpPeriod = 100000 ∧
      r.http.httpPeriod = 34464 ∧
      gwCfgRuuviCmp c.ruuvi (r.withDisabledSectionsOf c.ruuvi) = false := by
  have hrun : (do
      let d ← gwCfgDefaultInit param
      let c ← gwCfgJsonParse (some d.ruuvi) longPeriod d
      let r ← gwCfgJsonParseCjsonRuuviCfg (some d.ruuvi)
        (gwCfgJsonGenerateForUiClient d.ruuvi deviceInfo c) c.ruuvi
      some (decide (c.ruuvi.http.useHttp = true ∧ c.ruuvi.http.httpPeriod = 100000 ∧
        r.http.httpPeriod = 34464 ∧
        gwCfgRuuviCmp c.ruuvi (r.withDisabledSectionsOf c.ruuvi) = false))) = some true := by
    decide +kernel
  simp only [Option.bind_eq_bind, Option.bind_eq_some_iff, Option.some.injEq,
    decide_eq_true_eq] at hrun
  obtain ⟨d, hd, c, hc, r, hr, hcustom, hperiod, hread, hcmp⟩ := hrun
  exact ⟨d, c, r, hd, .parse longPeriod .dflt hc, hr, hcustom, hperiod, hread, hcmp⟩

end GwCfgJson
end RuuviGateway
