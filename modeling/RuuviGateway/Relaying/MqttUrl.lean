import RuuviGateway.Lib.Strtoul
import RuuviGateway.Relaying.ValidateUrl

/-!
# The URL of an MQTT broker

`validate_url_parse_mqtt_url` accepts the URLs of its grammar,
`scheme '://' host ':' port`, and takes the parts for what they are.  The port goes through
`strtoul`, so white space and a sign before its digits are accepted too, if the number comes out
in the range; with a minus sign it is the negated one.
-/

namespace RuuviGateway
namespace Relaying

open Strtoul

/-! ## The grammar -/

/-- The schemes, and the transports that they stand for. -/
def schemes : List (List Char × String) :=
  [("mqtt".toList, "TCP"), ("mqtts".toList, "SSL"), ("mqttws".toList, "WS"),
    ("mqttwss".toList, "WSS")]

/-- A URL up to its port: a scheme, and a host that fits into the buffer of the server. -/
def UpToPort (url : List Char) (transport : String) (host port : List Char) : Prop :=
  ∃ scheme, (scheme, transport) ∈ schemes ∧ url = scheme ++ "://".toList ++ host ++ ':' :: port ∧
    ':' ∉ host ∧ host.length < 256

/-- A port: decimal digits that denote a number from 1 to 65535. -/
def Port (text : List Char) (port : Nat) : Prop :=
  text ≠ [] ∧ (∀ c ∈ text, isDigit 10 c = true) ∧ value 10 text = port ∧ 1 ≤ port ∧ port ≤ 65535

/-- The grammar, with what the parts denote. -/
def MqttUrl (url : List Char) (transport : String) (host : List Char) (port : Nat) : Prop :=
  ∃ text, UpToPort url transport host text ∧ Port text port

/-- A number with white space or a sign before its digits, that comes out in the range of the
ports. -/
def LoosePort (text : List Char) : Prop :=
  ∃ p : Parts 10, p.text = text ∧ ¬ p.Plain ∧ 1 ≤ p.toUInt32.toNat ∧ p.toUInt32.toNat ≤ 65535

/-- The parser accepts the URL if and only if it is one of the grammar, and then sets what its
parts denote. -/
def ParsesExactly (e : ValidateUrlEnv) (url : List Char) : Prop :=
  ((validateUrlParseMqttUrl e url).isSome = true ↔
      ∃ transport host port, MqttUrl url transport host port) ∧
    ∀ transport host port, validateUrlParseMqttUrl e url = some (transport, host, port) →
      MqttUrl url transport host port.toNat

/-! ## First places -/

/-- The first place of a text that begins with a colon. -/
theorem strstr_colon {w pat : List Char} (hw : ':' ∉ w) (u : List Char) :
    strstr (w ++ (':' :: pat ++ u)) (':' :: pat) = some (':' :: pat ++ u) := by
  induction w with
  | nil =>
    rw [List.nil_append, List.cons_append, strstr_cons, if_pos]
    exact ⟨u, rfl⟩
  | cons c w ih =>
    have hc : ¬ ':' :: pat <+: c :: (w ++ (':' :: pat ++ u)) := by
      intro h
      exact hw ((List.cons_prefix_cons.mp h).1 ▸ List.mem_cons_self)
    rw [List.cons_append, strstr_cons, if_neg hc]
    exact ih fun h => hw (List.mem_cons_of_mem c h)

/-- Before the first colon there is none. -/
theorem exists_of_strstr_colon {s rest : List Char} (h : strstr s [':'] = some rest) :
    ∃ host port, s = host ++ ':' :: port ∧ ':' ∉ host ∧ rest = ':' :: port := by
  induction s with
  | nil =>
    rw [strstr_nil (by simp)] at h
    exact absurd h (by simp)
  | cons c s ih =>
    rw [strstr_cons] at h
    split at h
    · rename_i hpre
      obtain ⟨rfl, -⟩ := List.cons_prefix_cons.mp hpre
      exact ⟨[], s, rfl, by simp, (Option.some.inj h).symm⟩
    · rename_i hpre
      obtain ⟨host, port, rfl, hhost, rfl⟩ := ih h
      refine ⟨c :: host, port, rfl, ?_, rfl⟩
      rw [List.mem_cons, not_or]
      exact ⟨fun hc => hpre (by rw [← hc]; exact ⟨_, rfl⟩), hhost⟩

/-! ## The scheme -/

theorem colon_notMem_of_mem_schemes {scheme : List Char} {transport : String}
    (h : (scheme, transport) ∈ schemes) : ':' ∉ scheme := by
  have hall : ∀ s ∈ schemes, ':' ∉ s.1 := by decide
  exact hall _ h

theorem mqttTransport_eq_some_iff {pre : List Char} {transport : String} :
    mqttTransport pre = some transport ↔
      ∃ scheme, (scheme, transport) ∈ schemes ∧ pre = scheme ++ "://".toList := by
  constructor
  · intro h
    unfold mqttTransport at h
    split at h
    · rename_i hpre
      obtain rfl := Option.some.inj h
      exact ⟨"mqtt".toList, by decide, hpre.trans (by decide)⟩
    split at h
    · rename_i hpre
      obtain rfl := Option.some.inj h
      exact ⟨"mqtts".toList, by decide, hpre.trans (by decide)⟩
    split at h
    · rename_i hpre
      obtain rfl := Option.some.inj h
      exact ⟨"mqttws".toList, by decide, hpre.trans (by decide)⟩
    split at h
    · rename_i hpre
      obtain rfl := Option.some.inj h
      exact ⟨"mqttwss".toList, by decide, hpre.trans (by decide)⟩
    · exact absurd h (by simp)
  · rintro ⟨scheme, hmem, rfl⟩
    simp only [schemes, List.mem_cons, Prod.mk.injEq, List.not_mem_nil, or_false] at hmem
    rcases hmem with ⟨rfl, rfl⟩ | ⟨rfl, rfl⟩ | ⟨rfl, rfl⟩ | ⟨rfl, rfl⟩
    · decide
    · decide
    · decide
    · decide

/-- The prefix is cut to the size of its buffer, which is more than any of the schemes needs. -/
theorem eq_of_take_eq {w scheme : List Char} {transport : String}
    (hmem : (scheme, transport) ∈ schemes)
    (h : (w ++ "://".toList).take 19 = scheme ++ "://".toList) : w = scheme := by
  have hlen : scheme.length ≤ 7 := by
    have hall : ∀ s ∈ schemes, s.1.length ≤ 7 := by decide
    exact hall _ hmem
  have hsep : "://".toList.length = 3 := by decide
  have hshort : (w ++ "://".toList).length ≤ 19 := by
    have htake := congrArg List.length h
    rw [List.length_take, List.length_append, List.length_append] at htake
    rw [List.length_append]
    omega
  rw [List.take_of_length_le hshort] at h
  exact List.append_cancel_right h

/-! ## What the parser returns -/

/-- The prefix with its separator. -/
theorem take_to_separator (w t : List Char) :
    (w ++ ("://".toList ++ t)).take
      ((w ++ ("://".toList ++ t)).length - ("://".toList ++ t).length + 3) =
        w ++ "://".toList := by
  rw [← List.append_assoc]
  exact List.take_left' (by simp)

/-- The host. -/
theorem take_to_colon (host text : List Char) :
    (host ++ ':' :: text).take ((host ++ ':' :: text).length - (':' :: text).length) = host :=
  List.take_left' (by simp)

variable {e : ValidateUrlEnv} {url host : List Char} {transport : String} {port : UInt16}

/-- **What the parser accepts**: a port that is read to its end, in the range. -/
theorem validateUrlParseMqttUrl_eq_some_iff
    (he : ∀ s, e.strToUint32 s = ((strtoul s 10).1.toNat, (strtoul s 10).2)) :
    validateUrlParseMqttUrl e url = some (transport, host, port) ↔
      ∃ text v, UpToPort url transport host text ∧ strtoul text 10 = (v, []) ∧
        1 ≤ v.toNat ∧ v.toNat ≤ 65535 ∧ UInt16.ofNat v.toNat = port := by
  constructor
  · intro h
    obtain ⟨rest, hrest, h⟩ := Option.bind_eq_some_iff.mp h
    obtain ⟨transport', htransport, h⟩ := Option.bind_eq_some_iff.mp h
    obtain ⟨colon, hcolon, h⟩ := Option.bind_eq_some_iff.mp h
    obtain ⟨⟨t, rfl⟩, w, rfl⟩ := strstr_spec (by decide) hrest
    obtain ⟨scheme, hmem, hscheme⟩ := mqttTransport_eq_some_iff.mp htransport
    obtain ⟨host', text, hserver, hhost, rfl⟩ := exists_of_strstr_colon hcolon
    rw [take_to_separator] at hscheme
    obtain rfl := eq_of_take_eq hmem hscheme
    have hdrop : ("://".toList ++ t).drop 3 = t := rfl
    rw [hdrop] at hserver h
    subst hserver
    simp only [take_to_colon, he, List.drop_succ_cons, List.drop_zero] at h
    obtain ⟨hfits, h⟩ := Option.ite_none_left_eq_some.mp h
    obtain ⟨hend, h⟩ := Option.ite_none_left_eq_some.mp h
    obtain ⟨hrange, h⟩ := Option.ite_none_left_eq_some.mp h
    obtain ⟨rfl, rfl, rfl⟩ : transport' = transport ∧ host' = host ∧ _ = port := by
      simpa using h
    refine ⟨text, (strtoul text 10).1, ⟨_, hmem, by simp, hhost, by omega⟩,
      Prod.ext rfl (not_not.mp hend), by omega, by omega, rfl⟩
  · rintro ⟨text, v, ⟨scheme, hmem, rfl, hhost, hfits⟩, hread, hpos, hle, rfl⟩
    have hsplit : scheme ++ "://".toList ++ host ++ ':' :: text =
        scheme ++ ("://".toList ++ (host ++ ':' :: text)) := by
      simp only [List.append_assoc]
    have hprefix : strstr (scheme ++ ("://".toList ++ (host ++ ':' :: text))) "://".toList =
        some ("://".toList ++ (host ++ ':' :: text)) :=
      strstr_colon (colon_notMem_of_mem_schemes hmem) (host ++ ':' :: text)
    have hcolon : strstr (host ++ ':' :: text) [':'] = some (':' :: text) :=
      strstr_colon hhost text
    have htransport : mqttTransport ((scheme ++ "://".toList).take 19) = some transport := by
      refine mqttTransport_eq_some_iff.mpr ⟨scheme, hmem, List.take_of_length_le ?_⟩
      have hall : ∀ s ∈ schemes, (s.1 ++ "://".toList).length ≤ 19 := by decide
      exact hall _ hmem
    rw [hsplit]
    refine Option.bind_eq_some_iff.mpr ⟨_, hprefix, Option.bind_eq_some_iff.mpr
      ⟨transport, ?_, Option.bind_eq_some_iff.mpr ⟨_, hcolon, ?_⟩⟩⟩
    · rw [take_to_separator]
      exact htransport
    · have hdrop : ("://".toList ++ (host ++ ':' :: text)).drop 3 = host ++ ':' :: text := rfl
      simp only [hdrop, take_to_colon, he, List.drop_succ_cons, List.drop_zero, hread]
      rw [if_neg (by omega), if_neg (by simp), if_neg (by omega)]

/-! ## Exactness -/

/-- Up to its port the URL is one of the grammar, and the port is a number with white space or a
sign before its digits. -/
def LooseUrl (url : List Char) : Prop :=
  ∃ transport host text, UpToPort url transport host text ∧ LoosePort text

/-- The transport and the host determine the text of the port. -/
theorem UpToPort.text_eq {text text' : List Char} (h : UpToPort url transport host text)
    (h' : UpToPort url transport host text') : text = text' := by
  obtain ⟨scheme, hmem, rfl, -, -⟩ := h
  obtain ⟨scheme', hmem', heq, -, -⟩ := h'
  have hall : ∀ s ∈ schemes, ∀ s' ∈ schemes, s.2 = s'.2 → s.1 = s'.1 := by decide
  obtain rfl : scheme = scheme' := hall _ hmem _ hmem' rfl
  exact (List.cons.inj (List.append_cancel_left heq)).2

/-- A port that is read is digits, or has something before its digits. -/
theorem port_or_loosePort {text : List Char} {v : UInt32} (hread : strtoul text 10 = (v, []))
    (hpos : 1 ≤ v.toNat) (hle : v.toNat ≤ 65535) : Port text v.toNat ∨ LoosePort text := by
  rcases (strtoul_eq_nil_iff (by decide)).mp hread with ⟨-, rfl⟩ | ⟨p, rfl, rfl⟩
  · exact absurd hpos (by decide)
  · by_cases hplain : p.Plain
    · have hvalue := hplain.toNat_toUInt32
      refine .inl ⟨p.text_ne_nil, hplain.isDigit_of_mem, ?_, hpos, hle⟩
      rw [hplain.text]
      omega
    · exact .inr ⟨p, rfl, hplain, hpos, hle⟩

/-- Digits are read as the number that they denote. -/
theorem strtoul_of_port {text : List Char} {port : Nat} (h : Port text port) :
    strtoul text 10 = (UInt32.ofNat port, []) ∧ (UInt32.ofNat port).toNat = port := by
  obtain ⟨hne, hdigits, rfl, -, hle⟩ := h
  have hlt : value 10 text < 2 ^ 32 := by omega
  have hread := strtoul_text (by decide) (Parts.ofDigits text hne hdigits)
  have hvalue : (Parts.ofDigits text hne hdigits).toUInt32 = UInt32.ofNat (value 10 text) := by
    refine UInt32.toNat_inj.mp ?_
    rw [Parts.toNat_ofDigits hne hdigits hlt, UInt32.toNat_ofNat_of_lt' hlt]
  rw [hvalue] at hread
  exact ⟨hread, UInt32.toNat_ofNat_of_lt' hlt⟩

/-- **Which URLs are parsed right**: all but those with white space or a sign before the digits
of the port. -/
theorem parsesExactly_iff
    (he : ∀ s, e.strToUint32 s = ((strtoul s 10).1.toNat, (strtoul s 10).2)) :
    ParsesExactly e url ↔ ¬ LooseUrl url := by
  constructor
  · rintro ⟨-, hdenotes⟩ ⟨transport, host, text, hurl, p, rfl, hnot, hpos, hle⟩
    obtain ⟨text', hurl', hport⟩ := hdenotes transport host _
      ((validateUrlParseMqttUrl_eq_some_iff he).mpr
        ⟨_, _, hurl, strtoul_text (by decide) p, hpos, hle, rfl⟩)
    obtain rfl := hurl.text_eq hurl'
    exact hnot (Parts.plain_of_isDigit hport.2.1)
  · intro hloose
    have hdenotes : ∀ transport host port,
        validateUrlParseMqttUrl e url = some (transport, host, port) →
          MqttUrl url transport host port.toNat := by
      intro transport host port h
      obtain ⟨text, v, hurl, hread, hpos, hle, rfl⟩ := (validateUrlParseMqttUrl_eq_some_iff he).mp h
      rcases port_or_loosePort hread hpos hle with hport | hport
      · have hv : (UInt16.ofNat v.toNat).toNat = v.toNat :=
          UInt16.toNat_ofNat_of_lt' (Nat.lt_succ_of_le hle)
        rw [hv]
        exact ⟨text, hurl, hport⟩
      · exact absurd ⟨_, _, _, hurl, hport⟩ hloose
    refine ⟨⟨fun h => ?_, fun ⟨transport, host, port, text, hurl, hport⟩ => ?_⟩, hdenotes⟩
    · obtain ⟨⟨transport, host, port⟩, hparsed⟩ := Option.isSome_iff_exists.mp h
      exact ⟨transport, host, port.toNat, hdenotes transport host port hparsed⟩
    · obtain ⟨hread, hv⟩ := strtoul_of_port hport
      rw [(validateUrlParseMqttUrl_eq_some_iff he).mpr ⟨text, _, hurl, hread,
        hv.symm ▸ hport.2.2.2.1, hv.symm ▸ hport.2.2.2.2, rfl⟩]
      rfl

/-! ## A port with a sign -/

/-- A download that finds nothing. -/
def noJson : JsonEnv where
  download := transportChanges "TCP" "TCP"
  received := httpServerErrDownloadInfo500
  contentInMemory := false
  content := none

/-- A handler that has only a URL to parse. -/
def urlOnly : ValidateUrlEnv where
  params := ⟨fun _ => none, fun _ _ _ => none⟩
  suspend := noneSuspended
  resume := noneSuspended
  urlParsed := true
  savedPassword := none
  httpCheckPostAdvs := fun _ => .fixed 400
  httpCheckPostStat := fun _ => .fixed 400
  httpCheckMqtt := fun _ => .fixed 400
  allocated := true
  strToUint32 := fun s => ((strtoul s 10).1.toNat, (strtoul s 10).2)
  savedRemoteCfg := none
  suspendRemote := noneSuspended
  gwCfg := ⟨"", false, noJson, false, noJson, false, none⟩
  resumeRemote := noneSuspended
  fwUpdateInfo := noJson
  parseFwUpdateInfo := fun _ => none
  files := fun _ => ⟨false, transportChanges "TCP" "TCP"⟩
  file := transportChanges "TCP" "TCP"

/-- `"mqtts://host:8883"` has a port of digits only. -/
theorem not_looseUrl_mqtts : ¬ LooseUrl "mqtts://host:8883".toList := by
  have hparsed : validateUrlParseMqttUrl urlOnly "mqtts://host:8883".toList =
      some ("SSL", "host".toList, 8883) := by decide +kernel
  have hurl : MqttUrl "mqtts://host:8883".toList "SSL" "host".toList 8883 :=
    ⟨"8883".toList, ⟨"mqtts".toList, by decide, by decide, by decide, by decide⟩, by decide,
      List.all_eq_true.mp (by decide), by decide, by decide, by decide⟩
  refine (parsesExactly_iff (e := urlOnly) fun _ => rfl).mp ⟨?_, fun transport host port h => ?_⟩
  · rw [hparsed]
    exact iff_of_true rfl ⟨_, _, _, hurl⟩
  · obtain ⟨rfl, rfl, rfl⟩ : "SSL" = transport ∧ "host".toList = host ∧ 8883 = port := by
      simpa using hparsed.symm.trans h
    exact hurl

/-- `"mqtt://host: -4294965413"` is taken for the port 1883. -/
theorem not_parsesExactly_negative :
    validateUrlParseMqttUrl urlOnly "mqtt://host: -4294965413".toList =
        some ("TCP", "host".toList, 1883) ∧
      ¬ ParsesExactly urlOnly "mqtt://host: -4294965413".toList := by
  have hparsed : validateUrlParseMqttUrl urlOnly "mqtt://host: -4294965413".toList =
      some ("TCP", "host".toList, 1883) := by decide +kernel
  refine ⟨hparsed, fun h => ?_⟩
  obtain ⟨text, ⟨scheme, hmem, hurl, -, -⟩, hport⟩ := h.2 _ _ _ hparsed
  obtain rfl : scheme = "mqtt".toList := by simpa [schemes] using hmem
  obtain rfl : " -4294965413".toList = text := congrArg (List.drop 12) hurl
  exact absurd (hport.2.1 ' ' (by decide)) (by decide)

end Relaying
end RuuviGateway
