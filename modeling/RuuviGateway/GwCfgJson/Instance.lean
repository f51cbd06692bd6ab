import RuuviGateway.GwCfgJson.Generate
import RuuviGateway.Lib.Strtoul

/-!
# The submodules, for examples

An instance of `Components`: the names of `esp32-wifi-manager`, MAC addresses written as six
bytes between colons, and `strtoul`.  It is lawful, so that the results that rest on the
documented behaviour of the submodules are about something.
-/

namespace RuuviGateway
namespace GwCfgJson
namespace Sample

open CString

/-- The names of the types of LAN authorization. -/
def authTypeName : HttpServerAuthType → String
  | .basic => "lan_auth_basic"
  | .digest => "lan_auth_digest"
  | .ruuvi => "lan_auth_ruuvi"
  | .default => "lan_auth_default"
  | .allow => "lan_auth_allow"
  | .deny => "lan_auth_deny"
  | .bearer => "lan_auth_bearer"

/-! ## MAC addresses -/

/-- A hexadecimal digit, in upper case. -/
def hexChar (n : Nat) : Char := if n < 10 then Char.ofNat (48 + n) else Char.ofNat (55 + n)

/-- The last `k` hexadecimal digits of `n`. -/
def hexChars : Nat → Nat → List Char
  | 0, _ => []
  | k + 1, n => hexChars k (n / 16) ++ [hexChar (n % 16)]

/-- Digits, with a colon after each two of them. -/
def macText : List Char → List Char
  | a :: b :: c :: s => a :: b :: ':' :: macText (c :: s)
  | s => s

theorem hexDigit_hexChar : ∀ n < 16, hexDigit (hexChar n) = some n ∧ hexChar n ≠ ':' := by decide

theorem mem_hexChars {k n : Nat} {c : Char} (h : c ∈ hexChars k n) :
    ∃ m < 16, c = hexChar m := by
  induction k generalizing n with
  | zero => simp [hexChars] at h
  | succ k ih =>
    rcases List.mem_append.mp h with hlow | hlast
    · exact ih hlow
    · exact ⟨n % 16, Nat.mod_lt n (by omega), List.mem_singleton.mp hlast⟩

theorem hexValue_append {s : List Char} (h : ∀ c ∈ s, ∃ m < 16, c = hexChar m) (acc : Nat)
    (t : List Char) : hexValue acc (s ++ t) = hexValue (hexValue acc s) t := by
  induction s generalizing acc with
  | nil => rfl
  | cons c s ih =>
    obtain ⟨m, hm, rfl⟩ := h c List.mem_cons_self
    have hd := (hexDigit_hexChar m hm).1
    simp only [List.cons_append, hexValue, hd]
    exact ih (fun c hc => h c (List.mem_cons_of_mem _ hc)) _

theorem hexValue_hexChars (k n acc : Nat) :
    hexValue acc (hexChars k n) = acc * 16 ^ k + n % 16 ^ k := by
  induction k generalizing n with
  | zero => simp [hexChars, hexValue, Nat.mod_one]
  | succ k ih =>
    have hd := (hexDigit_hexChar (n % 16) (Nat.mod_lt n (by omega))).1
    rw [hexChars, hexValue_append (fun c hc => mem_hexChars hc), ih]
    simp only [hexValue, hd]
    have hassoc : acc * (16 * 16 ^ k) = 16 * (acc * 16 ^ k) := Nat.mul_left_comm ..
    rw [Nat.pow_succ', Nat.mod_mul, hassoc]
    omega

theorem filter_macText {s : List Char} (h : ∀ c ∈ s, c ≠ ':') :
    (macText s).filter (fun c => c != ':') = s := by
  induction s using macText.induct with
  | case1 a b c s ih =>
    have ha : (a != ':') = true := by simpa using h a (by simp)
    have hb : (b != ':') = true := by simpa using h b (by simp)
    have htail := ih fun x hx => h x (by simp [hx])
    simp only [macText, List.filter_cons, ha, hb, htail, bne_self_eq_false, if_true,
      Bool.false_eq_true, if_false]
  | case2 s hs =>
    rw [macText]
    · exact List.filter_eq_self.mpr fun c hc => by simpa using h c hc
    · exact hs

/-! ## The instance -/

scoped instance components : Components where
  authTypeToStr t := (authTypeName t).toList
  authTypeFromStr := fromStr authTypeName .default
    [.basic, .digest, .ruuvi, .default, .allow, .deny, .bearer]
  authTypeStrSize := 24
  authUserSize := 51
  authPassSize := 51
  authApiKeySize := 64
  sizes_pos := by decide
  macAddressToStr a := macText (hexChars 12 a.toNat)
  macAddrFromStr s _ := BitVec.ofNat 48 (hexValue 0 ((s.getD []).filter fun c => c != ':'))
  osStrToUint32 := Strtoul.strtoul

scoped instance lawfulComponents : LawfulComponents where
  authTypeFromStr_toStr t := by cases t <;> decide
  macAddrFromStr_toStr a old := by
    have hnocolon : ∀ c ∈ hexChars 12 a.toNat, c ≠ ':' := by
      intro c hc
      obtain ⟨m, hm, rfl⟩ := mem_hexChars hc
      exact (hexDigit_hexChar m hm).2
    have hvalue : hexValue 0 (hexChars 12 a.toNat) = a.toNat := by
      rw [hexValue_hexChars, Nat.zero_mul, Nat.zero_add]
      exact Nat.mod_eq_of_lt a.isLt
    change BitVec.ofNat 48 (hexValue 0 ((macText (hexChars 12 a.toNat)).filter _)) = a
    rw [filter_macText hnocolon, hvalue]
    exact BitVec.ofNat_toNat _ a |>.trans (BitVec.setWidth_eq a)

/-- A gateway without a default document. -/
def param : DefaultInitParam where
  wifiAp := {
    ssid := "Configure Ruuvi Gateway EEFF".toList
    password := .empty 64
    ssidLen := 0
    channel := 1
    authmode := 0
    ssidHidden := 0
    maxConnection := 4
    beaconInterval := 100
    pairwiseCipher := 0
    ftmResponder := false
    apBandwidth := 1
    apIp := "10.10.0.1".toList
    apGw := "10.10.0.1".toList
    apNetmask := "255.255.255.0".toList }
  wifiSta := {
    ssid := .empty 32
    password := .empty 64
    scanMethod := 0
    bssidSet := false
    bssid := 0
    channel := 0
    listenInterval := 0
    sortMethod := 0
    thresholdRssi := 0
    thresholdAuthmode := 0
    pmfCapable := false
    pmfRequired := false
    rmEnabled := false
    btmEnabled := false
    staPowerSave := false
    staStaticIp := false
    staticIp := 0
    staticNetmask := 0
    staticGw := 0 }
  nrf52MacAddr := "AA:BB:CC:DD:EE:FF".toList
  lanAuthDefaultPassword := "0d6c6f1c27ca628806eb9247740d8ba1".toList
  gwCfgDefault := none

/-- A gateway without certificates. -/
def deviceInfo : DeviceInfo where
  esp32FwVer := "v1.16.0".toList
  nrf52FwVer := "v1.0.0".toList
  nrf52MacAddr := "AA:BB:CC:DD:EE:FF".toList
  storage := none

end Sample
end GwCfgJson
end RuuviGateway
