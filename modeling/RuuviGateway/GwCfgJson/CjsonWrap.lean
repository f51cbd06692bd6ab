import RuuviGateway.GwCfgJson.Config
import RuuviGateway.Lib.CJson

/-!
# Reading values out of JSON

The getters of `cjson_wrap.c`.  Each answers `none` when the member is missing or is not
accepted, and then the callers leave the variable as it was.  The getters of numbers look at
`valuestring` of whatever is not a number, so on a member that is neither number nor string
they dereference NULL: there the result is the outer `none`, and so is that of every parser
that calls them.
-/

namespace RuuviGateway
namespace GwCfgJson

open CJson CString

/-- `json_wrap_copy_string_val`. -/
def jsonWrapCopyStringVal (j : Json) (name : String) (n : Nat) [NeZero n] : Option (Buf n) :=
  ((getObjectItem j name).bind getStringValue).map (snprintf n)

/-- `json_wrap_get_bool_val`. -/
def jsonWrapGetBoolVal (j : Json) (name : String) : Option Bool :=
  match getObjectItem j name with
  | some (.bool b) => some b
  | _ => none

/-! ## Numbers -/

def hexDigit (c : Char) : Option Nat :=
  if '0' ≤ c ∧ c ≤ '9' then some (c.toNat - '0'.toNat)
  else if 'a' ≤ c ∧ c ≤ 'f' then some (c.toNat - 'a'.toNat + 10)
  else if 'A' ≤ c ∧ c ≤ 'F' then some (c.toNat - 'A'.toNat + 10)
  else none

/-- The number that the hexadecimal digits at the start of `s` denote, after `acc`. -/
def hexValue (acc : Nat) : List Char → Nat
  | [] => acc
  | c :: s =>
      match hexDigit c with
      | some d => hexValue (16 * acc + d) s
      | none => acc

/-- `strncmp(s, "0x", 2) == 0`. -/
def hasHexPrefix (s : List Char) : Bool := s.take 2 == ['0', 'x']

/-- `strtoul(s, NULL, 16)` for a string with the prefix `0x`, where `long` has 32 bits. -/
def strtoulHex (s : List Char) : Nat := min (hexValue 0 (s.drop 2)) (2 ^ 32 - 1)

/-- `strtol(s, NULL, 16)` for a string with the prefix `0x`. -/
def strtolHex (s : List Char) : Nat := min (hexValue 0 (s.drop 2)) (2 ^ 31 - 1)

/-- A getter of a number: what it does with `valueint` and what with a string. -/
def jsonWrapGetNumber {α : Type} (ofNumber : Int → Option α) (ofString : List Char → Option α)
    (j : Json) (name : String) : Option (Option α) :=
  match getObjectItem j name with
  | none => some none
  | some (.number q) => some (ofNumber (valueint q))
  | some (.string s) => some (ofString s)
  | some _ => none

/-- `json_wrap_get_uint16_val`. -/
def jsonWrapGetUint16Val : Json → String → Option (Option UInt16) :=
  jsonWrapGetNumber
    (fun v => if 0 ≤ v ∧ v ≤ 65535 then some (UInt16.ofNat v.toNat) else none)
    fun s =>
      if hasHexPrefix s ∧ strtoulHex s ≤ 65535 then some (UInt16.ofNat (strtoulHex s)) else none

/-- `json_wrap_get_uint8_val`. -/
def jsonWrapGetUint8Val : Json → String → Option (Option UInt8) :=
  jsonWrapGetNumber
    (fun v => if 0 ≤ v ∧ v ≤ 255 then some (UInt8.ofNat v.toNat) else none)
    fun s =>
      if hasHexPrefix s ∧ strtoulHex s ≤ 255 then some (UInt8.ofNat (strtoulHex s)) else none

/-- `json_wrap_get_int8_val`. -/
def jsonWrapGetInt8Val : Json → String → Option (Option Int8) :=
  jsonWrapGetNumber
    (fun v => if -128 ≤ v ∧ v ≤ 127 then some (Int8.ofInt v) else none)
    fun s => if hasHexPrefix s ∧ strtolHex s ≤ 127 then some (Int8.ofNat (strtolHex s)) else none

/-- `json_wrap_get_uint32_val`: a number goes through `uint16_t`. -/
def jsonWrapGetUint32Val [Components] : Json → String → Option (Option UInt32) :=
  jsonWrapGetNumber
    (fun v =>
      if 0 ≤ v ∧ v ≤ 4294967295 then some (UInt16.ofNat v.toNat).toUInt32 else none)
    fun s =>
      match osStrToUint32 s (if hasHexPrefix s then 16 else 10) with
      | (v, []) => some v
      | _ => none

/-! ## The getters of the parsers -/

/-- `gw_cfg_json_copy_string_val`: the new content of the buffer. -/
def copyStringVal {n : Nat} [NeZero n] (j : Json) (name : String) (old : Buf n) : Buf n :=
  (jsonWrapCopyStringVal j name n).getD old

/-- `gw_cfg_json_get_bool_val`: the new value of the variable. -/
def getBoolVal (j : Json) (name : String) (old : Bool) : Bool :=
  (jsonWrapGetBoolVal j name).getD old

/-- `gw_cfg_json_get_uint16_val`. -/
def getUint16Val (j : Json) (name : String) (old : UInt16) : Option UInt16 :=
  (jsonWrapGetUint16Val j name).map fun v => v.getD old

/-- `gw_cfg_json_get_uint8_val`. -/
def getUint8Val (j : Json) (name : String) (old : UInt8) : Option UInt8 :=
  (jsonWrapGetUint8Val j name).map fun v => v.getD old

/-- `gw_cfg_json_get_int8_val`. -/
def getInt8Val (j : Json) (name : String) (old : Int8) : Option Int8 :=
  (jsonWrapGetInt8Val j name).map fun v => v.getD old

/-- `gw_cfg_json_get_uint32_val`. -/
def getUint32Val [Components] (j : Json) (name : String) (old : UInt32) : Option UInt32 :=
  (jsonWrapGetUint32Val j name).map fun v => v.getD old

/-! ## What is read back -/

section read

variable {j : Json} {name : String}

theorem copyStringVal_of_chars {n : Nat} [NeZero n] {b : Buf n}
    (h : getObjectItem j name = some (.string b.chars)) (old : Buf n) :
    copyStringVal j name old = b := by
  simp [copyStringVal, jsonWrapCopyStringVal, h, getStringValue]

theorem copyStringVal_of_none {n : Nat} [NeZero n] (h : getObjectItem j name = none)
    (old : Buf n) : copyStringVal j name old = old := by
  simp [copyStringVal, jsonWrapCopyStringVal, h]

theorem getBoolVal_of_bool {b : Bool} (h : getObjectItem j name = some (.bool b)) (old : Bool) :
    getBoolVal j name old = b := by
  simp [getBoolVal, jsonWrapGetBoolVal, h]

theorem getUint16Val_of_number {v : UInt16}
    (h : getObjectItem j name = some (.number (v.toNat : Int))) (old : UInt16) :
    getUint16Val j name old = some v := by
  have hlt := v.toNat_lt
  have hv : valueint ((v.toNat : Int) : ℚ) = v.toNat := valueint_intCast (by omega) (by omega)
  have hrange : 0 ≤ (v.toNat : Int) ∧ (v.toNat : Int) ≤ 65535 := by omega
  simp only [getUint16Val, jsonWrapGetUint16Val, jsonWrapGetNumber, h, hv, if_pos hrange]
  simp

theorem getUint8Val_of_number {v : UInt8}
    (h : getObjectItem j name = some (.number (v.toNat : Int))) (old : UInt8) :
    getUint8Val j name old = some v := by
  have hlt := v.toNat_lt
  have hv : valueint ((v.toNat : Int) : ℚ) = v.toNat := valueint_intCast (by omega) (by omega)
  have hrange : 0 ≤ (v.toNat : Int) ∧ (v.toNat : Int) ≤ 255 := by omega
  simp only [getUint8Val, jsonWrapGetUint8Val, jsonWrapGetNumber, h, hv, if_pos hrange]
  simp

theorem getInt8Val_of_number {v : Int8} (h : getObjectItem j name = some (.number v.toInt))
    (old : Int8) : getInt8Val j name old = some v := by
  have hlo := v.le_toInt
  have hhi := v.toInt_lt
  have hv : valueint (v.toInt : ℚ) = v.toInt := valueint_intCast (by omega) (by omega)
  have hrange : -128 ≤ v.toInt ∧ v.toInt ≤ 127 := by omega
  simp only [getInt8Val, jsonWrapGetInt8Val, jsonWrapGetNumber, h, hv, if_pos hrange]
  simp

/-- What a `uint32_t` that was written as a number is read back as. -/
def throughUint16 (v : UInt32) : UInt32 :=
  if v.toNat ≤ 2147483647 then v.toUInt16.toUInt32 else 65535

theorem getUint32Val_of_number [Components] {v : UInt32}
    (h : getObjectItem j name = some (.number (v.toNat : Int))) (old : UInt32) :
    getUint32Val j name old = some (throughUint16 v) := by
  have hlt := v.toNat_lt
  by_cases hle : v.toNat ≤ 2147483647
  · have hv : valueint ((v.toNat : Int) : ℚ) = v.toNat := valueint_intCast (by omega) (by omega)
    have hrange : 0 ≤ (v.toNat : Int) ∧ (v.toNat : Int) ≤ 4294967295 := by omega
    simp only [getUint32Val, jsonWrapGetUint32Val, jsonWrapGetNumber, h, hv, if_pos hrange,
      throughUint16, if_pos hle]
    simp
  · have hv : valueint ((v.toNat : Int) : ℚ) = 2147483647 := valueint_of_le (by omega)
    simp only [getUint32Val, jsonWrapGetUint32Val, jsonWrapGetNumber, h, hv, throughUint16,
      if_neg hle]
    rfl

/-- It is read back if and only if it fits into a `uint16_t`. -/
theorem throughUint16_eq_self_iff {v : UInt32} : throughUint16 v = v ↔ v.toNat < 65536 := by
  have hlt := v.toNat_lt
  unfold throughUint16
  split
  · rw [← UInt32.toNat_inj]
    simp only [UInt16.toNat_toUInt32, UInt32.toNat_toUInt16]
    omega
  · rw [← UInt32.toNat_inj]
    simp only [UInt32.reduceToNat]
    omega

end read

end GwCfgJson
end RuuviGateway
