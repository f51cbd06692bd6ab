import RuuviGateway.GwCfgJson.Instance
import RuuviGateway.Lib.IntType

/-!
# The getters of numbers

Which number each of `json_wrap_get_uint32_val`, `json_wrap_get_uint16_val`,
`json_wrap_get_uint8_val` and `json_wrap_get_int8_val` reads from a member.

A number is read by its `valueint`, so its fraction is dropped.  A string is read if it is `0x`
and hexadecimal digits; `json_wrap_get_uint32_val` also reads the decimal strings that
`cjson_wrap_add_uint32` writes.

Three things go wrong elsewhere.  What is neither a number nor a string has no `valuestring`.
The getters of the narrow types take the digits after `0x`, however many there are, and do not
look at what follows them.  And `json_wrap_get_uint32_val` casts a number to `uint16_t`.
-/

namespace RuuviGateway
namespace GwCfgJson

open CJson CString IntType

/-! ## The number of a member -/

/-- The number of a string that is `0x` and hexadecimal digits. -/
def hexNumeral (s : List Char) : Option Nat :=
  if hasHexPrefix s && !(s.drop 2).isEmpty && (s.drop 2).all fun c => (hexDigit c).isSome then
    some (hexValue 0 (s.drop 2))
  else none

theorem hexNumeral_eq_some_iff {s : List Char} {n : Nat} : hexNumeral s = some n ↔
    (hasHexPrefix s = true ∧ s.drop 2 ≠ [] ∧ ∀ c ∈ s.drop 2, (hexDigit c).isSome = true) ∧
      hexValue 0 (s.drop 2) = n := by
  unfold hexNumeral
  simp only [Option.ite_none_right_eq_some, Option.some.injEq, Bool.and_eq_true, and_assoc,
    Bool.not_eq_true', List.isEmpty_eq_false_iff, List.all_eq_true]

/-- The number that a member stands for: that of a hexadecimal string, or `valueint`, as far as
it reaches. -/
def numberOf : Json → Option Int
  | .number q => some (integerPart q)
  | .string s => (hexNumeral s).map Int.ofNat
  | _ => none

/-- What the getters of the narrow types are made for: a string with the prefix is a number. -/
def Readable : Json → Prop
  | .number _ => True
  | .string s => hasHexPrefix s = true → (hexNumeral s).isSome = true
  | _ => False

section wide

variable [Components]

/-- The same for `json_wrap_get_uint32_val`, which hands a string without the prefix to
`os_str_to_uint32_cptr`, to be read in base 10 and to its end. -/
def numberOf32 : Json → Option Int
  | .number q => some (integerPart q)
  | .string s =>
      if hasHexPrefix s = true then (hexNumeral s).map Int.ofNat
      else if (osStrToUint32 s 10).2 = [] then some ((osStrToUint32 s 10).1.toNat : Int)
      else none
  | _ => none

/-- What `json_wrap_get_uint32_val` is made for, the cast to `uint16_t` aside. -/
def Readable32 : Json → Prop
  | .number q => integerPart q ≤ 65535
  | .string s => ∀ n, hexNumeral s = some n → n < 2 ^ 32
  | _ => False

/-- `os_str_to_uint32_cptr` reads a hexadecimal string to its end, and no other string that
begins with `0x`. -/
structure ReadsHexNumerals : Prop where
  numeral : ∀ s n, hexNumeral s = some n → n < 2 ^ 32 → osStrToUint32 s 16 = (UInt32.ofNat n, [])
  other : ∀ s, hasHexPrefix s = true → hexNumeral s = none → (osStrToUint32 s 16).2 ≠ []

end wide

/-! ## What a getter returns -/

variable {α : Type}

/-- What a getter returns, and its variable after it. -/
def returned (old : α) (answer : Option α) : Bool × α := (answer.isSome, answer.getD old)

/-- The getter comes to its end.  It returns true with the number of the member, if there is the
member and it has a number in the range of the type, and otherwise it returns false and leaves
the variable as it was. -/
def ReadsExactly (get : Json → String → Option (Option α)) (r : IntType α)
    (number : Json → Option Int) (j : Json) (name : String) : Prop :=
  ∃ answer, get j name = some answer ∧ ∀ old,
    match ((getObjectItem j name).bind number).bind r.ofInt? with
    | some v => returned old answer = (true, v)
    | none => returned old answer = (false, old)

theorem readsExactly_of_eq {get : Json → String → Option (Option α)} {r : IntType α}
    {number : Json → Option Int} {j : Json} {name : String}
    (h : get j name = some (((getObjectItem j name).bind number).bind r.ofInt?)) :
    ReadsExactly get r number j name := by
  refine ⟨_, h, fun old => ?_⟩
  cases ((getObjectItem j name).bind number).bind r.ofInt? with
  | none => rfl
  | some v => rfl

/-- A getter is right if it is right on numbers and on strings, and meets nothing else. -/
theorem readsExactly_jsonWrapGetNumber {ofNumber : Int → Option α}
    {ofString : List Char → Option α} {r : IntType α} {number : Json → Option Int} {j : Json}
    {name : String}
    (hitem : ∀ item, getObjectItem j name = some item →
      (∃ q, item = .number q ∧ ofNumber (valueint q) = (number item).bind r.ofInt?) ∨
        ∃ s, item = .string s ∧ ofString s = (number item).bind r.ofInt?) :
    ReadsExactly (jsonWrapGetNumber ofNumber ofString) r number j name := by
  refine readsExactly_of_eq ?_
  rw [jsonWrapGetNumber]
  cases hget : getObjectItem j name with
  | none => rfl
  | some item =>
    rcases hitem item hget with ⟨q, rfl, hnumber⟩ | ⟨s, rfl, hstring⟩
    · exact congrArg some hnumber
    · exact congrArg some hstring

/-! ## Numbers and hexadecimal strings -/

theorem valueint_eq_clamp (q : ℚ) :
    valueint q = max (-2147483648) (min 2147483647 (integerPart q)) := by
  rw [← clamp_integerPart (by decide) (by decide)]
  exact if_congr Iff.rfl rfl (if_congr Iff.rfl rfl rfl)

theorem ofInt?_valueint (r : IntType α) (hlo : -2147483648 < r.lo) (hhi : r.hi < 2147483647)
    (q : ℚ) : r.ofInt? (valueint q) = r.ofInt? (integerPart q) := by
  rw [valueint_eq_clamp, r.ofInt?_clamp hlo hhi]

theorem hexNumeral_of_not_hasHexPrefix {s : List Char} (h : ¬ hasHexPrefix s = true) :
    hexNumeral s = none :=
  Option.eq_none_iff_forall_ne_some.mpr fun _ hn => h (hexNumeral_eq_some_iff.mp hn).1.1

/-- The digits of a hexadecimal string, cut to the range of a `long`, and checked against the
range of a type that is not wider. -/
theorem ofInt?_hexString (r : IntType α) {longMax : Nat} (hlo : r.lo ≤ 0) (hhi : r.hi < longMax)
    {s : List Char} (hs : hasHexPrefix s = true → (hexNumeral s).isSome = true) :
    (if hasHexPrefix s = true then
        r.ofInt? ((min (hexValue 0 (s.drop 2)) longMax : Nat) : Int)
      else none) = ((hexNumeral s).map Int.ofNat).bind r.ofInt? := by
  by_cases hhex : hasHexPrefix s = true
  · obtain ⟨n, hn⟩ := Option.isSome_iff_exists.mp (hs hhex)
    rw [if_pos hhex, hn, (hexNumeral_eq_some_iff.mp hn).2]
    have hcut : ((min n longMax : Nat) : Int) = max (r.lo - 1) (min (longMax : Int) n) := by omega
    exact (congrArg r.ofInt? hcut).trans (r.ofInt?_clamp (by omega) hhi)
  · rw [if_neg hhex, hexNumeral_of_not_hasHexPrefix hhex]
    rfl

/-! ## The getters of the narrow types -/

/-- The check of the range as the getters write it. -/
theorem ite_hexPrefix_eq (r : IntType α) {of : Nat → α} {hi : Nat} (hlo : r.lo ≤ 0)
    (hhi : r.hi = hi) (hof : ∀ n : Nat, r.ofInt n = of n) (s : List Char) (n : Nat) :
    (if hasHexPrefix s = true ∧ n ≤ hi then some (of n) else none) =
      if hasHexPrefix s = true then r.ofInt? n else none := by
  have hrange : (r.lo ≤ (n : Int) ∧ (n : Int) ≤ r.hi) ↔ n ≤ hi := by omega
  rw [ofInt?, hof, if_congr hrange rfl rfl, ite_and]

variable {j : Json} {name : String}

/-- A getter that checks `valueint`, and the cut digits of a string, against the range. -/
theorem readsExactly_narrow (r : IntType α) (longMax : Nat) {ofNumber : Int → Option α}
    {ofString : List Char → Option α} (hlo : -2147483648 < r.lo ∧ r.lo ≤ 0)
    (hhi : r.hi < 2147483647 ∧ r.hi < longMax) (hnumber : ∀ n, ofNumber n = r.ofInt? n)
    (hstring : ∀ s, ofString s = if hasHexPrefix s = true then
        r.ofInt? ((min (hexValue 0 (s.drop 2)) longMax : Nat) : Int) else none)
    (hread : ∀ item, getObjectItem j name = some item → Readable item) :
    ReadsExactly (jsonWrapGetNumber ofNumber ofString) r numberOf j name := by
  refine readsExactly_jsonWrapGetNumber fun item hget => ?_
  have hitem := hread item hget
  cases item with
  | number q => exact .inl ⟨q, rfl, (hnumber _).trans (ofInt?_valueint r hlo.1 hhi.1 q)⟩
  | string s => exact .inr ⟨s, rfl, (hstring s).trans (ofInt?_hexString r hlo.2 hhi.2 hitem)⟩
  | null | bool b | array items | object items => exact absurd hitem not_false

theorem jsonWrapGetUint16Val_exact
    (hread : ∀ item, getObjectItem j name = some item → Readable item) :
    ReadsExactly jsonWrapGetUint16Val uint16 numberOf j name :=
  readsExactly_narrow uint16 (2 ^ 32 - 1) (by decide) (by decide) (fun _ => rfl)
    (fun s => ite_hexPrefix_eq uint16 (by decide) rfl (fun _ => rfl) s (strtoulHex s)) hread

theorem jsonWrapGetUint8Val_exact
    (hread : ∀ item, getObjectItem j name = some item → Readable item) :
    ReadsExactly jsonWrapGetUint8Val uint8 numberOf j name :=
  readsExactly_narrow uint8 (2 ^ 32 - 1) (by decide) (by decide) (fun _ => rfl)
    (fun s => ite_hexPrefix_eq uint8 (by decide) rfl (fun _ => rfl) s (strtoulHex s)) hread

theorem jsonWrapGetInt8Val_exact
    (hread : ∀ item, getObjectItem j name = some item → Readable item) :
    ReadsExactly jsonWrapGetInt8Val int8 numberOf j name :=
  readsExactly_narrow int8 (2 ^ 31 - 1) (by decide) (by decide) (fun _ => rfl)
    (fun s => ite_hexPrefix_eq int8 (by decide) rfl (fun _ => rfl) s (strtolHex s)) hread

/-! ## The getter of the wide type -/

/-- Below 65536 the cast to `uint16_t` does nothing. -/
theorem uint32_ofInt_throughUint16 {n : Int} (hlo : 0 ≤ n) (hhi : n ≤ 65535) :
    (UInt16.ofNat n.toNat).toUInt32 = uint32.ofInt n := by
  have hlt : n.toNat < 65536 := by omega
  rw [← UInt32.toNat_inj]
  simp only [UInt16.toNat_toUInt32, UInt16.toNat_ofNat']
  change _ = (UInt32.ofNat n.toNat).toNat
  rw [UInt32.toNat_ofNat']
  omega

theorem ofNumber32_eq {q : ℚ} (hq : integerPart q ≤ 65535) :
    (if 0 ≤ valueint q ∧ valueint q ≤ 4294967295 then
      some (UInt16.ofNat (valueint q).toNat).toUInt32 else none) =
      uint32.ofInt? (integerPart q) := by
  have hvalue := valueint_eq_clamp q
  by_cases hpos : 0 ≤ integerPart q
  · have heq : valueint q = integerPart q := by omega
    rw [heq, if_pos (by omega), uint32_ofInt_throughUint16 hpos hq]
    exact (if_pos (by change (0 : Int) ≤ _ ∧ _ ≤ (4294967295 : Int); omega)).symm
  · rw [if_neg (by omega)]
    exact (if_neg (by change ¬ ((0 : Int) ≤ _ ∧ _); omega)).symm

/-- What `os_str_to_uint32_cptr` has read to the end of a string. -/
def readToEnd : UInt32 × List Char → Option UInt32
  | (v, []) => some v
  | _ => none

theorem readToEnd_eq_none {p : UInt32 × List Char} (h : p.2 ≠ []) : readToEnd p = none := by
  obtain ⟨v, rest⟩ := p
  cases rest with
  | nil => exact absurd rfl h
  | cons c rest => rfl

theorem readToEnd_decimal (p : UInt32 × List Char) : readToEnd p =
    (if p.2 = [] then some ((p.1.toNat : Int)) else none).bind uint32.ofInt? := by
  by_cases hrest : p.2 = []
  · obtain ⟨v, rest⟩ := p
    obtain rfl : rest = [] := hrest
    exact (uint32.ofInt?_eq_some_iff.mpr rfl).symm
  · rw [if_neg hrest, readToEnd_eq_none hrest]
    rfl

section wide

variable [Components]

theorem readToEnd_hex (h : ReadsHexNumerals) {s : List Char} (hhex : hasHexPrefix s = true)
    (hs : ∀ n, hexNumeral s = some n → n < 2 ^ 32) : readToEnd (osStrToUint32 s 16) =
      ((hexNumeral s).map Int.ofNat).bind uint32.ofInt? := by
  cases hn : hexNumeral s with
  | none => exact readToEnd_eq_none (h.other s hhex hn)
  | some n =>
    have hlt := hs n hn
    rw [h.numeral s n hn hlt]
    refine (uint32.ofInt?_eq_some_iff.mpr ?_).symm
    change (n : Int) = ((UInt32.ofNat n).toNat : Int)
    rw [UInt32.toNat_ofNat']
    omega

theorem jsonWrapGetUint32Val_exact (h : ReadsHexNumerals)
    (hread : ∀ item, getObjectItem j name = some item → Readable32 item) :
    ReadsExactly jsonWrapGetUint32Val uint32 numberOf32 j name := by
  refine readsExactly_jsonWrapGetNumber fun item hget => ?_
  have hitem := hread item hget
  cases item with
  | number q => exact .inl ⟨q, rfl, ofNumber32_eq hitem⟩
  | string s =>
    refine .inr ⟨s, rfl, ?_⟩
    change readToEnd (osStrToUint32 s (if hasHexPrefix s then 16 else 10)) = _
    by_cases hhex : hasHexPrefix s = true
    · rw [if_pos hhex, readToEnd_hex h hhex hitem, numberOf32, if_pos hhex]
    · rw [if_neg hhex, readToEnd_decimal, numberOf32, if_neg hhex]
  | null | bool b | array items | object items => exact absurd hitem not_false

/-- **The getters are exact** on what they are made for. -/
theorem numericGetters_exact (h : ReadsHexNumerals) (j : Json) (name : String) :
    ((∀ item, getObjectItem j name = some item → Readable item) →
      ReadsExactly jsonWrapGetUint16Val uint16 numberOf j name ∧
        ReadsExactly jsonWrapGetUint8Val uint8 numberOf j name ∧
        ReadsExactly jsonWrapGetInt8Val int8 numberOf j name) ∧
      ((∀ item, getObjectItem j name = some item → Readable32 item) →
        ReadsExactly jsonWrapGetUint32Val uint32 numberOf32 j name) := by
  constructor
  · intro hread
    exact ⟨jsonWrapGetUint16Val_exact hread, jsonWrapGetUint8Val_exact hread,
      jsonWrapGetInt8Val_exact hread⟩
  · exact jsonWrapGetUint32Val_exact h

end wide

/-! ## Two documents -/

section sample

open Sample Strtoul

/-- The digits of the getters are those of `strtoul` in base 16. -/
theorem hexDigit_eq (c : Char) :
    hexDigit c = if isDigit 16 c = true then some (digitValue c) else none := by
  have hle : ∀ a b : Char, a ≤ b ↔ a.toNat ≤ b.toNat := fun _ _ => Iff.rfl
  have hdigit : isDigit 16 c = true ↔ digitValue c < 16 := decide_eq_true_iff
  rw [if_congr hdigit rfl rfl]
  simp only [hexDigit, hle, Char.reduceToNat, digitValue]
  split_ifs
  all_goals first | omega | exact congrArg some (by omega) | rfl

theorem isDigit_of_hexDigit {c : Char} (h : (hexDigit c).isSome = true) : isDigit 16 c = true := by
  by_contra hno
  rw [hexDigit_eq, if_neg hno] at h
  exact absurd h (by simp)

theorem hexValue_eq {s : List Char} (h : ∀ c ∈ s, isDigit 16 c = true) (acc : Nat) :
    hexValue acc s = s.foldl (fun acc c => 16 * acc + digitValue c) acc := by
  induction s generalizing acc with
  | nil => rfl
  | cons c s ih =>
    rw [hexValue, hexDigit_eq, if_pos (h c List.mem_cons_self)]
    exact ih (fun c hc => h c (List.mem_cons_of_mem _ hc)) _

theorem hasHexPrefix_cons {s : List Char} (h : hasHexPrefix s = true) :
    s = '0' :: 'x' :: s.drop 2 := by
  have htake : s.take 2 = ['0', 'x'] := beq_iff_eq.mp h
  calc s = s.take 2 ++ s.drop 2 := (List.take_append_drop 2 s).symm
    _ = '0' :: 'x' :: s.drop 2 := by rw [htake]; rfl

theorem strtoul_hexNumeral {s : List Char} {n : Nat} (hn : hexNumeral s = some n)
    (hlt : n < 2 ^ 32) : strtoul s 16 = (UInt32.ofNat n, []) := by
  obtain ⟨⟨hhex, hne, hall⟩, hvalue⟩ := hexNumeral_eq_some_iff.mp hn
  have hdigits : ∀ c ∈ s.drop 2, isDigit 16 c = true := fun c hc => isDigit_of_hexDigit (hall c hc)
  have hread := strtoul_text (by decide) (⟨[], _, _, 16, ['0', 'x'], s.drop 2,
    fun _ hc => absurd hc List.not_mem_nil, .absent, .hex (.inr rfl) (.inl rfl), hne, hdigits⟩ :
    Parts 16)
  have htext : s = '0' :: 'x' :: s.drop 2 := hasHexPrefix_cons hhex
  rw [hexValue_eq hdigits] at hvalue
  rw [htext]
  refine hread.trans ?_
  change (ofMagnitude false ((s.drop 2).foldl (fun acc c => 16 * acc + digitValue c) 0), []) = _
  rw [hvalue, ofMagnitude, if_neg (Nat.not_le.mpr hlt), if_neg (by simp)]

theorem strtoul_rest {s : List Char} (hhex : hasHexPrefix s = true)
    (hn : hexNumeral s = none) : (strtoul s 16).2 ≠ [] := by
  intro hrest
  rcases (strtoul_eq_nil_iff (by decide)).mp (Prod.ext rfl hrest : strtoul s 16 = (_, [])) with
    ⟨rfl, -⟩ | ⟨p, htext, -⟩
  · exact absurd hhex (by decide)
  · obtain ⟨hdigits, hradix⟩ := p.digits_of_hexLead (htext.trans (hasHexPrefix_cons hhex))
    have hne := p.digits_ne_nil
    have hall := p.isDigit_of_mem
    rw [hradix, hdigits] at hall
    have hsome := hexNumeral_eq_some_iff.mpr
      ⟨⟨hhex, hdigits ▸ hne, fun c hc => by rw [hexDigit_eq, if_pos (hall c hc)]; rfl⟩, rfl⟩
    exact absurd (hn.symm.trans hsome) (by simp)

theorem readsHexNumerals_strtoul : ReadsHexNumerals :=
  ⟨fun _ _ => strtoul_hexNumeral, fun _ => strtoul_rest⟩

/-- A port as a number, and a mask as a hexadecimal string. -/
def numberDocument : Json :=
  .object [("port", .number 8883), ("mask", .string ['0', 'x', '0', '0', 'f', 'f'])]

theorem numericGetters_numberDocument :
    (ReadsExactly jsonWrapGetUint16Val uint16 numberOf numberDocument "mask" ∧
      ReadsExactly jsonWrapGetUint8Val uint8 numberOf numberDocument "mask" ∧
      ReadsExactly jsonWrapGetInt8Val int8 numberOf numberDocument "mask") ∧
    ReadsExactly jsonWrapGetUint32Val uint32 numberOf32
      numberDocument "port" := by
  have hexact := numericGetters_exact readsHexNumerals_strtoul numberDocument
  refine ⟨(hexact "mask").1 ?_, (hexact "port").2 ?_⟩
  · intro item hget
    obtain rfl := Option.some.inj hget
    exact fun _ => rfl
  · intro item hget
    obtain rfl := Option.some.inj hget
    change integerPart 8883 ≤ 65535
    decide

/-- The number of a member, where only integers and hexadecimal strings are numbers. -/
def literalNumber : Json → Option Int
  | .number q => if q.den = 1 then some q.num else none
  | .string s => (hexNumeral s).map Int.ofNat
  | _ => none

/-- A period as `cjson_wrap_add_uint32` writes it, and a number with a fraction. -/
def oddDocument : Json :=
  .object [("period", .string ['1', '0', '0']), ("qos", .number ⟨3, 2, by decide, by decide⟩)]

/-- `json_wrap_get_uint32_val` reads the one, and `json_wrap_get_uint8_val` the other. -/
theorem not_literallyExact :
    (¬ ∀ j name, ReadsExactly jsonWrapGetUint32Val uint32 literalNumber j name) ∧
      ¬ ∀ j name, ReadsExactly jsonWrapGetUint8Val uint8 literalNumber j name := by
  constructor
  · intro h
    obtain ⟨answer, hanswer, hreturned⟩ := h oddDocument "period"
    have heq : jsonWrapGetUint32Val oddDocument "period" = some (some 100) := by
      decide +kernel
    obtain rfl := Option.some.inj (heq.symm.trans hanswer)
    have hfalse : returned (0 : UInt32) (some 100) = (false, 0) := hreturned 0
    exact absurd hfalse (by decide)
  · intro h
    obtain ⟨answer, hanswer, hreturned⟩ := h oddDocument "qos"
    have heq : jsonWrapGetUint8Val oddDocument "qos" = some (some 1) := by decide +kernel
    obtain rfl := Option.some.inj (heq.symm.trans hanswer)
    have hfalse : returned (0 : UInt8) (some 1) = (false, 0) := hreturned 0
    exact absurd hfalse (by decide)

end sample

end GwCfgJson
end RuuviGateway
