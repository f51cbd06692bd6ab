import Mathlib.Data.List.TakeWhile
import RuuviGateway.Lib.Hex
import RuuviGateway.Lib.StrBuf

/-!
# URL encoding

`url_encode.c`: the two loops, over string buffers that count in a first pass and are written in
a second one.

A string is the list of its bytes, and where it ends, a NUL is read.  A `char` is a byte that is
converted to an `int`, with a sign or without one, depending on the compiler; `%c` and a cast to
`uint8_t` take the last eight bits of an `int`, which are the byte again.  String buffers and
`os_str_to_uint32_cptr` are parameters.
-/

namespace RuuviGateway
namespace Url

open StrBuf

universe u

/-! ## Characters -/

/-- The `int` that a `char` is converted to. -/
def charValue (charIsSigned : Bool) (b : UInt8) : Int :=
  if charIsSigned then b.toInt8.toInt else b.toNat

/-- What `%c` prints. -/
def fmtChar (c : Int) : List UInt8 := [UInt8.ofInt c]

/-- What `%02X` prints for a byte. -/
def fmt02X (uch : UInt8) : List UInt8 := (Hex.byte true uch).map fun c => UInt8.ofNat c.toNat

/-- `'%'`. -/
def percent : UInt8 := 37

/-- `g_rfc3986_table`. -/
def rfc3986Table : List UInt8 :=
  [0x00, 0x00, 0x00, 0x00, 0x00, 0x60, 0xff, 0x03, 0xfe, 0xff, 0xff, 0x87, 0xfe, 0xff, 0xff, 0x47,
    0x00, 0x00, 0x00, 0x00, 0x00, 0x00, 0x00, 0x00, 0x00, 0x00, 0x00, 0x00, 0x00, 0x00, 0x00, 0x00]

/-- `rfc3986_is_in_range`. -/
def rfc3986IsInRange (val : Int) : Bool :=
  let uch := UInt8.ofInt val
  let index := uch / 8
  let bitOfs := uch % 8
  (rfc3986Table.getD index.toNat 0).toNat &&& (1 <<< bitOfs.toNat) != 0

/-! ## The loops -/

variable {B : Type u} (A : Api B) (charIsSigned : Bool)

/-- The loop of `url_n_encode_to_str_buf`. -/
def urlNEncodeLoop : List UInt8 → Nat → B → B
  | [], _, dst => dst
  | cur :: src, len, dst =>
      if cur = 0 ∨ len = 0 then dst
      else if rfc3986IsInRange (charValue charIsSigned cur) then
        urlNEncodeLoop src (len - 1) (A.printf dst (fmtChar (charValue charIsSigned cur)))
      else
        urlNEncodeLoop src (len - 1)
          (A.printf dst (percent :: fmt02X (UInt8.ofInt (charValue charIsSigned cur))))

/-- `url_n_encode_to_str_buf`. -/
def urlNEncodeToStrBuf (src : List UInt8) (len : Nat) (dst : B) : B × Bool :=
  let dst := urlNEncodeLoop A charIsSigned src len (A.printf dst [])
  (dst, !A.isOverflow dst)

/-- `strlen`. -/
def strlen (src : List UInt8) : Nat := (src.takeWhile (· != 0)).length

/-- `url_encode_to_str_buf`. -/
def urlEncodeToStrBuf (src : List UInt8) (dst : B) : B × Bool :=
  urlNEncodeToStrBuf A charIsSigned src (strlen src) dst

/-- `url_n_encode_with_alloc`. -/
def urlNEncodeWithAlloc (memory : Bool) (src : List UInt8) (len : Nat) : B :=
  let strBuf := (urlNEncodeToStrBuf A charIsSigned src len A.null).1
  match A.initWithAlloc memory strBuf with
  | none => A.null
  | some strBuf => (urlNEncodeToStrBuf A charIsSigned src len strBuf).1

/-- `url_encode_with_alloc`. -/
def urlEncodeWithAlloc (memory : Bool) (src : List UInt8) : B :=
  urlNEncodeWithAlloc A charIsSigned memory src (strlen src)

variable (osStrToUint32Cptr : List UInt8 → Nat → UInt32 × List UInt8)

/-- The loop of `url_n_decode_to_str_buf`, and whether it comes to its end. -/
def urlNDecodeLoop : List UInt8 → Nat → B → B × Bool
  | [], _, dst => (dst, true)
  | cur :: src, len, dst =>
      if cur = 0 ∨ len = 0 then (dst, true)
      else if charValue charIsSigned cur = percent.toNat then
        match src with
        | [] => (dst, false)
        | [_] => (dst, false)
        | first :: second :: src =>
            if first = 0 ∨ second = 0 then (dst, false)
            else
              let (chVal, rest) := osStrToUint32Cptr [first, second] 16
              if rest ≠ [] then (dst, false)
              else if chVal = 0 then (dst, false)
              else
                urlNDecodeLoop src (len - 3)
                  (A.printf dst (fmtChar (charValue charIsSigned (UInt8.ofNat chVal.toNat))))
      else
        urlNDecodeLoop src (len - 1) (A.printf dst (fmtChar (charValue charIsSigned cur)))

/-- `url_n_decode_to_str_buf`. -/
def urlNDecodeToStrBuf (src : List UInt8) (len : Nat) (dst : B) : B × Bool :=
  let r := urlNDecodeLoop A charIsSigned osStrToUint32Cptr src len (A.printf dst [])
  (r.1, r.2 && !A.isOverflow r.1)

/-- `url_decode_to_str_buf`. -/
def urlDecodeToStrBuf (src : List UInt8) (dst : B) : B × Bool :=
  urlNDecodeToStrBuf A charIsSigned osStrToUint32Cptr src (strlen src) dst

/-- `url_n_decode_with_alloc`. -/
def urlNDecodeWithAlloc (memory : Bool) (src : List UInt8) (len : Nat) : B :=
  let r := urlNDecodeToStrBuf A charIsSigned osStrToUint32Cptr src len A.null
  if !r.2 then A.null
  else
    match A.initWithAlloc memory r.1 with
    | none => A.null
    | some strBuf =>
        let r := urlNDecodeToStrBuf A charIsSigned osStrToUint32Cptr src len strBuf
        if !r.2 then A.null else r.1

/-- `url_decode_with_alloc`. -/
def urlDecodeWithAlloc (memory : Bool) (src : List UInt8) : B :=
  urlNDecodeWithAlloc A charIsSigned osStrToUint32Cptr memory src (strlen src)

/-! ## The characters of an encoded string -/

/-- The unreserved characters: letters, digits, `-`, `.`, `_` and `~`. -/
def Unreserved (b : UInt8) : Prop :=
  (65 ≤ b ∧ b ≤ 90) ∨ (97 ≤ b ∧ b ≤ 122) ∨ (48 ≤ b ∧ b ≤ 57) ∨ b = 45 ∨ b = 46 ∨ b = 95 ∨ b = 126

instance decidableUnreserved (b : UInt8) : Decidable (Unreserved b) :=
  inferInstanceAs (Decidable (_ ∨ _))

/-- A hexadecimal digit. -/
def HexDigit (b : UInt8) : Prop :=
  (48 ≤ b ∧ b ≤ 57) ∨ (65 ≤ b ∧ b ≤ 70) ∨ (97 ≤ b ∧ b ≤ 102)

instance decidableHexDigit (b : UInt8) : Decidable (HexDigit b) :=
  inferInstanceAs (Decidable (_ ∨ _))

/-- Unreserved characters, and percent signs with two hexadecimal digits. -/
inductive UrlEncoded : List UInt8 → Prop where
  | nil : UrlEncoded []
  | unreserved {b : UInt8} {t : List UInt8} : Unreserved b → UrlEncoded t → UrlEncoded (b :: t)
  | escaped {first second : UInt8} {t : List UInt8} : HexDigit first → HexDigit second →
      UrlEncoded t → UrlEncoded (percent :: first :: second :: t)

/-! ## One character -/

/-- What holds of the bytes up to 255 holds of every byte. -/
theorem forall_byte {P : UInt8 → Prop} (h : ∀ n < 256, P (UInt8.ofNat n)) (b : UInt8) : P b := by
  have hb := h b.toNat b.toNat_lt
  rwa [UInt8.ofNat_toNat] at hb

theorem charValue_ofInt (charIsSigned : Bool) :
    ∀ b, UInt8.ofInt (charValue charIsSigned b) = b := by
  refine forall_byte ?_
  cases charIsSigned with
  | false => decide +kernel
  | true => decide +kernel

theorem fmtChar_charValue (b : UInt8) : fmtChar (charValue charIsSigned b) = [b] :=
  congrArg (fun b => [b]) (charValue_ofInt charIsSigned b)

/-- The table has the unreserved characters. -/
theorem rfc3986Table_iff : ∀ uch : UInt8,
    ((rfc3986Table.getD (uch / 8).toNat 0).toNat &&& (1 <<< (uch % 8).toNat) != 0) = true ↔
      Unreserved uch := by
  refine forall_byte ?_
  decide +kernel

theorem rfc3986IsInRange_iff (b : UInt8) :
    rfc3986IsInRange (charValue charIsSigned b) = true ↔ Unreserved b := by
  rw [rfc3986IsInRange, charValue_ofInt]
  exact rfc3986Table_iff b

/-- Only `'%'` is taken for one. -/
theorem charValue_eq_percent_iff (b : UInt8) :
    charValue charIsSigned b = percent.toNat ↔ b = percent := by
  constructor
  · intro h
    rw [← charValue_ofInt charIsSigned b, h]
    rfl
  · rintro rfl
    cases charIsSigned <;> rfl

theorem not_unreserved_percent : ¬ Unreserved percent := by decide

theorem Unreserved.ne_zero {b : UInt8} (h : Unreserved b) : b ≠ 0 := by
  rintro rfl
  exact absurd h (by decide)

theorem HexDigit.ne_zero {b : UInt8} (h : HexDigit b) : b ≠ 0 := by
  rintro rfl
  exact absurd h (by decide)

/-- `%02X` prints two hexadecimal digits. -/
theorem exists_fmt02X (b : UInt8) :
    ∃ first second, fmt02X b = [first, second] ∧ HexDigit first ∧ HexDigit second := by
  have hlt := b.toNat_lt
  have hdigit : ∀ n < 16, HexDigit (UInt8.ofNat (Hex.digit true n).toNat) := by decide
  exact ⟨_, _, rfl, hdigit (b.toNat / 16) (by omega), hdigit (b.toNat % 16) (by omega)⟩

/-- What a character is encoded as. -/
def encodeChar (b : UInt8) : List UInt8 := if Unreserved b then [b] else percent :: fmt02X b

/-- What a string is encoded as. -/
def encoded (s : List UInt8) : List UInt8 := s.flatMap encodeChar

@[simp] theorem encoded_nil : encoded [] = [] := rfl

@[simp] theorem encoded_cons (b : UInt8) (s : List UInt8) :
    encoded (b :: s) = encodeChar b ++ encoded s := rfl

theorem urlEncoded_encoded (s : List UInt8) : UrlEncoded (encoded s) := by
  induction s with
  | nil => exact .nil
  | cons b s ih =>
    rw [encoded_cons, encodeChar]
    split
    · rename_i hb
      exact .unreserved hb ih
    · obtain ⟨first, second, hfmt, hfirst, hsecond⟩ := exists_fmt02X b
      rw [hfmt]
      exact .escaped hfirst hsecond ih

theorem zero_notMem_encoded (s : List UInt8) : 0 ∉ encoded s := by
  have h := urlEncoded_encoded s
  generalize encoded s = t at h
  induction h with
  | nil => simp
  | unreserved hb _ ih => simp [hb.ne_zero.symm, ih]
  | escaped hfirst hsecond _ ih =>
    simp [hfirst.ne_zero.symm, hsecond.ne_zero.symm, ih, percent]

theorem strlen_of_notMem {s : List UInt8} (hs : 0 ∉ s) : strlen s = s.length := by
  rw [strlen, List.takeWhile_eq_self_iff.mpr]
  intro b hb
  simpa using fun h : b = 0 => hs (h ▸ hb)

/-! ## Encoding -/

variable {A osStrToUint32Cptr} {view : B → View}

theorem urlNEncodeLoop_cons {b : UInt8} (hb : b ≠ 0) (s : List UInt8) (n : Nat) (dst : B) :
    urlNEncodeLoop A charIsSigned (b :: s) (n + 1) dst =
      urlNEncodeLoop A charIsSigned s n (A.printf dst (encodeChar b)) := by
  have hgo : ¬ (b = 0 ∨ n + 1 = 0) := by simp [hb]
  rw [urlNEncodeLoop, if_neg hgo, encodeChar]
  by_cases hrange : Unreserved b
  · rw [if_pos ((rfc3986IsInRange_iff charIsSigned b).mpr hrange), if_pos hrange,
      fmtChar_charValue, Nat.add_sub_cancel]
  · rw [if_neg (mt (rfc3986IsInRange_iff charIsSigned b).mp hrange), if_neg hrange,
      charValue_ofInt, Nat.add_sub_cancel]

theorem prints_urlNEncodeLoop (hA : A.Lawful view) {s : List UInt8} (hs : 0 ∉ s) :
    Prints view (urlNEncodeLoop A charIsSigned s s.length) (encoded s) := by
  induction s with
  | nil => exact .nothing
  | cons b s ih =>
    have hb : b ≠ 0 := fun h => hs (h ▸ List.mem_cons_self)
    have hstep : urlNEncodeLoop A charIsSigned (b :: s) (s.length + 1) =
        urlNEncodeLoop A charIsSigned s s.length ∘ (A.printf · (encodeChar b)) :=
      funext fun dst => urlNEncodeLoop_cons charIsSigned hb s s.length dst
    rw [List.length_cons, hstep, encoded_cons]
    exact (ih fun h => hs (List.mem_cons_of_mem b h)).comp (hA.prints _)

theorem prints_urlEncodeToStrBuf (hA : A.Lawful view) {s : List UInt8} (hs : 0 ∉ s) :
    Prints view (fun dst => (urlEncodeToStrBuf A charIsSigned s dst).1) (encoded s) := by
  have hloop : Prints view (urlNEncodeLoop A charIsSigned s (strlen s)) (encoded s) := by
    rw [strlen_of_notMem hs]
    exact prints_urlNEncodeLoop charIsSigned hA hs
  exact hloop.comp (hA.prints [])

/-! ## Decoding -/

/-- `os_str_to_uint32_cptr` reads what `%02X` prints. -/
def ReadsHexBytes (osStrToUint32Cptr : List UInt8 → Nat → UInt32 × List UInt8) : Prop :=
  ∀ b : UInt8, osStrToUint32Cptr (fmt02X b) 16 = (b.toUInt32, [])

/-- What a character has been encoded as is decoded to it. -/
theorem urlNDecodeLoop_encodeChar (hos : ReadsHexBytes osStrToUint32Cptr) {b : UInt8}
    (hb : b ≠ 0) (t : List UInt8) (dst : B) :
    urlNDecodeLoop A charIsSigned osStrToUint32Cptr (encodeChar b ++ t)
        (encodeChar b ++ t).length dst =
      urlNDecodeLoop A charIsSigned osStrToUint32Cptr t t.length (A.printf dst [b]) := by
  rw [encodeChar]
  split
  · rename_i hrange
    have hgo : ¬ (b = 0 ∨ t.length + 1 = 0) := by simp [hb]
    have hpercent : ¬ charValue charIsSigned b = percent.toNat := fun h =>
      not_unreserved_percent ((charValue_eq_percent_iff charIsSigned b).mp h ▸ hrange)
    rw [List.cons_append, List.nil_append, List.length_cons, urlNDecodeLoop.eq_def]
    simp only [if_neg hgo, if_neg hpercent, fmtChar_charValue, Nat.add_sub_cancel]
  · obtain ⟨first, second, hfmt, hfirst, hsecond⟩ := exists_fmt02X b
    have hread : osStrToUint32Cptr [first, second] 16 = (b.toUInt32, []) := hfmt ▸ hos b
    have hgo : ¬ (percent = 0 ∨ t.length + 3 = 0) := by simp [percent]
    have hpercent := (charValue_eq_percent_iff charIsSigned percent).mpr rfl
    have hdigits : ¬ (first = 0 ∨ second = 0) := by
      simp [hfirst.ne_zero, hsecond.ne_zero]
    have hval : ¬ b.toUInt32 = 0 := by
      intro h
      refine hb (UInt8.toNat_inj.mp ?_)
      rw [← UInt8.toNat_toUInt32, h]
      rfl
    rw [hfmt]
    change urlNDecodeLoop A charIsSigned osStrToUint32Cptr (percent :: first :: second :: t)
      (t.length + 3) dst = _
    rw [urlNDecodeLoop.eq_def]
    simp only [if_neg hgo, if_pos hpercent, if_neg hdigits, hread, ne_eq, not_true_eq_false,
      if_false, if_neg hval, UInt8.toNat_toUInt32, UInt8.ofNat_toNat, fmtChar_charValue,
      Nat.add_sub_cancel]

theorem urlNDecodeLoop_encoded (hA : A.Lawful view) (hos : ReadsHexBytes osStrToUint32Cptr)
    {s : List UInt8} (hs : 0 ∉ s) :
    Prints view (fun dst => (urlNDecodeLoop A charIsSigned osStrToUint32Cptr (encoded s)
        (encoded s).length dst).1) s ∧
      ∀ dst, (urlNDecodeLoop A charIsSigned osStrToUint32Cptr (encoded s)
        (encoded s).length dst).2 = true := by
  induction s with
  | nil => exact ⟨.nothing, fun _ => rfl⟩
  | cons b s ih =>
    have hb : b ≠ 0 := fun h => hs (h ▸ List.mem_cons_self)
    obtain ⟨hprints, hend⟩ := ih fun h => hs (List.mem_cons_of_mem b h)
    simp only [encoded_cons, urlNDecodeLoop_encodeChar charIsSigned hos hb]
    exact ⟨hprints.comp (hA.prints [b]), fun dst => hend _⟩

theorem prints_urlDecodeToStrBuf (hA : A.Lawful view) (hos : ReadsHexBytes osStrToUint32Cptr)
    {s : List UInt8} (hs : 0 ∉ s) :
    Prints view
      (fun dst => (urlDecodeToStrBuf A charIsSigned osStrToUint32Cptr (encoded s) dst).1) s := by
  have hloop := (urlNDecodeLoop_encoded charIsSigned hA hos hs).1.comp (hA.prints [])
  rw [← strlen_of_notMem (zero_notMem_encoded s)] at hloop
  exact hloop

/-- The decoder does not give up on an encoded string. -/
theorem urlDecodeToStrBuf_snd (hA : A.Lawful view) (hos : ReadsHexBytes osStrToUint32Cptr)
    {s : List UInt8} (hs : 0 ∉ s) (dst : B) :
    (urlDecodeToStrBuf A charIsSigned osStrToUint32Cptr (encoded s) dst).2 =
      !A.isOverflow (urlDecodeToStrBuf A charIsSigned osStrToUint32Cptr (encoded s) dst).1 := by
  have hend := (urlNDecodeLoop_encoded charIsSigned hA hos hs).2 (A.printf dst [])
  rw [← strlen_of_notMem (zero_notMem_encoded s)] at hend
  rw [urlDecodeToStrBuf, urlNDecodeToStrBuf, hend, Bool.true_and]

/-! ## The round trip -/

theorem view_urlEncodeWithAlloc (hA : A.Lawful view) {s : List UInt8} (hs : 0 ∉ s) :
    view (urlEncodeWithAlloc A charIsSigned true s) =
      .holding ((encoded s).length + 1) (encoded s) := by
  obtain ⟨e, he, -, hview⟩ := (prints_urlEncodeToStrBuf charIsSigned hA hs).alloc hA
  rw [urlEncodeWithAlloc, urlNEncodeWithAlloc]
  change A.initWithAlloc true (urlNEncodeToStrBuf A charIsSigned s (strlen s) A.null).1 = _ at he
  rw [he]
  exact hview

theorem view_urlDecodeWithAlloc (hA : A.Lawful view) (hos : ReadsHexBytes osStrToUint32Cptr)
    {s : List UInt8} (hs : 0 ∉ s) :
    view (urlDecodeWithAlloc A charIsSigned osStrToUint32Cptr true (encoded s)) =
      .holding (s.length + 1) s := by
  have hprints := prints_urlDecodeToStrBuf charIsSigned hA hos hs
  obtain ⟨e, he, hempty, hview⟩ := hprints.alloc hA
  have hfirst := urlDecodeToStrBuf_snd charIsSigned hA hos hs A.null
  rw [hA.isOverflow_counting (hprints.counting hA.null)] at hfirst
  have hsecond := urlDecodeToStrBuf_snd charIsSigned hA hos hs e
  rw [hprints.isOverflow hA hempty (by simp)] at hsecond
  simp only [urlDecodeToStrBuf] at he hfirst hsecond hview
  rw [urlDecodeWithAlloc, urlNDecodeWithAlloc, hfirst]
  simp only [Bool.not_true, Bool.not_false, Bool.false_eq_true, if_false, he, hsecond]
  exact hview

/-- **A string that has been encoded is decoded to itself**, into memory that is allocated and
into any buffer where it fits; and an encoded string has only safe characters. -/
theorem url_roundTrip (hA : A.Lawful view) (hos : ReadsHexBytes osStrToUint32Cptr)
    {s : List UInt8} (hs : 0 ∉ s) : ∃ t, UrlEncoded t ∧
      view (urlEncodeWithAlloc A charIsSigned true s) = .holding (t.length + 1) t ∧
      view (urlDecodeWithAlloc A charIsSigned osStrToUint32Cptr true t) =
        .holding (s.length + 1) s ∧
      (∀ dst size, view dst = .holding size [] → t.length < size →
        (urlEncodeToStrBuf A charIsSigned s dst).2 = true ∧
          view (urlEncodeToStrBuf A charIsSigned s dst).1 = .holding size t) ∧
      ∀ dst size, view dst = .holding size [] → s.length < size →
        (urlDecodeToStrBuf A charIsSigned osStrToUint32Cptr t dst).2 = true ∧
          view (urlDecodeToStrBuf A charIsSigned osStrToUint32Cptr t dst).1 =
            .holding size s := by
  have hencode := prints_urlEncodeToStrBuf charIsSigned hA hs
  have hdecode := prints_urlDecodeToStrBuf charIsSigned hA hos hs
  refine ⟨encoded s, urlEncoded_encoded s, view_urlEncodeWithAlloc charIsSigned hA hs,
    view_urlDecodeWithAlloc charIsSigned hA hos hs, fun dst size hdst hfit => ?_,
    fun dst size hdst hfit => ?_⟩
  · have hfit' : ([] : List UInt8).length + (encoded s).length < size := by simpa using hfit
    exact ⟨congrArg not (hencode.isOverflow hA hdst hfit'), hencode.holding hdst hfit'⟩
  · have hfit' : ([] : List UInt8).length + s.length < size := by simpa using hfit
    refine ⟨?_, hdecode.holding hdst hfit'⟩
    rw [urlDecodeToStrBuf_snd charIsSigned hA hos hs, hdecode.isOverflow hA hdst hfit']
    rfl

/-! ## A string with a letter outside ASCII -/

/-- The number of the hexadecimal digits at the start of a string, and what follows them. -/
def readHexDigits (acc : UInt32) : List UInt8 → UInt32 × List UInt8
  | [] => (acc, [])
  | b :: s =>
      if HexDigit b then
        readHexDigits (16 * acc + UInt32.ofNat (Hex.value (Char.ofNat b.toNat))) s
      else (acc, b :: s)

theorem readsHexBytes_readHexDigits : ReadsHexBytes fun s _ => readHexDigits 0 s := by
  refine forall_byte ?_
  decide +kernel

/-- `"a é"` in UTF-8. -/
def utf8String : List UInt8 := [0x61, 0x20, 0xC3, 0xA9]

theorem url_roundTrip_utf8String : ∃ t, UrlEncoded t ∧
    urlEncodeWithAlloc viewApi true true utf8String = .holding (t.length + 1) t ∧
    urlDecodeWithAlloc viewApi true (fun s _ => readHexDigits 0 s) true t =
      .holding 5 utf8String := by
  obtain ⟨t, ht, hencode, hdecode, -⟩ :=
    url_roundTrip true lawful_viewApi readsHexBytes_readHexDigits (s := utf8String) (by decide)
  exact ⟨t, ht, hencode, hdecode⟩

end Url
end RuuviGateway
