import RuuviGateway.Lib.Strtoul
import RuuviGateway.Nrf52Fw.Model

/-!
# The lines of `info.txt`

`nrf52fw_info_txt.c`.  The first line of the file is the version, and each of the others is a
segment.  A line is the list of its characters without the terminating NUL, and a pointer into it
is what is left of the line there, so a pointer to the NUL is the empty list.

The numbers of both go through `os_str_to_uint32_cptr`, which is `strtoul`.  The components of a
version are therefore also accepted with white space or a sign before their digits, and the first
two, which are followed by a dot, also without any digits.
-/

namespace RuuviGateway
namespace Nrf52Fw

open Strtoul

variable (osStrToUint32Cptr : List Char → Nat → UInt32 × List Char)

/-! ## The version -/

/-- `strchr`. -/
def strchr : List Char → Char → Option (List Char)
  | [], _ => none
  | c :: s, d => if c = d then some (c :: s) else strchr s d

/-- `nrf52fw_parse_version_digit`. -/
def nrf52fwParseVersionDigit (digitStr : List Char) (digitStrEnd : Option (List Char)) :
    Option UInt8 :=
  let read := osStrToUint32Cptr digitStr 10
  let val := read.1
  let isEnd := match digitStrEnd with
    | none => decide (read.2 = [])
    | some strEnd => decide (strEnd = read.2)
  if isEnd = false then none
  else if 255 < val then none
  else some val.toUInt8

/-- `nrf52fw_parse_digit_update_ver`. -/
def nrf52fwParseDigitUpdateVer (tokenBegin : List Char) (tokenEnd : Option (List Char))
    (version : UInt32) (byteNum : UInt8) : Option UInt32 :=
  match nrf52fwParseVersionDigit osStrToUint32Cptr tokenBegin tokenEnd with
  | none => none
  | some digitVal => some (version ||| digitVal.toUInt32 <<< (8 * byteNum.toUInt32))

/-- `nrf52fw_parse_version`. -/
def nrf52fwParseVersion (versionStr : Option (List Char)) : Option UInt32 := do
  let major ← versionStr
  if major = [] then none
  let majorEnd ← strchr major '.'
  let version ← nrf52fwParseDigitUpdateVer osStrToUint32Cptr major (some majorEnd) 0 3
  let minor := majorEnd.tail
  if minor = [] then none
  let minorEnd ← strchr minor '.'
  let version ← nrf52fwParseDigitUpdateVer osStrToUint32Cptr minor (some minorEnd) version 2
  let patch := minorEnd.tail
  if patch = [] then none
  nrf52fwParseDigitUpdateVer osStrToUint32Cptr patch none version 1

/-- `nrf52fw_parse_version_line`. -/
def nrf52fwParseVersionLine (versionLine : List Char) : Option UInt32 :=
  if versionLine.take 3 ≠ "# v".toList then none
  else nrf52fwParseVersion osStrToUint32Cptr (some (versionLine.drop 3))

/-! ## A segment -/

def isBlank (c : Char) : Bool := c == ' ' || c == '\t'

/-- The pointer is at a blank. -/
def atBlank (s : List Char) : Prop := ∃ c ∈ s.head?, isBlank c = true

instance decidableAtBlank (s : List Char) : Decidable (atBlank s) :=
  decidable_of_iff (s.head?.any isBlank = true) (by simp [atBlank, Option.any_eq_true])

/-- The loop over the name of the file.  It stops at a blank only, so at the NUL, where it reads
on, there is no result. -/
def scanFileName : List Char → Option (List Char × List Char)
  | [] => none
  | c :: s =>
      if isBlank c then some ([], c :: s)
      else
        match scanFileName s with
        | none => none
        | some (name, rest) => some (c :: name, rest)

/-- `nrf52fw_parse_segment_info_line`; `none` if it reads behind the NUL. -/
def nrf52fwParseSegmentInfoLine (versionLine : List Char) : Option (Option Segment) :=
  let (segmentAddr, strEnd) := osStrToUint32Cptr versionLine 16
  if ¬ atBlank strEnd then some none
  else
    let (segmentLen, strEnd) := osStrToUint32Cptr (strEnd.dropWhile isBlank) 0
    if ¬ atBlank strEnd then some none
    else
      match scanFileName (strEnd.dropWhile isBlank) with
      | none => none
      | some (fileName, strEnd) =>
          if 20 ≤ fileName.length then some none
          else
            let (segmentCrc, strEnd) := osStrToUint32Cptr strEnd 16
            if strEnd ≠ [] then some none
            else some (some ⟨segmentAddr, segmentLen, fileName, segmentCrc⟩)

/-! ## Versions -/

/-- Decimal digits that denote a number from 0 to 255. -/
def Component (text : List Char) (n : Nat) : Prop :=
  text ≠ [] ∧ (∀ c ∈ text, isDigit 10 c = true) ∧ value 10 text = n ∧ n ≤ 255

/-- Three texts with dots between them. -/
def dotted (major minor patch : List Char) : List Char := major ++ '.' :: (minor ++ '.' :: patch)

/-- A version, with the numbers that it denotes. -/
def Version (s : List Char) (n1 n2 n3 : Nat) : Prop :=
  ∃ major minor patch, s = dotted major minor patch ∧ Component major n1 ∧ Component minor n2 ∧
    Component patch n3

/-- The word of a version. -/
def versionWord (v1 v2 v3 : UInt32) : UInt32 := v1 <<< 24 ||| v2 <<< 16 ||| v3 <<< 8

/-- The parser accepts the text, and the line that consists of it, if and only if it is a version,
and then returns the word of the version. -/
def ParsesVersionExactly (s : List Char) : Prop :=
  (∀ word, nrf52fwParseVersion osStrToUint32Cptr (some s) = some word ↔ ∃ n1 n2 n3,
      Version s n1 n2 n3 ∧ word = versionWord (.ofNat n1) (.ofNat n2) (.ofNat n3)) ∧
    ∀ word, nrf52fwParseVersionLine osStrToUint32Cptr ("# v".toList ++ s) = some word ↔
      ∃ n1 n2 n3, Version s n1 n2 n3 ∧ word = versionWord (.ofNat n1) (.ofNat n2) (.ofNat n3)

/-- No digits at all, or white space or a sign before the digits of a number that comes out in the
range. -/
def LooseComponent (text : List Char) : Prop :=
  text = [] ∨ ∃ p : Parts 10, p.text = text ∧ ¬ p.Plain ∧ p.toUInt32.toNat ≤ 255

/-- Three texts with dots between them, all of them components but for one or more that are
written loosely.  The last one is not empty. -/
def LooseVersion (s : List Char) : Prop :=
  ∃ major minor patch, s = dotted major minor patch ∧ patch ≠ [] ∧
    (∀ t ∈ [major, minor, patch], LooseComponent t ∨ ∃ n, Component t n) ∧
    ∃ t ∈ [major, minor, patch], LooseComponent t

/-! ## What is read of a component -/

/-- The text is read to its end, as a number from 0 to 255. -/
def ReadAs (text : List Char) (v : UInt32) : Prop := strtoul text 10 = (v, []) ∧ v.toNat ≤ 255

theorem component_readAs {text : List Char} {n : Nat} (h : Component text n) :
    ReadAs text (.ofNat n) := by
  obtain ⟨hne, hdigits, rfl, hle⟩ := h
  have hlt : value 10 text < 2 ^ 32 := by omega
  have hvalue : (Parts.ofDigits text hne hdigits).toUInt32 = UInt32.ofNat (value 10 text) := by
    refine UInt32.toNat_inj.mp ?_
    rw [Parts.toNat_ofDigits hne hdigits hlt, UInt32.toNat_ofNat_of_lt' hlt]
  have hread := strtoul_text (by decide) (Parts.ofDigits text hne hdigits)
  rw [hvalue] at hread
  refine ⟨hread, ?_⟩
  rw [UInt32.toNat_ofNat_of_lt' hlt]
  exact hle

theorem looseComponent_readAs {text : List Char} (h : LooseComponent text) :
    ∃ v, ReadAs text v := by
  rcases h with rfl | ⟨p, rfl, -, hle⟩
  · exact ⟨0, by decide, by decide⟩
  · exact ⟨_, strtoul_text (by decide) p, hle⟩

/-- What is read is a component, or written loosely. -/
theorem ReadAs.component_or_loose {text : List Char} {v : UInt32} (h : ReadAs text v) :
    LooseComponent text ∨ Component text v.toNat := by
  rcases (strtoul_eq_nil_iff (by decide)).mp h.1 with ⟨rfl, -⟩ | ⟨p, rfl, rfl⟩
  · exact .inl (.inl rfl)
  · by_cases hplain : p.Plain
    · have hvalue := hplain.toNat_toUInt32
      have hle := h.2
      refine .inr ⟨p.text_ne_nil, hplain.isDigit_of_mem, ?_, hle⟩
      rw [hplain.text]
      omega
    · exact .inl (.inr ⟨p, rfl, hplain, h.2⟩)

theorem LooseComponent.not_component {text : List Char} {n : Nat} (h : LooseComponent text) :
    ¬ Component text n := by
  rintro ⟨hne, hdigits, -, -⟩
  rcases h with rfl | ⟨p, rfl, hnot, -⟩
  · exact hne rfl
  · exact hnot (Parts.plain_of_isDigit hdigits)

/-- There is no dot in what is read. -/
theorem ReadAs.dot_notMem {text : List Char} {v : UInt32} (h : ReadAs text v) : '.' ∉ text := by
  rcases (strtoul_eq_nil_iff (by decide)).mp h.1 with ⟨rfl, -⟩ | ⟨p, rfl, -⟩
  · exact List.not_mem_nil
  · intro hdot
    rcases p.mem_text hdot with h | h | h | h
    · exact absurd h (by decide)
    · exact absurd h (by decide)
    · exact absurd h (by decide)
    · exact absurd h (by decide)

/-! ## The dots -/

theorem strchr_append {s u : List Char} {d : Char} (h : d ∉ s) :
    strchr (s ++ d :: u) d = some (d :: u) := by
  induction s with
  | nil => rw [List.nil_append, strchr, if_pos rfl]
  | cons c s ih =>
    rw [List.mem_cons, not_or] at h
    rw [List.cons_append, strchr, if_neg (Ne.symm h.1)]
    exact ih h.2

theorem exists_of_strchr {s r : List Char} {d : Char} (h : strchr s d = some r) :
    ∃ t u, s = t ++ d :: u ∧ r = d :: u := by
  induction s with
  | nil => exact absurd h (by simp [strchr])
  | cons c s ih =>
    rw [strchr] at h
    split at h
    · rename_i hc
      subst hc
      exact ⟨[], s, rfl, (Option.some.inj h).symm⟩
    · obtain ⟨t, u, rfl, rfl⟩ := ih h
      exact ⟨c :: t, u, rfl, rfl⟩

/-! ## What the parser accepts -/

variable {osStrToUint32Cptr : List Char → Nat → UInt32 × List Char}

theorem toUInt32_toUInt8 {v : UInt32} (h : v.toNat ≤ 255) : v.toUInt8.toUInt32 = v := by
  refine UInt32.toNat_inj.mp ?_
  rw [UInt8.toNat_toUInt32, UInt32.toNat_toUInt8]
  exact Nat.mod_eq_of_lt (Nat.lt_succ_of_le h)

theorem nrf52fwParseVersionDigit_eq_some_iff
    (hos : ∀ s base, osStrToUint32Cptr s base = strtoul s base) {s : List Char}
    {strEnd : Option (List Char)} {digit : UInt8} :
    nrf52fwParseVersionDigit osStrToUint32Cptr s strEnd = some digit ↔
      ∃ v, strtoul s 10 = (v, strEnd.getD []) ∧ v.toNat ≤ 255 ∧ v.toUInt8 = digit := by
  have hend : (match strEnd with
      | none => decide ((strtoul s 10).2 = [])
      | some e => decide (e = (strtoul s 10).2)) = decide ((strtoul s 10).2 = strEnd.getD []) := by
    cases strEnd with
    | none => rfl
    | some e => exact decide_eq_decide.mpr eq_comm
  simp only [nrf52fwParseVersionDigit, hos]
  rw [hend]
  constructor
  · intro h
    obtain ⟨hrest, h⟩ := Option.ite_none_left_eq_some.mp h
    obtain ⟨hle, h⟩ := Option.ite_none_left_eq_some.mp h
    have hrest : (strtoul s 10).2 = strEnd.getD [] := by simpa using hrest
    exact ⟨_, Prod.ext rfl hrest, by simpa [UInt32.lt_iff_toNat_lt] using hle,
      Option.some.inj h⟩
  · rintro ⟨v, hread, hle, rfl⟩
    have hnot : ¬ 255 < v := by
      rw [UInt32.lt_iff_toNat_lt]
      exact Nat.not_lt.mpr hle
    rw [hread]
    simp [hnot]

theorem nrf52fwParseDigitUpdateVer_eq_some_iff
    (hos : ∀ s base, osStrToUint32Cptr s base = strtoul s base) {s : List Char}
    {strEnd : Option (List Char)} {version word : UInt32} {byteNum : UInt8} :
    nrf52fwParseDigitUpdateVer osStrToUint32Cptr s strEnd version byteNum = some word ↔
      ∃ v, strtoul s 10 = (v, strEnd.getD []) ∧ v.toNat ≤ 255 ∧
        version ||| v <<< (8 * byteNum.toUInt32) = word := by
  rw [nrf52fwParseDigitUpdateVer]
  constructor
  · intro h
    cases hdigit : nrf52fwParseVersionDigit osStrToUint32Cptr s strEnd with
    | none =>
      rw [hdigit] at h
      exact absurd h (by simp)
    | some digit =>
      rw [hdigit] at h
      obtain ⟨v, hread, hle, rfl⟩ := (nrf52fwParseVersionDigit_eq_some_iff hos).mp hdigit
      have h := Option.some.inj h
      rw [toUInt32_toUInt8 hle] at h
      exact ⟨v, hread, hle, h⟩
  · rintro ⟨v, hread, hle, rfl⟩
    have hdigit := (nrf52fwParseVersionDigit_eq_some_iff hos).mpr ⟨v, hread, hle, rfl⟩
    rw [hdigit]
    show some (version ||| v.toUInt8.toUInt32 <<< (8 * byteNum.toUInt32)) = _
    rw [toUInt32_toUInt8 hle]

/-- A component that is followed by a dot. -/
theorem strtoul_dot_iff {t u : List Char} {v : UInt32} :
    strtoul (t ++ '.' :: u) 10 = (v, '.' :: u) ↔ strtoul t 10 = (v, []) := by
  refine strtoul_append_eq_iff (by decide) rfl fun p c hc => ?_
  obtain rfl : '.' = c := Option.some.inj hc
  rw [p.decimal.1]
  decide

/-- **What is accepted**: three texts with dots between them, each of which is read to its end. -/
theorem nrf52fwParseVersion_eq_some_iff
    (hos : ∀ s base, osStrToUint32Cptr s base = strtoul s base) {s : List Char} {word : UInt32} :
    nrf52fwParseVersion osStrToUint32Cptr (some s) = some word ↔
      ∃ major minor patch v1 v2 v3, s = dotted major minor patch ∧ patch ≠ [] ∧
        ReadAs major v1 ∧ ReadAs minor v2 ∧ ReadAs patch v3 ∧ versionWord v1 v2 v3 = word := by
  have hword : ∀ v1 v2 v3 : UInt32, 0 ||| v1 <<< (8 * (3 : UInt8).toUInt32) |||
      v2 <<< (8 * (2 : UInt8).toUInt32) ||| v3 <<< (8 * (1 : UInt8).toUInt32) =
        versionWord v1 v2 v3 := by
    intro v1 v2 v3
    rw [UInt32.zero_or]
    rfl
  constructor
  · intro h
    simp only [nrf52fwParseVersion, Option.bind_eq_bind, Option.bind_some] at h
    split at h
    · exact absurd h (by simp)
    obtain ⟨majorEnd, hmajor, h⟩ := Option.bind_eq_some_iff.mp h
    obtain ⟨major, u, rfl, rfl⟩ := exists_of_strchr hmajor
    obtain ⟨version, hv1, h⟩ := Option.bind_eq_some_iff.mp h
    obtain ⟨v1, hread1, hle1, rfl⟩ := (nrf52fwParseDigitUpdateVer_eq_some_iff hos).mp hv1
    split at h
    · exact absurd h (by simp)
    obtain ⟨minorEnd, hminor, h⟩ := Option.bind_eq_some_iff.mp h
    obtain ⟨minor, patch, hu, rfl⟩ := exists_of_strchr hminor
    obtain rfl : u = minor ++ '.' :: patch := hu
    obtain ⟨version, hv2, h⟩ := Option.bind_eq_some_iff.mp h
    obtain ⟨v2, hread2, hle2, rfl⟩ := (nrf52fwParseDigitUpdateVer_eq_some_iff hos).mp hv2
    split at h
    · exact absurd h (by simp)
    rename_i hpatch
    obtain ⟨v3, hread3, hle3, rfl⟩ := (nrf52fwParseDigitUpdateVer_eq_some_iff hos).mp h
    exact ⟨major, minor, patch, v1, v2, v3, rfl, hpatch, ⟨strtoul_dot_iff.mp hread1, hle1⟩,
      ⟨strtoul_dot_iff.mp hread2, hle2⟩, ⟨hread3, hle3⟩, (hword v1 v2 v3).symm⟩
  · rintro ⟨major, minor, patch, v1, v2, v3, rfl, hpatch, h1, h2, h3, rfl⟩
    have hv1 : nrf52fwParseDigitUpdateVer osStrToUint32Cptr (dotted major minor patch)
        (some ('.' :: (minor ++ '.' :: patch))) 0 3 = some _ :=
      (nrf52fwParseDigitUpdateVer_eq_some_iff hos).mpr ⟨v1, strtoul_dot_iff.mpr h1.1, h1.2, rfl⟩
    have hv2 : ∀ version, nrf52fwParseDigitUpdateVer osStrToUint32Cptr (minor ++ '.' :: patch)
        (some ('.' :: patch)) version 2 = some _ := fun version =>
      (nrf52fwParseDigitUpdateVer_eq_some_iff hos).mpr ⟨v2, strtoul_dot_iff.mpr h2.1, h2.2, rfl⟩
    have hv3 : ∀ version, nrf52fwParseDigitUpdateVer osStrToUint32Cptr patch none version 1 =
        some _ := fun version =>
      (nrf52fwParseDigitUpdateVer_eq_some_iff hos).mpr ⟨v3, h3.1, h3.2, rfl⟩
    have hmajor : strchr (dotted major minor patch) '.' = some ('.' :: (minor ++ '.' :: patch)) :=
      strchr_append h1.dot_notMem
    have hminor : strchr (minor ++ '.' :: patch) '.' = some ('.' :: patch) :=
      strchr_append h2.dot_notMem
    have hne1 : dotted major minor patch ≠ [] := by simp [dotted]
    have hne2 : minor ++ '.' :: patch ≠ [] := by simp
    simp only [nrf52fwParseVersion, Option.bind_eq_bind, Option.bind_some, if_neg hne1, hmajor,
      hv1, List.tail_cons, if_neg hne2, hminor, hv2, if_neg hpatch, hv3]
    rw [hword]

/-- The line is the prefix and a version. -/
theorem nrf52fwParseVersionLine_append (s : List Char) :
    nrf52fwParseVersionLine osStrToUint32Cptr ("# v".toList ++ s) =
      nrf52fwParseVersion osStrToUint32Cptr (some s) := by
  have htake : ("# v".toList ++ s).take 3 = "# v".toList := rfl
  rw [nrf52fwParseVersionLine, if_neg (not_not.mpr htake)]
  rfl

/-! ## Exactness -/

theorem dotted_inj {a b c a' b' c' : List Char} (ha : '.' ∉ a) (ha' : '.' ∉ a') (hb : '.' ∉ b)
    (hb' : '.' ∉ b') (h : dotted a b c = dotted a' b' c') : a = a' ∧ b = b' ∧ c = c' := by
  have hsplit : ∀ {t t' u u' : List Char}, '.' ∉ t → '.' ∉ t' → t ++ '.' :: u = t' ++ '.' :: u' →
      t = t' ∧ u = u' := by
    intro t t' u u' ht ht' heq
    have hchr : some ('.' :: u) = some ('.' :: u') := by
      rw [← strchr_append ht, heq, strchr_append ht']
    obtain rfl := (List.cons.inj (Option.some.inj hchr)).2
    exact ⟨List.append_cancel_right heq, rfl⟩
  obtain ⟨hab, hrest⟩ := hsplit ha ha' h
  exact ⟨hab, hsplit hb hb' hrest⟩

/-- A version is accepted, and its word is returned. -/
theorem Version.accepted
    (hos : ∀ s base, osStrToUint32Cptr s base = strtoul s base) {s : List Char} {n1 n2 n3 : Nat}
    (h : Version s n1 n2 n3) : nrf52fwParseVersion osStrToUint32Cptr (some s) =
      some (versionWord (.ofNat n1) (.ofNat n2) (.ofNat n3)) := by
  obtain ⟨major, minor, patch, rfl, h1, h2, h3⟩ := h
  exact (nrf52fwParseVersion_eq_some_iff hos).mpr ⟨major, minor, patch, _, _, _, rfl, h3.1,
    component_readAs h1, component_readAs h2, component_readAs h3, rfl⟩

/-- Where nothing is written loosely, what is accepted is a version. -/
theorem version_of_accepted
    (hos : ∀ s base, osStrToUint32Cptr s base = strtoul s base) {s : List Char} {word : UInt32}
    (hloose : ¬ LooseVersion s) (h : nrf52fwParseVersion osStrToUint32Cptr (some s) = some word) :
    ∃ n1 n2 n3, Version s n1 n2 n3 ∧ word = versionWord (.ofNat n1) (.ofNat n2) (.ofNat n3) := by
  obtain ⟨major, minor, patch, v1, v2, v3, rfl, hpatch, h1, h2, h3, rfl⟩ :=
    (nrf52fwParseVersion_eq_some_iff hos).mp h
  have hall : ∀ t ∈ [major, minor, patch], LooseComponent t ∨ ∃ n, Component t n := by
    simp only [List.mem_cons, List.not_mem_nil, or_false]
    rintro t (rfl | rfl | rfl)
    · exact h1.component_or_loose.imp_right fun hc => ⟨_, hc⟩
    · exact h2.component_or_loose.imp_right fun hc => ⟨_, hc⟩
    · exact h3.component_or_loose.imp_right fun hc => ⟨_, hc⟩
  have hnone : ∀ t ∈ [major, minor, patch], ¬ LooseComponent t := fun t ht hl =>
    hloose ⟨major, minor, patch, rfl, hpatch, hall, t, ht, hl⟩
  refine ⟨v1.toNat, v2.toNat, v3.toNat, ⟨major, minor, patch, rfl, ?_, ?_, ?_⟩, ?_⟩
  · exact h1.component_or_loose.resolve_left (hnone major (by simp))
  · exact h2.component_or_loose.resolve_left (hnone minor (by simp))
  · exact h3.component_or_loose.resolve_left (hnone patch (by simp))
  · rw [UInt32.ofNat_toNat, UInt32.ofNat_toNat, UInt32.ofNat_toNat]

/-- What is written loosely is accepted. -/
theorem LooseVersion.accepted
    (hos : ∀ s base, osStrToUint32Cptr s base = strtoul s base) {s : List Char}
    (h : LooseVersion s) : ∃ word, nrf52fwParseVersion osStrToUint32Cptr (some s) = some word := by
  obtain ⟨major, minor, patch, rfl, hpatch, hall, -⟩ := h
  have hread : ∀ t ∈ [major, minor, patch], ∃ v, ReadAs t v := fun t ht =>
    (hall t ht).elim looseComponent_readAs fun ⟨_, hc⟩ => ⟨_, component_readAs hc⟩
  obtain ⟨v1, h1⟩ := hread major (by simp)
  obtain ⟨v2, h2⟩ := hread minor (by simp)
  obtain ⟨v3, h3⟩ := hread patch (by simp)
  exact ⟨_, (nrf52fwParseVersion_eq_some_iff hos).mpr
    ⟨major, minor, patch, v1, v2, v3, rfl, hpatch, h1, h2, h3, rfl⟩⟩

/-- It is not a version. -/
theorem LooseVersion.not_version {s : List Char} {n1 n2 n3 : Nat} (h : LooseVersion s) :
    ¬ Version s n1 n2 n3 := by
  rintro ⟨major', minor', patch', hs, h1, h2, h3⟩
  obtain ⟨major, minor, patch, rfl, -, hall, t, ht, hloose⟩ := h
  have hdot : ∀ t ∈ [major, minor, patch], '.' ∉ t := by
    intro t ht
    rcases hall t ht with hl | ⟨n, hc⟩
    · exact (looseComponent_readAs hl).choose_spec.dot_notMem
    · exact (component_readAs hc).dot_notMem
  obtain ⟨rfl, rfl, rfl⟩ := dotted_inj (hdot major (by simp)) (component_readAs h1).dot_notMem
    (hdot minor (by simp)) (component_readAs h2).dot_notMem hs
  simp only [List.mem_cons, List.not_mem_nil, or_false] at ht
  rcases ht with rfl | rfl | rfl
  · exact hloose.not_component h1
  · exact hloose.not_component h2
  · exact hloose.not_component h3

/-- **Which versions are parsed right**: all texts but those whose parts are read as numbers from
0 to 255 though one of them has no digits, or white space or a sign before them. -/
theorem parsesVersionExactly_iff
    (hos : ∀ s base, osStrToUint32Cptr s base = strtoul s base) (s : List Char) :
    ParsesVersionExactly osStrToUint32Cptr s ↔ ¬ LooseVersion s := by
  constructor
  · rintro ⟨hparse, -⟩ hloose
    obtain ⟨word, haccepted⟩ := hloose.accepted hos
    obtain ⟨n1, n2, n3, hversion, -⟩ := (hparse word).mp haccepted
    exact hloose.not_version hversion
  · intro hloose
    have hparse : ∀ word, nrf52fwParseVersion osStrToUint32Cptr (some s) = some word ↔
        ∃ n1 n2 n3, Version s n1 n2 n3 ∧
          word = versionWord (.ofNat n1) (.ofNat n2) (.ofNat n3) := by
      intro word
      refine ⟨version_of_accepted hos hloose, ?_⟩
      rintro ⟨n1, n2, n3, hversion, rfl⟩
      exact hversion.accepted hos
    refine ⟨hparse, fun word => ?_⟩
    rw [nrf52fwParseVersionLine_append]
    exact hparse word

/-! ## A version with empty parts -/

/-- `"1.0.2"` is not written loosely. -/
theorem not_looseVersion_release : ¬ LooseVersion "1.0.2".toList := by
  have hversion : Version "1.0.2".toList 1 0 2 :=
    ⟨['1'], ['0'], ['2'], rfl, ⟨by decide, List.all_eq_true.mp (by decide), by decide, by decide⟩,
      ⟨by decide, List.all_eq_true.mp (by decide), by decide, by decide⟩,
      ⟨by decide, List.all_eq_true.mp (by decide), by decide, by decide⟩⟩
  have hparsed : nrf52fwParseVersion strtoul (some "1.0.2".toList) = some 0x01000200 := by
    decide +kernel
  have hparse : ∀ word, nrf52fwParseVersion strtoul (some "1.0.2".toList) = some word ↔
      ∃ n1 n2 n3, Version "1.0.2".toList n1 n2 n3 ∧
        word = versionWord (.ofNat n1) (.ofNat n2) (.ofNat n3) := by
    intro word
    constructor
    · intro h
      obtain rfl : 0x01000200 = word := Option.some.inj (hparsed.symm.trans h)
      exact ⟨1, 0, 2, hversion, by decide⟩
    · rintro ⟨n1, n2, n3, hversion', rfl⟩
      exact hversion'.accepted fun _ _ => rfl
  refine (parsesVersionExactly_iff (fun _ _ => rfl) _).mp ⟨hparse, fun word => ?_⟩
  rw [nrf52fwParseVersionLine_append]
  exact hparse word

/-- `"..+7"` is taken for the version 0.0.7. -/
theorem not_parsesVersionExactly_empty :
    nrf52fwParseVersionLine strtoul "# v..+7".toList = some 0x00000700 ∧
      ¬ ParsesVersionExactly strtoul "..+7".toList := by
  have hparsed : nrf52fwParseVersion strtoul (some "..+7".toList) = some 0x00000700 := by
    decide +kernel
  have hseven : LooseComponent "+7".toList :=
    .inr ⟨⟨[], false, ['+'], 10, [], ['7'], by simp, .plus, .given (by decide), by simp,
      List.all_eq_true.mp (by decide)⟩, rfl, fun h => absurd h.2 (by simp), by decide⟩
  have hloose : LooseVersion "..+7".toList := by
    refine ⟨[], [], "+7".toList, rfl, by decide, ?_, [], by simp, .inl rfl⟩
    simp only [List.mem_cons, List.not_mem_nil, or_false]
    rintro t (rfl | rfl | rfl)
    · exact .inl (.inl rfl)
    · exact .inl (.inl rfl)
    · exact .inl hseven
  refine ⟨(nrf52fwParseVersionLine_append "..+7".toList).trans hparsed, fun h => ?_⟩
  obtain ⟨n1, n2, n3, hversion, -⟩ := (h.1 _).mp hparsed
  exact hloose.not_version hversion

end Nrf52Fw
end RuuviGateway
