import RuuviGateway.Lib.Strtoul
import RuuviGateway.Url.Encode

/-!
# What URL decoding accepts

`url_n_decode_to_str_buf` takes the two characters after `%` for a number in base 16, and
`strtoul` also reads a number of one digit after white space or a sign.  The loop looks for the
end of the string behind `%`, but not for the end of the given length.  So what is decoded is
right, and depends on the given characters only, where these are well formed, and where some
`%` in them is followed by characters that no number of two characters begins with.
-/

namespace RuuviGateway
namespace Url

open StrBuf Strtoul

universe u

/-! ## Two characters as a number -/

/-- `os_str_to_uint32_cptr` is `strtoul`. -/
def ReadsAsStrtoul (osStrToUint32Cptr : List UInt8 → Nat → UInt32 × List UInt8) : Prop :=
  ∀ s base, osStrToUint32Cptr s base = strtoulBytes s base

/-- White space or a sign. -/
def SpaceOrSign (b : UInt8) : Prop := b = 32 ∨ (9 ≤ b ∧ b ≤ 13) ∨ b = 43 ∨ b = 45

instance decidableSpaceOrSign (b : UInt8) : Decidable (SpaceOrSign b) :=
  inferInstanceAs (Decidable (_ ∨ _))

/-- Two hexadecimal digits other than `00`. -/
def EscapeDigits (first second : UInt8) : Prop :=
  HexDigit first ∧ HexDigit second ∧ ¬ (first = 48 ∧ second = 48)

/-- One hexadecimal digit other than `0`, after white space or a sign. -/
def LooseDigit (first second : UInt8) : Prop :=
  SpaceOrSign first ∧ HexDigit second ∧ second ≠ 48

/-- What the loop takes for an escaped character. -/
def Accepted (first second : UInt8) : Prop := EscapeDigits first second ∨ LooseDigit first second

theorem isSpace_byteChar : ∀ b, isSpace (byteChar b) = true → SpaceOrSign b := by
  refine forall_byte ?_
  decide +kernel

theorem isDigit_byteChar : ∀ b, isDigit 16 (byteChar b) = true ↔ HexDigit b := by
  refine forall_byte ?_
  decide +kernel

theorem digitValue_byteChar :
    ∀ b, HexDigit b → (digitValue (byteChar b) = 0 ↔ b = 48) := by
  refine forall_byte ?_
  decide +kernel

/-- What may stand before the digit of a number of two characters. -/
theorem spaceOrSign_cases : ∀ b, SpaceOrSign b →
    isSpace (byteChar b) = true ∨ byteChar b = '+' ∨ byteChar b = '-' := by
  refine forall_byte ?_
  decide +kernel

theorem byteChar_sign : ∀ b, byteChar b = '+' ∨ byteChar b = '-' → SpaceOrSign b := by
  refine forall_byte ?_
  decide +kernel

/-- A number of two characters other than 0. -/
theorem accepted_of_parts (p : Parts 16) {first second : UInt8}
    (htext : p.text = [byteChar first, byteChar second]) (hv : p.toUInt32 ≠ 0) :
    Accepted first second := by
  obtain ⟨space, negative, signText, b, lead, digits, hspace, hsign, hradix, hne, hdigits⟩ := p
  have hvalue : value b digits ≠ 0 := ofMagnitude_ne_zero_iff.mp hv
  simp only [Parts.text] at htext
  have hpos := List.length_pos_iff.mpr hne
  have hlen := congrArg List.length htext
  cases hradix with
  | hex => simp at hlen; omega
  | octal h => exact absurd h (by decide)
  | decimal h => exact absurd h (by decide)
  | given =>
    -- the last character is a digit, and before it there is one more character
    have hlast : ∀ {c}, digits = [c] → c = byteChar second → HexDigit second ∧ second ≠ 48 := by
      rintro c rfl rfl
      have hdigit := (isDigit_byteChar second).mp (hdigits _ List.mem_cons_self)
      refine ⟨hdigit, fun h48 => hvalue ?_⟩
      simp [value, (digitValue_byteChar second hdigit).mpr h48]
    have hloose : ∀ {c}, digits = [c] → c = byteChar second → SpaceOrSign first →
        Accepted first second := fun hc hsecond hfirst =>
      .inr ⟨hfirst, hlast hc hsecond⟩
    cases space with
    | nil =>
      cases hsign with
      | absent =>
        obtain rfl : digits = [byteChar first, byteChar second] := htext
        have hfirst := (isDigit_byteChar first).mp (hdigits _ List.mem_cons_self)
        have hsecond := (isDigit_byteChar second).mp (hdigits _ (by simp))
        refine .inl ⟨hfirst, hsecond, ?_⟩
        rintro ⟨h1, h2⟩
        refine hvalue ?_
        simp [value, (digitValue_byteChar first hfirst).mpr h1,
          (digitValue_byteChar second hsecond).mpr h2]
      | plus =>
        obtain ⟨hc, htail⟩ := List.cons.inj htext
        exact hloose htail rfl (byteChar_sign first (.inl hc.symm))
      | minus =>
        obtain ⟨hc, htail⟩ := List.cons.inj htext
        exact hloose htail rfl (byteChar_sign first (.inr hc.symm))
    | cons c space =>
      obtain ⟨rfl, htail⟩ := List.cons.inj htext
      have hfirst := isSpace_byteChar first (hspace _ List.mem_cons_self)
      simp only [List.length_append, List.length_cons, List.length_nil] at hlen
      obtain rfl : space = [] := List.length_eq_zero_iff.mp (by omega)
      obtain rfl : signText = [] := List.length_eq_zero_iff.mp (by omega)
      exact hloose htail rfl hfirst

/-- The digit of a number of two characters, the first of which is none. -/
theorem strtoul_looseDigit {first second : UInt8} (h : LooseDigit first second) :
    ∃ negative, strtoul [byteChar first, byteChar second] 16 =
      (ofMagnitude negative (value 16 [byteChar second]), []) := by
  have hdigits : ∀ c ∈ [byteChar second], isDigit 16 c = true := by
    simpa using (isDigit_byteChar second).mpr h.2.1
  rcases spaceOrSign_cases first h.1 with hspace | hsign | hsign
  · exact ⟨_, strtoul_text (by decide) ⟨[byteChar first], _, _, 16, [], [byteChar second],
      by simpa using hspace, .absent, .given (by decide), by simp, hdigits⟩⟩
  · rw [hsign]
    exact ⟨_, strtoul_text (by decide) ⟨[], _, _, 16, [], [byteChar second],
      by simp, .plus, .given (by decide), by simp, hdigits⟩⟩
  · rw [hsign]
    exact ⟨_, strtoul_text (by decide) ⟨[], _, _, 16, [], [byteChar second],
      by simp, .minus, .given (by decide), by simp, hdigits⟩⟩

/-- The two digits of an escaped character. -/
theorem strtoul_escapeDigits {first second : UInt8} (h : EscapeDigits first second) :
    strtoul [byteChar first, byteChar second] 16 =
      (ofMagnitude false (value 16 [byteChar first, byteChar second]), []) := by
  have hdigits : ∀ c ∈ [byteChar first, byteChar second], isDigit 16 c = true := by
    simpa using ⟨(isDigit_byteChar first).mpr h.1, (isDigit_byteChar second).mpr h.2.1⟩
  exact strtoul_text (by decide) ⟨[], _, _, 16, [], [byteChar first, byteChar second],
    by simp, .absent, .given (by decide), by simp, hdigits⟩

/-- **What is taken for an escaped character**: two characters that are read to their end, as a
number other than 0. -/
theorem accepted_iff {osStrToUint32Cptr : List UInt8 → Nat → UInt32 × List UInt8}
    (hos : ReadsAsStrtoul osStrToUint32Cptr) (first second : UInt8) :
    (osStrToUint32Cptr [first, second] 16).2 = [] ∧ (osStrToUint32Cptr [first, second] 16).1 ≠ 0 ↔
      Accepted first second := by
  rw [hos]
  change [first, second].drop (2 - (strtoul [byteChar first, byteChar second] 16).2.length) = [] ∧
    (strtoul [byteChar first, byteChar second] 16).1 ≠ 0 ↔ _
  constructor
  · rintro ⟨hrest, hv⟩
    cases hread : strtoul [byteChar first, byteChar second] 16 with
    | mk v rest =>
      rw [hread] at hrest hv
      rcases exists_parts_of_strtoul hread with ⟨rfl, -⟩ | ⟨p, htext, rfl, -⟩
      · exact absurd rfl hv
      · have hlen := List.drop_eq_nil_iff.mp hrest
        obtain rfl : rest = [] := List.length_eq_zero_iff.mp (by simp at hlen; omega)
        rw [List.append_nil] at htext
        exact accepted_of_parts p htext.symm hv
  · rintro (h | h)
    · rw [strtoul_escapeDigits h]
      refine ⟨rfl, ofMagnitude_ne_zero_iff.mpr fun hzero => h.2.2 ?_⟩
      simp only [value, List.foldl_cons, List.foldl_nil] at hzero
      exact ⟨(digitValue_byteChar first h.1).mp (by omega),
        (digitValue_byteChar second h.2.1).mp (by omega)⟩
    · obtain ⟨negative, hread⟩ := strtoul_looseDigit h
      rw [hread]
      refine ⟨rfl, ofMagnitude_ne_zero_iff.mpr fun hzero => h.2.2 ?_⟩
      simp only [value, List.foldl_cons, List.foldl_nil] at hzero
      exact (digitValue_byteChar second h.2.1).mp (by omega)

/-! ## The percent signs of a text -/

/-- What follows a percent sign in the text has the property. -/
def EveryEscape (Q : List UInt8 → Prop) (t : List UInt8) : Prop :=
  ∀ rest, percent :: rest <:+ t → Q rest

/-- The string begins with two characters that are taken for an escaped one. -/
def Takes (s : List UInt8) : Prop :=
  ∃ first second u, s = first :: second :: u ∧ Accepted first second

/-- Every percent sign is followed by two hexadecimal digits other than `00`. -/
def WellFormed (t : List UInt8) : Prop :=
  EveryEscape (fun rest => ∃ first second u, rest = first :: second :: u ∧
    EscapeDigits first second) t

/-- The two characters that follow are taken for an escaped character; or there are not two, and
they can be completed so that they are. -/
def Readable : List UInt8 → Prop
  | [] => True
  | [first] => HexDigit first ∨ SpaceOrSign first
  | first :: second :: _ => Accepted first second

/-- With what follows the text, every percent sign is followed by two characters that are taken
for an escaped one. -/
def Completed (more t : List UInt8) : Prop := EveryEscape (fun rest => Takes (rest ++ more)) t

variable {Q : List UInt8 → Prop}

theorem everyEscape_nil : EveryEscape Q [] := by
  intro rest h
  simp at h

theorem everyEscape_cons {b : UInt8} {t : List UInt8} :
    EveryEscape Q (b :: t) ↔ (b = percent → Q t) ∧ EveryEscape Q t := by
  constructor
  · intro h
    refine ⟨?_, fun rest hrest => h rest (List.suffix_cons_iff.mpr (.inr hrest))⟩
    rintro rfl
    exact h t List.suffix_rfl
  · rintro ⟨hhead, htail⟩ rest hrest
    rcases List.suffix_cons_iff.mp hrest with heq | hrest
    · obtain ⟨rfl, rfl⟩ := List.cons.inj heq
      exact hhead rfl
    · exact htail rest hrest

theorem everyEscape_char {b : UInt8} (hb : b ≠ percent) {t : List UInt8} :
    EveryEscape Q (b :: t) ↔ EveryEscape Q t := by
  rw [everyEscape_cons]
  exact and_iff_right fun h => absurd h hb

/-- The characters of an escaped one are not percent signs. -/
theorem Accepted.ne_percent {first second : UInt8} (h : Accepted first second) :
    first ≠ percent ∧ second ≠ percent := by
  have hhex : ∀ b, HexDigit b → b ≠ percent := by
    rintro b hb rfl
    exact absurd hb (by decide)
  rcases h with h | h
  · exact ⟨hhex first h.1, hhex second h.2.1⟩
  · refine ⟨?_, hhex second h.2.1⟩
    rintro rfl
    exact absurd h.1 (by decide)

theorem everyEscape_escape {first second : UInt8} (h : Accepted first second) {t : List UInt8} :
    EveryEscape Q (percent :: first :: second :: t) ↔
      Q (first :: second :: t) ∧ EveryEscape Q t := by
  rw [everyEscape_cons, everyEscape_char h.ne_percent.1, everyEscape_char h.ne_percent.2]
  exact and_congr_left fun _ => forall_prop_of_true rfl

theorem takes_cons_iff {first second : UInt8} {u : List UInt8} :
    Takes (first :: second :: u) ↔ Accepted first second := by
  constructor
  · rintro ⟨first', second', u', heq, hacc⟩
    simp only [List.cons.injEq] at heq
    obtain ⟨rfl, rfl, -⟩ := heq
    exact hacc
  · intro hacc
    exact ⟨first, second, u, rfl, hacc⟩

theorem readable_of_takes {rest more : List UInt8} (h : Takes (rest ++ more)) :
    Readable rest := by
  match rest with
  | [] => trivial
  | [first] =>
    obtain ⟨first', second, u, heq, hacc⟩ := h
    obtain ⟨rfl, -⟩ := List.cons.inj heq
    exact hacc.imp (·.1) (·.1)
  | first :: second :: u => exact takes_cons_iff.mp h

/-- An induction that passes over the two characters after a percent sign. -/
theorem escape_induction {P : List UInt8 → Prop} (nil : P [])
    (char : ∀ b t, b ≠ percent → P t → P (b :: t)) (last : P [percent])
    (lastTwo : ∀ first, P [percent, first])
    (escape : ∀ first second t, P t → P (percent :: first :: second :: t)) : ∀ t, P t
  | [] => nil
  | b :: t => by
    by_cases hb : b = percent
    · subst hb
      match t with
      | [] => exact last
      | [first] => exact lastTwo first
      | first :: second :: t =>
        exact escape first second t (escape_induction nil char last lastTwo escape t)
    · exact char b t hb (escape_induction nil char last lastTwo escape t)

/-! ## The steps of the loop -/

variable {B : Type u} {A : Api B} {view : B → View} (charIsSigned : Bool)
  {osStrToUint32Cptr : List UInt8 → Nat → UInt32 × List UInt8}

/-- What is printed for an escaped character. -/
def escapedChar (charIsSigned : Bool)
    (osStrToUint32Cptr : List UInt8 → Nat → UInt32 × List UInt8) (first second : UInt8) :
    List UInt8 :=
  fmtChar (charValue charIsSigned (UInt8.ofNat (osStrToUint32Cptr [first, second] 16).1.toNat))

theorem urlNDecodeLoop_char {b : UInt8} (hzero : b ≠ 0) (hb : b ≠ percent) (s : List UInt8)
    (n : Nat) (dst : B) :
    urlNDecodeLoop A charIsSigned osStrToUint32Cptr (b :: s) (n + 1) dst =
      urlNDecodeLoop A charIsSigned osStrToUint32Cptr s n (A.printf dst [b]) := by
  have hgo : ¬ (b = 0 ∨ n + 1 = 0) := by simp [hzero]
  rw [urlNDecodeLoop.eq_def]
  simp only [if_neg hgo, if_neg (mt (charValue_eq_percent_iff charIsSigned b).mp hb),
    fmtChar_charValue, Nat.add_sub_cancel]

/-- A percent sign, with the two characters behind it in one read. -/
theorem urlNDecodeLoop_percent (s : List UInt8) (n : Nat) (dst : B) :
    urlNDecodeLoop A charIsSigned osStrToUint32Cptr (percent :: s) (n + 1) dst =
      match s with
      | [] => (dst, false)
      | [_] => (dst, false)
      | first :: second :: s =>
          if first = 0 ∨ second = 0 then (dst, false)
          else if (osStrToUint32Cptr [first, second] 16).2 ≠ [] then (dst, false)
          else if (osStrToUint32Cptr [first, second] 16).1 = 0 then (dst, false)
          else urlNDecodeLoop A charIsSigned osStrToUint32Cptr s (n - 2)
            (A.printf dst (escapedChar charIsSigned osStrToUint32Cptr first second)) := by
  have hgo : ¬ (percent = 0 ∨ n + 1 = 0) := by simp [percent]
  have hlen : n + 1 - 3 = n - 2 := by omega
  rw [urlNDecodeLoop.eq_def]
  simp only [if_neg hgo, if_pos ((charValue_eq_percent_iff charIsSigned percent).mpr rfl), hlen]
  rfl

theorem Accepted.ne_zero {first second : UInt8} (h : Accepted first second) :
    first ≠ 0 ∧ second ≠ 0 := by
  rcases h with h | h
  · exact ⟨h.1.ne_zero, h.2.1.ne_zero⟩
  · refine ⟨?_, h.2.1.ne_zero⟩
    rintro rfl
    exact absurd h.1 (by decide)

theorem urlNDecodeLoop_escape (hos : ReadsAsStrtoul osStrToUint32Cptr) {first second : UInt8}
    (h : Accepted first second) (s : List UInt8) (n : Nat) (dst : B) :
    urlNDecodeLoop A charIsSigned osStrToUint32Cptr (percent :: first :: second :: s) (n + 1)
        dst =
      urlNDecodeLoop A charIsSigned osStrToUint32Cptr s (n - 2)
        (A.printf dst (escapedChar charIsSigned osStrToUint32Cptr first second)) := by
  obtain ⟨hrest, hv⟩ := (accepted_iff hos first second).mpr h
  rw [urlNDecodeLoop_percent]
  simp only [if_neg (not_or.mpr h.ne_zero), hrest, ne_eq, not_true_eq_false, if_false, if_neg hv]

/-- The loop is left at a percent sign that is followed by other characters, or the end of the
string. -/
theorem urlNDecodeLoop_reject (hos : ReadsAsStrtoul osStrToUint32Cptr) {s : List UInt8}
    (h : ¬ Takes s) (n : Nat) (dst : B) :
    urlNDecodeLoop A charIsSigned osStrToUint32Cptr (percent :: s) (n + 1) dst = (dst, false) := by
  rw [urlNDecodeLoop_percent]
  split
  · rfl
  · rfl
  · rename_i first second u
    have hno := mt (accepted_iff hos first second).mp (mt takes_cons_iff.mpr h)
    split
    · rfl
    split
    · rfl
    split
    · rfl
    · rename_i hrest hv
      exact absurd ⟨not_not.mp hrest, hv⟩ hno

theorem urlNDecodeLoop_zero (s : List UInt8) (dst : B) :
    urlNDecodeLoop A charIsSigned osStrToUint32Cptr s 0 dst = (dst, true) := by
  cases s with
  | nil => rfl
  | cons b s => rw [urlNDecodeLoop.eq_def]; simp

/-! ## Whole texts -/

/-- The loop comes to its end if and only if every percent sign is followed by an escaped
character, which may reach over the given length. -/
theorem urlNDecodeLoop_snd_iff (hos : ReadsAsStrtoul osStrToUint32Cptr) (more : List UInt8)
    {t : List UInt8} (hzero : 0 ∉ t) (dst : B) :
    (urlNDecodeLoop A charIsSigned osStrToUint32Cptr (t ++ more) t.length dst).2 = true ↔
      Completed more t := by
  induction t using escape_induction generalizing dst with
  | nil =>
    simp only [List.length_nil, urlNDecodeLoop_zero, true_iff]
    exact everyEscape_nil
  | char b t hb ih =>
    obtain ⟨hb0, hzero⟩ : 0 ≠ b ∧ 0 ∉ t := by simpa using hzero
    rw [Completed, everyEscape_char hb, List.cons_append, List.length_cons,
      urlNDecodeLoop_char charIsSigned hb0.symm hb]
    exact ih hzero _
  | last =>
    rw [Completed, everyEscape_cons, and_iff_left everyEscape_nil, forall_prop_of_true rfl]
    by_cases h : Takes more
    · refine iff_of_true ?_ h
      obtain ⟨first, second, u, rfl, hacc⟩ := h
      simp only [List.cons_append, List.nil_append, List.length_cons, List.length_nil,
        urlNDecodeLoop_escape charIsSigned hos hacc, Nat.zero_sub, urlNDecodeLoop_zero]
    · refine iff_of_false ?_ h
      rw [List.cons_append, List.length_cons, List.nil_append,
        urlNDecodeLoop_reject charIsSigned hos h]
      exact Bool.false_ne_true
  | lastTwo first =>
    by_cases h : Takes (first :: more)
    · obtain ⟨first', second, u, heq, hacc⟩ := h
      obtain ⟨rfl, rfl⟩ := List.cons.inj heq
      refine iff_of_true ?_ (everyEscape_cons.mpr ⟨fun _ => takes_cons_iff.mpr hacc,
        (everyEscape_char hacc.ne_percent.1).mpr everyEscape_nil⟩)
      simp only [List.cons_append, List.nil_append, List.length_cons, List.length_nil,
        urlNDecodeLoop_escape charIsSigned hos hacc, Nat.sub_eq_zero_of_le (Nat.le_succ 1),
        urlNDecodeLoop_zero]
    · refine iff_of_false ?_ fun hall => h (hall [first] List.suffix_rfl)
      rw [List.cons_append, List.length_cons, List.cons_append, List.nil_append,
        urlNDecodeLoop_reject charIsSigned hos h]
      exact Bool.false_ne_true
  | escape first second t ih =>
    have hzero : 0 ∉ t := fun hmem => hzero (by simp [hmem])
    rw [List.cons_append, List.cons_append, List.cons_append, List.length_cons]
    by_cases hacc : Accepted first second
    · have htakes : Takes (first :: second :: t ++ more) := takes_cons_iff.mpr hacc
      rw [urlNDecodeLoop_escape charIsSigned hos hacc, Completed, everyEscape_escape hacc,
        and_iff_right htakes]
      exact ih hzero _
    · rw [urlNDecodeLoop_reject charIsSigned hos (mt takes_cons_iff.mp hacc)]
      exact iff_of_false Bool.false_ne_true fun hall =>
        hacc (takes_cons_iff.mp (hall (first :: second :: t) List.suffix_rfl))

/-- It prints at most as many characters as are given. -/
theorem exists_prints_urlNDecodeLoop (hA : A.Lawful view) (hos : ReadsAsStrtoul osStrToUint32Cptr)
    {more t : List UInt8} (hzero : 0 ∉ t) (h : Completed more t) :
    ∃ text : List UInt8, text.length ≤ t.length ∧
      Prints view (fun dst =>
        (urlNDecodeLoop A charIsSigned osStrToUint32Cptr (t ++ more) t.length dst).1) text := by
  induction t using escape_induction with
  | nil =>
    simp only [List.length_nil, urlNDecodeLoop_zero]
    exact ⟨[], le_rfl, .nothing⟩
  | char b t hb ih =>
    obtain ⟨hb0, hzero⟩ : 0 ≠ b ∧ 0 ∉ t := by simpa using hzero
    obtain ⟨text, hlen, hprints⟩ := ih hzero ((everyEscape_char hb).mp h)
    simp only [List.cons_append, List.length_cons, urlNDecodeLoop_char charIsSigned hb0.symm hb]
    exact ⟨[b] ++ text, by simpa using hlen, hprints.comp (hA.prints [b])⟩
  | last =>
    obtain ⟨first, second, u, heq, hacc⟩ := h [] List.suffix_rfl
    rw [List.nil_append] at heq
    simp only [List.cons_append, List.nil_append, heq, List.length_cons, List.length_nil,
      urlNDecodeLoop_escape charIsSigned hos hacc, Nat.zero_sub, urlNDecodeLoop_zero]
    exact ⟨_, le_rfl, hA.prints _⟩
  | lastTwo first =>
    obtain ⟨first', second, u, heq, hacc⟩ := h [first] List.suffix_rfl
    obtain ⟨rfl, rfl⟩ := List.cons.inj heq
    simp only [List.cons_append, List.nil_append, List.length_cons, List.length_nil,
      urlNDecodeLoop_escape charIsSigned hos hacc, Nat.sub_eq_zero_of_le (Nat.le_succ 1),
      urlNDecodeLoop_zero]
    exact ⟨escapedChar charIsSigned osStrToUint32Cptr first second, by simp [escapedChar, fmtChar],
      hA.prints _⟩
  | escape first second t ih =>
    have hacc : Accepted first second :=
      takes_cons_iff.mp (h (first :: second :: t) List.suffix_rfl)
    have hzero : 0 ∉ t := fun hmem => hzero (by simp [hmem])
    obtain ⟨text, hlen, hprints⟩ := ih hzero ((everyEscape_escape hacc).mp h).2
    simp only [List.cons_append, List.length_cons, urlNDecodeLoop_escape charIsSigned hos hacc,
      Nat.add_sub_cancel]
    exact ⟨_ ++ text, by simp [escapedChar, fmtChar]; omega, hprints.comp (hA.prints _)⟩

/-- What the loop does to a text that is well formed, or that it gives up on, does not depend on
what follows the text. -/
theorem urlNDecodeLoop_append (hos : ReadsAsStrtoul osStrToUint32Cptr) {t : List UInt8}
    (hzero : 0 ∉ t) (h : WellFormed t ∨ ¬ EveryEscape Readable t) (more : List UInt8) (dst : B) :
    urlNDecodeLoop A charIsSigned osStrToUint32Cptr (t ++ more) t.length dst =
      urlNDecodeLoop A charIsSigned osStrToUint32Cptr t t.length dst := by
  induction t using escape_induction generalizing dst with
  | nil => simp only [List.length_nil, urlNDecodeLoop_zero]
  | char b t hb ih =>
    obtain ⟨hb0, hzero⟩ : 0 ≠ b ∧ 0 ∉ t := by simpa using hzero
    rw [WellFormed, everyEscape_char hb, everyEscape_char hb] at h
    rw [List.cons_append, List.length_cons, urlNDecodeLoop_char charIsSigned hb0.symm hb,
      urlNDecodeLoop_char charIsSigned hb0.symm hb]
    exact ih hzero h _
  | last =>
    rcases h with h | h
    · obtain ⟨_, _, _, heq, -⟩ := h [] List.suffix_rfl
      exact absurd heq (by simp)
    · exact absurd (everyEscape_cons.mpr ⟨fun _ => trivial, everyEscape_nil⟩) h
  | lastTwo first =>
    have hno : ¬ Readable [first] := by
      rcases h with h | h
      · obtain ⟨_, _, _, heq, -⟩ := h [first] List.suffix_rfl
        exact absurd heq (by simp)
      · exact fun hread => h (everyEscape_cons.mpr ⟨fun _ => hread,
          everyEscape_cons.mpr ⟨fun _ => trivial, everyEscape_nil⟩⟩)
    have hreject : ∀ more, ¬ Takes (first :: more) := fun more h =>
      hno (readable_of_takes (show Takes ([first] ++ more) from h))
    rw [List.cons_append, List.length_cons, List.cons_append, List.nil_append,
      urlNDecodeLoop_reject charIsSigned hos (hreject more),
      urlNDecodeLoop_reject charIsSigned hos (hreject [])]
  | escape first second t ih =>
    have hzero : 0 ∉ t := fun hmem => hzero (by simp [hmem])
    rw [List.cons_append, List.cons_append, List.cons_append, List.length_cons]
    by_cases hacc : Accepted first second
    · have hrest : WellFormed t ∨ ¬ EveryEscape Readable t := by
        rw [WellFormed, everyEscape_escape hacc, everyEscape_escape hacc] at h
        exact h.imp (·.2) fun hno hread => hno ⟨hacc, hread⟩
      rw [urlNDecodeLoop_escape charIsSigned hos hacc, urlNDecodeLoop_escape charIsSigned hos hacc]
      exact ih hzero hrest _
    · rw [urlNDecodeLoop_reject charIsSigned hos (mt takes_cons_iff.mp hacc),
        urlNDecodeLoop_reject charIsSigned hos (mt takes_cons_iff.mp hacc)]

/-! ## Decoding the first characters of a string -/

/-- A buffer that counts, or that has room for `n` characters more. -/
def Room (view : B → View) (n : Nat) (dst : B) : Prop :=
  (∃ m, view dst = .counting m) ∨
    ∃ size w, view dst = .holding size w ∧ w.length + n < size

/-- Decoding the first `len` characters of `s` succeeds if and only if they are well formed, and
its result depends on these characters only. -/
def DecodesExactly (A : Api B) (view : B → View) (charIsSigned : Bool)
    (osStrToUint32Cptr : List UInt8 → Nat → UInt32 × List UInt8) (s : List UInt8) (len : Nat) :
    Prop :=
  ∀ dst, Room view len dst →
    ((urlNDecodeToStrBuf A charIsSigned osStrToUint32Cptr s len dst).2 = true ↔
        WellFormed (s.take len)) ∧
      ∀ s', len ≤ strlen s' → s'.take len = s.take len →
        urlNDecodeToStrBuf A charIsSigned osStrToUint32Cptr s' len dst =
          urlNDecodeToStrBuf A charIsSigned osStrToUint32Cptr s len dst

/-- Nothing is cut off where there is room. -/
theorem Room.isOverflow {dst : B} {n : Nat} (h : Room view n dst) (hA : A.Lawful view)
    {f : B → B} {text : List UInt8} (hf : Prints view f text) (hlen : text.length ≤ n) :
    A.isOverflow (f dst) = false := by
  rcases h with ⟨m, hm⟩ | ⟨size, w, hw, hroom⟩
  · exact hA.isOverflow_counting (hf.counting hm)
  · exact hf.isOverflow hA hw (by omega)

/-- The characters before the end of a string. -/
theorem zero_notMem_take {s : List UInt8} {len : Nat} (h : len ≤ strlen s) :
    0 ∉ s.take len ∧ (s.take len).length = len := by
  have hpre : s.take len = (s.takeWhile (· != 0)).take len := calc
    s.take len = (s.takeWhile (· != 0) ++ s.dropWhile (· != 0)).take len := by
      rw [List.takeWhile_append_dropWhile]
    _ = (s.takeWhile (· != 0)).take len := List.take_append_of_le_length h
  refine ⟨fun hmem => ?_, ?_⟩
  · rw [hpre] at hmem
    have hne := List.mem_takeWhile_imp (List.mem_of_mem_take hmem)
    exact absurd hne (by decide)
  · rw [hpre, List.length_take]
    exact Nat.min_eq_left h

variable {s : List UInt8} {len : Nat}

/-- What is decoded without looking behind the given length, it decodes as the text of that
length alone. -/
theorem urlNDecodeToStrBuf_take (hos : ReadsAsStrtoul osStrToUint32Cptr) (hs : len ≤ strlen s)
    (h : WellFormed (s.take len) ∨ ¬ EveryEscape Readable (s.take len)) (dst : B) :
    urlNDecodeToStrBuf A charIsSigned osStrToUint32Cptr s len dst =
      urlNDecodeToStrBuf A charIsSigned osStrToUint32Cptr (s.take len) len dst := by
  obtain ⟨hzero, hlen⟩ := zero_notMem_take hs
  have happend := urlNDecodeLoop_append (A := A) charIsSigned hos hzero h (s.drop len)
    (A.printf dst [])
  rw [List.take_append_drop, hlen] at happend
  rw [urlNDecodeToStrBuf, urlNDecodeToStrBuf, happend]

theorem urlNDecodeToStrBuf_of_completed (hA : A.Lawful view)
    (hos : ReadsAsStrtoul osStrToUint32Cptr) {more t : List UInt8} (hzero : 0 ∉ t)
    (h : Completed more t) {dst : B} (hdst : Room view t.length dst) :
    (urlNDecodeToStrBuf A charIsSigned osStrToUint32Cptr (t ++ more) t.length dst).2 = true := by
  obtain ⟨text, htext, hprints⟩ := exists_prints_urlNDecodeLoop charIsSigned hA hos hzero h
  have hend := (urlNDecodeLoop_snd_iff (A := A) charIsSigned hos _ hzero (A.printf dst [])).mpr h
  have hroom := hdst.isOverflow hA (hprints.comp (hA.prints [])) (by simpa using htext)
  rw [urlNDecodeToStrBuf, hend, Bool.true_and]
  exact congrArg not hroom

theorem WellFormed.completed {t : List UInt8} (h : WellFormed t) (more : List UInt8) :
    Completed more t := by
  intro rest hrest
  obtain ⟨first, second, u, rfl, hdigits⟩ := h rest hrest
  exact takes_cons_iff.mpr (.inl hdigits)

/-- What can be read can be completed with two digits. -/
theorem completed_of_readable {t : List UInt8} (h : EveryEscape Readable t) :
    Completed [49, 49] t := by
  have hone : HexDigit 49 ∧ (49 : UInt8) ≠ 48 := by decide
  intro rest hrest
  match rest, h rest hrest with
  | [], _ => exact takes_cons_iff.mpr (.inl ⟨hone.1, hone.1, fun h => hone.2 h.1⟩)
  | [first], .inl hfirst =>
    exact takes_cons_iff.mpr (.inl ⟨hfirst, hone.1, fun h => hone.2 h.2⟩)
  | [first], .inr hfirst => exact takes_cons_iff.mpr (.inr ⟨hfirst, hone⟩)
  | first :: second :: u, hacc => exact takes_cons_iff.mpr hacc

/-- **Which texts are decoded right**: the well formed ones, and those that the decoder gives up
on within the given length. -/
theorem decodesExactly_iff (hA : A.Lawful view) (hos : ReadsAsStrtoul osStrToUint32Cptr)
    (hs : len ≤ strlen s) : DecodesExactly A view charIsSigned osStrToUint32Cptr s len ↔
      WellFormed (s.take len) ∨ ¬ EveryEscape Readable (s.take len) := by
  obtain ⟨hzero, hlen⟩ := zero_notMem_take hs
  constructor
  · intro h
    by_contra hno
    obtain ⟨hwell, hread⟩ := not_or.mp hno
    -- completed, the text is decoded, and so it is as it stands
    have hcompleted := urlNDecodeToStrBuf_of_completed charIsSigned hA hos hzero
      (completed_of_readable (not_not.mp hread)) (.inl ⟨0, hA.null⟩)
    rw [hlen] at hcompleted
    obtain ⟨hiff, hsame⟩ := h A.null (.inl ⟨0, hA.null⟩)
    have hstrlen : len ≤ strlen (s.take len ++ [49, 49]) := by
      rw [strlen_of_notMem (by simpa using hzero), List.length_append, hlen]
      exact Nat.le_add_right _ _
    rw [hsame _ hstrlen (List.take_left' hlen)] at hcompleted
    exact hwell (hiff.mp hcompleted)
  · intro h dst hdst
    refine ⟨⟨fun hok => ?_, fun hwell => ?_⟩, fun s' hs' htake => ?_⟩
    · have hend : (urlNDecodeLoop A charIsSigned osStrToUint32Cptr (s.take len ++ s.drop len)
          (s.take len).length (A.printf dst [])).2 = true := by
        rw [List.take_append_drop, hlen]
        exact (Bool.and_eq_true_iff.mp hok).1
      have hcompleted := (urlNDecodeLoop_snd_iff charIsSigned hos _ hzero _).mp hend
      exact h.resolve_right (not_not.mpr fun rest hrest =>
        readable_of_takes (hcompleted rest hrest))
    · have hok := urlNDecodeToStrBuf_of_completed charIsSigned hA hos hzero
        (hwell.completed (s.drop len)) (hlen.symm ▸ hdst)
      rwa [List.take_append_drop, hlen] at hok
    · rw [urlNDecodeToStrBuf_take charIsSigned hos hs h,
        urlNDecodeToStrBuf_take charIsSigned hos hs' (htake ▸ h), htake]

/-- `"a%41"`. -/
theorem decodesExactly_escaped :
    DecodesExactly viewApi id true strtoulBytes [0x61, 0x25, 0x34, 0x31] 4 := by
  have hdigits : EscapeDigits 0x34 0x31 := ⟨by decide, by decide, by decide⟩
  refine (decodesExactly_iff true lawful_viewApi (fun _ _ => rfl) (by decide)).mpr (.inl ?_)
  exact (everyEscape_char (by decide)).mpr ((everyEscape_escape (.inl hdigits)).mpr
    ⟨⟨_, _, _, rfl, hdigits⟩, everyEscape_nil⟩)

/-- `"%+5"` is decoded as a byte 5, and of `"%41"` one character is decoded as `A`, which is not
so when the string ends there. -/
theorem not_decodesExactly_loose :
    ¬ DecodesExactly viewApi id true strtoulBytes [0x25, 0x2B, 0x35] 3 ∧
      ¬ DecodesExactly viewApi id true strtoulBytes [0x25, 0x34, 0x31] 1 := by
  constructor
  · intro h
    have hwell := (h (.counting 0) (.inl ⟨0, rfl⟩)).1.mp (by decide +kernel)
    obtain ⟨first, second, u, heq, hdigits⟩ := hwell [0x2B, 0x35] List.suffix_rfl
    obtain ⟨rfl, -⟩ := List.cons.inj heq
    exact absurd hdigits.1 (by decide)
  · intro h
    have hsame := (h (.counting 0) (.inl ⟨0, rfl⟩)).2 [0x25] (by decide) rfl
    exact absurd (congrArg Prod.snd hsame) (by decide +kernel)

/-! ## Decoding a whole string -/

/-- What a text is decoded as. -/
def decodedText (charIsSigned : Bool)
    (osStrToUint32Cptr : List UInt8 → Nat → UInt32 × List UInt8) : List UInt8 → List UInt8
  | [] => []
  | b :: t =>
      if b = percent then
        match t with
        | first :: second :: t =>
            escapedChar charIsSigned osStrToUint32Cptr first second ++
              decodedText charIsSigned osStrToUint32Cptr t
        | _ => []
      else b :: decodedText charIsSigned osStrToUint32Cptr t

theorem decodedText_escape (first second : UInt8) (t : List UInt8) :
    decodedText charIsSigned osStrToUint32Cptr (percent :: first :: second :: t) =
      escapedChar charIsSigned osStrToUint32Cptr first second ++
        decodedText charIsSigned osStrToUint32Cptr t := by
  rw [decodedText.eq_def]
  exact if_pos rfl

theorem decodedText_char {b : UInt8} (hb : b ≠ percent) (t : List UInt8) :
    decodedText charIsSigned osStrToUint32Cptr (b :: t) =
      b :: decodedText charIsSigned osStrToUint32Cptr t := by
  rw [decodedText.eq_def]
  exact if_neg hb

/-- Two hexadecimal digits are decoded as the byte that they denote. -/
theorem escapedChar_of_escapeDigits (hos : ReadsAsStrtoul osStrToUint32Cptr)
    {first second : UInt8} (h : EscapeDigits first second) :
    escapedChar charIsSigned osStrToUint32Cptr first second =
      [UInt8.ofNat (16 * digitValue (byteChar first) + digitValue (byteChar second))] := by
  have hfirst : digitValue (byteChar first) < 16 :=
    of_decide_eq_true ((isDigit_byteChar first).mpr h.1)
  have hsecond : digitValue (byteChar second) < 16 :=
    of_decide_eq_true ((isDigit_byteChar second).mpr h.2.1)
  have hvalue : value 16 [byteChar first, byteChar second] =
      16 * digitValue (byteChar first) + digitValue (byteChar second) := by
    simp only [value, List.foldl_cons, List.foldl_nil, Nat.mul_zero, Nat.zero_add]
  have hlt : value 16 [byteChar first, byteChar second] < 2 ^ 32 := by omega
  have hread : (osStrToUint32Cptr [first, second] 16).1 =
      UInt32.ofNat (value 16 [byteChar first, byteChar second]) := by
    rw [hos]
    change (strtoul [byteChar first, byteChar second] 16).1 = _
    rw [strtoul_escapeDigits h, ofMagnitude, if_neg (Nat.not_le.mpr hlt)]
    rfl
  rw [escapedChar, fmtChar_charValue, hread, UInt32.toNat_ofNat_of_lt' hlt, hvalue]

/-- Percent-decoding, of a well formed text. -/
def percentDecode : List UInt8 → List UInt8
  | [] => []
  | b :: t =>
      if b = percent then
        match t with
        | first :: second :: t =>
            UInt8.ofNat (16 * digitValue (byteChar first) + digitValue (byteChar second)) ::
              percentDecode t
        | _ => []
      else b :: percentDecode t

/-- A well formed text is decoded as it should be. -/
theorem decodedText_of_wellFormed (hos : ReadsAsStrtoul osStrToUint32Cptr) {t : List UInt8}
    (h : WellFormed t) : decodedText charIsSigned osStrToUint32Cptr t = percentDecode t := by
  induction t using escape_induction with
  | nil => rfl
  | char b t hb ih =>
    rw [decodedText_char charIsSigned hb, ih ((everyEscape_char hb).mp h),
      percentDecode.eq_def (b :: t)]
    exact (if_neg hb).symm
  | last => rfl
  | lastTwo first => rfl
  | escape first second t ih =>
    obtain ⟨_, _, _, heq, hdigits⟩ := h (first :: second :: t) List.suffix_rfl
    simp only [List.cons.injEq] at heq
    obtain ⟨rfl, rfl, -⟩ := heq
    rw [decodedText_escape, escapedChar_of_escapeDigits charIsSigned hos hdigits,
      ih ((everyEscape_escape (.inl hdigits)).mp h).2]
    rfl

theorem prints_urlNDecodeLoop (hA : A.Lawful view) (hos : ReadsAsStrtoul osStrToUint32Cptr)
    {t : List UInt8} (hzero : 0 ∉ t) (h : Completed [] t) :
    Prints view (fun dst => (urlNDecodeLoop A charIsSigned osStrToUint32Cptr t t.length dst).1)
      (decodedText charIsSigned osStrToUint32Cptr t) := by
  induction t using escape_induction with
  | nil => exact .nothing
  | char b t hb ih =>
    obtain ⟨hb0, hzero⟩ : 0 ≠ b ∧ 0 ∉ t := by simpa using hzero
    simp only [List.length_cons, urlNDecodeLoop_char charIsSigned hb0.symm hb,
      decodedText_char charIsSigned hb]
    exact (ih hzero ((everyEscape_char hb).mp h)).comp (hA.prints [b])
  | last =>
    obtain ⟨_, _, _, heq, -⟩ := h [] List.suffix_rfl
    exact absurd heq (by simp)
  | lastTwo first =>
    obtain ⟨_, _, _, heq, -⟩ := h [first] List.suffix_rfl
    exact absurd heq (by simp)
  | escape first second t ih =>
    have hacc : Accepted first second :=
      takes_cons_iff.mp (h (first :: second :: t) List.suffix_rfl)
    have hzero : 0 ∉ t := fun hmem => hzero (by simp [hmem])
    simp only [List.length_cons, urlNDecodeLoop_escape charIsSigned hos hacc,
      decodedText_escape, Nat.add_sub_cancel]
    exact (ih hzero ((everyEscape_escape hacc).mp h).2).comp (hA.prints _)

section wholeString

variable {v : List UInt8}

/-- **A string is decoded into memory of its own** if every percent sign is followed by two
characters that are taken for an escaped one, -/
theorem view_urlDecodeWithAlloc_of_completed (hA : A.Lawful view)
    (hos : ReadsAsStrtoul osStrToUint32Cptr) (hv : 0 ∉ v) (h : Completed [] v) :
    view (urlDecodeWithAlloc A charIsSigned osStrToUint32Cptr true v) =
      .holding ((decodedText charIsSigned osStrToUint32Cptr v).length + 1)
        (decodedText charIsSigned osStrToUint32Cptr v) := by
  have hloop := (prints_urlNDecodeLoop charIsSigned hA hos hv h).comp (hA.prints [])
  have hend := fun dst => (urlNDecodeLoop_snd_iff (A := A) charIsSigned hos [] hv
    (A.printf dst [])).mpr h
  simp only [List.append_nil] at hend
  obtain ⟨e, he, hempty, hview⟩ := hloop.alloc hA
  have hfirst := hA.isOverflow_counting (hloop.counting hA.null)
  have hsecond := hloop.isOverflow hA hempty (by simp)
  simp only [Function.comp_apply, List.nil_append] at he hview hfirst hsecond
  rw [urlDecodeWithAlloc, urlNDecodeWithAlloc, strlen_of_notMem hv]
  simp only [urlNDecodeToStrBuf, hend, hfirst, he, hsecond, Bool.not_false, Bool.and_self,
    Bool.not_true, Bool.false_eq_true, if_false]
  exact hview

/-- and otherwise nothing is returned, -/
theorem urlDecodeWithAlloc_of_not_completed (hos : ReadsAsStrtoul osStrToUint32Cptr)
    (hv : 0 ∉ v) (h : ¬ Completed [] v) (memory : Bool) :
    urlDecodeWithAlloc A charIsSigned osStrToUint32Cptr memory v = A.null := by
  have hend := mt (urlNDecodeLoop_snd_iff (A := A) charIsSigned hos [] hv
    (A.printf A.null [])).mp h
  rw [List.append_nil, Bool.not_eq_true] at hend
  rw [urlDecodeWithAlloc, urlNDecodeWithAlloc, strlen_of_notMem hv]
  simp only [urlNDecodeToStrBuf, hend, Bool.false_and, Bool.not_false, if_true]

/-- nor is it without memory. -/
theorem urlDecodeWithAlloc_of_not_memory (hnone : ∀ d, A.initWithAlloc false d = none) :
    urlDecodeWithAlloc A charIsSigned osStrToUint32Cptr false v = A.null := by
  rw [urlDecodeWithAlloc, urlNDecodeWithAlloc]
  simp only [hnone]
  exact ite_self _

end wholeString

end Url
end RuuviGateway
