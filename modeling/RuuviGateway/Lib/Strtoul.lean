import Mathlib.Data.List.Induction
import Mathlib.Data.List.TakeWhile
import Mathlib.Tactic.Ring

/-!
# `strtoul`

The function of the C library, where `unsigned long` has 32 bits: white space is skipped, a sign
and the prefix of a base may follow, and then the digits, as many as there are.  What follows the
digits is returned with the number.  Where there is no digit the whole string is returned with
the number 0.  A number that is too large becomes the largest one, and a number with a minus sign
is negated in the unsigned type.

`Parts base` is a number of this form, taken apart.  What `strtoul` reads is one, and one that is
followed by something else is read to its end.
-/

namespace Strtoul

/-! ## Reading -/

/-- `isspace`. -/
def isSpace (c : Char) : Bool := decide (c.toNat = 32 ∨ 9 ≤ c.toNat ∧ c.toNat ≤ 13)

/-- The value of a digit in a base up to 36; 36 for what is not a digit. -/
def digitValue (c : Char) : Nat :=
  if 48 ≤ c.toNat ∧ c.toNat ≤ 57 then c.toNat - 48
  else if 97 ≤ c.toNat ∧ c.toNat ≤ 122 then c.toNat - 87
  else if 65 ≤ c.toNat ∧ c.toNat ≤ 90 then c.toNat - 55
  else 36

def isDigit (base : Nat) (c : Char) : Bool := decide (digitValue c < base)

/-- The number that digits denote. -/
def value (base : Nat) (digits : List Char) : Nat :=
  digits.foldl (fun acc c => base * acc + digitValue c) 0

/-- A sign, and what follows it. -/
def sign : List Char → Bool × List Char
  | '-' :: s => (true, s)
  | '+' :: s => (false, s)
  | s => (false, s)

/-- `0x` and a hexadecimal digit. -/
def hasHexLead : List Char → Bool
  | '0' :: x :: c :: _ => (x == 'x' || x == 'X') && isDigit 16 c
  | _ => false

/-- The base of the digits, and where they begin. -/
def radix (base : Nat) (s : List Char) : Nat × List Char :=
  if (base = 0 ∨ base = 16) ∧ hasHexLead s = true then (16, s.drop 2)
  else if base = 0 then (if s.head? = some '0' then 8 else 10, s)
  else (base, s)

/-- The `unsigned long` for a sign and a number. -/
def ofMagnitude (negative : Bool) (n : Nat) : UInt32 :=
  if 2 ^ 32 ≤ n then 0xFFFFFFFF
  else if negative then 0 - UInt32.ofNat n
  else UInt32.ofNat n

/-- `strtoul`: the number, and the string from `*endptr` on. -/
def strtoul (s : List Char) (base : Nat) : UInt32 × List Char :=
  let signed := sign (s.dropWhile isSpace)
  let number := radix base signed.2
  let digits := number.2.takeWhile (isDigit number.1)
  if digits = [] then (0, s)
  else (ofMagnitude signed.1 (value number.1 digits), number.2.dropWhile (isDigit number.1))

/-! ## Numbers as texts -/

/-- A sign, or none. -/
inductive Sign : Bool → List Char → Prop where
  | absent : Sign false []
  | plus : Sign false ['+']
  | minus : Sign true ['-']

/-- `Radix base b lead digits`: the digits after `lead` are digits in base `b`. -/
inductive Radix (base : Nat) : Nat → List Char → List Char → Prop where
  | hex {x : Char} {digits : List Char} : base = 0 ∨ base = 16 → x = 'x' ∨ x = 'X' →
      Radix base 16 ['0', x] digits
  | octal {digits : List Char} : base = 0 → digits.head? = some '0' → Radix base 8 [] digits
  | decimal {digits : List Char} : base = 0 → digits.head? ≠ some '0' → Radix base 10 [] digits
  | given {digits : List Char} : base ≠ 0 → Radix base base [] digits

/-- The parts of a number. -/
structure Parts (base : Nat) where
  space : List Char
  negative : Bool
  signText : List Char
  radix : Nat
  lead : List Char
  digits : List Char
  isSpace_of_mem : ∀ c ∈ space, isSpace c = true
  sign : Sign negative signText
  radix_lead : Radix base radix lead digits
  digits_ne_nil : digits ≠ []
  isDigit_of_mem : ∀ c ∈ digits, isDigit radix c = true

/-- The text of a number. -/
def Parts.text {base : Nat} (p : Parts base) : List Char :=
  p.space ++ (p.signText ++ (p.lead ++ p.digits))

/-- Its value. -/
def Parts.toUInt32 {base : Nat} (p : Parts base) : UInt32 :=
  ofMagnitude p.negative (value p.radix p.digits)

/-- No digit follows, nor an `x` that could make a zero the prefix of a number. -/
def Stops (b : Nat) (rest : List Char) : Prop :=
  ∀ c ∈ rest.head?, isDigit b c = false ∧ c ≠ 'x' ∧ c ≠ 'X'

/-! ## Digits -/

section digits

variable {b : Nat} {c : Char}

theorem isDigit_mono {b' : Nat} (hb : b ≤ b') (h : isDigit b c = true) : isDigit b' c = true := by
  simp only [isDigit, decide_eq_true_eq] at h ⊢
  omega

/-- Digits are digits and letters. -/
theorem toNat_of_isDigit (hb : b ≤ 36) (h : isDigit b c = true) :
    (48 ≤ c.toNat ∧ c.toNat ≤ 57) ∨ (97 ≤ c.toNat ∧ c.toNat ≤ 122) ∨
      (65 ≤ c.toNat ∧ c.toNat ≤ 90) := by
  have hlt : digitValue c < b := of_decide_eq_true h
  unfold digitValue at hlt
  split at hlt
  · omega
  split at hlt
  · omega
  split at hlt
  · omega
  · omega

theorem isSpace_of_isDigit (hb : b ≤ 36) (h : isDigit b c = true) : isSpace c = false := by
  have hc := toNat_of_isDigit hb h
  simp only [isSpace, decide_eq_false_iff_not]
  omega

theorem ne_of_isDigit (hb : b ≤ 36) (h : isDigit b c = true) : c ≠ '-' ∧ c ≠ '+' := by
  have hc := toNat_of_isDigit hb h
  constructor
  · rintro rfl
    simp at hc
  · rintro rfl
    simp at hc

/-- `x` is not a hexadecimal digit. -/
theorem ne_x_of_isDigit (hb : b ≤ 16) (h : isDigit b c = true) : c ≠ 'x' ∧ c ≠ 'X' := by
  have h16 := isDigit_mono hb h
  constructor
  · rintro rfl
    exact absurd h16 (by decide)
  · rintro rfl
    exact absurd h16 (by decide)

end digits

/-- Only zero becomes zero. -/
theorem ofMagnitude_ne_zero_iff {negative : Bool} {n : Nat} :
    ofMagnitude negative n ≠ 0 ↔ n ≠ 0 := by
  unfold ofMagnitude
  split
  · exact iff_of_true (by decide) (by omega)
  · rename_i hn
    have hlt : n < 2 ^ 32 := by omega
    have hnat : UInt32.ofNat n = 0 ↔ n = 0 := by
      rw [← UInt32.toNat_inj, UInt32.toNat_ofNat_of_lt' hlt]
      rfl
    split
    · rw [ne_eq, ne_eq, ← hnat, not_iff_not, UInt32.sub_eq_iff_eq_add]
      exact ⟨fun h => by simpa using h.symm, fun h => by simp [h]⟩
    · exact not_iff_not.mpr hnat

/-! ## Longest stretches -/

section stretch

variable {α : Type*} {p : α → Bool} {l rest : List α}

/-- What comes after the longest stretch begins with something else, or is empty. -/
theorem head?_dropWhile (p : α → Bool) (l : List α) : ∀ c ∈ (l.dropWhile p).head?, p c = false := by
  intro c hc
  have h := List.head?_dropWhile_not p l
  rw [Option.mem_def.mp hc] at h
  simpa using h

theorem takeWhile_of_head? (h : ∀ c ∈ rest.head?, p c = false) : rest.takeWhile p = [] := by
  cases rest with
  | nil => rfl
  | cons c rest => rw [List.takeWhile_cons_of_neg (by simp [h c rfl])]

theorem dropWhile_of_head? (h : ∀ c ∈ rest.head?, p c = false) : rest.dropWhile p = rest := by
  cases rest with
  | nil => rfl
  | cons c rest => rw [List.dropWhile_cons_of_neg (by simp [h c rfl])]

theorem takeWhile_append_of_head? (hl : ∀ c ∈ l, p c = true)
    (h : ∀ c ∈ rest.head?, p c = false) : (l ++ rest).takeWhile p = l := by
  rw [List.takeWhile_append_of_pos hl, takeWhile_of_head? h, List.append_nil]

theorem dropWhile_append_of_head? (hl : ∀ c ∈ l, p c = true)
    (h : ∀ c ∈ rest.head?, p c = false) : (l ++ rest).dropWhile p = rest := by
  rw [List.dropWhile_append_of_pos hl, dropWhile_of_head? h]

end stretch

/-! ## A number that is followed by something else -/

theorem sign_append {negative : Bool} {signText t : List Char} (h : Sign negative signText)
    (ht : ∀ c ∈ t.head?, c ≠ '-' ∧ c ≠ '+') : sign (signText ++ t) = (negative, t) := by
  cases h with
  | absent =>
    cases t with
    | nil => rfl
    | cons c t =>
      have hc := ht c rfl
      rw [List.nil_append, sign.eq_def]
      split
      · simp_all
      · simp_all
      · rfl
  | plus => rfl
  | minus => rfl

/-- Digits in a base up to 16 are not taken for the prefix of a number. -/
theorem hasHexLead_append {b : Nat} (hb : b ≤ 16) {digits rest : List Char}
    (hne : digits ≠ []) (hdigits : ∀ c ∈ digits, isDigit b c = true) (hstop : Stops b rest) :
    hasHexLead (digits ++ rest) = false := by
  rw [hasHexLead.eq_def]
  split
  · rename_i x c t heq
    have hx : x ≠ 'x' ∧ x ≠ 'X' := by
      cases digits with
      | nil => exact absurd rfl hne
      | cons d digits =>
        cases digits with
        | nil =>
          rw [List.singleton_append] at heq
          exact (hstop x (by rw [(List.cons.inj heq).2]; rfl)).2
        | cons e digits =>
          obtain ⟨-, heq⟩ := List.cons.inj heq
          obtain ⟨rfl, -⟩ := List.cons.inj heq
          exact ne_x_of_isDigit hb (hdigits e (by simp))
    simp [hx.1, hx.2]
  · rfl

theorem radix_append {base b : Nat} {lead digits rest : List Char}
    (h : Radix base b lead digits) (hne : digits ≠ [])
    (hdigits : ∀ c ∈ digits, isDigit b c = true) (hstop : Stops b rest) :
    radix base (lead ++ (digits ++ rest)) = (b, digits ++ rest) := by
  obtain ⟨d, digits, rfl⟩ := List.exists_cons_of_ne_nil hne
  cases h with
  | @hex x _ hbase hx =>
    have hlead : hasHexLead (['0', x] ++ (d :: digits ++ rest)) = true := by
      have hd := hdigits d List.mem_cons_self
      rcases hx with rfl | rfl
      · simpa [hasHexLead] using hd
      · simpa [hasHexLead] using hd
    rw [radix, if_pos ⟨hbase, hlead⟩]
    rfl
  | octal hbase hhead =>
    have hlead := hasHexLead_append (by decide) hne hdigits hstop
    have hzero : (d :: digits ++ rest).head? = some '0' := hhead
    rw [List.nil_append, radix, if_neg fun h => Bool.false_ne_true (hlead.symm.trans h.2),
      if_pos hbase, if_pos hzero]
  | decimal hbase hhead =>
    have hlead := hasHexLead_append (by decide) hne hdigits hstop
    have hzero : (d :: digits ++ rest).head? ≠ some '0' := hhead
    rw [List.nil_append, radix, if_neg fun h => Bool.false_ne_true (hlead.symm.trans h.2),
      if_pos hbase, if_neg hzero]
  | given hbase =>
    have hno : ¬ ((base = 0 ∨ base = 16) ∧ hasHexLead (d :: digits ++ rest) = true) := by
      rintro ⟨h0 | h16, hlead⟩
      · exact hbase h0
      · rw [hasHexLead_append h16.le hne hdigits hstop] at hlead
        exact absurd hlead (by decide)
    rw [List.nil_append, radix, if_neg hno, if_neg hbase]

theorem Radix.le {base b : Nat} {lead digits : List Char} (hbase : base ≤ 36)
    (h : Radix base b lead digits) : b ≤ 36 := by
  cases h with
  | hex => omega
  | octal => omega
  | decimal => omega
  | given => exact hbase

/-- What follows the sign begins with a digit. -/
theorem Radix.exists_head {base b : Nat} {lead digits : List Char} (hbase : base ≤ 36)
    (h : Radix base b lead digits) (hne : digits ≠ [])
    (hdigits : ∀ c ∈ digits, isDigit b c = true) (rest : List Char) :
    ∃ c t, lead ++ (digits ++ rest) = c :: t ∧ isDigit 36 c = true := by
  obtain ⟨d, digits, rfl⟩ := List.exists_cons_of_ne_nil hne
  have hdigit : isDigit 36 d = true := isDigit_mono (h.le hbase) (hdigits d List.mem_cons_self)
  cases h with
  | hex => exact ⟨'0', _, rfl, by decide⟩
  | octal => exact ⟨d, _, rfl, hdigit⟩
  | decimal => exact ⟨d, _, rfl, hdigit⟩
  | given => exact ⟨d, _, rfl, hdigit⟩

theorem Sign.isSpace_head {negative : Bool} {signText t : List Char} (h : Sign negative signText)
    (ht : ∀ c ∈ t.head?, isSpace c = false) :
    ∀ c ∈ (signText ++ t).head?, isSpace c = false := by
  intro c hc
  cases h with
  | absent => exact ht c hc
  | plus =>
    obtain rfl : '+' = c := by simpa using hc
    decide
  | minus =>
    obtain rfl : '-' = c := by simpa using hc
    decide

/-- White space and the sign of a number are passed over. -/
theorem sign_dropWhile_text {base : Nat} (hbase : base ≤ 36) (p : Parts base) (rest : List Char) :
    sign ((p.text ++ rest).dropWhile isSpace) =
      (p.negative, p.lead ++ (p.digits ++ rest)) := by
  obtain ⟨c, t, ht, hc⟩ :=
    p.radix_lead.exists_head hbase p.digits_ne_nil p.isDigit_of_mem rest
  have hhead : ∀ e ∈ (p.lead ++ (p.digits ++ rest)).head?, e = c := by
    intro e he
    rw [ht] at he
    exact (Option.some.inj he).symm
  have hspace : (p.text ++ rest).dropWhile isSpace =
      p.signText ++ (p.lead ++ (p.digits ++ rest)) := by
    rw [Parts.text]
    simp only [List.append_assoc]
    refine dropWhile_append_of_head? p.isSpace_of_mem (p.sign.isSpace_head fun e he => ?_)
    rw [hhead e he]
    exact isSpace_of_isDigit le_rfl hc
  rw [hspace]
  refine sign_append p.sign fun e he => ?_
  rw [hhead e he]
  exact ne_of_isDigit le_rfl hc

/-- **A number that is followed by something else is read to its end.** -/
theorem strtoul_text_append {base : Nat} (hbase : base ≤ 36) (p : Parts base) {rest : List Char}
    (hstop : Stops p.radix rest) : strtoul (p.text ++ rest) base = (p.toUInt32, rest) := by
  have hsign := sign_dropWhile_text hbase p rest
  have hradix := radix_append p.radix_lead p.digits_ne_nil p.isDigit_of_mem hstop
  have hrest : ∀ e ∈ rest.head?, isDigit p.radix e = false := fun e he => (hstop e he).1
  simp only [strtoul, hsign, hradix,
    takeWhile_append_of_head? p.isDigit_of_mem hrest,
    dropWhile_append_of_head? p.isDigit_of_mem hrest, if_neg p.digits_ne_nil]
  rfl

theorem strtoul_text {base : Nat} (hbase : base ≤ 36) (p : Parts base) :
    strtoul p.text base = (p.toUInt32, []) := by
  have hread := strtoul_text_append hbase p (show Stops p.radix [] by simp [Stops])
  rwa [List.append_nil] at hread

/-! ## What is read is a number -/

theorem exists_sign (s : List Char) : ∃ signText, Sign (sign s).1 signText ∧
    s = signText ++ (sign s).2 := by
  rw [sign.eq_def]
  split
  · exact ⟨_, .minus, rfl⟩
  · exact ⟨_, .plus, rfl⟩
  · exact ⟨_, .absent, rfl⟩

theorem exists_lead_of_hasHexLead {s : List Char} (h : hasHexLead s = true) :
    ∃ x, (x = 'x' ∨ x = 'X') ∧ s = ['0', x] ++ s.drop 2 := by
  rw [hasHexLead.eq_def] at h
  split at h
  · simp only [Bool.and_eq_true, Bool.or_eq_true, beq_iff_eq] at h
    exact ⟨_, h.1, rfl⟩
  · exact absurd h (by decide)

theorem exists_radix (base : Nat) (s : List Char)
    (hne : (radix base s).2.takeWhile (isDigit (radix base s).1) ≠ []) :
    ∃ lead, s = lead ++ (radix base s).2 ∧ Radix base (radix base s).1 lead
      ((radix base s).2.takeWhile (isDigit (radix base s).1)) := by
  have hhead : ∀ b, s.takeWhile (isDigit b) ≠ [] → (s.takeWhile (isDigit b)).head? = s.head? := by
    intro b hb
    cases s with
    | nil => rfl
    | cons c s =>
      by_cases hc : isDigit b c = true
      · rw [List.takeWhile_cons_of_pos hc]
        rfl
      · rw [List.takeWhile_cons_of_neg hc] at hb
        exact absurd rfl hb
  unfold radix at hne ⊢
  split
  · rename_i hhex
    obtain ⟨x, hx, hs⟩ := exists_lead_of_hasHexLead hhex.2
    exact ⟨_, hs, .hex hhex.1 hx⟩
  · rename_i hhex
    rw [if_neg hhex] at hne
    split
    · rename_i hbase
      rw [if_pos hbase] at hne
      split
      · rename_i hzero
        rw [if_pos hzero] at hne
        exact ⟨[], rfl, .octal hbase ((hhead 8 hne).trans hzero)⟩
      · rename_i hzero
        rw [if_neg hzero] at hne
        exact ⟨[], rfl, .decimal hbase fun h => hzero ((hhead 10 hne).symm.trans h)⟩
    · rename_i hbase
      exact ⟨[], rfl, .given hbase⟩

/-- **What is read is a number**, and no digit follows it; or nothing is read. -/
theorem exists_parts_of_strtoul {s rest : List Char} {base : Nat} {v : UInt32}
    (h : strtoul s base = (v, rest)) : (v = 0 ∧ rest = s) ∨
      ∃ p : Parts base, s = p.text ++ rest ∧ p.toUInt32 = v ∧
        ∀ c ∈ rest.head?, isDigit p.radix c = false := by
  simp only [strtoul] at h
  split at h
  · obtain ⟨rfl, rfl⟩ := Prod.mk.inj h
    exact .inl ⟨rfl, rfl⟩
  · rename_i hne
    obtain ⟨rfl, rfl⟩ := Prod.mk.inj h
    obtain ⟨signText, hsign, hsigned⟩ := exists_sign (s.dropWhile isSpace)
    obtain ⟨lead, hnumber, hradix⟩ := exists_radix base _ hne
    refine .inr ⟨⟨s.takeWhile isSpace, _, signText, _, lead, _, fun c hc =>
      List.mem_takeWhile_imp hc, hsign, hradix, hne, fun c hc => List.mem_takeWhile_imp hc⟩, ?_,
      rfl, head?_dropWhile _ _⟩
    simp only [Parts.text, List.append_assoc, List.takeWhile_append_dropWhile]
    rw [← hnumber, ← hsigned, List.takeWhile_append_dropWhile]

/-- What is left is the end of the string. -/
theorem strtoul_suffix (s : List Char) (base : Nat) : (strtoul s base).2 <:+ s := by
  cases h : strtoul s base with
  | mk v rest =>
    rcases exists_parts_of_strtoul h with ⟨-, rfl⟩ | ⟨p, rfl, -, -⟩
    · exact List.suffix_rfl
    · exact List.suffix_append p.text rest

theorem Parts.text_ne_nil {base : Nat} (p : Parts base) : p.text ≠ [] := by
  simp [Parts.text, p.digits_ne_nil]

/-- What is read to its end is a number, or empty. -/
theorem strtoul_eq_nil_iff {base : Nat} (hbase : base ≤ 36) {s : List Char} {v : UInt32} :
    strtoul s base = (v, []) ↔
      (s = [] ∧ v = 0) ∨ ∃ p : Parts base, p.text = s ∧ p.toUInt32 = v := by
  constructor
  · intro h
    rcases exists_parts_of_strtoul h with ⟨hv, hs⟩ | ⟨p, hs, hv, -⟩
    · exact .inl ⟨hs.symm, hv⟩
    · exact .inr ⟨p, by rw [hs, List.append_nil], hv⟩
  · rintro (⟨rfl, rfl⟩ | ⟨p, rfl, rfl⟩)
    · by_cases h0 : base = 0
      · simp [strtoul, sign, radix, hasHexLead, h0]
      · simp [strtoul, sign, radix, hasHexLead, h0]
    · exact strtoul_text hbase p

theorem length_radix_le (base : Nat) (t : List Char) : (radix base t).2.length ≤ t.length := by
  unfold radix
  split
  · rw [List.length_drop]
    omega
  split
  · exact le_rfl
  · exact le_rfl

theorem takeWhile_ne_nil {b : Nat} {c : Char} {t : List Char} (hc : isDigit b c = true) :
    (c :: t).takeWhile (isDigit b) ≠ [] := by
  rw [List.takeWhile_cons_of_pos hc]
  exact List.cons_ne_nil _ _

/-- After the prefix of a hexadecimal number there is a digit. -/
theorem takeWhile_drop_ne_nil {t : List Char} (h : hasHexLead t = true) :
    (t.drop 2).takeWhile (isDigit 16) ≠ [] := by
  rw [hasHexLead.eq_def] at h
  split at h
  · exact takeWhile_ne_nil (Bool.and_eq_true_iff.mp h).2
  · exact absurd h (by decide)

theorem takeWhile_radix_ne_nil {base b : Nat} {lead digits : List Char}
    (h : Radix base b lead digits) (hne : digits ≠ [])
    (hdigits : ∀ c ∈ digits, isDigit b c = true) (u : List Char) :
    (radix base (lead ++ (digits ++ u))).2.takeWhile
      (isDigit (radix base (lead ++ (digits ++ u))).1) ≠ [] := by
  obtain ⟨d, digits, rfl⟩ := List.exists_cons_of_ne_nil hne
  have hd := hdigits d List.mem_cons_self
  unfold radix
  split
  · rename_i hhex
    exact takeWhile_drop_ne_nil hhex.2
  rename_i hhex
  cases h with
  | @hex x _ hbase hx =>
    refine absurd ⟨hbase, ?_⟩ hhex
    rcases hx with rfl | rfl
    · simpa [hasHexLead] using hd
    · simpa [hasHexLead] using hd
  | octal hbase hhead =>
    obtain rfl : d = '0' := Option.some.inj hhead
    have hzero : ('0' :: digits ++ u).head? = some '0' := rfl
    rw [if_pos hbase, List.nil_append, if_pos hzero]
    exact takeWhile_ne_nil (show isDigit 8 '0' = true by decide)
  | decimal hbase hhead =>
    have hzero : (d :: digits ++ u).head? ≠ some '0' := hhead
    rw [if_pos hbase, List.nil_append, if_neg hzero]
    exact takeWhile_ne_nil hd
  | given hbase =>
    rw [if_neg hbase]
    exact takeWhile_ne_nil hd

/-- A number at the beginning of a string is read. -/
theorem strtoul_snd_ne {base : Nat} (hbase : base ≤ 36) (p : Parts base) (u : List Char) :
    (strtoul (p.text ++ u) base).2 ≠ p.text ++ u := by
  have hsign := sign_dropWhile_text hbase p u
  have hne := takeWhile_radix_ne_nil p.radix_lead p.digits_ne_nil p.isDigit_of_mem u
  have hle : (radix base (p.lead ++ (p.digits ++ u))).2.length ≤ (p.text ++ u).length := by
    have hrad := length_radix_le base (p.lead ++ (p.digits ++ u))
    rw [Parts.text]
    simp only [List.length_append] at hrad ⊢
    omega
  intro h
  simp only [strtoul, hsign, if_neg hne] at h
  have hlen := congrArg List.length h
  have hsum := congrArg List.length (List.takeWhile_append_dropWhile
    (p := isDigit (radix base (p.lead ++ (p.digits ++ u))).1)
    (l := (radix base (p.lead ++ (p.digits ++ u))).2))
  have hpos := List.length_pos_iff.mpr hne
  rw [List.length_append] at hsum
  omega

/-- A number whose text tells its base is also a hexadecimal one, and white space may be put
before it. -/
theorem Parts.exists_hex (p : Parts 0) {space : List Char}
    (hspace : ∀ c ∈ space, isSpace c = true) : ∃ q : Parts 16, q.text = space ++ p.text := by
  have hall : ∀ c ∈ space ++ p.space, isSpace c = true := fun c hc =>
    (List.mem_append.mp hc).elim (hspace c) (p.isSpace_of_mem c)
  have hhex : Radix 16 16 p.lead p.digits ∧ ∀ c ∈ p.digits, isDigit 16 c = true := by
    have hradix := p.radix_lead
    have hdigits := p.isDigit_of_mem
    generalize p.radix = b at hradix hdigits
    generalize p.lead = lead at hradix
    generalize p.digits = digits at hradix hdigits
    cases hradix with
    | hex _ hx => exact ⟨.hex (.inr rfl) hx, hdigits⟩
    | octal => exact ⟨.given (by decide), fun c hc => isDigit_mono (by decide) (hdigits c hc)⟩
    | decimal => exact ⟨.given (by decide), fun c hc => isDigit_mono (by decide) (hdigits c hc)⟩
    | given h => exact absurd rfl h
  exact ⟨⟨space ++ p.space, p.negative, p.signText, 16, p.lead, p.digits, hall, p.sign, hhex.1,
    p.digits_ne_nil, hhex.2⟩, List.append_assoc _ _ _⟩

/-- Of a number that begins with `0x` the rest are the digits. -/
theorem Parts.digits_of_hexLead (p : Parts 16) {t : List Char} (h : p.text = '0' :: 'x' :: t) :
    p.digits = t ∧ p.radix = 16 := by
  obtain ⟨space, negative, signText, b, lead, digits, hspace, hsign, hradix, hne, hdigits⟩ := p
  change space ++ (signText ++ (lead ++ digits)) = _ at h
  cases space with
  | cons c space =>
    obtain ⟨rfl, -⟩ := List.cons.inj h
    exact absurd (hspace '0' List.mem_cons_self) (by decide)
  | nil =>
    cases hsign with
    | absent =>
      cases hradix with
      | hex => exact ⟨(List.cons.inj (List.cons.inj h).2).2, rfl⟩
      | octal h0 => exact absurd h0 (by decide)
      | decimal h0 => exact absurd h0 (by decide)
      | given =>
        obtain rfl : digits = '0' :: 'x' :: t := h
        exact absurd (hdigits 'x' (by simp)) (by decide)
    | plus => exact absurd (List.cons.inj h).1 (by decide)
    | minus => exact absurd (List.cons.inj h).1 (by decide)

/-- What is read to its end is read in front of other characters, if nothing is read of them. -/
theorem strtoul_append_eq_iff {base : Nat} (hbase : base ≤ 36) {t rest : List Char} {v : UInt32}
    (hnone : strtoul rest base = (0, rest)) (hstop : ∀ p : Parts base, Stops p.radix rest) :
    strtoul (t ++ rest) base = (v, rest) ↔ strtoul t base = (v, []) := by
  rw [strtoul_eq_nil_iff hbase]
  constructor
  · intro h
    rcases exists_parts_of_strtoul h with ⟨hv, hs⟩ | ⟨p, hs, hv, -⟩
    · exact .inl ⟨List.append_left_eq_self.mp hs.symm, hv⟩
    · exact .inr ⟨p, (List.append_cancel_right hs).symm, hv⟩
  · rintro (⟨rfl, rfl⟩ | ⟨p, rfl, rfl⟩)
    · exact hnone
    · exact strtoul_text_append hbase p (hstop p)

/-! ## Base 10 -/

theorem Parts.decimal (p : Parts 10) : p.radix = 10 ∧ p.lead = [] := by
  obtain ⟨-, -, -, b, lead, digits, -, -, hradix, -, -⟩ := p
  cases hradix with
  | hex h => exact absurd h (by decide)
  | octal h => exact absurd h (by decide)
  | decimal h => exact absurd h (by decide)
  | given => exact ⟨rfl, rfl⟩

theorem Parts.isDigit_decimal (p : Parts 10) : ∀ c ∈ p.digits, isDigit 10 c = true :=
  fun c hc => p.decimal.1 ▸ p.isDigit_of_mem c hc

theorem Parts.text_decimal (p : Parts 10) : p.text = p.space ++ (p.signText ++ p.digits) := by
  rw [Parts.text, p.decimal.2, List.nil_append]

theorem Parts.toUInt32_decimal (p : Parts 10) :
    p.toUInt32 = ofMagnitude p.negative (value 10 p.digits) := by
  rw [Parts.toUInt32, p.decimal.1]

/-- What a decimal number is written with. -/
theorem Parts.mem_text {p : Parts 10} {c : Char} (h : c ∈ p.text) :
    isSpace c = true ∨ c = '-' ∨ c = '+' ∨ isDigit 10 c = true := by
  rw [p.text_decimal, List.mem_append, List.mem_append] at h
  rcases h with h | h | h
  · exact .inl (p.isSpace_of_mem c h)
  · have hsign := p.sign
    generalize p.signText = signText at hsign h
    generalize p.negative = negative at hsign
    cases hsign with
    | absent => exact absurd h List.not_mem_nil
    | plus => exact .inr (.inr (.inl (List.mem_singleton.mp h)))
    | minus => exact .inr (.inl (List.mem_singleton.mp h))
  · exact .inr (.inr (.inr (p.isDigit_decimal c h)))

/-- In base 10 any character but a digit ends a number. -/
theorem strtoul_decimal_append (p : Parts 10) {rest : List Char}
    (hrest : ∀ c ∈ rest.head?, isDigit 10 c = false) :
    strtoul (p.text ++ rest) 10 = (p.toUInt32, rest) := by
  have hsign := sign_dropWhile_text (by decide) p rest
  rw [p.decimal.2, List.nil_append] at hsign
  have hradix : radix 10 (p.digits ++ rest) = (10, p.digits ++ rest) := by simp [radix]
  simp only [strtoul, hsign, hradix, takeWhile_append_of_head? p.isDigit_decimal hrest,
    dropWhile_append_of_head? p.isDigit_decimal hrest, if_neg p.digits_ne_nil]
  rw [p.toUInt32_decimal]

theorem value_append (b : Nat) (digits : List Char) (c : Char) :
    value b (digits ++ [c]) = b * value b digits + digitValue c := by
  rw [value, List.foldl_append]
  rfl

/-- So many digits denote a number below this power of the base. -/
theorem value_lt {b : Nat} {digits : List Char} (h : ∀ c ∈ digits, isDigit b c = true) :
    value b digits < b ^ digits.length := by
  induction digits using List.reverseRecOn with
  | nil => exact Nat.one_pos
  | append_singleton digits c ih =>
    have hdigits := ih fun d hd => h d (List.mem_append_left _ hd)
    have hc : digitValue c < b :=
      of_decide_eq_true (h c (List.mem_append_right _ (List.mem_singleton_self c)))
    rw [value_append, List.length_append, List.length_singleton, pow_succ]
    calc b * value b digits + digitValue c < b * value b digits + b := by omega
      _ = b * (value b digits + 1) := by ring
      _ ≤ b * b ^ digits.length := Nat.mul_le_mul_left b hdigits
      _ = b ^ digits.length * b := Nat.mul_comm _ _

/-- Without a sign. -/
theorem toNat_ofMagnitude_false (n : Nat) : (ofMagnitude false n).toNat = min n (2 ^ 32 - 1) := by
  rw [ofMagnitude]
  split
  · show 4294967295 = _
    omega
  · rename_i hn
    have hlt : n < 2 ^ 32 := by omega
    rw [if_neg Bool.false_ne_true, UInt32.toNat_ofNat_of_lt' hlt]
    omega

/-- Nothing but digits. -/
def Parts.Plain {base : Nat} (p : Parts base) : Prop := p.space = [] ∧ p.signText = []

theorem Parts.Plain.negative {base : Nat} {p : Parts base} (h : p.Plain) : p.negative = false := by
  have hsign := p.sign
  rw [h.2] at hsign
  generalize p.negative = negative at hsign
  cases hsign
  rfl

theorem Parts.Plain.text {p : Parts 10} (h : p.Plain) : p.text = p.digits := by
  rw [p.text_decimal, h.1, h.2, List.nil_append, List.nil_append]

theorem Parts.Plain.isDigit_of_mem {p : Parts 10} (h : p.Plain) :
    ∀ c ∈ p.text, isDigit 10 c = true := by
  rw [h.text]
  exact p.isDigit_decimal

/-- The value of digits that is not cut is the number that they denote. -/
theorem Parts.Plain.toNat_toUInt32 {p : Parts 10} (h : p.Plain) :
    p.toUInt32.toNat = min (value 10 p.digits) (2 ^ 32 - 1) := by
  rw [p.toUInt32_decimal, h.negative, toNat_ofMagnitude_false]

/-- A text of digits is nothing but digits. -/
theorem Parts.plain_of_isDigit {p : Parts 10} (h : ∀ c ∈ p.text, isDigit 10 c = true) :
    p.Plain := by
  rw [p.text_decimal] at h
  constructor
  · refine List.eq_nil_iff_forall_not_mem.mpr fun c hc => ?_
    have hdigit := h c (List.mem_append_left _ hc)
    exact absurd (p.isSpace_of_mem c hc) (by simp [isSpace_of_isDigit (by decide) hdigit])
  · have hsign := p.sign
    have hdigit := fun c hc => h c (List.mem_append_right _ (List.mem_append_left _ hc))
    generalize p.signText = signText at hsign hdigit
    generalize p.negative = negative at hsign
    cases hsign with
    | absent => rfl
    | plus => exact absurd (hdigit '+' List.mem_cons_self) (by decide)
    | minus => exact absurd (hdigit '-' List.mem_cons_self) (by decide)

/-- Digits as a number. -/
def Parts.ofDigits (digits : List Char) (hne : digits ≠ [])
    (hdigits : ∀ c ∈ digits, isDigit 10 c = true) : Parts 10 where
  space := []
  negative := false
  signText := []
  radix := 10
  lead := []
  digits := digits
  isSpace_of_mem := fun _ hc => absurd hc List.not_mem_nil
  sign := .absent
  radix_lead := .given (by decide)
  digits_ne_nil := hne
  isDigit_of_mem := hdigits

/-- Their value, if it is not cut. -/
theorem Parts.toNat_ofDigits {digits : List Char} (hne : digits ≠ [])
    (hdigits : ∀ c ∈ digits, isDigit 10 c = true) (hlt : value 10 digits < 2 ^ 32) :
    (Parts.ofDigits digits hne hdigits).toUInt32.toNat = value 10 digits := by
  have hplain : (Parts.ofDigits digits hne hdigits).Plain := ⟨rfl, rfl⟩
  rw [hplain.toNat_toUInt32]
  exact Nat.min_eq_left (show value 10 digits ≤ _ by omega)

/-! ## Strings of bytes -/

/-- The character of a byte. -/
def byteChar (b : UInt8) : Char := Char.ofNat b.toNat

/-- `strtoul` on bytes. -/
def strtoulBytes (s : List UInt8) (base : Nat) : UInt32 × List UInt8 :=
  ((strtoul (s.map byteChar) base).1,
    s.drop (s.length - (strtoul (s.map byteChar) base).2.length))

end Strtoul
