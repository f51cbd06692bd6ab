import RuuviGateway.TimeStr.Model

/-!
# The grammar of time strings

A time string is a sequence of fields, each of them a number in its range, with or without a
separator behind it.  The grammar is given together with what `strtoul` makes of it: a number may
also be written loosely, with white space or a sign before its digits or with no digits at all.  A
time string of the grammar proper is one in which nothing is written loosely (`TimeString`).
-/

namespace RuuviGateway
namespace TimeStr

open Strtoul

/-! ## Numbers -/

/-- No digit follows. -/
def NoDigit (s : List Char) : Prop := ∀ c ∈ s.head?, isDigit 10 c = false

/-- A digit follows. -/
def AtDigit (s : List Char) : Prop := ∃ c ∈ s.head?, isDigit 10 c = true

theorem any_head_iff {s : List Char} : s.head?.any (isDigit 10) = true ↔ AtDigit s :=
  Option.any_eq_true _ _

/-- A number of at most `n` characters at the beginning of a string, its value, and what follows
it: as many digits as there are, or something that is written loosely. -/
inductive Number (n : Nat) : List Char → Nat → List Char → Bool → Prop where
  | digits {text rest : List Char} : text ≠ [] → (∀ c ∈ text, isDigit 10 c = true) →
      text.length ≤ n → (text.length < n → NoDigit rest) →
      Number n (text ++ rest) (value 10 text) rest false
  | loose {p : Parts 10} {rest : List Char} : ¬ p.Plain → p.text.length ≤ n →
      (p.text.length < n → NoDigit rest) → Number n (p.text ++ rest) p.toUInt32.toNat rest true
  | empty {rest : List Char} : (∀ p : Parts 10, p.text.length ≤ n → ¬ p.text <+: rest) →
      Number n rest 0 rest true

/-! ## The fraction -/

/-- The fraction of a second, in milliseconds: one to six digits after the dot. -/
inductive Fraction : List Char → Nat → List Char → Bool → Prop where
  | absent {cur : List Char} : cur.head? ≠ some '.' → Fraction cur 0 cur false
  | digits {text rest : List Char} : text ≠ [] → (∀ c ∈ text, isDigit 10 c = true) →
      text.length ≤ 6 → NoDigit rest →
      Fraction ('.' :: (text ++ rest)) (value 10 text * 1000 / 10 ^ text.length) rest false
  | loose {p : Parts 10} {rest : List Char} {ms : UInt16} : ¬ p.Plain → NoDigit rest →
      fractMs p.text.length p.toUInt32 = some ms →
      Fraction ('.' :: (p.text ++ rest)) ms.toNat rest true
  | empty {rest : List Char} : (∀ p : Parts 10, ¬ p.text <+: rest) →
      Fraction ('.' :: rest) 0 rest true

/-! ## The offset -/

/-- What stands between a number and the next: the delimiter, or nothing, if a digit follows. -/
def Separated (delimiter : Option Char) (rest next : List Char) : Prop :=
  match delimiter with
  | some d => rest = d :: next ∨ rest = next ∧ AtDigit next
  | none => rest = next ∧ next ≠ []

/-- The minutes of an offset. -/
inductive OffsetMinutes : List Char → Nat → Bool → Prop where
  | absent : OffsetMinutes [] 0 false
  /-- A colon, and nothing behind it. -/
  | missing : OffsetMinutes [':'] 0 true
  | minutes {rest next : List Char} {m : Nat} {loose : Bool} : next ≠ [] →
      Separated (some ':') rest next → Number 2 next m [] loose → m ≤ 59 →
      OffsetMinutes rest m loose

/-- The largest number of hours of an offset. -/
def maxHours (positive : Bool) : Nat := if positive then 14 else 12

/-- Hours and minutes with a sign, in seconds. -/
def offsetSeconds (positive : Bool) (h m : Nat) : Int :=
  if positive then ((h * 60 + m) * 60 : Int) else -((h * 60 + m) * 60 : Int)

/-- The offset from UTC in seconds: `Z`, or hours and minutes with a sign, which are a multiple of
15 minutes from -12:00 to +14:00.  More minutes than that are written loosely. -/
inductive Zone : List Char → Int → Bool → Prop where
  | absent : Zone [] 0 false
  | utc : Zone ['Z'] 0 false
  | offset {positive : Bool} {sign : Char} {cur rest : List Char} {h m : Nat}
      {loose loose' : Bool} : sign = (if positive then '+' else '-') →
      Number 2 cur h rest loose → h ≤ maxHours positive → OffsetMinutes rest m loose' →
      m % 15 = 0 →
      Zone (sign :: cur) (offsetSeconds positive h m)
        (loose || loose' || decide (maxHours positive * 60 < h * 60 + m))

/-! ## Time strings -/

/-- The value is in the range of the field. -/
def TmField.InRange (f : TmField) (v : Nat) : Prop := f.minVal ≤ v ∧ v ≤ f.maxVal

/-- A time string from one of its fields on: the values of the fields that it has, the
milliseconds, the offset, and whether something is written loosely. -/
inductive Timestamp : List TmField → List Char → List Nat → Nat → Int → Bool → Prop where
  | ends {f : TmField} {fs : List TmField} {cur : List Char} {v : Nat} {loose : Bool} :
      Number f.len cur v [] loose → f.InRange v → Timestamp (f :: fs) cur [v] 0 0 loose
  | next {f : TmField} {fs : List TmField} {cur rest next : List Char} {v : Nat} {vs : List Nat}
      {ms : Nat} {off : Int} {loose loose' : Bool} :
      Number f.len cur v rest loose → f.InRange v → Separated f.delimiter rest next →
      Timestamp fs next vs ms off loose' →
      Timestamp (f :: fs) cur (v :: vs) ms off (loose || loose')
  | tail {cur rest : List Char} {ms : Nat} {off : Int} {loose loose' : Bool} :
      Fraction cur ms rest loose → Zone rest off loose' →
      Timestamp [] cur [] ms off (loose || loose')

/-- **The grammar**: year, month, day, hours, minutes and seconds, with or without separators, a
fraction and an offset, all numbers written with digits only and in their ranges. -/
def TimeString (s : List Char) (vs : List Nat) (ms : Nat) (off : Int) : Prop :=
  Timestamp fields s vs ms off false

/-- A time string in which something is written loosely. -/
def LooselyWritten (s : List Char) : Prop := ∃ vs ms off, Timestamp fields s vs ms off true

/-! ## What is read of a number -/

theorem noDigit_take {rest : List Char} {k : Nat} (h : 0 < k → NoDigit rest) :
    NoDigit (rest.take k) := by
  intro c hc
  cases k with
  | zero => exact absurd hc (by simp)
  | succ k =>
    cases rest with
    | nil => exact absurd hc (by simp)
    | cons d rest => exact h (Nat.succ_pos k) c hc

/-- A number is read to its end. -/
theorem strtoul_take_text {n : Nat} (p : Parts 10) {rest : List Char} (hlen : p.text.length ≤ n)
    (hrest : p.text.length < n → NoDigit rest) :
    strtoul ((p.text ++ rest).take n) 10 = (p.toUInt32, rest.take (n - p.text.length)) := by
  rw [List.take_append, List.take_of_length_le hlen]
  exact strtoul_decimal_append p (noDigit_take fun hpos => hrest (by omega))

/-- Up to nine digits are not cut. -/
theorem toNat_ofDigits {text : List Char} (hne : text ≠ [])
    (hdigits : ∀ c ∈ text, isDigit 10 c = true) (hlen : text.length ≤ 9) :
    (Parts.ofDigits text hne hdigits).toUInt32.toNat = value 10 text := by
  have hlt : value 10 text < 10 ^ 9 :=
    Nat.lt_of_lt_of_le (value_lt hdigits) (Nat.pow_le_pow_right (by decide) hlen)
  exact Parts.toNat_ofDigits hne hdigits (by omega)

/-- What is read of a number, and what is left of the string. -/
theorem Number.read {n v : Nat} {cur rest : List Char} {loose : Bool} (hn : n ≤ 9)
    (h : Number n cur v rest loose) : (strtoul (cur.take n) 10).1.toNat = v ∧
      (strtoul (cur.take n) 10).2 ++ cur.drop n = rest := by
  have hrest : ∀ {text : List Char}, text.length ≤ n →
      rest.take (n - text.length) ++ (text ++ rest).drop n = rest := by
    intro text hlen
    rw [List.drop_append, List.drop_of_length_le hlen, List.nil_append, List.take_append_drop]
  cases h with
  | @digits text rest hne hdigits hlen hstop =>
    have hread := strtoul_take_text (Parts.ofDigits text hne hdigits) hlen hstop
    have hread : strtoul ((text ++ rest).take n) 10 = _ := hread
    rw [hread]
    exact ⟨toNat_ofDigits hne hdigits (Nat.le_trans hlen hn), hrest hlen⟩
  | loose hplain hlen hstop =>
    rw [strtoul_take_text _ hlen hstop]
    exact ⟨rfl, hrest hlen⟩
  | empty hnone =>
    cases hread : strtoul (cur.take n) 10 with
    | mk w t =>
      rcases exists_parts_of_strtoul hread with ⟨rfl, rfl⟩ | ⟨p, htake, -, -⟩
      · exact ⟨rfl, List.take_append_drop n cur⟩
      · have hlen := congrArg List.length htake
        rw [List.length_take, List.length_append] at hlen
        refine absurd ?_ (hnone p (by omega))
        exact List.IsPrefix.trans ⟨t, htake.symm⟩ (List.take_prefix n cur)

/-- Every string begins with a number, which may be one without digits. -/
theorem exists_number (n : Nat) (cur : List Char) : ∃ v rest loose, Number n cur v rest loose := by
  cases hread : strtoul (cur.take n) 10 with
  | mk w t =>
    rcases exists_parts_of_strtoul hread with ⟨rfl, rfl⟩ | ⟨p, htake, -, hdigit⟩
    · refine ⟨0, cur, true, .empty ?_⟩
      rintro p hlen ⟨u, rfl⟩
      have hne := strtoul_snd_ne (by decide) p (u.take (n - p.text.length))
      rw [List.take_append, List.take_of_length_le hlen] at hread
      rw [hread] at hne
      exact hne rfl
    · have hcur : cur = p.text ++ (t ++ cur.drop n) := by
        rw [← List.append_assoc, ← htake, List.take_append_drop]
      have hlen : p.text.length ≤ n := by
        have hlen := congrArg List.length htake
        rw [List.length_take, List.length_append] at hlen
        omega
      have hstop : p.text.length < n → NoDigit (t ++ cur.drop n) := by
        intro hlt c hc
        cases t with
        | nil =>
          rw [List.append_nil] at htake
          have hshort := congrArg List.length htake
          rw [List.length_take] at hshort
          rw [List.nil_append, List.drop_of_length_le (by omega)] at hc
          exact absurd hc (by simp)
        | cons d t =>
          rw [← p.decimal.1]
          exact hdigit c hc
      generalize t ++ cur.drop n = rest at hcur hstop
      subst hcur
      by_cases hplain : p.Plain
      · exact ⟨_, rest, false, .digits p.text_ne_nil hplain.isDigit_of_mem hlen hstop⟩
      · exact ⟨_, rest, true, .loose hplain hlen hstop⟩

/-- What a number is written with. -/
theorem Number.exists_text {n v : Nat} {cur rest : List Char} {loose : Bool}
    (h : Number n cur v rest loose) : ∃ text, cur = text ++ rest ∧ text.length ≤ n ∧
      (loose = false ↔ text ≠ [] ∧ ∀ c ∈ text, isDigit 10 c = true) := by
  cases h with
  | digits hne hdigits hlen => exact ⟨_, rfl, hlen, iff_of_true rfl ⟨hne, hdigits⟩⟩
  | loose hplain hlen =>
    exact ⟨_, rfl, hlen, iff_of_false (by decide) fun h => hplain (Parts.plain_of_isDigit h.2)⟩
  | empty => exact ⟨[], rfl, Nat.zero_le n, iff_of_false (by decide) fun h => h.1 rfl⟩

/-- The text tells whether it is written loosely. -/
theorem loose_unique {text text' rest : List Char} {loose loose' : Bool}
    (heq : text ++ rest = text' ++ rest)
    (h : loose = false ↔ text ≠ [] ∧ ∀ c ∈ text, isDigit 10 c = true)
    (h' : loose' = false ↔ text' ≠ [] ∧ ∀ c ∈ text', isDigit 10 c = true) : loose = loose' := by
  obtain rfl : text = text' := List.append_cancel_right heq
  exact Bool.eq_iff_iff.mpr (not_iff_not.mp (by
    rw [Bool.not_eq_true, Bool.not_eq_true]
    exact h.trans h'.symm))

/-- There is one number only at the beginning of a string. -/
theorem Number.unique {n v v' : Nat} {cur rest rest' : List Char} {loose loose' : Bool}
    (hn : n ≤ 9) (h : Number n cur v rest loose) (h' : Number n cur v' rest' loose') :
    v = v' ∧ rest = rest' ∧ loose = loose' := by
  obtain ⟨hv, hrest⟩ := h.read hn
  obtain ⟨hv', hrest'⟩ := h'.read hn
  obtain rfl : rest = rest' := hrest.symm.trans hrest'
  obtain ⟨text, rfl, -, hloose⟩ := h.exists_text
  obtain ⟨text', heq, -, hloose'⟩ := h'.exists_text
  exact ⟨hv.symm.trans hv', rfl, loose_unique heq hloose hloose'⟩

/-! ## What is read of a fraction -/

/-- The milliseconds of up to six digits. -/
theorem fractMs_digits {text : List Char} (hne : text ≠ [])
    (hdigits : ∀ c ∈ text, isDigit 10 c = true) (hlen : text.length ≤ 6) {w : UInt32}
    (hw : w.toNat = value 10 text) : ∃ ms, fractMs text.length w = some ms ∧
      ms.toNat = value 10 text * 1000 / 10 ^ text.length := by
  have hlt := value_lt hdigits
  have hpos := List.length_pos_iff.mpr hne
  rw [← hw] at hlt ⊢
  generalize text.length = len at hlen hlt hpos ⊢
  have hcases : len = 1 ∨ len = 2 ∨ len = 3 ∨ len = 4 ∨ len = 5 ∨ len = 6 := by omega
  rcases hcases with rfl | rfl | rfl | rfl | rfl | rfl
  all_goals
    refine ⟨_, rfl, ?_⟩
    simp only [UInt32.toNat_toUInt16, UInt32.toNat_mul, UInt32.toNat_div, UInt32.reduceToNat]
    omega

theorem length_le_of_fractMs {len : Nat} {w : UInt32} {ms : UInt16}
    (h : fractMs len w = some ms) : len ≤ 6 := by
  unfold fractMs at h
  split at h
  · omega
  · omega
  · omega
  · omega
  · omega
  · omega
  · omega
  · exact absurd h (by simp)

/-- What is read of a fraction, behind its dot. -/
theorem Fraction.read {cur rest : List Char} {ms : Nat} {loose : Bool}
    (h : Fraction ('.' :: cur) ms rest loose) : ∃ w ms', strtoul cur 10 = (w, rest) ∧
      fractMs (cur.length - rest.length) w = some ms' ∧ ms'.toNat = ms := by
  have hlength : ∀ text : List Char, (text ++ rest).length - rest.length = text.length := by
    intro text
    rw [List.length_append, Nat.add_sub_cancel]
  cases h with
  | absent hdot => exact absurd rfl hdot
  | @digits text _ hne hdigits hlen hstop =>
    have hread := strtoul_decimal_append (Parts.ofDigits text hne hdigits) hstop
    obtain ⟨ms', hms, hvalue⟩ :=
      fractMs_digits hne hdigits hlen (toNat_ofDigits hne hdigits (Nat.le_trans hlen (by decide)))
    rw [← hlength text] at hms
    exact ⟨_, ms', hread, hms, hvalue⟩
  | @loose p _ ms' hplain hstop hms =>
    rw [← hlength p.text] at hms
    exact ⟨_, ms', strtoul_decimal_append p hstop, hms, rfl⟩
  | empty hnone =>
    cases hread : strtoul cur 10 with
    | mk w t =>
      rcases exists_parts_of_strtoul hread with ⟨rfl, rfl⟩ | ⟨p, rfl, -, -⟩
      · refine ⟨0, 0, rfl, ?_, rfl⟩
        rw [Nat.sub_self]
        rfl
      · exact absurd (List.prefix_append p.text t) (hnone p)

/-- What is read behind a dot is a fraction, if it has no more than six characters. -/
theorem exists_fraction {cur rest : List Char} {w : UInt32} {ms : UInt16}
    (hread : strtoul cur 10 = (w, rest))
    (hms : fractMs (cur.length - rest.length) w = some ms) :
    ∃ loose, Fraction ('.' :: cur) ms.toNat rest loose := by
  rcases exists_parts_of_strtoul hread with ⟨rfl, rfl⟩ | ⟨p, rfl, rfl, hstop⟩
  · rw [Nat.sub_self] at hms
    obtain rfl := Option.some.inj hms
    refine ⟨true, .empty ?_⟩
    rintro p ⟨u, rfl⟩
    have hne := strtoul_snd_ne (by decide) p u
    rw [hread] at hne
    exact hne rfl
  · rw [List.length_append, Nat.add_sub_cancel] at hms
    rw [p.decimal.1] at hstop
    by_cases hplain : p.Plain
    · have hlen := length_le_of_fractMs hms
      have hvalue : p.toUInt32.toNat = value 10 p.text := by
        have hlt : value 10 p.text < 10 ^ 6 := Nat.lt_of_lt_of_le
          (value_lt hplain.isDigit_of_mem) (Nat.pow_le_pow_right (by decide) hlen)
        rw [hplain.toNat_toUInt32, ← hplain.text]
        omega
      obtain ⟨ms', hms', htoNat⟩ :=
        fractMs_digits p.text_ne_nil hplain.isDigit_of_mem hlen hvalue
      obtain rfl := Option.some.inj (hms.symm.trans hms')
      rw [htoNat]
      exact ⟨false, .digits p.text_ne_nil hplain.isDigit_of_mem hlen hstop⟩
    · exact ⟨true, .loose hplain hstop hms⟩

/-- What a fraction is written with. -/
theorem Fraction.exists_text {cur rest : List Char} {ms : Nat} {loose : Bool}
    (h : Fraction ('.' :: cur) ms rest loose) : ∃ text, cur = text ++ rest ∧
      (loose = false ↔ text ≠ [] ∧ ∀ c ∈ text, isDigit 10 c = true) := by
  cases h with
  | absent hdot => exact absurd rfl hdot
  | digits hne hdigits => exact ⟨_, rfl, iff_of_true rfl ⟨hne, hdigits⟩⟩
  | loose hplain =>
    exact ⟨_, rfl, iff_of_false (by decide) fun h => hplain (Parts.plain_of_isDigit h.2)⟩
  | empty => exact ⟨[], rfl, iff_of_false (by decide) fun h => h.1 rfl⟩

/-! ## There is one reading only -/

theorem Fraction.unique {cur rest rest' : List Char} {ms ms' : Nat} {loose loose' : Bool}
    (h : Fraction cur ms rest loose) (h' : Fraction cur ms' rest' loose') :
    ms = ms' ∧ rest = rest' ∧ loose = loose' := by
  by_cases hdot : cur.head? = some '.'
  · obtain ⟨cur, rfl⟩ : ∃ t, cur = '.' :: t := by
      cases cur with
      | nil => exact absurd hdot (by simp)
      | cons c t => exact ⟨t, by rw [Option.some.inj hdot]⟩
    obtain ⟨w, m, hread, hm, rfl⟩ := h.read
    obtain ⟨w', m', hread', hm', rfl⟩ := h'.read
    obtain ⟨rfl, rfl⟩ := Prod.mk.inj (hread.symm.trans hread')
    obtain rfl := Option.some.inj (hm.symm.trans hm')
    obtain ⟨text, heq, hloose⟩ := h.exists_text
    obtain ⟨text', heq', hloose'⟩ := h'.exists_text
    exact ⟨rfl, rfl, loose_unique (heq.symm.trans heq') hloose hloose'⟩
  · have habsent : ∀ {ms rest loose}, Fraction cur ms rest loose →
        ms = 0 ∧ rest = cur ∧ loose = false := by
      intro ms rest loose h
      cases h with
      | absent => exact ⟨rfl, rfl, rfl⟩
      | digits => exact absurd rfl hdot
      | loose => exact absurd rfl hdot
      | empty => exact absurd rfl hdot
    obtain ⟨rfl, rfl, rfl⟩ := habsent h
    obtain ⟨rfl, rfl, rfl⟩ := habsent h'
    exact ⟨rfl, rfl, rfl⟩

theorem Separated.ne_nil {delimiter : Option Char} {rest next : List Char}
    (h : Separated delimiter rest next) : rest ≠ [] := by
  cases delimiter with
  | none =>
    obtain ⟨rfl, hne⟩ := h
    exact hne
  | some d =>
    rcases h with rfl | ⟨rfl, c, hc, -⟩
    · exact List.cons_ne_nil d next
    · rintro rfl
      exact absurd hc (by simp)

theorem isDigit_of_mem_some {d : Char} (h : isDigit 10 d = false) :
    ∀ c ∈ some d, isDigit 10 c = false := by
  intro c hc
  rw [← Option.some.inj hc]
  exact h

theorem Separated.unique {delimiter : Option Char} {rest next next' : List Char}
    (hd : ∀ d ∈ delimiter, isDigit 10 d = false) (h : Separated delimiter rest next)
    (h' : Separated delimiter rest next') : next = next' := by
  cases delimiter with
  | none => exact h.1.symm.trans h'.1
  | some d =>
    -- the delimiter is not the digit that would follow without one
    have hno : ∀ t, ¬ AtDigit (d :: t) := by
      rintro t ⟨c, hc, hdigit⟩
      obtain rfl : d = c := Option.some.inj hc
      rw [hd d rfl] at hdigit
      exact Bool.false_ne_true hdigit
    rcases h with rfl | ⟨rfl, hdigit⟩
    · rcases h' with heq | ⟨rfl, hdigit'⟩
      · exact (List.cons.inj heq).2
      · exact absurd hdigit' (hno next)
    · rcases h' with rfl | ⟨heq, -⟩
      · exact absurd hdigit (hno next')
      · exact heq

theorem OffsetMinutes.unique {rest : List Char} {m m' : Nat} {loose loose' : Bool}
    (h : OffsetMinutes rest m loose) (h' : OffsetMinutes rest m' loose') :
    m = m' ∧ loose = loose' := by
  have hmissing : ∀ {next : List Char}, next ≠ [] → ¬ Separated (some ':') [':'] next := by
    rintro next hne (heq | ⟨rfl, hdigit⟩)
    · exact hne (List.cons.inj heq).2.symm
    · obtain ⟨c, hc, hdigit⟩ := hdigit
      obtain rfl : ':' = c := Option.some.inj hc
      exact absurd hdigit (by decide)
  cases h with
  | absent =>
    cases h' with
    | absent => exact ⟨rfl, rfl⟩
    | minutes _ hsep => exact absurd rfl hsep.ne_nil
  | missing =>
    cases h' with
    | missing => exact ⟨rfl, rfl⟩
    | minutes hne hsep => exact absurd hsep (hmissing hne)
  | minutes hne hsep hm =>
    cases h' with
    | absent => exact absurd rfl hsep.ne_nil
    | missing => exact absurd hsep (hmissing hne)
    | minutes hne' hsep' hm' =>
      obtain rfl := hsep.unique (isDigit_of_mem_some rfl) hsep'
      obtain ⟨rfl, -, rfl⟩ := hm.unique (by decide) hm'
      exact ⟨rfl, rfl⟩

theorem Zone.unique {rest : List Char} {off off' : Int} {loose loose' : Bool}
    (h : Zone rest off loose) (h' : Zone rest off' loose') : off = off' ∧ loose = loose' := by
  have hutc : ∀ {positive : Bool}, 'Z' ≠ if positive then '+' else '-' := by decide
  have hinj : ∀ positive positive' : Bool, (if positive then '+' else '-') =
      (if positive' then '+' else '-') → positive = positive' := by decide
  cases h with
  | absent =>
    cases h' with
    | absent => exact ⟨rfl, rfl⟩
  | utc =>
    cases h' with
    | utc => exact ⟨rfl, rfl⟩
    | offset hsign => exact absurd hsign hutc
  | @offset positive _ _ _ _ _ _ _ hsign hh _ hm =>
    cases h' with
    | utc => exact absurd hsign hutc
    | @offset positive' _ _ _ _ _ _ _ hsign' hh' _ hm' =>
      obtain rfl : positive = positive' := hinj positive positive' (hsign.symm.trans hsign')
      obtain ⟨rfl, rfl, rfl⟩ := hh.unique (by decide) hh'
      obtain ⟨rfl, rfl⟩ := hm.unique hm'
      exact ⟨rfl, rfl⟩

/-- Its length, and that its delimiter is not a digit. -/
def TmField.Ok (f : TmField) : Prop := f.len ≤ 9 ∧ ∀ d ∈ f.delimiter, isDigit 10 d = false

theorem fields_ok : ∀ f ∈ fields, f.Ok := by
  simp only [fields, List.mem_cons, List.not_mem_nil, or_false]
  rintro f (rfl | rfl | rfl | rfl | rfl | rfl)
  · exact ⟨by decide, isDigit_of_mem_some rfl⟩
  · exact ⟨by decide, isDigit_of_mem_some rfl⟩
  · exact ⟨by decide, isDigit_of_mem_some rfl⟩
  · exact ⟨by decide, isDigit_of_mem_some rfl⟩
  · exact ⟨by decide, isDigit_of_mem_some rfl⟩
  · exact ⟨by decide, fun d hd => absurd hd (by simp [tmSec])⟩

/-- **A string is read in one way only.** -/
theorem Timestamp.unique {fs : List TmField} (hfs : ∀ f ∈ fs, f.Ok) {cur : List Char}
    {vs vs' : List Nat} {ms ms' : Nat} {off off' : Int} {loose loose' : Bool}
    (h : Timestamp fs cur vs ms off loose) (h' : Timestamp fs cur vs' ms' off' loose') :
    vs = vs' ∧ ms = ms' ∧ off = off' ∧ loose = loose' := by
  induction h generalizing vs' ms' off' loose' with
  | ends hnumber =>
    have hlen := (hfs _ List.mem_cons_self).1
    cases h' with
    | ends hnumber' =>
      obtain ⟨rfl, -, rfl⟩ := hnumber.unique hlen hnumber'
      exact ⟨rfl, rfl, rfl, rfl⟩
    | next hnumber' _ hsep =>
      obtain ⟨-, rfl, -⟩ := hnumber.unique hlen hnumber'
      exact absurd rfl hsep.ne_nil
  | next hnumber _ hsep _ ih =>
    obtain ⟨hlen, hdelimiter⟩ := hfs _ List.mem_cons_self
    cases h' with
    | ends hnumber' =>
      obtain ⟨-, rfl, -⟩ := hnumber.unique hlen hnumber'
      exact absurd rfl hsep.ne_nil
    | next hnumber' _ hsep' hnext =>
      obtain ⟨rfl, rfl, rfl⟩ := hnumber.unique hlen hnumber'
      obtain rfl := hsep.unique hdelimiter hsep'
      obtain ⟨rfl, rfl, rfl, rfl⟩ := ih (fun f hf => hfs f (List.mem_cons_of_mem _ hf)) hnext
      exact ⟨rfl, rfl, rfl, rfl⟩
  | tail hfraction hzone =>
    cases h' with
    | tail hfraction' hzone' =>
      obtain ⟨rfl, rfl, rfl⟩ := hfraction.unique hfraction'
      obtain ⟨rfl, rfl⟩ := hzone.unique hzone'
      exact ⟨rfl, rfl, rfl, rfl⟩

/-- What is of the grammar is not written loosely. -/
theorem TimeString.not_looselyWritten {s : List Char} {vs : List Nat} {ms : Nat} {off : Int}
    (h : TimeString s vs ms off) : ¬ LooselyWritten s := by
  rintro ⟨vs', ms', off', h'⟩
  exact Bool.false_ne_true (h.unique fields_ok h').2.2.2

end TimeStr
end RuuviGateway
