import RuuviGateway.TimeStr.Accept

/-!
# Which time strings are read right

The strings of the grammar are read as what they denote, and so are the canonical forms
`YYYY-MM-DDThh:mm:ss[.mmm](Z|(+|-)hh:mm)`, which are of the grammar.  What is read wrong are the
strings that are written loosely (`convertsExactly_iff`).
-/

namespace RuuviGateway
namespace TimeStr

open Strtoul

variable {env : TimeEnv}

/-! ## The canonical form -/

/-- The last `n` digits of a number. -/
def pad : Nat → Nat → List Char
  | 0, _ => []
  | n + 1, v => pad n (v / 10) ++ [Nat.digitChar (v % 10)]

theorem length_pad (n v : Nat) : (pad n v).length = n := by
  induction n generalizing v with
  | zero => rfl
  | succ n ih => rw [pad, List.length_append, ih, List.length_singleton]

theorem pad_ne_nil {n : Nat} (hn : 0 < n) (v : Nat) : pad n v ≠ [] := by
  rw [← List.length_pos_iff, length_pad]
  exact hn

theorem digitValue_digitChar {d : Nat} (h : d < 10) : digitValue (Nat.digitChar d) = d := by
  have hdigits : ∀ d < 10, digitValue (Nat.digitChar d) = d := by decide
  exact hdigits d h

theorem isDigit_of_mem_pad {n v : Nat} {c : Char} (h : c ∈ pad n v) : isDigit 10 c = true := by
  induction n generalizing v with
  | zero => exact absurd h List.not_mem_nil
  | succ n ih =>
    rcases List.mem_append.mp h with h | h
    · exact ih h
    · obtain rfl := List.mem_singleton.mp h
      have hlt : v % 10 < 10 := Nat.mod_lt v (by decide)
      rw [isDigit, digitValue_digitChar hlt]
      exact decide_eq_true hlt

theorem value_pad (n v : Nat) : value 10 (pad n v) = v % 10 ^ n := by
  induction n generalizing v with
  | zero => exact (Nat.mod_one v).symm
  | succ n ih =>
    rw [pad, value_append, ih, digitValue_digitChar (Nat.mod_lt v (by decide)), Nat.pow_succ',
      Nat.mod_mul]
    omega

/-- A number with all its digits. -/
theorem number_pad {n v : Nat} (hn : 0 < n) (hv : v < 10 ^ n) (rest : List Char) :
    Number n (pad n v ++ rest) v rest false := by
  have hvalue : value 10 (pad n v) = v := by rw [value_pad, Nat.mod_eq_of_lt hv]
  have h : Number n (pad n v ++ rest) (value 10 (pad n v)) rest false :=
    .digits (pad_ne_nil hn v) (fun c => isDigit_of_mem_pad) (Nat.le_of_eq (length_pad n v))
      fun hlt => absurd hlt (by rw [length_pad]; exact Nat.lt_irrefl n)
  rwa [hvalue] at h

/-- A date and a time of day with all fields, as it is written in full.  There may be
milliseconds, and there is `Z` or the offset: whether it is positive, its hours and minutes. -/
structure Canonical where
  year : Nat
  mon : Nat
  mday : Nat
  hour : Nat
  min : Nat
  sec : Nat
  ms : Option Nat
  zone : Option (Bool × Nat × Nat)
  hyear : tmYear.InRange year
  hmon : tmMon.InRange mon
  hmday : tmMday.InRange mday
  hhour : tmHour.InRange hour
  hmin : tmMin.InRange min
  hsec : tmSec.InRange sec
  hms : ∀ m ∈ ms, m ≤ 999
  hzone : ∀ z ∈ zone, z.2.1 * 60 + z.2.2 ≤ maxHours z.1 * 60 ∧ z.2.2 ≤ 59 ∧ z.2.2 % 15 = 0

namespace Canonical

/-- `[.mmm]`. -/
def fractText : Option Nat → List Char
  | none => []
  | some m => '.' :: pad 3 m

/-- `Z` or `(+|-)hh:mm`. -/
def zoneText : Option (Bool × Nat × Nat) → List Char
  | none => ['Z']
  | some (positive, h, m) => (if positive then '+' else '-') :: (pad 2 h ++ ':' :: pad 2 m)

/-- The offset in seconds. -/
def zoneSeconds : Option (Bool × Nat × Nat) → Int
  | none => 0
  | some (positive, h, m) => offsetSeconds positive h m

/-- `YYYY-MM-DDThh:mm:ss[.mmm](Z|(+|-)hh:mm)`. -/
def text (c : Canonical) : List Char :=
  pad 4 c.year ++ '-' :: (pad 2 c.mon ++ '-' :: (pad 2 c.mday ++ 'T' :: (pad 2 c.hour ++
    ':' :: (pad 2 c.min ++ ':' :: (pad 2 c.sec ++ (fractText c.ms ++ zoneText c.zone))))))

def values (c : Canonical) : List Nat := [c.year, c.mon, c.mday, c.hour, c.min, c.sec]

/-- The offset is one of the grammar. -/
theorem zone_zoneText (c : Canonical) : Zone (zoneText c.zone) (zoneSeconds c.zone) false := by
  have hvalid := c.hzone
  cases hc : c.zone with
  | none => exact .utc
  | some z =>
    obtain ⟨positive, h, m⟩ := z
    obtain ⟨hle, hm, hquarter⟩ :
        h * 60 + m ≤ maxHours positive * 60 ∧ m ≤ 59 ∧ m % 15 = 0 := hvalid (positive, h, m) hc
    have hmax : ∀ positive, maxHours positive ≤ 14 := by decide
    have hle' : h ≤ maxHours positive := by omega
    have hlt : h < 10 ^ 2 := Nat.lt_of_le_of_lt (Nat.le_trans hle' (hmax positive)) (by decide)
    have hnumber := number_pad (by decide) hlt (':' :: pad 2 m)
    have hminutes : OffsetMinutes (':' :: pad 2 m) m false := by
      refine .minutes (pad_ne_nil (by decide) m) (.inl rfl) ?_ hm
      have hlt : m < 10 ^ 2 := Nat.lt_of_le_of_lt hm (by decide)
      have hnumber := number_pad (by decide) hlt []
      rwa [List.append_nil] at hnumber
    have hzone := Zone.offset rfl hnumber hle' hminutes hquarter
    have hloose : decide (maxHours positive * 60 < h * 60 + m) = false :=
      decide_eq_false (Nat.not_lt.mpr hle)
    rwa [hloose] at hzone

theorem noDigit_zoneText (zone : Option (Bool × Nat × Nat)) : NoDigit (zoneText zone) := by
  intro c hc
  cases zone with
  | none =>
    obtain rfl := Option.some.inj hc
    rfl
  | some z =>
    obtain ⟨positive, h, m⟩ := z
    obtain rfl := Option.some.inj hc
    cases positive with
    | false => rfl
    | true => rfl

theorem zoneText_ne_nil (zone : Option (Bool × Nat × Nat)) : zoneText zone ≠ [] := by
  cases zone with
  | none => exact List.cons_ne_nil _ _
  | some z => exact List.cons_ne_nil _ _

/-- The milliseconds are a fraction of the grammar. -/
theorem fraction_fractText (c : Canonical) :
    Fraction (fractText c.ms ++ zoneText c.zone) (c.ms.getD 0) (zoneText c.zone) false := by
  have hle := c.hms
  cases hc : c.ms with
  | none =>
    refine .absent fun hdot => ?_
    cases hz : c.zone with
    | none =>
      rw [hz] at hdot
      exact absurd (Option.some.inj hdot) (by decide)
    | some z =>
      obtain ⟨positive, h, m⟩ := z
      rw [hz] at hdot
      have hsign : ∀ positive : Bool, (if positive then '+' else '-') ≠ '.' := by decide
      exact hsign positive (Option.some.inj hdot)
  | some m =>
    have hvalue : value 10 (pad 3 m) * 1000 / 10 ^ (pad 3 m).length = m := by
      have hm := hle m hc
      rw [value_pad, length_pad]
      omega
    have h : Fraction ('.' :: (pad 3 m ++ zoneText c.zone))
        (value 10 (pad 3 m) * 1000 / 10 ^ (pad 3 m).length) (zoneText c.zone) false :=
      .digits (pad_ne_nil (by decide) m) (fun c => isDigit_of_mem_pad)
        (by rw [length_pad]; decide) (noDigit_zoneText c.zone)
    rwa [hvalue] at h

/-- **The canonical forms are of the grammar.** -/
theorem timeString (c : Canonical) :
    TimeString c.text c.values (c.ms.getD 0) (zoneSeconds c.zone) := by
  have htail : Timestamp [] (fractText c.ms ++ zoneText c.zone) [] (c.ms.getD 0)
      (zoneSeconds c.zone) false := .tail c.fraction_fractText c.zone_zoneText
  have hne : fractText c.ms ++ zoneText c.zone ≠ [] := fun h =>
    zoneText_ne_nil c.zone (List.append_eq_nil_iff.mp h).2
  have hlt : ∀ {f : TmField} {v n : Nat}, f.InRange v → f.maxVal < 10 ^ n → v < 10 ^ n :=
    fun hv hn => Nat.lt_of_le_of_lt hv.2 hn
  exact .next (number_pad (by decide) (hlt c.hyear (by decide)) _) c.hyear (.inl rfl)
    (.next (number_pad (by decide) (hlt c.hmon (by decide)) _) c.hmon (.inl rfl)
    (.next (number_pad (by decide) (hlt c.hmday (by decide)) _) c.hmday (.inl rfl)
    (.next (number_pad (by decide) (hlt c.hhour (by decide)) _) c.hhour (.inl rfl)
    (.next (number_pad (by decide) (hlt c.hmin (by decide)) _) c.hmin (.inl rfl)
    (.next (number_pad (by decide) (hlt c.hsec (by decide)) _) c.hsec ⟨rfl, hne⟩ htail)))))

end Canonical

/-! ## The bounds of the grammar -/

/-- The milliseconds and the offset in seconds that a time string may have. -/
def InBounds (ms : Nat) (off : Int) : Prop :=
  ms ≤ 999 ∧ -43200 ≤ off ∧ off ≤ 50400 ∧ off % 900 = 0

theorem Fraction.le_999 {cur rest : List Char} {ms : Nat} (h : Fraction cur ms rest false) :
    ms ≤ 999 := by
  cases h with
  | absent => decide
  | @digits text _ _ hdigits =>
    have hlt := value_lt hdigits
    have hpow : 0 < 10 ^ text.length := Nat.pow_pos (by decide)
    rw [← Nat.lt_succ_iff, Nat.div_lt_iff_lt_mul hpow]
    omega

theorem Zone.inBounds {rest : List Char} {off : Int} (h : Zone rest off false) :
    -43200 ≤ off ∧ off ≤ 50400 ∧ off % 900 = 0 := by
  generalize hloose : false = loose at h
  cases h with
  | absent => decide
  | utc => decide
  | @offset positive _ _ _ h m _ _ _ _ _ _ hm =>
    obtain ⟨-, hle⟩ := Bool.or_eq_false_iff.mp hloose.symm
    have hle : h * 60 + m ≤ maxHours positive * 60 := Nat.not_lt.mp (of_decide_eq_false hle)
    cases positive with
    | false =>
      have hle : h * 60 + m ≤ 12 * 60 := hle
      rw [offsetSeconds, if_neg Bool.false_ne_true]
      omega
    | true =>
      have hle : h * 60 + m ≤ 14 * 60 := hle
      rw [offsetSeconds, if_pos rfl]
      omega

theorem Timestamp.inBounds {fs : List TmField} {cur : List Char} {vs : List Nat} {ms : Nat}
    {off : Int} {loose : Bool} (h : Timestamp fs cur vs ms off loose) (hloose : loose = false) :
    InBounds ms off := by
  induction h with
  | ends => exact ⟨by decide, by decide, by decide, by decide⟩
  | next _ _ _ _ ih => exact ih (Bool.or_eq_false_iff.mp hloose).2
  | tail hfraction hzone =>
    obtain ⟨rfl, rfl⟩ := Bool.or_eq_false_iff.mp hloose
    exact ⟨hfraction.le_999, hzone.inBounds⟩

/-! ## The milliseconds -/

/-- The milliseconds fit into 16 bits. -/
theorem Fraction.exists_ms {cur rest : List Char} {ms : Nat} {loose : Bool}
    (h : Fraction cur ms rest loose) : ∃ ms' : UInt16, ms'.toNat = ms := by
  cases h with
  | absent => exact ⟨0, rfl⟩
  | digits hne hdigits hlen =>
    obtain ⟨ms', -, hms⟩ :=
      fractMs_digits hne hdigits hlen (toNat_ofDigits hne hdigits (Nat.le_trans hlen (by decide)))
    exact ⟨ms', hms⟩
  | loose => exact ⟨_, rfl⟩
  | empty => exact ⟨0, rfl⟩

theorem Timestamp.exists_ms {fs : List TmField} {cur : List Char} {vs : List Nat} {ms : Nat}
    {off : Int} {loose : Bool} (h : Timestamp fs cur vs ms off loose) :
    ∃ ms' : UInt16, ms'.toNat = ms := by
  induction h with
  | ends => exact ⟨0, rfl⟩
  | next _ _ _ _ ih => exact ih
  | tail hfraction => exact hfraction.exists_ms

/-! ## What is read -/

/-- What the code relies on of the functions that are not part of the repository: the number
parser is `strtoul`, and `os_mkgmtime` is the inverse of `gmtime_r`, which does not set
`tm_isdst`. -/
structure TimeEnv.Lawful (env : TimeEnv) : Prop where
  osStrToUint32Cptr : ∀ s base, env.osStrToUint32Cptr s base = strtoul s base
  isdst : ∀ t, (env.gmtimeR t).isdst = 0
  osMkgmtime : ∀ t, env.osMkgmtime (env.gmtimeR t) = t

/-- The result is the UTC time and the milliseconds that values and an offset denote: the time is
what has been written if there is no offset, and otherwise the broken-down time that lies this far
before it. -/
def Denotes (env : TimeEnv) (vs : List Nat) (ms : Nat) (off : Int) (r : Tm × UInt16) : Prop :=
  r.2.toNat = ms ∧ env.osMkgmtime r.1 = env.osMkgmtime (localTm vs) - off ∧
    (off = 0 → r.1 = localTm vs) ∧ (off ≠ 0 → ∃ t, r.1 = env.gmtimeR t)

theorem denotes_shifted (hlawful : env.Lawful) (vs : List Nat) (ms : UInt16) (off : Int) :
    Denotes env vs ms.toNat off (shifted env (localTm vs) off, ms) := by
  by_cases hoff : off = 0
  · subst hoff
    rw [shifted_zero]
    exact ⟨rfl, (Int.sub_zero _).symm, fun _ => rfl, fun h => absurd rfl h⟩
  · have hisdst : ∀ t, { env.gmtimeR t with isdst := 0 } = env.gmtimeR t := by
      intro t
      rw [← hlawful.isdst t]
    have hshifted : shifted env (localTm vs) off =
        env.gmtimeR (env.osMkgmtime (localTm vs) - off) := by rw [shifted, if_pos hoff, hisdst]
    rw [hshifted]
    exact ⟨rfl, hlawful.osMkgmtime _, fun h => absurd h hoff, fun _ => ⟨_, rfl⟩⟩

/-- A time string is read exactly: if it is accepted, then it is of the grammar, and it is read as
what it denotes; and it is accepted if it is a canonical form. -/
def ConvertsExactly (env : TimeEnv) (s : List Char) : Prop :=
  (∀ r, timeStrConvToTm env s = some r →
    ∃ vs ms off, TimeString s vs ms off ∧ InBounds ms off ∧ Denotes env vs ms off r) ∧
  ∀ c : Canonical, s = c.text → ∃ r, timeStrConvToTm env s = some r ∧
    Denotes env c.values (c.ms.getD 0) (Canonical.zoneSeconds c.zone) r

/-- **A time string is read exactly unless it is written loosely.** -/
theorem convertsExactly_iff (hlawful : env.Lawful) {s : List Char} :
    ConvertsExactly env s ↔ ¬ LooselyWritten s := by
  have hconv : ∀ {tm : Tm} {ms : UInt16}, timeStrConvToTm env s = some (tm, ms) ↔
      ∃ vs off loose, Timestamp fields s vs ms.toNat off loose ∧
        tm = shifted env (localTm vs) off :=
    timeStrConvToTm_eq_some_iff hlawful.osStrToUint32Cptr
  constructor
  · rintro ⟨hgrammar, -⟩ ⟨vs, ms, off, hloose⟩
    obtain ⟨ms', rfl⟩ := hloose.exists_ms
    obtain ⟨vs', ms'', off', hexact, -, -⟩ := hgrammar _ (hconv.mpr ⟨vs, off, true, hloose, rfl⟩)
    exact hexact.not_looselyWritten ⟨vs, ms'.toNat, off, hloose⟩
  · intro hexact
    refine ⟨?_, ?_⟩
    · rintro ⟨tm, ms⟩ h
      obtain ⟨vs, off, loose, htimestamp, rfl⟩ := hconv.mp h
      cases loose with
      | false =>
        exact ⟨vs, ms.toNat, off, htimestamp, htimestamp.inBounds rfl,
          denotes_shifted hlawful vs ms off⟩
      | true => exact absurd ⟨vs, ms.toNat, off, htimestamp⟩ hexact
    · rintro c rfl
      obtain ⟨ms, hms⟩ := c.timeString.exists_ms
      have htimestamp := c.timeString
      rw [← hms] at htimestamp ⊢
      exact ⟨_, hconv.mpr ⟨_, _, _, htimestamp, rfl⟩, denotes_shifted hlawful _ ms _⟩

/-! ## Two strings -/

/-- A calendar in which all months have 31 days.  It is the real one in January 1970. -/
def januaryEnv : TimeEnv where
  osStrToUint32Cptr := strtoul
  osMkgmtime tm :=
    (((((tm.year - 70) * 12 + tm.mon) * 31 + (tm.mday - 1)) * 24 + tm.hour) * 60 + tm.min) * 60 +
      tm.sec
  gmtimeR t :=
    { year := 70 + t / 86400 / 31 / 12
      mon := t / 86400 / 31 % 12
      mday := t / 86400 % 31 + 1
      hour := t % 86400 / 3600
      min := t % 3600 / 60
      sec := t % 60
      wday := (t / 86400 + 4) % 7
      isdst := 0 }

theorem januaryEnv_lawful : januaryEnv.Lawful where
  osStrToUint32Cptr _ _ := rfl
  isdst _ := rfl
  osMkgmtime t := by
    simp only [januaryEnv]
    omega

/-- The second of January 1970, 10 o'clock, two hours east. -/
def januarySecond : Canonical where
  year := 1970
  mon := 1
  mday := 2
  hour := 10
  min := 0
  sec := 0
  ms := none
  zone := some (true, 2, 0)
  hyear := ⟨by decide, by decide⟩
  hmon := ⟨by decide, by decide⟩
  hmday := ⟨by decide, by decide⟩
  hhour := ⟨by decide, by decide⟩
  hmin := ⟨by decide, by decide⟩
  hsec := ⟨by decide, by decide⟩
  hms := by simp
  hzone := by
    rintro z hz
    obtain rfl := Option.some.inj hz
    exact ⟨by decide, by decide, by decide⟩

theorem convertsExactly_januarySecond :
    ConvertsExactly januaryEnv "1970-01-02T10:00:00+02:00".toList := by
  have htext : "1970-01-02T10:00:00+02:00".toList = januarySecond.text := by decide
  rw [htext]
  exact (convertsExactly_iff januaryEnv_lawful).mpr januarySecond.timeString.not_looselyWritten

/-- A fraction with a sign is more than a minute. -/
theorem not_convertsExactly_signedFraction :
    ¬ ConvertsExactly januaryEnv "2021-07-19T01:28:10.-3Z".toList := by
  intro h
  have hconv : timeStrConvToTm januaryEnv "2021-07-19T01:28:10.-3Z".toList =
      some (⟨121, 6, 19, 1, 28, 10, 0, 0⟩, 65506) := by decide +kernel
  obtain ⟨vs, ms, off, -, hbounds, hdenotes⟩ := h.1 _ hconv
  have hms : (65506 : UInt16).toNat = ms := hdenotes.1
  have hle : ms ≤ 999 := hbounds.1
  rw [← hms] at hle
  exact absurd hle (by decide)

end TimeStr
end RuuviGateway
