import RuuviGateway.TimeStr.Grammar

/-!
# Which time strings are accepted

`time_str_conv_to_tm` accepts the strings of the grammar and those that are written loosely, and
gives the time that their parts denote (`timeStrConvToTm_eq_some_iff`).
-/

namespace RuuviGateway
namespace TimeStr

open Strtoul

variable {env : TimeEnv}

/-- A value is not `INT32_MIN`. -/
theorem natCast_ne_int32Min (v : Nat) : (v : Int) ≠ int32Min := by
  rw [int32Min]
  omega

/-- A fraction that is too long for the buffer is not read. -/
theorem parseMs_eq_none {cur : List Char} (hlen : 32 ≤ cur.length) :
    parseMs env ('.' :: cur) = none := by
  have hread : timeStrConvToUint32Cptr env cur cur.length = (0xFFFFFFFF, []) := by
    rw [timeStrConvToUint32Cptr, if_pos hlen, List.drop_length]
  have hnone : fractMs (cur.length - ([] : List Char).length) 0xFFFFFFFF = none := by
    cases hms : fractMs (cur.length - ([] : List Char).length) 0xFFFFFFFF with
    | none => rfl
    | some ms =>
      have hle := length_le_of_fractMs hms
      rw [List.length_nil] at hle
      omega
  simp only [parseMs, List.tail_cons, hread, hnone]

/-! ## The offset after its numbers -/

/-- The minutes that are read behind the hours. -/
def tzMinutes (env : TimeEnv) (next : List Char) : Option Int :=
  if next ≠ [] then
    let minutes := parseValOfTm env next 2 0 59 none
    if minutes.1 = false then none
    else if minutes.2.1 = int32Min then none
    else some minutes.2.1
  else some 0

/-- The checks of the hours and minutes. -/
def checkOffset (positive : Bool) (tzHours tzMinutes : Int) : Option Int :=
  if positive ∧ 14 < tzHours then none
  else if ¬ positive ∧ 12 < tzHours then none
  else if tzMinutes % 15 ≠ 0 then none
  else
    let tzOffsetSecondsAbs := (tzHours * 60 + tzMinutes) * 60
    some (if positive then tzOffsetSecondsAbs else -tzOffsetSecondsAbs)

/-- The two comparisons of the hours. -/
theorem maxHours_lt_iff (positive : Bool) (h : Nat) : maxHours positive < h ↔
    (positive ∧ 14 < (h : Int)) ∨ (¬ positive ∧ 12 < (h : Int)) := by
  cases positive with
  | false =>
    show 12 < h ↔ _
    simp only [Bool.false_eq_true, false_and, false_or, not_false_eq_true, true_and]
    omega
  | true =>
    show 14 < h ↔ _
    simp only [true_and, not_true_eq_false, false_and, or_false]
    omega

theorem checkOffset_eq_some_iff {positive : Bool} {h m : Nat} {off : Int} :
    checkOffset positive h m = some off ↔
      h ≤ maxHours positive ∧ m % 15 = 0 ∧ off = offsetSeconds positive h m := by
  have hfifteen : ¬ (m : Int) % 15 ≠ 0 ↔ m % 15 = 0 := by omega
  rw [checkOffset, Option.ite_none_left_eq_some, Option.ite_none_left_eq_some,
    Option.ite_none_left_eq_some, ← and_assoc, ← not_or, ← maxHours_lt_iff, Nat.not_lt, hfifteen]
  refine and_congr_right' (and_congr_right' ?_)
  show some (offsetSeconds positive h m) = some off ↔ _
  rw [Option.some.injEq, eq_comm]

/-- The minutes and the checks, behind the hours. -/
theorem parseTzOffset_of_hours {positive stop : Bool} {cur next : List Char} {h : Nat}
    (hhours : parseValOfTm env cur 2 0 23 (some ':') = (stop, (h : Int), next)) :
    parseTzOffset env positive cur = (tzMinutes env next).bind (checkOffset positive h) := by
  have hvalid : ¬ (stop = true ∧ (h : Int) = int32Min) := fun hstop =>
    natCast_ne_int32Min h hstop.2
  rw [parseTzOffset]
  simp only [hhours, if_neg hvalid]
  cases htz : tzMinutes env next with
  | none =>
    simp only [tzMinutes] at htz
    rw [htz]
    rfl
  | some m =>
    simp only [tzMinutes] at htz
    rw [htz]
    rfl

variable (hos : ∀ s base, env.osStrToUint32Cptr s base = strtoul s base)

/-! ## Numbers -/

include hos

/-- What is left of the string is found again behind the characters that have been read. -/
theorem timeStrConvToUint32Cptr_eq {cur : List Char} {n : Nat} (hn : n < 32) :
    timeStrConvToUint32Cptr env cur n =
      ((strtoul (cur.take n) 10).1, (strtoul (cur.take n) 10).2 ++ cur.drop n) := by
  obtain ⟨text, htext⟩ := strtoul_suffix (cur.take n) 10
  have hdrop : cur.drop ((cur.take n).length - (strtoul (cur.take n) 10).2.length) =
      (strtoul (cur.take n) 10).2 ++ cur.drop n := by
    have hlen := congrArg List.length htext
    rw [List.length_append] at hlen
    have hsub : (cur.take n).length - (strtoul (cur.take n) 10).2.length = text.length := by omega
    have hcur : cur = text ++ ((strtoul (cur.take n) 10).2 ++ cur.drop n) := by
      rw [← List.append_assoc, htext, List.take_append_drop]
    rw [hsub]
    exact (congrArg (List.drop text.length) hcur).trans List.drop_left
  rw [timeStrConvToUint32Cptr, if_neg (Nat.not_le.mpr hn)]
  simp only [hos, hdrop]

theorem Number.conv {n v : Nat} {cur rest : List Char} {loose : Bool} (hn : n ≤ 9)
    (h : Number n cur v rest loose) :
    (timeStrConvToUint32Cptr env cur (min n cur.length)).1.toNat = v ∧
      (timeStrConvToUint32Cptr env cur (min n cur.length)).2 = rest := by
  have hdrop : cur.drop (min n cur.length) = cur.drop n := by
    rcases Nat.le_total n cur.length with hle | hle
    · rw [Nat.min_eq_left hle]
    · rw [Nat.min_eq_right hle, List.drop_length, List.drop_of_length_le hle]
  rw [timeStrConvToUint32Cptr_eq hos (by omega), ← List.take_eq_take_min, hdrop]
  exact h.read hn

/-! ## Fields -/

/-- The result of `parse_val_of_tm`, from the number that it reads. -/
theorem parseValOfTm_eq {n v lo hi : Nat} {cur rest : List Char} {loose : Bool}
    {delimiter : Option Char} (hn : n ≤ 9) (h : Number n cur v rest loose) :
    parseValOfTm env cur n lo hi delimiter =
      if v < lo ∨ hi < v then (true, int32Min, cur)
      else if rest = [] then (true, (v : Int), rest)
      else
        match delimiter with
        | some d =>
            if rest.head? = some d then (false, (v : Int), rest.tail)
            else if rest.head?.any (isDigit 10) then (false, (v : Int), rest)
            else (true, int32Min, cur)
        | none => (false, (v : Int), rest) := by
  obtain ⟨hv, hrest⟩ := h.conv hos hn
  cases delimiter with
  | none => simp only [parseValOfTm, hv, hrest]
  | some d => simp only [parseValOfTm, hv, hrest]

/-- The string ends behind the number. -/
theorem parseValOfTm_ends {n v lo hi : Nat} {cur : List Char} {loose : Bool}
    {delimiter : Option Char} (hn : n ≤ 9) (h : Number n cur v [] loose) (hlo : lo ≤ v)
    (hhi : v ≤ hi) : parseValOfTm env cur n lo hi delimiter = (true, (v : Int), []) := by
  rw [parseValOfTm_eq hos hn h, if_neg (by omega), if_pos rfl]

/-- It goes on behind it. -/
theorem parseValOfTm_next {n v lo hi : Nat} {cur rest next : List Char} {loose : Bool}
    {delimiter : Option Char} (hd : ∀ d ∈ delimiter, isDigit 10 d = false) (hn : n ≤ 9)
    (h : Number n cur v rest loose) (hlo : lo ≤ v) (hhi : v ≤ hi)
    (hsep : Separated delimiter rest next) :
    parseValOfTm env cur n lo hi delimiter = (false, (v : Int), next) := by
  rw [parseValOfTm_eq hos hn h, if_neg (by omega), if_neg hsep.ne_nil]
  cases delimiter with
  | none =>
    obtain ⟨rfl, -⟩ := hsep
    rfl
  | some d =>
    rcases hsep with rfl | ⟨rfl, hdigit⟩
    · exact if_pos rfl
    · have hne : rest.head? ≠ some d := by
        intro heq
        obtain ⟨c, hc, hdigit⟩ := hdigit
        obtain rfl : d = c := Option.some.inj (heq.symm.trans hc)
        rw [hd d rfl] at hdigit
        exact Bool.false_ne_true hdigit
      show (if rest.head? = some d then _ else _) = _
      rw [if_neg hne]
      exact if_pos (any_head_iff.mpr hdigit)

/-- What `parse_val_of_tm` may return. -/
theorem parseValOfTm_cases (cur : List Char) (n : Nat) (hn : n ≤ 9) (lo hi : Nat)
    (delimiter : Option Char) (hd : ∀ d ∈ delimiter, isDigit 10 d = false) :
    (∃ v loose, Number n cur v [] loose ∧ lo ≤ v ∧ v ≤ hi ∧
        parseValOfTm env cur n lo hi delimiter = (true, (v : Int), [])) ∨
      (∃ v rest next loose, Number n cur v rest loose ∧ lo ≤ v ∧ v ≤ hi ∧
        Separated delimiter rest next ∧
        parseValOfTm env cur n lo hi delimiter = (false, (v : Int), next)) ∨
      parseValOfTm env cur n lo hi delimiter = (true, int32Min, cur) := by
  obtain ⟨v, rest, loose, hnumber⟩ := exists_number n cur
  by_cases hrange : v < lo ∨ hi < v
  · refine .inr (.inr ?_)
    rw [parseValOfTm_eq hos hn hnumber, if_pos hrange]
  have hlo : lo ≤ v := by omega
  have hhi : v ≤ hi := by omega
  by_cases hend : rest = []
  · subst hend
    exact .inl ⟨v, loose, hnumber, hlo, hhi, parseValOfTm_ends hos hn hnumber hlo hhi⟩
  by_cases hsep : ∃ next, Separated delimiter rest next
  · obtain ⟨next, hsep⟩ := hsep
    exact .inr (.inl ⟨v, rest, next, loose, hnumber, hlo, hhi, hsep,
      parseValOfTm_next hos hd hn hnumber hlo hhi hsep⟩)
  refine .inr (.inr ?_)
  rw [parseValOfTm_eq hos hn hnumber, if_neg hrange, if_neg hend]
  cases delimiter with
  | none => exact absurd ⟨rest, rfl, hend⟩ hsep
  | some d =>
    have hhead : rest.head? ≠ some d := by
      intro hhead
      refine hsep ⟨rest.tail, .inl ?_⟩
      cases rest with
      | nil => exact absurd rfl hend
      | cons c rest => rw [Option.some.inj hhead, List.tail_cons]
    have hdigit : ¬ rest.head?.any (isDigit 10) = true := fun hdigit =>
      hsep ⟨rest, .inr ⟨rfl, any_head_iff.mp hdigit⟩⟩
    show (if rest.head? = some d then _ else _) = _
    rw [if_neg hhead, if_neg hdigit]

/-- What a field may be. -/
theorem timeStrParseTm_cases {f : TmField} (hf : f.Ok) (cur : List Char) (tm : Tm) :
    (∃ v loose, Number f.len cur v [] loose ∧ f.InRange v ∧
        timeStrParseTm env f cur tm = .stop (some (f.set v tm))) ∨
      (∃ v rest next loose, Number f.len cur v rest loose ∧ f.InRange v ∧
        Separated f.delimiter rest next ∧
        timeStrParseTm env f cur tm = .go next (f.set v tm)) ∨
      timeStrParseTm env f cur tm = .stop none := by
  rcases parseValOfTm_cases hos cur f.len hf.1 f.minVal f.maxVal f.delimiter hf.2 with
    ⟨v, loose, hnumber, hlo, hhi, heq⟩ | ⟨v, rest, next, loose, hnumber, hlo, hhi, hsep, heq⟩ | heq
  · refine .inl ⟨v, loose, hnumber, ⟨hlo, hhi⟩, ?_⟩
    simp only [timeStrParseTm, heq, if_true]
    exact if_neg (natCast_ne_int32Min v)
  · refine .inr (.inl ⟨v, rest, next, loose, hnumber, ⟨hlo, hhi⟩, hsep, ?_⟩)
    simp only [timeStrParseTm, heq]
    rfl
  · refine .inr (.inr ?_)
    simp only [timeStrParseTm, heq, if_true]

theorem timeStrParseTm_ends {f : TmField} (hf : f.Ok) {cur : List Char} {v : Nat} {loose : Bool}
    (h : Number f.len cur v [] loose) (hv : f.InRange v) (tm : Tm) :
    timeStrParseTm env f cur tm = .stop (some (f.set v tm)) := by
  simp only [timeStrParseTm, parseValOfTm_ends hos hf.1 h hv.1 hv.2, if_true]
  exact if_neg (natCast_ne_int32Min v)

theorem timeStrParseTm_next {f : TmField} (hf : f.Ok) {cur rest next : List Char} {v : Nat}
    {loose : Bool} (h : Number f.len cur v rest loose) (hv : f.InRange v)
    (hsep : Separated f.delimiter rest next) (tm : Tm) :
    timeStrParseTm env f cur tm = .go next (f.set v tm) := by
  simp only [timeStrParseTm, parseValOfTm_next hos hf.2 hf.1 h hv.1 hv.2 hsep]
  rfl

/-! ## The fraction -/

/-- A fraction that is not too long for the buffer is read. -/
theorem parseMs_eq_some_iff {cur rest : List Char} {ms : UInt16} (hlen : cur.length < 32) :
    parseMs env ('.' :: cur) = some (ms, rest) ↔
      ∃ loose, Fraction ('.' :: cur) ms.toNat rest loose := by
  have hread : timeStrConvToUint32Cptr env cur cur.length =
      ((strtoul cur 10).1, (strtoul cur 10).2) := by
    rw [timeStrConvToUint32Cptr_eq hos hlen, List.take_length, List.drop_length, List.append_nil]
  have hparse : parseMs env ('.' :: cur) =
      (fractMs (cur.length - (strtoul cur 10).2.length) (strtoul cur 10).1).map
        (·, (strtoul cur 10).2) := by
    simp only [parseMs, List.tail_cons, hread]
    cases fractMs (cur.length - (strtoul cur 10).2.length) (strtoul cur 10).1 with
    | none => rfl
    | some ms => rfl
  rw [hparse, Option.map_eq_some_iff]
  constructor
  · rintro ⟨ms', hms, heq⟩
    obtain ⟨rfl, rfl⟩ := Prod.mk.inj heq
    exact exists_fraction rfl hms
  · rintro ⟨loose, h⟩
    obtain ⟨w, ms', hstrtoul, hms, heq⟩ := h.read
    obtain rfl := UInt16.toNat_inj.mp heq
    rw [hstrtoul]
    exact ⟨ms', hms, rfl⟩

/-! ## The offset -/

theorem tzMinutes_eq_some_iff {next : List Char} {m : Int} : tzMinutes env next = some m ↔
    (next = [] ∧ m = 0) ∨
      next ≠ [] ∧ ∃ v loose, Number 2 next v [] loose ∧ v ≤ 59 ∧ m = v := by
  by_cases hnext : next = []
  · subst hnext
    rw [tzMinutes, if_neg (not_not.mpr rfl)]
    constructor
    · intro h
      exact .inl ⟨rfl, (Option.some.inj h).symm⟩
    · rintro (⟨-, rfl⟩ | ⟨hne, -⟩)
      · rfl
      · exact absurd rfl hne
  · rw [tzMinutes, if_pos hnext]
    constructor
    · intro h
      rcases parseValOfTm_cases hos next 2 (by decide) 0 59 none (by simp) with
        ⟨v, loose, hnumber, -, hhi, heq⟩ | ⟨v, rest, next', loose, -, -, -, -, heq⟩ | heq
      · simp only [heq] at h
        rw [if_neg (by simp), if_neg (natCast_ne_int32Min v)] at h
        exact .inr ⟨hnext, v, loose, hnumber, hhi, (Option.some.inj h).symm⟩
      · simp only [heq, if_true] at h
        exact absurd h (by simp)
      · simp only [heq] at h
        simp at h
    · rintro (⟨rfl, -⟩ | ⟨-, v, loose, hnumber, hhi, rfl⟩)
      · exact absurd rfl hnext
      · simp only [parseValOfTm_ends hos (by decide) hnumber (Nat.zero_le v) hhi]
        simp [natCast_ne_int32Min]

/-- The minutes, if the hours are followed by something. -/
theorem tzMinutes_eq_some_iff_offsetMinutes {rest next : List Char}
    (hsep : Separated (some ':') rest next) {x : Int} : tzMinutes env next = some x ↔
      ∃ m loose, OffsetMinutes rest m loose ∧ x = (m : Int) := by
  rw [tzMinutes_eq_some_iff hos]
  constructor
  · rintro (⟨rfl, rfl⟩ | ⟨hne, v, loose, hnumber, hhi, rfl⟩)
    · rcases hsep with rfl | ⟨rfl, c, hc, -⟩
      · exact ⟨0, true, .missing, rfl⟩
      · exact absurd hc (by simp)
    · exact ⟨v, loose, .minutes hne hsep hnumber hhi, rfl⟩
  · rintro ⟨m, loose, hminutes, rfl⟩
    cases hminutes with
    | absent => exact absurd rfl hsep.ne_nil
    | missing =>
      rcases hsep with heq | ⟨rfl, c, hc, hdigit⟩
      · exact .inl ⟨(List.cons.inj heq).2.symm, rfl⟩
      · obtain rfl : ':' = c := Option.some.inj hc
        exact absurd hdigit (by decide)
    | minutes hne hsep' hnumber hhi =>
      obtain rfl := hsep.unique (isDigit_of_mem_some rfl) hsep'
      exact .inr ⟨hne, m, loose, hnumber, hhi, rfl⟩

theorem parseTzOffset_eq_some_iff {positive : Bool} {cur : List Char} {off : Int} :
    parseTzOffset env positive cur = some off ↔ ∃ h m rest loose loose',
      Number 2 cur h rest loose ∧ OffsetMinutes rest m loose' ∧ h ≤ maxHours positive ∧
        m % 15 = 0 ∧ off = offsetSeconds positive h m := by
  have hcolon : ∀ d ∈ some ':', isDigit 10 d = false := isDigit_of_mem_some rfl
  constructor
  · intro hoff
    rcases parseValOfTm_cases hos cur 2 (by decide) 0 23 (some ':') hcolon with
      ⟨v, loose, hnumber, -, -, heq⟩ | ⟨v, rest, next, loose, hnumber, -, -, hsep, heq⟩ | heq
    · rw [parseTzOffset_of_hours heq] at hoff
      obtain ⟨hh, hm, hoff⟩ := (checkOffset_eq_some_iff (m := 0)).mp hoff
      exact ⟨v, 0, [], loose, false, hnumber, .absent, hh, hm, hoff⟩
    · rw [parseTzOffset_of_hours heq] at hoff
      obtain ⟨x, hx, hoff⟩ := Option.bind_eq_some_iff.mp hoff
      obtain ⟨m, loose', hminutes, rfl⟩ :=
        (tzMinutes_eq_some_iff_offsetMinutes hos hsep).mp hx
      obtain ⟨hh, hm, hoff⟩ := checkOffset_eq_some_iff.mp hoff
      exact ⟨v, m, rest, loose, loose', hnumber, hminutes, hh, hm, hoff⟩
    · rw [parseTzOffset, heq, if_pos ⟨rfl, rfl⟩] at hoff
      exact absurd hoff (by simp)
  · rintro ⟨h, m, rest, loose, loose', hnumber, hminutes, hh, hm, hoff⟩
    have hcheck := checkOffset_eq_some_iff.mpr ⟨hh, hm, hoff⟩
    have hle : h ≤ 23 := by
      cases positive with
      | false => exact Nat.le_trans hh (by decide)
      | true => exact Nat.le_trans hh (by decide)
    have hnext : ∀ {next}, Separated (some ':') rest next →
        parseTzOffset env positive cur = some off := by
      intro next hsep
      rw [parseTzOffset_of_hours
        (parseValOfTm_next hos hcolon (by decide) hnumber (Nat.zero_le h) hle hsep),
        (tzMinutes_eq_some_iff_offsetMinutes hos hsep).mpr ⟨m, loose', hminutes, rfl⟩]
      exact hcheck
    cases hminutes with
    | absent =>
      rw [parseTzOffset_of_hours
        (parseValOfTm_ends hos (by decide) hnumber (Nat.zero_le h) hle)]
      exact hcheck
    | missing => exact hnext (.inl rfl)
    | minutes _ hsep _ _ => exact hnext hsep

theorem parseTz_eq_some_iff {cur : List Char} (hne : cur ≠ []) (hutc : cur ≠ ['Z']) {off : Int} :
    parseTz env cur = some off ↔ ∃ loose, Zone cur off loose := by
  constructor
  · intro h
    rw [parseTz.eq_def] at h
    split at h
    · obtain ⟨hh, m, rest, loose, loose', hnumber, hminutes, hle, hm, rfl⟩ :=
        (parseTzOffset_eq_some_iff hos).mp h
      exact ⟨_, .offset rfl hnumber hle hminutes hm⟩
    · obtain ⟨hh, m, rest, loose, loose', hnumber, hminutes, hle, hm, rfl⟩ :=
        (parseTzOffset_eq_some_iff hos).mp h
      exact ⟨_, .offset rfl hnumber hle hminutes hm⟩
    · exact absurd h (by simp)
  · rintro ⟨loose, hzone⟩
    cases hzone with
    | absent => exact absurd rfl hne
    | utc => exact absurd rfl hutc
    | @offset positive _ _ _ _ _ _ _ hsign hnumber hle hminutes hm =>
      have hoff := (parseTzOffset_eq_some_iff hos).mpr
        ⟨_, _, _, _, _, hnumber, hminutes, hle, hm, rfl⟩
      cases positive with
      | false =>
        subst hsign
        exact hoff
      | true =>
        subst hsign
        exact hoff

/-! ## After the seconds -/

/-- The time, shifted by an offset. -/
def shifted (env : TimeEnv) (tm : Tm) (off : Int) : Tm :=
  if off ≠ 0 then { env.gmtimeR (env.osMkgmtime tm - off) with isdst := 0 } else tm

omit hos in
theorem shifted_zero (tm : Tm) : shifted env tm 0 = tm := if_neg (not_not.mpr rfl)

omit hos in
/-- An offset is not long. -/
theorem Zone.length_le {rest : List Char} {off : Int} {loose : Bool} (h : Zone rest off loose) :
    rest.length ≤ 6 := by
  cases h with
  | absent => exact Nat.zero_le 6
  | utc => decide
  | @offset _ _ _ rest _ _ _ _ _ hnumber _ hminutes _ =>
    obtain ⟨text, rfl, hlen, -⟩ := hnumber.exists_text
    have hrest : rest.length ≤ 3 := by
      cases hminutes with
      | absent => exact Nat.zero_le 3
      | missing => decide
      | minutes _ hsep hm _ =>
        obtain ⟨digits, rfl, hdigits, -⟩ := hm.exists_text
        rw [List.append_nil] at hsep
        rcases hsep with rfl | ⟨rfl, -⟩
        · rw [List.length_cons]
          omega
        · omega
    rw [List.length_cons, List.length_append]
    omega

/-- The fraction that is read, if there is one. -/
theorem fraction_of_read {cur rest : List Char} {ms : UInt16}
    (h : (if cur.head? = some '.' then parseMs env cur else some (0, cur)) = some (ms, rest)) :
    ∃ loose, Fraction cur ms.toNat rest loose := by
  split at h
  · rename_i hdot
    cases cur with
    | nil => exact absurd hdot (by simp)
    | cons c cur =>
      obtain rfl : c = '.' := Option.some.inj hdot
      rcases Nat.lt_or_ge cur.length 32 with hlen | hlen
      · exact (parseMs_eq_some_iff hos hlen).mp h
      · rw [parseMs_eq_none hlen] at h
        exact absurd h (by simp)
  · rename_i hdot
    obtain ⟨rfl, rfl⟩ := Prod.mk.inj (Option.some.inj h)
    exact ⟨false, .absent hdot⟩

/-- It is read, if what follows is not long. -/
theorem Fraction.exists_read {cur rest : List Char} {ms : Nat} {loose : Bool}
    (h : Fraction cur ms rest loose) (hrest : rest.length ≤ 6) : ∃ ms' : UInt16, ms'.toNat = ms ∧
      (if cur.head? = some '.' then parseMs env cur else some (0, cur)) = some (ms', rest) := by
  have hdotted : ∀ {c : List Char}, cur = '.' :: c → ∃ ms' : UInt16, ms'.toNat = ms ∧
      (if cur.head? = some '.' then parseMs env cur else some (0, cur)) = some (ms', rest) := by
    rintro c rfl
    obtain ⟨w, ms', -, hms, rfl⟩ := h.read
    have hlen := length_le_of_fractMs hms
    refine ⟨ms', rfl, ?_⟩
    rw [if_pos (show ('.' :: c).head? = some '.' from rfl)]
    exact (parseMs_eq_some_iff hos (by omega)).mpr ⟨loose, h⟩
  cases h with
  | absent hdot => exact ⟨0, rfl, if_neg hdot⟩
  | digits => exact hdotted rfl
  | loose => exact hdotted rfl
  | empty => exact hdotted rfl

/-- The rest of the string, after the fraction. -/
theorem zone_step_eq_some_iff {rest : List Char} {tm tm' : Tm} {ms ms' : UInt16} :
    (if rest = [] ∨ rest = ['Z'] then some (tm, ms)
      else
        match parseTz env rest with
        | none => none
        | some off =>
            if off ≠ 0 then
              some ({ env.gmtimeR (env.osMkgmtime tm - off) with isdst := 0 }, ms)
            else some (tm, ms)) = some (tm', ms') ↔
      ms = ms' ∧ ∃ off loose, Zone rest off loose ∧ tm' = shifted env tm off := by
  by_cases hend : rest = [] ∨ rest = ['Z']
  · have hzone : Zone rest 0 false := by
      rcases hend with rfl | rfl
      · exact .absent
      · exact .utc
    rw [if_pos hend, Option.some.injEq, Prod.mk.injEq]
    constructor
    · rintro ⟨rfl, rfl⟩
      exact ⟨rfl, 0, false, hzone, (shifted_zero tm).symm⟩
    · rintro ⟨rfl, off, loose, hzone', rfl⟩
      obtain ⟨rfl, -⟩ := hzone.unique hzone'
      exact ⟨(shifted_zero tm).symm, rfl⟩
  · rw [not_or] at hend
    have hparse : ∀ off, parseTz env rest = some off ↔ ∃ loose, Zone rest off loose :=
      fun off => parseTz_eq_some_iff hos hend.1 hend.2
    rw [if_neg (not_or.mpr hend)]
    cases hread : parseTz env rest with
    | none =>
      refine iff_of_false (by simp) ?_
      rintro ⟨-, off, loose, hzone, -⟩
      exact absurd (hread.symm.trans ((hparse off).mpr ⟨loose, hzone⟩)) (by simp)
    | some off =>
      obtain ⟨loose, hzone⟩ := (hparse off).mp hread
      have hresult : (if off ≠ 0 then
          some ({ env.gmtimeR (env.osMkgmtime tm - off) with isdst := 0 }, ms)
            else some (tm, ms)) = some (shifted env tm off, ms) := by
        rw [shifted]
        split
        · rfl
        · rfl
      simp only [hresult, Option.some.injEq, Prod.mk.injEq]
      constructor
      · rintro ⟨rfl, rfl⟩
        exact ⟨rfl, off, loose, hzone, rfl⟩
      · rintro ⟨rfl, off', loose', hzone', rfl⟩
        obtain ⟨rfl, -⟩ := hzone.unique hzone'
        exact ⟨rfl, rfl⟩

/-- What is accepted after the seconds. -/
theorem timeStrConvTail_eq_some_iff {cur : List Char} {tm tm' : Tm} {ms : UInt16} :
    timeStrConvTail env cur tm = some (tm', ms) ↔ ∃ rest off loose loose',
      Fraction cur ms.toNat rest loose ∧ Zone rest off loose' ∧ tm' = shifted env tm off := by
  rw [timeStrConvTail]
  constructor
  · intro h
    split at h
    · exact absurd h (by simp)
    · rename_i ms₀ rest hread
      obtain ⟨loose, hfraction⟩ := fraction_of_read hos hread
      obtain ⟨rfl, off, loose', hzone, htm⟩ := (zone_step_eq_some_iff hos).mp h
      exact ⟨rest, off, loose, loose', hfraction, hzone, htm⟩
  · rintro ⟨rest, off, loose, loose', hfraction, hzone, htm⟩
    obtain ⟨ms', hms, hread⟩ := hfraction.exists_read hos hzone.length_le
    obtain rfl := UInt16.toNat_inj.mp hms
    rw [hread]
    exact (zone_step_eq_some_iff hos).mpr ⟨rfl, off, loose', hzone, htm⟩

/-! ## The fields -/

/-- The values of the fields, one after the other. -/
def setAll : List TmField → List Nat → Tm → Tm
  | f :: fs, v :: vs, tm => setAll fs vs (f.set v tm)
  | _, _, tm => tm

omit hos in
theorem setAll_nil (fs : List TmField) (tm : Tm) : setAll fs [] tm = tm := by
  cases fs with
  | nil => rfl
  | cons f fs => rfl

/-- What is accepted from a field on. -/
theorem parseFields_eq_some_iff {fs : List TmField} (hfs : ∀ f ∈ fs, f.Ok) {cur : List Char}
    {tm tm' : Tm} {ms : UInt16} :
    parseFields env fs cur tm = some (tm', ms) ↔ ∃ vs off loose,
      Timestamp fs cur vs ms.toNat off loose ∧ tm' = shifted env (setAll fs vs tm) off := by
  induction fs generalizing cur tm with
  | nil =>
    rw [parseFields, timeStrConvTail_eq_some_iff hos]
    constructor
    · rintro ⟨rest, off, loose, loose', hfraction, hzone, htm⟩
      exact ⟨[], off, _, .tail hfraction hzone, htm⟩
    · rintro ⟨vs, off, loose, h, htm⟩
      cases h with
      | tail hfraction hzone => exact ⟨_, off, _, _, hfraction, hzone, htm⟩
  | cons f fs ih =>
    have hf : f.Ok := hfs f List.mem_cons_self
    have hrest : ∀ g ∈ fs, g.Ok := fun g hg => hfs g (List.mem_cons_of_mem f hg)
    rw [parseFields]
    constructor
    · intro h
      rcases timeStrParseTm_cases hos hf cur tm with
        ⟨v, loose, hnumber, hv, heq⟩ | ⟨v, rest, next, loose, hnumber, hv, hsep, heq⟩ | heq
      · rw [heq] at h
        obtain ⟨rfl, rfl⟩ := Prod.mk.inj (Option.some.inj h)
        refine ⟨[v], 0, loose, .ends hnumber hv, ?_⟩
        rw [shifted_zero, setAll, setAll_nil]
      · rw [heq] at h
        obtain ⟨vs, off, loose', hnext, htm⟩ := (ih hrest).mp h
        exact ⟨v :: vs, off, loose || loose', .next hnumber hv hsep hnext, htm⟩
      · rw [heq] at h
        exact absurd h (by simp)
    · rintro ⟨vs, off, loose, h, htm⟩
      generalize hms : ms.toNat = k at h
      cases h with
      | ends hnumber hv =>
        obtain rfl : ms = 0 := UInt16.toNat_inj.mp hms
        rw [timeStrParseTm_ends hos hf hnumber hv tm, htm, shifted_zero, setAll, setAll_nil]
        rfl
      | next hnumber hv hsep hnext =>
        rw [timeStrParseTm_next hos hf hnumber hv hsep tm]
        exact (ih hrest).mpr ⟨_, off, _, hms ▸ hnext, htm⟩

/-! ## The string -/

/-- The time that the values denote, in the time zone of the string: what is not given is the
beginning of the year. -/
def localTm (vs : List Nat) : Tm where
  year := vs.getD 0 1900 - 1900
  mon := vs.getD 1 1 - 1
  mday := vs.getD 2 1
  hour := vs.getD 3 0
  min := vs.getD 4 0
  sec := vs.getD 5 0
  wday := 0
  isdst := 0

omit hos in
theorem setAll_fields (vs : List Nat) : setAll fields vs .start = localTm vs := by
  rcases vs with _ | ⟨year, _ | ⟨mon, _ | ⟨mday, _ | ⟨hour, _ | ⟨min, _ | ⟨sec, vs⟩⟩⟩⟩⟩⟩
  all_goals rfl

/-- **What is accepted**, and the time that it is taken for. -/
theorem timeStrConvToTm_eq_some_iff {s : List Char} {tm : Tm} {ms : UInt16} :
    timeStrConvToTm env s = some (tm, ms) ↔ ∃ vs off loose,
      Timestamp fields s vs ms.toNat off loose ∧ tm = shifted env (localTm vs) off := by
  rw [timeStrConvToTm_eq, parseFields_eq_some_iff hos fields_ok]
  simp only [setAll_fields]

end TimeStr
end RuuviGateway
