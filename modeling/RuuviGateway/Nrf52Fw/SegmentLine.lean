import RuuviGateway.Nrf52Fw.InfoTxt

/-!
# The bounds of a segment line

The loop of `nrf52fw_parse_segment_info_line` over the name of the file looks for a blank, and not
for the NUL, so a line without a blank behind its size is read over its end.  On all other lines
the parser stays within the line, and what it accepts has an address, a size, a name and a CRC.
-/

namespace RuuviGateway
namespace Nrf52Fw

open Strtoul

/-! ## Segments -/

/-- Spaces and tabs, at least one. -/
def Blanks (s : List Char) : Prop := s ≠ [] ∧ ∀ c ∈ s, isBlank c = true

def NoBlank (s : List Char) : Prop := ∀ c ∈ s, isBlank c = false

/-- The parts of a line, with what they denote.  The CRC begins with the blank behind the name. -/
def SegmentText (line : List Char) (segment : Segment) : Prop :=
  ∃ (address : Parts 16) (blanks1 : List Char) (size : Parts 0) (blanks2 : List Char)
    (crc : Parts 16),
    line = address.text ++ (blanks1 ++ (size.text ++ (blanks2 ++ (segment.fileName ++ crc.text)))) ∧
      Blanks blanks1 ∧ Blanks blanks2 ∧ segment.fileName ≠ [] ∧ NoBlank segment.fileName ∧
      segment.fileName.length < 20 ∧ atBlank crc.text ∧ address.toUInt32 = segment.address ∧
      size.toUInt32 = segment.size ∧ crc.toUInt32 = segment.crc

/-- The parser does not read behind the NUL, and what it accepts is a segment. -/
def ParsesWithinBounds (osStrToUint32Cptr : List Char → Nat → UInt32 × List Char)
    (line : List Char) : Prop :=
  ∃ result, nrf52fwParseSegmentInfoLine osStrToUint32Cptr line = some result ∧
    ∀ segment, result = some segment → SegmentText line segment

/-- An address, a size, blanks, and then no blank up to the end of the line. -/
def NoBlankAfterSize (line : List Char) : Prop :=
  ∃ (address : Parts 16) (blanks1 : List Char) (size : Parts 0) (blanks2 rest : List Char),
    line = address.text ++ (blanks1 ++ (size.text ++ (blanks2 ++ rest))) ∧
      Blanks blanks1 ∧ ¬ atBlank size.text ∧ Blanks blanks2 ∧ NoBlank rest

/-! ## Blanks -/

theorem isSpace_of_isBlank {c : Char} (h : isBlank c = true) : isSpace c = true := by
  simp only [isBlank, Bool.or_eq_true, beq_iff_eq] at h
  rcases h with rfl | rfl
  · decide
  · decide

/-- A number that is followed by a blank is read to its end. -/
theorem stops_blanks {b : Nat} (hb : b ≤ 36) {blanks rest : List Char} (h : Blanks blanks) :
    Stops b (blanks ++ rest) := by
  obtain ⟨c, blanks, rfl⟩ := List.exists_cons_of_ne_nil h.1
  have hc := isSpace_of_isBlank (h.2 c List.mem_cons_self)
  intro e he
  obtain rfl : c = e := Option.some.inj he
  refine ⟨?_, ?_, ?_⟩
  · by_contra hdigit
    have hno := isSpace_of_isDigit hb ((Bool.not_eq_false _).mp hdigit)
    exact Bool.false_ne_true (hno.symm.trans hc)
  · rintro rfl
    exact absurd hc (by decide)
  · rintro rfl
    exact absurd hc (by decide)

theorem atBlank_append {blanks rest : List Char} (h : Blanks blanks) :
    atBlank (blanks ++ rest) := by
  obtain ⟨c, blanks, rfl⟩ := List.exists_cons_of_ne_nil h.1
  exact ⟨c, rfl, h.2 c List.mem_cons_self⟩

/-- What is skipped at a blank. -/
theorem blanks_takeWhile {s : List Char} (h : atBlank s) : Blanks (s.takeWhile isBlank) := by
  refine ⟨?_, fun c hc => List.mem_takeWhile_imp hc⟩
  obtain ⟨c, hc, hblank⟩ := h
  cases s with
  | nil => exact absurd hc (by simp)
  | cons d s =>
    obtain rfl : d = c := Option.some.inj hc
    rw [List.takeWhile_cons_of_pos hblank]
    exact List.cons_ne_nil _ _

theorem not_atBlank_dropWhile (s : List Char) : ¬ atBlank (s.dropWhile isBlank) := by
  rintro ⟨c, hc, hblank⟩
  rw [head?_dropWhile isBlank s c hc] at hblank
  exact Bool.false_ne_true hblank

theorem dropWhile_blanks {blanks rest : List Char} (h : Blanks blanks) (hrest : ¬ atBlank rest) :
    (blanks ++ rest).dropWhile isBlank = rest := by
  refine dropWhile_append_of_head? h.2 fun c hc => ?_
  by_contra hblank
  exact hrest ⟨c, hc, (Bool.not_eq_false _).mp hblank⟩

theorem atBlank_append_iff {s t : List Char} (hs : s ≠ []) : atBlank (s ++ t) ↔ atBlank s := by
  obtain ⟨c, s, rfl⟩ := List.exists_cons_of_ne_nil hs
  exact Iff.rfl

/-! ## The name -/

theorem scanFileName_eq_none_iff {s : List Char} : scanFileName s = none ↔ NoBlank s := by
  induction s with
  | nil => exact iff_of_true rfl fun c hc => absurd hc List.not_mem_nil
  | cons c s ih =>
    rw [scanFileName]
    by_cases hc : isBlank c = true
    · rw [if_pos hc]
      refine iff_of_false (by simp) fun h => ?_
      rw [h c List.mem_cons_self] at hc
      exact Bool.false_ne_true hc
    · have hcons : NoBlank (c :: s) ↔ NoBlank s := by
        simp [NoBlank, hc]
      rw [if_neg hc, hcons, ← ih]
      cases scanFileName s with
      | none => exact Iff.rfl
      | some r => exact iff_of_false (by simp) (by simp)

theorem of_scanFileName {s name rest : List Char} (h : scanFileName s = some (name, rest)) :
    s = name ++ rest ∧ NoBlank name ∧ atBlank rest := by
  induction s generalizing name with
  | nil => exact absurd h (by simp [scanFileName])
  | cons c s ih =>
    rw [scanFileName] at h
    split at h
    · rename_i hc
      obtain ⟨rfl, rfl⟩ := Prod.mk.inj (Option.some.inj h)
      exact ⟨rfl, fun e he => absurd he List.not_mem_nil, c, rfl, hc⟩
    · rename_i hc
      split at h
      · exact absurd h (by simp)
      · rename_i name' rest' hscan
        obtain ⟨rfl, rfl⟩ := Prod.mk.inj (Option.some.inj h)
        obtain ⟨rfl, hname, hrest⟩ := ih hscan
        refine ⟨rfl, fun e he => ?_, hrest⟩
        rcases List.mem_cons.mp he with rfl | he
        · exact (Bool.not_eq_true _).mp hc
        · exact hname e he

/-! ## The address and the size -/

/-- An address and a size with blanks behind them, and what follows the blanks. -/
def Head (line : List Char) (segmentAddr segmentLen : UInt32) (rest : List Char) : Prop :=
  ∃ (address : Parts 16) (blanks1 : List Char) (size : Parts 0) (blanks2 : List Char),
    line = address.text ++ (blanks1 ++ (size.text ++ (blanks2 ++ rest))) ∧ Blanks blanks1 ∧
      ¬ atBlank size.text ∧ Blanks blanks2 ∧ ¬ atBlank rest ∧
      address.toUInt32 = segmentAddr ∧ size.toUInt32 = segmentLen

/-- Without an address there is no size. -/
theorem not_atBlank_of_no_address {line : List Char} {v : UInt32}
    (h : strtoul line 16 = (v, line)) :
    ¬ atBlank (strtoul (line.dropWhile isBlank) 0).2 := by
  cases hread : strtoul (line.dropWhile isBlank) 0 with
  | mk len strEnd =>
    intro hblank
    rcases exists_parts_of_strtoul hread with ⟨-, rfl⟩ | ⟨p, hrest, -, -⟩
    · exact not_atBlank_dropWhile line hblank
    · have hspace : ∀ c ∈ line.takeWhile isBlank, isSpace c = true := fun c hc =>
        isSpace_of_isBlank (List.mem_takeWhile_imp hc)
      obtain ⟨q, hq⟩ := p.exists_hex hspace
      have hline : line = q.text ++ strEnd := by
        rw [hq, List.append_assoc, ← hrest, List.takeWhile_append_dropWhile]
      have hne := strtoul_snd_ne (by decide) q strEnd
      rw [← hline, h] at hne
      exact hne rfl

/-- The two reads find an address and a size, with blanks behind them. -/
theorem head_of_strtoul {line : List Char} (h1 : atBlank (strtoul line 16).2)
    (h2 : atBlank (strtoul ((strtoul line 16).2.dropWhile isBlank) 0).2) :
    Head line (strtoul line 16).1 (strtoul ((strtoul line 16).2.dropWhile isBlank) 0).1
      ((strtoul ((strtoul line 16).2.dropWhile isBlank) 0).2.dropWhile isBlank) := by
  cases hread1 : strtoul line 16 with
  | mk addr e1 =>
    rw [hread1] at h1 h2
    rcases exists_parts_of_strtoul hread1 with ⟨rfl, rfl⟩ | ⟨address, hline, rfl, -⟩
    · exact absurd h2 (not_atBlank_of_no_address hread1)
    · cases hread2 : strtoul (e1.dropWhile isBlank) 0 with
      | mk len e2 =>
        rw [hread2] at h2
        rcases exists_parts_of_strtoul hread2 with ⟨-, rfl⟩ | ⟨size, hrest, rfl, -⟩
        · exact absurd h2 (not_atBlank_dropWhile e1)
        · refine ⟨address, e1.takeWhile isBlank, size, e2.takeWhile isBlank, ?_,
            blanks_takeWhile h1, ?_, blanks_takeWhile h2, not_atBlank_dropWhile e2, rfl, rfl⟩
          · rw [List.takeWhile_append_dropWhile, ← hrest, List.takeWhile_append_dropWhile]
            exact hline
          · rw [← atBlank_append_iff (t := e2) size.text_ne_nil, ← hrest]
            exact not_atBlank_dropWhile e1

variable {osStrToUint32Cptr : List Char → Nat → UInt32 × List Char}
  (hos : ∀ s base, osStrToUint32Cptr s base = strtoul s base)

include hos

/-- A line that does not begin with an address and a size is not accepted. -/
theorem nrf52fwParseSegmentInfoLine_of_not_head {line : List Char}
    (h : ∀ addr len rest, ¬ Head line addr len rest) :
    nrf52fwParseSegmentInfoLine osStrToUint32Cptr line = some none := by
  simp only [nrf52fwParseSegmentInfoLine, hos]
  split
  · rfl
  rename_i h1
  split
  · rfl
  rename_i h2
  exact absurd (head_of_strtoul (not_not.mp h1) (not_not.mp h2)) (h _ _ _)

/-- The address and the size are read, and the name is looked for behind them. -/
theorem nrf52fwParseSegmentInfoLine_of_head {line rest : List Char} {addr len : UInt32}
    (h : Head line addr len rest) :
    nrf52fwParseSegmentInfoLine osStrToUint32Cptr line =
      match scanFileName rest with
      | none => none
      | some (fileName, strEnd) =>
          if 20 ≤ fileName.length then some none
          else if (strtoul strEnd 16).2 ≠ [] then some none
          else some (some ⟨addr, len, fileName, (strtoul strEnd 16).1⟩) := by
  obtain ⟨address, blanks1, size, blanks2, rfl, hb1, hsize, hb2, hrest, rfl, rfl⟩ := h
  have hread1 : strtoul (address.text ++ (blanks1 ++ (size.text ++ (blanks2 ++ rest)))) 16 =
      (address.toUInt32, blanks1 ++ (size.text ++ (blanks2 ++ rest))) :=
    strtoul_text_append (by decide) address
      (stops_blanks (address.radix_lead.le (by decide)) hb1)
  have hread2 : strtoul (size.text ++ (blanks2 ++ rest)) 0 =
      (size.toUInt32, blanks2 ++ rest) :=
    strtoul_text_append (by decide) size (stops_blanks (size.radix_lead.le (by decide)) hb2)
  have hdrop1 : (blanks1 ++ (size.text ++ (blanks2 ++ rest))).dropWhile isBlank =
      size.text ++ (blanks2 ++ rest) :=
    dropWhile_blanks hb1 (mt (atBlank_append_iff size.text_ne_nil).mp hsize)
  cases hscan : scanFileName rest
  all_goals
    simp only [nrf52fwParseSegmentInfoLine, hos, hread1, hdrop1, hread2,
      dropWhile_blanks hb2 hrest, if_neg (not_not.mpr (atBlank_append hb1)),
      if_neg (not_not.mpr (atBlank_append hb2)), hscan]

/-! ## Bounds -/

/-- **The parser reads behind the NUL** if and only if there is an address, a size, and no blank
behind them. -/
theorem nrf52fwParseSegmentInfoLine_eq_none_iff (line : List Char) :
    nrf52fwParseSegmentInfoLine osStrToUint32Cptr line = none ↔ NoBlankAfterSize line := by
  constructor
  · intro h
    by_cases hhead : ∃ addr len rest, Head line addr len rest
    · obtain ⟨addr, len, rest, hhead⟩ := hhead
      rw [nrf52fwParseSegmentInfoLine_of_head hos hhead] at h
      obtain ⟨address, blanks1, size, blanks2, hline, hb1, hsize, hb2, -, -, -⟩ := hhead
      refine ⟨address, blanks1, size, blanks2, rest, hline, hb1, hsize, hb2, ?_⟩
      rw [← scanFileName_eq_none_iff]
      split at h
      · rename_i hscan
        exact hscan
      · split at h
        · exact absurd h (by simp)
        split at h
        · exact absurd h (by simp)
        · exact absurd h (by simp)
    · rw [nrf52fwParseSegmentInfoLine_of_not_head hos fun addr len rest hh =>
        hhead ⟨addr, len, rest, hh⟩] at h
      exact absurd h (by simp)
  · rintro ⟨address, blanks1, size, blanks2, rest, hline, hb1, hsize, hb2, hrest⟩
    have hnot : ¬ atBlank rest := by
      rintro ⟨c, hc, hblank⟩
      rw [hrest c (List.mem_of_mem_head? hc)] at hblank
      exact Bool.false_ne_true hblank
    rw [nrf52fwParseSegmentInfoLine_of_head hos
      ⟨address, blanks1, size, blanks2, hline, hb1, hsize, hb2, hnot, rfl, rfl⟩,
      scanFileName_eq_none_iff.mpr hrest]

/-- What is accepted is a segment. -/
theorem segmentText_of_nrf52fwParseSegmentInfoLine {line : List Char} {segment : Segment}
    (h : nrf52fwParseSegmentInfoLine osStrToUint32Cptr line = some (some segment)) :
    SegmentText line segment := by
  by_cases hhead : ∃ addr len rest, Head line addr len rest
  · obtain ⟨addr, len, rest, hhead⟩ := hhead
    rw [nrf52fwParseSegmentInfoLine_of_head hos hhead] at h
    obtain ⟨address, blanks1, size, blanks2, rfl, hb1, -, hb2, hrest, rfl, rfl⟩ := hhead
    split at h
    · exact absurd h (by simp)
    rename_i fileName strEnd hscan
    obtain ⟨rfl, hname, hend⟩ := of_scanFileName hscan
    split at h
    · exact absurd h (by simp)
    rename_i hlen
    split at h
    · exact absurd h (by simp)
    rename_i hcrc
    obtain rfl := Option.some.inj (Option.some.inj h)
    have hne : fileName ≠ [] := by
      rintro rfl
      exact hrest hend
    have hread : strtoul strEnd 16 = ((strtoul strEnd 16).1, []) :=
      Prod.ext rfl (not_not.mp hcrc)
    rcases (strtoul_eq_nil_iff (by decide)).mp hread with ⟨rfl, -⟩ | ⟨crc, htext, hvalue⟩
    · obtain ⟨c, hc, -⟩ := hend
      exact absurd hc (by simp)
    · refine ⟨address, blanks1, size, blanks2, crc, ?_, hb1, hb2, hne, hname,
        Nat.lt_of_not_le hlen, ?_, rfl, rfl, hvalue⟩
      · rw [htext]
      · rw [htext]
        exact hend
  · rw [nrf52fwParseSegmentInfoLine_of_not_head hos fun addr len rest hh =>
      hhead ⟨addr, len, rest, hh⟩] at h
    exact absurd (Option.some.inj h) (by simp)

/-- **Which lines are parsed within their bounds**: all but those that have no blank behind the
size and the blanks that follow it. -/
theorem parsesWithinBounds_iff (line : List Char) :
    ParsesWithinBounds osStrToUint32Cptr line ↔ ¬ NoBlankAfterSize line := by
  rw [← nrf52fwParseSegmentInfoLine_eq_none_iff hos]
  constructor
  · rintro ⟨result, hparsed, -⟩ hnone
    exact absurd (hparsed.symm.trans hnone) (by simp)
  · intro hsome
    obtain ⟨result, hparsed⟩ := Option.ne_none_iff_exists'.mp hsome
    refine ⟨result, hparsed, ?_⟩
    rintro segment rfl
    exact segmentText_of_nrf52fwParseSegmentInfoLine hos hparsed

omit hos

/-! ## A line without a CRC -/

/-- `"0x00001000 151016 segment_2.bin 0x0e326e66"` has a blank behind the size. -/
theorem not_noBlankAfterSize_segment :
    ¬ NoBlankAfterSize "0x00001000 151016 segment_2.bin 0x0e326e66".toList := by
  have hparsed : nrf52fwParseSegmentInfoLine strtoul
      "0x00001000 151016 segment_2.bin 0x0e326e66".toList =
        some (some ⟨0x1000, 151016, "segment_2.bin".toList, 0x0e326e66⟩) := by
    decide +kernel
  refine (parsesWithinBounds_iff (fun _ _ => rfl) _).mp ⟨_, hparsed, ?_⟩
  intro segment h
  obtain rfl := Option.some.inj h
  exact segmentText_of_nrf52fwParseSegmentInfoLine (fun _ _ => rfl) hparsed

/-- `"0x1000 5 f"` is cut off in the name, and the loop reads on. -/
theorem not_parsesWithinBounds_truncated :
    nrf52fwParseSegmentInfoLine strtoul "0x1000 5 f".toList = none ∧
      ¬ ParsesWithinBounds strtoul "0x1000 5 f".toList := by
  have hnone : nrf52fwParseSegmentInfoLine strtoul "0x1000 5 f".toList = none := by decide +kernel
  refine ⟨hnone, ?_⟩
  rintro ⟨result, hparsed, -⟩
  exact absurd (hparsed.symm.trans hnone) (by simp)

end Nrf52Fw
end RuuviGateway
