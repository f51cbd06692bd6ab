import Mathlib.Data.List.Basic
import Mathlib.Data.Option.Basic

/-!
# Lines of samples

A text format for measurements: every line has the name of a metric, labels in braces if there
are any, and a number.  Empty lines and comments are passed over.  In the value of a label a
backslash, a quotation mark and a line feed are escaped.

Only integers are read, there is no optional blank, and a line has no timestamp.

`parse_render` is the round trip.  A program that writes its lines without regard to the escapes
is covered by `parse_unlines`, which takes a document line by line.
-/

namespace Exposition

/-- A line of the format. -/
structure Sample where
  name : List Char
  labels : List (List Char × List Char)
  value : Int
  deriving DecidableEq, Repr

/-! ## Writing -/

/-- A character in the value of a label. -/
def escape : Char → List Char
  | '\\' => ['\\', '\\']
  | '"' => ['\\', '"']
  | '\n' => ['\\', 'n']
  | c => [c]

/-- The value of a label, up to the closing quotation mark. -/
def quote (v : List Char) : List Char := v.flatMap escape

def label (l : List Char × List Char) : List Char := l.1 ++ '=' :: '"' :: (quote l.2 ++ ['"'])

def labelList : List (List Char × List Char) → List Char
  | [] => []
  | l => '{' :: ([','].intercalate (l.map label) ++ ['}'])

def number (v : Int) : List Char :=
  if v < 0 then '-' :: Nat.toDigits 10 v.natAbs else Nat.toDigits 10 v.natAbs

/-- A sample without the line feed. -/
def Sample.line (s : Sample) : List Char := s.name ++ labelList s.labels ++ ' ' :: number s.value

/-- Lines, each with its line feed. -/
def unlines (ls : List (List Char)) : List Char := ls.flatMap (· ++ ['\n'])

def render (l : List Sample) : List Char := unlines (l.map Sample.line)

/-! ## Reading -/

def isNameChar (c : Char) : Bool := c.isAlphanum || c == '_' || c == ':'

def isLabelChar (c : Char) : Bool := c.isAlphanum || c == '_'

/-- A name does not begin with a digit. -/
def isName (isChar : Char → Bool) (s : List Char) : Bool :=
  s.all isChar && s.head?.any fun c => !c.isDigit

def readNat (d : List Char) : Option Nat :=
  if d ≠ [] ∧ d.all Char.isDigit then some (Nat.ofDigitChars 10 d 0) else none

def readNumber : List Char → Option Int
  | '-' :: d => (readNat d).map fun n : Nat => -(n : Int)
  | d => (readNat d).map fun n : Nat => (n : Int)

/-- A number at the end of a line. -/
def readValue : List Char → Option Int
  | ' ' :: r => readNumber r
  | _ => none

/-- The value of a label and what follows the closing quotation mark. -/
def unquote : List Char → Option (List Char × List Char)
  | [] => none
  | '"' :: r => some ([], r)
  | '\\' :: '\\' :: r => (unquote r).map fun p => ('\\' :: p.1, p.2)
  | '\\' :: '"' :: r => (unquote r).map fun p => ('"' :: p.1, p.2)
  | '\\' :: 'n' :: r => (unquote r).map fun p => ('\n' :: p.1, p.2)
  | '\\' :: _ => none
  | c :: r => (unquote r).map fun p => (c :: p.1, p.2)

/-- At most `n` labels and the closing brace. -/
def readLabels : Nat → List Char → Option (List (List Char × List Char) × List Char)
  | 0, _ => none
  | n + 1, s =>
    let name := s.takeWhile isLabelChar
    match s.dropWhile isLabelChar with
    | '=' :: '"' :: r =>
      if isName isLabelChar name then
        (unquote r).bind fun p =>
          match p.2 with
          | ',' :: r => (readLabels n r).map fun q => ((name, p.1) :: q.1, q.2)
          | '}' :: r => some ([(name, p.1)], r)
          | _ => none
      else none
    | _ => none

/-- One line. -/
def parseLine (s : List Char) : Option Sample :=
  let name := s.takeWhile isNameChar
  if isName isNameChar name then
    match s.dropWhile isNameChar with
    | '{' :: r => (readLabels r.length r).bind fun p =>
        (readValue p.2).map fun v => ⟨name, p.1, v⟩
    | r => (readValue r).map fun v => ⟨name, [], v⟩
  else none

/-- The line is empty or a comment. -/
def isPassedOver (s : List Char) : Bool := s.head?.all (· == '#')

/-- A document ends with a line feed. -/
def parse (s : List Char) : Option (List Sample) :=
  let ls := s.splitOn '\n'
  if ls.getLast? = some [] then (ls.dropLast.filter fun l => !isPassedOver l).mapM parseLine
  else none

/-! ## Pieces of a line -/

/-- What a scan takes is exactly the piece, where the next character ends it. -/
theorem scan_append {p : Char → Bool} {s : List Char} {c : Char} (hs : ∀ x ∈ s, p x = true)
    (hc : p c = false) (r : List Char) :
    (s ++ c :: r).takeWhile p = s ∧ (s ++ c :: r).dropWhile p = c :: r := by
  rw [List.takeWhile_append_of_pos hs, List.dropWhile_append_of_pos hs]
  simp [hc]

@[simp] theorem readNat_toDigits (n : Nat) : readNat (Nat.toDigits 10 n) = some n := by
  have hdigits : (Nat.toDigits 10 n).all Char.isDigit = true :=
    List.all_eq_true.mpr fun c hc => Nat.isDigit_of_mem_toDigits (by decide) (by decide) hc
  rw [readNat, if_pos ⟨Nat.toDigits_ne_nil, hdigits⟩, Nat.ofDigitChars_ten_toDigits]

/-- A number without a sign is read as it is. -/
theorem readNumber_of_digits {d : List Char} {n : Nat} (h : readNat d = some n) :
    readNumber d = some (n : Int) := by
  unfold readNumber
  split
  · rename_i d
    have hd := (Option.ite_none_right_eq_some.mp h).1.2
    rw [List.all_cons] at hd
    exact absurd (Bool.and_eq_true_iff.mp hd).1 (by decide)
  · rw [h, Option.map_some]

@[simp] theorem readNumber_number (v : Int) : readNumber (number v) = some v := by
  unfold number
  split
  · simp only [readNumber, readNat_toDigits, Option.map_some]
    refine congrArg some ?_
    omega
  · rw [readNumber_of_digits (readNat_toDigits _)]
    refine congrArg some ?_
    omega

/-- The escapes of a value are undone, and the closing quotation mark ends it. -/
@[simp] theorem unquote_quote (v r : List Char) : unquote (quote v ++ '"' :: r) = some (v, r) := by
  induction v with
  | nil => simp [quote, unquote]
  | cons c v ih =>
    have hcons : quote (c :: v) ++ '"' :: r = escape c ++ (quote v ++ '"' :: r) := by
      simp [quote]
    rw [hcons]
    unfold escape
    split
    · simp [unquote, ih]
    · simp [unquote, ih]
    · simp [unquote, ih]
    · rename_i hbackslash hquote hnewline
      rw [List.singleton_append]
      unfold unquote
      split <;> simp_all

/-! ## A line -/

/-- The names are names. -/
structure Sample.WellNamed (s : Sample) : Prop where
  name : isName isNameChar s.name = true
  labels : ∀ l ∈ s.labels, isName isLabelChar l.1 = true

theorem forall_of_isName {p : Char → Bool} {s : List Char} (h : isName p s = true) :
    ∀ c ∈ s, p c = true :=
  List.all_eq_true.mp (Bool.and_eq_true_iff.mp h).1

theorem length_le_intercalate (sep : List Char) {ls : List (List Char)} (h : ∀ x ∈ ls, x ≠ []) :
    ls.length ≤ (sep.intercalate ls).length := by
  induction ls with
  | nil => exact Nat.le_refl 0
  | cons x ls ih =>
    have hx := List.length_pos_iff.mpr (h x List.mem_cons_self)
    have ih := ih fun y hy => h y (List.mem_cons_of_mem x hy)
    cases ls with
    | nil =>
      simp only [List.intercalate, List.intersperse_singleton, List.flatten_singleton,
        List.length_singleton]
      exact hx
    | cons y ls =>
      have htext : sep.intercalate (x :: y :: ls) = x ++ sep ++ sep.intercalate (y :: ls) := by
        simp [List.intercalate]
      rw [htext, List.length_append, List.length_append, List.length_cons]
      omega

theorem notMem_intercalate {sep : List Char} {ls : List (List Char)} {c : Char} (hsep : c ∉ sep)
    (h : ∀ x ∈ ls, c ∉ x) : c ∉ sep.intercalate ls := by
  induction ls with
  | nil => simp [List.intercalate]
  | cons x ls ih =>
    have hx := h x List.mem_cons_self
    have ih := ih fun y hy => h y (List.mem_cons_of_mem x hy)
    cases ls with
    | nil => simpa [List.intercalate] using hx
    | cons y ls =>
      have htext : sep.intercalate (x :: y :: ls) = x ++ sep ++ sep.intercalate (y :: ls) := by
        simp [List.intercalate]
      rw [htext, List.mem_append, List.mem_append]
      rintro ((hmem | hmem) | hmem)
      · exact hx hmem
      · exact hsep hmem
      · exact ih hmem

/-- Labels are read to the closing brace. -/
theorem readLabels_label {l : List (List Char × List Char)} (r : List Char) (hne : l ≠ [])
    (h : ∀ x ∈ l, isName isLabelChar x.1 = true) {n : Nat} (hn : l.length ≤ n) :
    readLabels n ([','].intercalate (l.map label) ++ '}' :: r) = some (l, r) := by
  induction l generalizing n with
  | nil => exact absurd rfl hne
  | cons x l ih =>
    obtain ⟨name, v⟩ := x
    obtain ⟨n, rfl⟩ : ∃ m, n = m + 1 := ⟨n - 1, by rw [List.length_cons] at hn; omega⟩
    have hname : isName isLabelChar name = true := h (name, v) List.mem_cons_self
    have hscan := scan_append (c := '=') (forall_of_isName hname) (by decide)
    cases l with
    | nil =>
      have htext : [','].intercalate ([(name, v)].map label) ++ '}' :: r =
          name ++ '=' :: '"' :: (quote v ++ '"' :: '}' :: r) := by
        simp [List.intercalate, label]
      rw [htext, readLabels]
      simp only [hscan, hname, if_true, unquote_quote, Option.bind_some]
    | cons y l =>
      have htext : [','].intercalate (((name, v) :: y :: l).map label) ++ '}' :: r =
          name ++ '=' :: '"' :: (quote v ++ '"' :: ',' ::
            ([','].intercalate ((y :: l).map label) ++ '}' :: r)) := by
        simp [List.intercalate, label]
      have hrest := ih (n := n) (by simp) (fun z hz => h z (List.mem_cons_of_mem _ hz))
        (by simpa using hn)
      rw [htext, readLabels]
      simp only [hscan, hname, if_true, unquote_quote, Option.bind_some, hrest, Option.map_some]

/-- **A line is read back.** -/
theorem parseLine_line {s : Sample} (h : s.WellNamed) : parseLine s.line = some s := by
  obtain ⟨name, labels, value⟩ := s
  have hname : isName isNameChar name = true := h.name
  cases labels with
  | nil =>
    have htext : Sample.line ⟨name, [], value⟩ = name ++ ' ' :: number value := by
      simp [Sample.line, labelList]
    have hscan := scan_append (c := ' ') (forall_of_isName hname) (by decide) (number value)
    rw [htext, parseLine, hscan.1, hscan.2, if_pos hname]
    simp [readValue]
  | cons x l =>
    have htext : Sample.line ⟨name, x :: l, value⟩ =
        name ++ '{' :: ([','].intercalate ((x :: l).map label) ++ '}' :: ' ' :: number value) := by
      simp [Sample.line, labelList]
    have hscan := scan_append (c := '{') (forall_of_isName hname) (by decide)
      ([','].intercalate ((x :: l).map label) ++ '}' :: ' ' :: number value)
    have hcount : (x :: l).length ≤
        ([','].intercalate ((x :: l).map label) ++ '}' :: ' ' :: number value).length := by
      have hne : ∀ y ∈ (x :: l).map label, y ≠ [] := by
        intro y hy
        obtain ⟨z, -, rfl⟩ := List.mem_map.mp hy
        simp [label]
      have hlen := length_le_intercalate [','] hne
      rw [List.length_map] at hlen
      rw [List.length_append]
      omega
    have hread := readLabels_label (' ' :: number value) (List.cons_ne_nil x l) h.labels hcount
    rw [htext, parseLine, hscan.1, hscan.2, if_pos hname]
    simp only [hread, Option.bind_some, readValue, readNumber_number, Option.map_some]

/-! ## A document -/

/-- A document is read line by line. -/
theorem parse_unlines {ls : List (List Char)} (h : ∀ l ∈ ls, '\n' ∉ l) :
    parse (unlines ls) = (ls.filter fun l => !isPassedOver l).mapM parseLine := by
  have htext : unlines ls = ['\n'].intercalate (ls ++ [[]]) := by
    induction ls with
    | nil => rfl
    | cons l ls ih =>
      have ih := ih fun x hx => h x (List.mem_cons_of_mem l hx)
      have hcons : unlines (l :: ls) = l ++ '\n' :: unlines ls := by simp [unlines]
      rw [hcons, ih]
      cases ls with
      | nil => simp [List.intercalate]
      | cons x ls => simp [List.intercalate]
  have hsplit : (unlines ls).splitOn '\n' = ls ++ [[]] := by
    rw [htext]
    refine List.splitOn_intercalate _ ?_ ?_
    · intro l hl
      obtain hl | hl := List.mem_append.mp hl
      · exact h l hl
      · simp [List.mem_singleton.mp hl]
    · simp
  rw [parse, hsplit]
  simp

theorem newline_notMem_quote (v : List Char) : '\n' ∉ quote v := by
  intro h
  obtain ⟨c, -, hc⟩ := List.mem_flatMap.mp h
  unfold escape at hc
  split at hc
  · simp at hc
  · simp at hc
  · simp at hc
  · rename_i hne
    exact hne (List.mem_singleton.mp hc).symm

theorem newline_notMem_number (v : Int) : '\n' ∉ number v := by
  have hdigits (n : Nat) : '\n' ∉ Nat.toDigits 10 n := fun h =>
    absurd (Nat.isDigit_of_mem_toDigits (by decide) (by decide) h) (by decide)
  unfold number
  split
  · exact fun h => (List.mem_cons.mp h).elim (by decide) (hdigits _)
  · exact hdigits _

theorem newline_notMem_labelList {l : List (List Char × List Char)}
    (h : ∀ x ∈ l, isName isLabelChar x.1 = true) : '\n' ∉ labelList l := by
  have hlabel : ∀ x ∈ l, '\n' ∉ label x := by
    intro x hx hmem
    obtain hmem | hmem := List.mem_append.mp hmem
    · exact absurd (forall_of_isName (h x hx) _ hmem) (by decide)
    · simp [newline_notMem_quote] at hmem
  cases l with
  | nil => simp [labelList]
  | cons x l =>
    intro hmem
    simp only [labelList, List.mem_cons, List.mem_append] at hmem
    obtain hmem | hmem | hmem := hmem
    · exact absurd hmem (by decide)
    · refine notMem_intercalate (by decide) (fun t ht => ?_) hmem
      obtain ⟨y, hy, rfl⟩ := List.mem_map.mp ht
      exact hlabel y hy
    · exact absurd hmem (by decide)

theorem newline_notMem_line {s : Sample} (h : s.WellNamed) : '\n' ∉ s.line := by
  intro hmem
  simp only [Sample.line, List.mem_append, List.mem_cons] at hmem
  obtain (hmem | hmem) | hmem | hmem := hmem
  · exact absurd (forall_of_isName h.name _ hmem) (by decide)
  · exact newline_notMem_labelList h.labels hmem
  · exact absurd hmem (by decide)
  · exact newline_notMem_number _ hmem

/-- A line with a name is neither empty nor a comment. -/
theorem not_isPassedOver_line {s : Sample} (h : s.WellNamed) : isPassedOver s.line = false := by
  have hname := h.name
  obtain ⟨name, labels, value⟩ := s
  cases name with
  | nil => simp [isName] at hname
  | cons c name =>
    have hc := forall_of_isName hname c List.mem_cons_self
    simp only [isPassedOver, Sample.line, List.cons_append, List.head?_cons, Option.all_some,
      beq_eq_false_iff_ne]
    rintro rfl
    exact absurd hc (by decide)

/-- **The round trip.** -/
theorem parse_render {l : List Sample} (h : ∀ s ∈ l, s.WellNamed) : parse (render l) = some l := by
  have hlines : ∀ x ∈ l.map Sample.line, '\n' ∉ x ∧ isPassedOver x = false := by
    intro x hx
    obtain ⟨s, hs, rfl⟩ := List.mem_map.mp hx
    exact ⟨newline_notMem_line (h s hs), not_isPassedOver_line (h s hs)⟩
  rw [render, parse_unlines fun x hx => (hlines x hx).1,
    List.filter_eq_self.mpr fun x hx => by simp [(hlines x hx).2]]
  clear hlines
  induction l with
  | nil => rfl
  | cons s l ih =>
    rw [List.map_cons, List.mapM_cons, parseLine_line (h s List.mem_cons_self),
      ih fun x hx => h x (List.mem_cons_of_mem s hx)]
    rfl

/-- **A document with a line that cannot be read** cannot be read. -/
theorem parse_eq_none {ls : List (List Char)} (h : ∀ l ∈ ls, '\n' ∉ l) {l : List Char}
    (hl : l ∈ ls) (hpass : isPassedOver l = false) (hnone : parseLine l = none) :
    parse (unlines ls) = none := by
  have hmapM : ∀ xs : List (List Char), l ∈ xs → xs.mapM parseLine = none := by
    intro xs hxs
    induction xs with
    | nil => exact absurd hxs List.not_mem_nil
    | cons x xs ih =>
      rw [List.mapM_cons]
      obtain rfl | hmem := List.mem_cons.mp hxs
      · rw [hnone]
        rfl
      · rw [ih hmem]
        cases parseLine x <;> rfl
  rw [parse_unlines h]
  exact hmapM _ (List.mem_filter.mpr ⟨hl, by simp [hpass]⟩)

end Exposition
