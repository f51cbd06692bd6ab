import Mathlib.Algebra.GroupWithZero.Nat
import Mathlib.Data.List.Basic
import Mathlib.Data.List.TakeWhile

/-!
# C strings in fixed buffers

A C string is written here as the list of its characters, one for each byte and without the
terminating NUL.  `Buf n` is a `char[n]` that holds a C string, so the characters leave room
for the NUL; `snprintf` fills one and cuts what does not fit.

`Mem n` is a piece of memory of `n` bytes in which several buffers lie, as the members of a
union do: a string is read from an offset up to the first NUL, wherever the buffer that it
was written to ends.
-/

namespace CString

/-- The terminating character. -/
def nul : Char := '\x00'

/-- The C string at the start of `mem`. -/
def str (mem : List Char) : List Char := mem.takeWhile fun c => c != nul

theorem nul_notMem_str (mem : List Char) : nul ∉ str mem := by
  intro h
  have hne := List.mem_takeWhile_imp h
  simp at hne

theorem str_eq_self {s : List Char} (h : nul ∉ s) : str s = s := by
  refine List.takeWhile_eq_self_iff.mpr fun c hc => ?_
  simp only [bne_iff_ne, ne_eq]
  rintro rfl
  exact h hc

theorem str_append_nul {s : List Char} (h : nul ∉ s) (rest : List Char) :
    str (s ++ nul :: rest) = s := by
  induction s with
  | nil => rfl
  | cons c s ih =>
    have hc : c ≠ nul := fun he => h (he ▸ List.mem_cons_self)
    have hs : nul ∉ s := fun hm => h (List.mem_cons_of_mem c hm)
    rw [List.cons_append, str, List.takeWhile_cons_of_pos (by simpa using hc)]
    exact congrArg (c :: ·) (ih hs)

theorem nul_notMem_take {s : List Char} (h : nul ∉ s) (n : Nat) : nul ∉ s.take n :=
  fun hm => h (List.mem_of_mem_take hm)

/-- A string that ends inside the first `n` bytes does not depend on the others. -/
theorem str_eq_of_take {a b : List Char} {n : Nat} (h : a.take n = b.take n)
    (hlen : (str a).length < n) : str b = str a := by
  induction n generalizing a b with
  | zero => omega
  | succ n ih =>
    cases a with
    | nil =>
      have hb : b = [] := by simpa using h.symm
      rw [hb]
    | cons c a =>
      cases b with
      | nil => simp at h
      | cons d b =>
        simp only [List.take_succ_cons, List.cons.injEq] at h
        obtain ⟨rfl, hrest⟩ := h
        by_cases hc : c = nul
        · subst hc
          rfl
        · have hcons : ∀ l : List Char, str (c :: l) = c :: str l := fun l =>
            List.takeWhile_cons_of_pos (by simpa using hc)
          rw [hcons, List.length_cons] at hlen
          rw [hcons, hcons, ih hrest (by omega)]

/-- The string of an array of `n` bytes is what fits into it of the C string that begins there. -/
theorem str_take (mem : List Char) (n : Nat) : str (mem.take n) = (str mem).take n := by
  induction mem generalizing n with
  | nil => simp [str]
  | cons c mem ih =>
    cases n with
    | zero => simp [str]
    | succ n =>
      by_cases hc : c = nul
      · subst hc
        rfl
      · have hcons : ∀ l : List Char, str (c :: l) = c :: str l := fun l =>
          List.takeWhile_cons_of_pos (by simpa using hc)
        rw [List.take_succ_cons, hcons, hcons, List.take_succ_cons, ih]

/-- The number of bytes that `strcmp` reads of each of two strings. -/
def strcmpReads : List Char → List Char → Nat
  | a :: as, b :: bs => if a = b ∧ a ≠ nul then strcmpReads as bs + 1 else 1
  | _, _ => 0

/-- `strcmp` does not read past the end of the second string. -/
theorem strcmpReads_le (a b : List Char) : strcmpReads a b ≤ (str b).length + 1 := by
  induction a generalizing b with
  | nil => simp [strcmpReads]
  | cons x a ih =>
    cases b with
    | nil => simp [strcmpReads]
    | cons y b =>
      rw [strcmpReads]
      split
      · rename_i h
        obtain ⟨rfl, hx⟩ := h
        have hcons : str (x :: b) = x :: str b := List.takeWhile_cons_of_pos (by simpa using hx)
        rw [hcons, List.length_cons]
        exact Nat.add_le_add_right (ih b) 1
      · omega

/-! ## Buffers -/

/-- A `char[n]` that holds a C string. -/
structure Buf (n : Nat) where
  chars : List Char
  length_lt : chars.length < n
  nul_notMem : nul ∉ chars
  deriving DecidableEq

variable {n : Nat}

@[ext] theorem Buf.ext {a b : Buf n} (h : a.chars = b.chars) : a = b := by
  cases a
  cases b
  congr

/-- `snprintf(buf, n, "%s", s)`. -/
def snprintf (n : Nat) [NeZero n] (s : List Char) : Buf n where
  chars := (str s).take (n - 1)
  length_lt := by
    have hn := Nat.pos_of_ne_zero (NeZero.ne n)
    have hlen := List.length_take_le (n - 1) (str s)
    omega
  nul_notMem := nul_notMem_take (nul_notMem_str s) _

/-- The empty string. -/
def Buf.empty (n : Nat) [NeZero n] : Buf n := snprintf n []

/-- What fits is copied as it is. -/
theorem snprintf_chars_eq [NeZero n] {s : List Char} (h : nul ∉ s) (hlen : s.length < n) :
    (snprintf n s).chars = s := by
  simp only [snprintf, str_eq_self h]
  exact List.take_of_length_le (by omega)

@[simp] theorem snprintf_chars [NeZero n] (b : Buf n) : snprintf n b.chars = b :=
  Buf.ext (snprintf_chars_eq b.nul_notMem b.length_lt)

/-! ## Overlaid buffers -/

/-- `n` bytes of memory. -/
structure Mem (n : Nat) where
  bytes : List Char
  length_eq : bytes.length = n
  deriving DecidableEq

/-- All bytes are zero. -/
def Mem.zero (n : Nat) : Mem n := ⟨List.replicate n nul, List.length_replicate⟩

/-- The C string at an offset. -/
def Mem.read (m : Mem n) (off : Nat) : List Char := str (m.bytes.drop off)

/-- What `snprintf` writes into a buffer of `size` bytes. -/
def written (size : Nat) (s : List Char) : List Char := (str s).take (size - 1)

theorem nul_notMem_written (size : Nat) (s : List Char) : nul ∉ written size s :=
  nul_notMem_take (nul_notMem_str s) _

theorem written_length_lt {size : Nat} (hpos : 0 < size) (s : List Char) :
    (written size s).length < size := by
  have hlen := List.length_take_le (size - 1) (str s)
  unfold written
  omega

theorem written_eq_self {size : Nat} {s : List Char} (h : nul ∉ s) (hlen : s.length < size) :
    written size s = s := by
  rw [written, str_eq_self h]
  exact List.take_of_length_le (by omega)

/-- `snprintf(mem + off, size, "%s", s)`. -/
def Mem.write (m : Mem n) (off size : Nat) (h : 0 < size ∧ off + size ≤ n) (s : List Char) :
    Mem n where
  bytes := m.bytes.take off ++ (written size s ++
    nul :: m.bytes.drop (off + (written size s).length + 1))
  length_eq := by
    have hw := written_length_lt h.1 s
    have hlen := m.length_eq
    simp only [List.length_append, List.length_take, List.length_cons, List.length_drop]
    omega

theorem Mem.nul_notMem_read (m : Mem n) (off : Nat) : nul ∉ m.read off := nul_notMem_str _

theorem Mem.read_zero (off : Nat) : (Mem.zero n).read off = [] := by
  simp only [Mem.read, Mem.zero, List.drop_replicate, str]
  cases n - off with
  | zero => rfl
  | succ k => simp [List.replicate_succ]

variable {m : Mem n} {off size : Nat} {h : 0 < size ∧ off + size ≤ n}

/-- A string is read back as far as it fitted. -/
theorem Mem.read_write_self (m : Mem n) (h : 0 < size ∧ off + size ≤ n) (s : List Char) :
    (m.write off size h s).read off = written size s := by
  have htake : (m.bytes.take off).length = off := by
    rw [List.length_take, m.length_eq]
    omega
  have hdrop : (m.write off size h s).bytes.drop off =
      written size s ++ nul :: m.bytes.drop (off + (written size s).length + 1) :=
    List.drop_left' htake
  rw [Mem.read, hdrop]
  exact str_append_nul (nul_notMem_written size s) _

/-- The bytes below the buffer are not affected. -/
theorem Mem.take_drop_write (m : Mem n) (h : 0 < size ∧ off + size ≤ n) (s : List Char) (o : Nat) :
    ((m.write off size h s).bytes.drop o).take (off - o) = (m.bytes.drop o).take (off - o) := by
  have htake : (m.bytes.take off).length = off := by
    rw [List.length_take, m.length_eq]
    omega
  have hdrop : ((m.write off size h s).bytes.drop o).take (off - o) =
      ((m.write off size h s).bytes.take off).drop o := (List.drop_take ..).symm
  have hpre : (m.write off size h s).bytes.take off = m.bytes.take off :=
    List.take_left' htake
  rw [hdrop, hpre, List.drop_take]

/-- A string that ends below the buffer is not affected. -/
theorem Mem.read_write_of_lt {o : Nat} (s : List Char) (hlt : o + (m.read o).length < off) :
    (m.write off size h s).read o = m.read o :=
  str_eq_of_take (m.take_drop_write h s o).symm (by unfold Mem.read at hlt; omega)

/-- A string that ends below the buffer after the write did so before. -/
theorem Mem.read_of_write_lt {o : Nat} (s : List Char)
    (hlt : o + ((m.write off size h s).read o).length < off) :
    m.read o = (m.write off size h s).read o :=
  str_eq_of_take (m.take_drop_write h s o) (by unfold Mem.read at hlt; omega)

/-- Neither is a string above it. -/
theorem Mem.read_write_of_ge {o : Nat} (s : List Char) (hge : off + size ≤ o) :
    (m.write off size h s).read o = m.read o := by
  have hw := written_length_lt h.1 s
  have htake : (m.bytes.take off).length = off := by
    rw [List.length_take, m.length_eq]
    omega
  have hsplit : (m.write off size h s).bytes =
      (m.bytes.take off ++ written size s ++ [nul]) ++
        m.bytes.drop (off + (written size s).length + 1) := by
    simp [Mem.write]
  have hlen : (m.bytes.take off ++ written size s ++ [nul]).length =
      off + (written size s).length + 1 := by
    simp only [List.length_append, htake, List.length_singleton]
  unfold Mem.read
  rw [hsplit, List.drop_append, hlen, List.drop_eq_nil_of_le (by omega), List.nil_append,
    List.drop_drop]
  congr 2
  omega

/-- After a write every string from below ends in the buffer at the latest. -/
theorem Mem.read_write_length {o : Nat} (s : List Char) (hle : o ≤ off) :
    ((m.write off size h s).read o).length < off + size - o := by
  have hw := written_length_lt h.1 s
  have htake : (m.bytes.take off).length = off := by
    rw [List.length_take, m.length_eq]
    omega
  have hsplit : (m.write off size h s).bytes.drop o =
      (m.bytes.take off ++ written size s).drop o ++
        nul :: m.bytes.drop (off + (written size s).length + 1) := by
    rw [← List.drop_append_of_le_length (by simp only [List.length_append, htake]; omega)]
    simp [Mem.write]
  have hpre : ∀ p q : List Char, (str (p ++ nul :: q)).length ≤ p.length := by
    intro p q
    induction p with
    | nil => simp [str]
    | cons c p ih =>
      by_cases hc : c = nul
      · subst hc
        simp [str]
      · rw [List.cons_append, str, List.takeWhile_cons_of_pos (by simpa using hc)]
        exact Nat.succ_le_succ ih
  have hlen := hpre ((m.bytes.take off ++ written size s).drop o)
    (m.bytes.drop (off + (written size s).length + 1))
  simp only [List.length_drop, List.length_append, htake] at hlen
  unfold Mem.read
  rw [hsplit]
  omega

end CString
