import Mathlib.Data.List.Basic

/-!
# String buffers that are written twice

A string buffer without memory counts what is printed to it; memory of that size and one byte
for the NUL is then allocated, and what is printed again goes there.  `Api` has the operations,
and a buffer is seen as a `View`: the number of bytes counted, or the size of the memory and the
text in it.

`Prints f t` says that a program `f` prints the text `t` to whatever buffer it is given.
`Prints.alloc` is the rule for the two passes.
-/

namespace StrBuf

universe u

/-- What there is to know of a buffer. -/
inductive View where
  | counting (len : Nat)
  | holding (size : Nat) (text : List UInt8)
  deriving DecidableEq, Repr

/-- The operations; memory may be missing. -/
structure Api (B : Type u) where
  null : B
  printf : B → List UInt8 → B
  isOverflow : B → Bool
  initWithAlloc : Bool → B → Option B

/-- What the operations do. -/
structure Api.Lawful {B : Type u} (A : Api B) (view : B → View) : Prop where
  null : view A.null = .counting 0
  printf_counting : ∀ {d n} t, view d = .counting n → view (A.printf d t) = .counting (n + t.length)
  printf_holding : ∀ {d size w t}, view d = .holding size w → w.length + t.length < size →
    view (A.printf d t) = .holding size (w ++ t)
  isOverflow_counting : ∀ {d n}, view d = .counting n → A.isOverflow d = false
  isOverflow_holding : ∀ {d size w}, view d = .holding size w → w.length < size →
    A.isOverflow d = false
  alloc : ∀ {d n}, view d = .counting n →
    ∃ e, A.initWithAlloc true d = some e ∧ view e = .holding (n + 1) []

variable {B : Type u} {A : Api B} {view : B → View}

/-- The program prints the text to every buffer. -/
structure Prints (view : B → View) (f : B → B) (t : List UInt8) : Prop where
  counting : ∀ {d n}, view d = .counting n → view (f d) = .counting (n + t.length)
  holding : ∀ {d size w}, view d = .holding size w → w.length + t.length < size →
    view (f d) = .holding size (w ++ t)

theorem Prints.nothing : Prints view id [] where
  counting h := h
  holding h _ := by
    rw [List.append_nil]
    exact h

theorem Api.Lawful.prints (hA : A.Lawful view) (t : List UInt8) :
    Prints view (A.printf · t) t where
  counting h := hA.printf_counting t h
  holding h hfit := hA.printf_holding h hfit

/-- One program after the other. -/
theorem Prints.comp {f g : B → B} {t t' : List UInt8} (hg : Prints view g t')
    (hf : Prints view f t) : Prints view (g ∘ f) (t ++ t') where
  counting h := by
    have hlen := hg.counting (hf.counting h)
    rw [Nat.add_assoc, ← List.length_append] at hlen
    exact hlen
  holding h hfit := by
    rw [List.length_append] at hfit
    have hroom := hf.holding h (by omega)
    rw [← List.append_assoc]
    refine hg.holding hroom ?_
    rw [List.length_append]
    omega

/-- Nothing is cut off where the text fits. -/
theorem Prints.isOverflow {f : B → B} {t : List UInt8} (h : Prints view f t)
    (hA : A.Lawful view) {d : B} {size : Nat} {w : List UInt8} (hd : view d = .holding size w)
    (hfit : w.length + t.length < size) : A.isOverflow (f d) = false := by
  refine hA.isOverflow_holding (h.holding hd hfit) ?_
  rw [List.length_append]
  exact hfit

/-- **Two passes**: the first one counts, memory is allocated, and the second one writes. -/
theorem Prints.alloc {f : B → B} {t : List UInt8} (h : Prints view f t) (hA : A.Lawful view) :
    ∃ e, A.initWithAlloc true (f A.null) = some e ∧ view e = .holding (t.length + 1) [] ∧
      view (f e) = .holding (t.length + 1) t := by
  have hcount := h.counting hA.null
  rw [Nat.zero_add] at hcount
  obtain ⟨e, he, hview⟩ := hA.alloc hcount
  exact ⟨e, he, hview, h.holding hview (by simp)⟩

/-! ## Texts of characters -/

/-- The bytes of a text of characters of one byte each. -/
def bytes (text : List Char) : List UInt8 := text.map fun c => UInt8.ofNat c.toNat

@[simp] theorem length_bytes (text : List Char) : (bytes text).length = text.length :=
  List.length_map _

@[simp] theorem bytes_append (s t : List Char) : bytes (s ++ t) = bytes s ++ bytes t :=
  List.map_append

/-! ## A lawful buffer -/

/-- What is known of a buffer is a buffer itself. -/
def viewApi : Api View where
  null := .counting 0
  printf
    | .counting n, t => .counting (n + t.length)
    | .holding size w, t => .holding size ((w ++ t).take size)
  isOverflow
    | .counting _ => false
    | .holding size w => decide (size ≤ w.length)
  initWithAlloc memory d :=
    match memory, d with
    | true, .counting n => some (.holding (n + 1) [])
    | _, _ => none

theorem lawful_viewApi : viewApi.Lawful id where
  null := rfl
  printf_counting t h := by
    cases h
    rfl
  printf_holding {d size w t} h hfit := by
    cases h
    refine congrArg (View.holding size) (List.take_of_length_le ?_)
    rw [List.length_append]
    omega
  isOverflow_counting h := by
    cases h
    rfl
  isOverflow_holding h hfit := by
    cases h
    exact decide_eq_false (by omega)
  alloc h := by
    cases h
    exact ⟨_, rfl, rfl⟩

end StrBuf
