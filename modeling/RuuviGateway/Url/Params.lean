import Mathlib.Data.List.Infix
import RuuviGateway.Url.Decode

/-!
# Looking up a parameter

`http_server_get_from_params` and `http_server_get_from_params_with_decoding` of
`http_server_cb.c`.  The parameters are text in memory that ends with a NUL, and a pointer into it
is an index, which may be as large as the length of the text.  What reads through a pointer
behind the NUL has no result, and neither has the loop when it is not left in the given number
of rounds.

The key ends with `=`, and is looked for as a substring; the loop goes on where it does not stand
at the start of the text or behind `&`.
-/

namespace RuuviGateway
namespace Url

open StrBuf Strtoul

universe u

/-! ## The lookup -/

section lookup

variable {α : Type} [DecidableEq α]

/-- `strstr(&s[i], key)`, as an index into `s`. -/
def strstrAt (s key : List α) (i : Nat) : Option (Option Nat) :=
  if i ≤ s.length then
    some (((s.drop i).tails.findIdx? fun rest => decide (key <+: rest)).map (i + ·))
  else none

variable (amp : α)

/-- The loop of `http_server_get_from_params`: what `p_param` is after it. -/
def paramLoop (s key : List α) : Nat → Nat → Option (Option Nat)
  | 0, _ => none
  | fuel + 1, i =>
      match strstrAt s key i with
      | none => none
      | some none => some none
      | some (some j) =>
          if j = 0 then some (some j)
          else
            match s[j - 1]? with
            | none => none
            | some c => if c = amp then some (some j) else paramLoop s key fuel (j + 1)

/-- `http_server_get_from_params`; the value is copied into memory. -/
def httpServerGetFromParams (memory : Bool) (fuel : Nat) (s key : List α) :
    Option (Option (List α)) :=
  match paramLoop amp s key fuel 0 with
  | none => none
  | some none => some none
  | some (some j) =>
      if j + key.length ≤ s.length then
        let value := (s.drop (j + key.length)).takeWhile (· ≠ amp)
        some (if memory then some value else none)
      else none

end lookup

/-- `'&'`. -/
def ampersand : UInt8 := 38

/-- `'='`. -/
def equalsSign : UInt8 := 61

/-- `http_server_get_from_params_with_decoding`; the two flags say whether there is memory for the
value and for the decoded value. -/
def httpServerGetFromParamsWithDecoding {B : Type u} (A : Api B) (charIsSigned : Bool)
    (osStrToUint32Cptr : List UInt8 → Nat → UInt32 × List UInt8) (memory memoryDecoded : Bool)
    (fuel : Nat) (s key : List UInt8) : Option B :=
  match httpServerGetFromParams ampersand memory fuel s key with
  | none => none
  | some none => some A.null
  | some (some value) =>
      some (urlDecodeWithAlloc A charIsSigned osStrToUint32Cptr memoryDecoded value)

/-! ## Where the loop stops -/

section scan

variable {α : Type} {s key : List α}

/-- A parameter begins here: at the start of the text, or behind `&`. -/
def Begins (amp : α) (s : List α) (i : Nat) : Prop := i = 0 ∨ s[i - 1]? = some amp

/-- The key stands where a parameter begins. -/
def KeyAt (amp : α) (s key : List α) (i : Nat) : Prop := Begins amp s i ∧ key <+: s.drop i

/-- It does so for the first time. -/
def FirstKeyAt (amp : α) (s key : List α) (i : Nat) : Prop :=
  KeyAt amp s key i ∧ ∀ k < i, ¬ KeyAt amp s key k

theorem lt_length_of_isPrefix (hkey : key ≠ []) {i : Nat} (h : key <+: s.drop i) :
    i + key.length ≤ s.length ∧ i < s.length := by
  have hlen := h.length_le
  have hpos := List.length_pos_iff.mpr hkey
  rw [List.length_drop] at hlen
  omega

variable [DecidableEq α]

/-- `strstr` finds the first place from `i` on. -/
theorem strstrAt_eq_some {i : Nat} (hi : i ≤ s.length) (hkey : key ≠ []) :
    ∃ r, strstrAt s key i = some r ∧
      match r with
      | none => ∀ k, i ≤ k → ¬ key <+: s.drop k
      | some j => i ≤ j ∧ key <+: s.drop j ∧ ∀ k, i ≤ k → k < j → ¬ key <+: s.drop k := by
  refine ⟨_, if_pos hi, ?_⟩
  cases hfind : (s.drop i).tails.findIdx? fun rest => decide (key <+: rest) with
  | none =>
    intro k hk hpre
    have hlt := (lt_length_of_isPrefix hkey hpre).2
    have hnone := List.findIdx?_eq_none_iff.mp hfind
    refine absurd hpre (of_decide_eq_false (hnone (s.drop k) ?_))
    rw [List.mem_tails]
    exact ⟨(s.drop i).take (k - i), by
      rw [← Nat.add_sub_cancel' hk, ← List.drop_drop, Nat.add_sub_cancel_left,
        List.take_append_drop]⟩
  | some j =>
    obtain ⟨hj, hpre, hfirst⟩ := List.findIdx?_eq_some_iff_getElem.mp hfind
    simp only [List.getElem_tails, List.drop_drop, decide_eq_true_eq] at hpre hfirst
    refine ⟨Nat.le_add_right i j, hpre, fun k hk (hlt : k < i + j) => ?_⟩
    have hno := hfirst (k - i) (by omega)
    rwa [Nat.add_sub_cancel' hk] at hno

variable {amp : α}

/-- **The loop ends**, without a read behind the end, where the key stands as a parameter for the
first time, if it does so at all. -/
theorem paramLoop_spec (hkey : key ≠ []) {fuel i : Nat} (hi : i ≤ s.length)
    (hfuel : s.length - i < fuel) (hbefore : ∀ k < i, ¬ KeyAt amp s key k) :
    ∃ r, paramLoop amp s key fuel i = some r ∧
      match r with
      | none => ∀ k, ¬ KeyAt amp s key k
      | some j => FirstKeyAt amp s key j := by
  induction fuel generalizing i with
  | zero => omega
  | succ fuel ih =>
    obtain ⟨r, hstrstr, hr⟩ := strstrAt_eq_some hi hkey
    rw [paramLoop, hstrstr]
    cases r with
    | none =>
      refine ⟨none, rfl, fun k hat => ?_⟩
      by_cases hk : k < i
      · exact hbefore k hk hat
      · exact hr k (by omega) hat.2
    | some j =>
      obtain ⟨hij, hpre, hbetween⟩ := hr
      have hlt := (lt_length_of_isPrefix hkey hpre).2
      have hnot : ∀ k < j, ¬ KeyAt amp s key k := by
        intro k hk hat
        by_cases hki : k < i
        · exact hbefore k hki hat
        · exact hbetween k (by omega) hk hat.2
      have hprev : s[j - 1]? = some s[j - 1] := List.getElem?_eq_getElem (by omega)
      simp only
      by_cases hj : j = 0
      · rw [if_pos hj]
        exact ⟨some j, rfl, ⟨.inl hj, hpre⟩, hnot⟩
      rw [if_neg hj, hprev]
      simp only
      by_cases hamp : s[j - 1] = amp
      · rw [if_pos hamp]
        exact ⟨some j, rfl, ⟨.inr (by rw [hprev, hamp]), hpre⟩, hnot⟩
      · rw [if_neg hamp]
        refine ih (by omega) (by omega) fun k hk hat => ?_
        rcases Nat.lt_succ_iff_lt_or_eq.mp hk with hk | rfl
        · exact hnot k hk hat
        · rcases hat.1 with h0 | hat'
          · exact hj h0
          · rw [hprev] at hat'
            exact hamp (Option.some.inj hat')

/-- The value of the key that stands at `i`. -/
def valueAt (amp : α) (s key : List α) (i : Nat) : List α :=
  (s.drop (i + key.length)).takeWhile (· ≠ amp)

theorem httpServerGetFromParams_spec (amp : α) (s : List α) (hkey : key ≠ []) (memory : Bool) :
    (∃ i, FirstKeyAt amp s key i ∧ httpServerGetFromParams amp memory (s.length + 1) s key =
        some (if memory then some (valueAt amp s key i) else none)) ∨
      (∀ i, ¬ KeyAt amp s key i) ∧
        httpServerGetFromParams amp memory (s.length + 1) s key = some none := by
  have hfuel : s.length - 0 < s.length + 1 := by omega
  have hbefore : ∀ k < 0, ¬ KeyAt amp s key k := fun k hk => absurd hk (Nat.not_lt_zero k)
  obtain ⟨r, hloop, hr⟩ := paramLoop_spec hkey (Nat.zero_le s.length) hfuel hbefore
  rw [httpServerGetFromParams, hloop]
  cases r with
  | none => exact .inr ⟨hr, rfl⟩
  | some j =>
    refine .inl ⟨j, hr, ?_⟩
    exact if_pos (lt_length_of_isPrefix hkey hr.1.2).1

end scan

/-! ## Names -/

/-- The parameter that begins at `i` has this name: the text from there up to a `=` is the key. -/
def NamedAt (s key : List UInt8) (i : Nat) : Prop :=
  Begins ampersand s i ∧
    ∃ j, i ≤ j ∧ s[j]? = some equalsSign ∧ (s.drop i).take (j + 1 - i) = key

/-- It is the first parameter of the name. -/
def FirstNamedAt (s key : List UInt8) (i : Nat) : Prop :=
  NamedAt s key i ∧ ∀ k < i, ¬ NamedAt s key k

variable {s name : List UInt8}

theorem namedAt_iff {i : Nat} : NamedAt s (name ++ [equalsSign]) i ↔
    KeyAt ampersand s (name ++ [equalsSign]) i := by
  refine and_congr_right fun _ => ⟨?_, fun hpre => ?_⟩
  · rintro ⟨j, -, -, htake⟩
    rw [← htake]
    exact List.take_prefix _ _
  · obtain ⟨t, ht⟩ := hpre
    have hlen : i + name.length + 1 - i = (name ++ [equalsSign]).length := by
      rw [List.length_append, List.length_singleton]
      omega
    refine ⟨i + name.length, Nat.le_add_right _ _, ?_, ?_⟩
    · rw [← List.getElem?_drop, ← ht, List.append_assoc, List.getElem?_append_right le_rfl]
      simp
    · rw [hlen, ← ht, List.take_left']
      rfl

theorem firstNamedAt_iff {i : Nat} : FirstNamedAt s (name ++ [equalsSign]) i ↔
    FirstKeyAt ampersand s (name ++ [equalsSign]) i := by
  simp only [FirstNamedAt, FirstKeyAt, namedAt_iff]

/-- There is only one first parameter of the name. -/
theorem FirstNamedAt.eq {key : List UInt8} {i j : Nat} (hi : FirstNamedAt s key i)
    (hj : FirstNamedAt s key j) : i = j := by
  rcases lt_trichotomy i j with h | h | h
  · exact absurd hi.1 (hj.2 i h)
  · exact h
  · exact absurd hj.1 (hi.2 j h)

/-! ## The lookup with decoding -/

section decoding

variable {B : Type u} {A : Api B} {view : B → View} (charIsSigned : Bool)
  {osStrToUint32Cptr : List UInt8 → Nat → UInt32 × List UInt8}

theorem zero_notMem_valueAt (hs : 0 ∉ s) (key : List UInt8) (i : Nat) :
    0 ∉ valueAt ampersand s key i := fun h =>
  hs (List.mem_of_mem_drop (List.takeWhile_prefix _ |>.mem h))

/-- **The lookup is exact.**  It comes to its end without a read behind the text.  It finds nothing
if and only if no parameter has the name, or there is no memory, or the value of the first one
cannot be decoded; and what it finds is the value of the first one, decoded. -/
theorem httpServerGetFromParamsWithDecoding_exact (hA : A.Lawful view)
    (hnone : ∀ d, A.initWithAlloc false d = none) (hos : ReadsAsStrtoul osStrToUint32Cptr)
    (hs : 0 ∉ s) (name : List UInt8) (memory memoryDecoded : Bool) :
    ∃ r, httpServerGetFromParamsWithDecoding A charIsSigned osStrToUint32Cptr memory memoryDecoded
        (s.length + 1) s (name ++ [equalsSign]) = some r ∧
      (r = A.null ↔ (∀ i, ¬ NamedAt s (name ++ [equalsSign]) i) ∨
        memory = false ∨ memoryDecoded = false ∨
          ∃ i, FirstNamedAt s (name ++ [equalsSign]) i ∧
            ¬ Completed [] (valueAt ampersand s (name ++ [equalsSign]) i)) ∧
      ∀ i, FirstNamedAt s (name ++ [equalsSign]) i → r ≠ A.null →
        ∃ text, view r = .holding (text.length + 1) text ∧
          text = decodedText charIsSigned osStrToUint32Cptr
            (valueAt ampersand s (name ++ [equalsSign]) i) ∧
          (WellFormed (valueAt ampersand s (name ++ [equalsSign]) i) →
            text = percentDecode (valueAt ampersand s (name ++ [equalsSign]) i)) := by
  have hkey : name ++ [equalsSign] ≠ [] := by simp
  rw [httpServerGetFromParamsWithDecoding]
  rcases httpServerGetFromParams_spec ampersand s hkey memory with
    ⟨i, hfirst, hget⟩ | ⟨hno, hget⟩
  · rw [← firstNamedAt_iff] at hfirst
    have hsome : ¬ ∀ i, ¬ NamedAt s (name ++ [equalsSign]) i := fun h => h i hfirst.1
    rw [hget]
    cases memory with
    | false => exact ⟨_, rfl, iff_of_true rfl (.inr (.inl rfl)), fun _ _ h => absurd rfl h⟩
    | true =>
      have hv := zero_notMem_valueAt hs (name ++ [equalsSign]) i
      by_cases hcompleted : Completed [] (valueAt ampersand s (name ++ [equalsSign]) i)
      · cases memoryDecoded with
        | false =>
          refine ⟨_, rfl, iff_of_true ?_ (.inr (.inr (.inl rfl))), fun _ _ h => absurd ?_ h⟩ <;>
            exact urlDecodeWithAlloc_of_not_memory charIsSigned hnone
        | true =>
          have hview := view_urlDecodeWithAlloc_of_completed charIsSigned hA hos hv hcompleted
          refine ⟨_, rfl, iff_of_false ?_ ?_, fun j hj _ => ?_⟩
          · intro hnull
            rw [hnull, hA.null] at hview
            exact View.noConfusion hview
          · rintro (h | h | h | ⟨j, hj, h⟩)
            · exact hsome h
            · exact Bool.noConfusion h
            · exact Bool.noConfusion h
            · exact h (hfirst.eq hj ▸ hcompleted)
          · obtain rfl := hfirst.eq hj
            exact ⟨_, hview, rfl, fun hwell => decodedText_of_wellFormed charIsSigned hos hwell⟩
      · refine ⟨_, rfl, iff_of_true ?_ (.inr (.inr (.inr ⟨i, hfirst, hcompleted⟩))),
          fun _ _ h => absurd ?_ h⟩ <;>
          exact urlDecodeWithAlloc_of_not_completed charIsSigned hos hv hcompleted memoryDecoded
  · rw [hget]
    refine ⟨_, rfl, iff_of_true rfl (.inl fun i hi => hno i (namedAt_iff.mp hi)),
      fun _ _ h => absurd rfl h⟩

end decoding

/-- `"xa=1&a=%41"`, and the key `"a="`. -/
theorem httpServerGetFromParamsWithDecoding_suffix : ∃ r,
    httpServerGetFromParamsWithDecoding viewApi true strtoulBytes true true 11
        [0x78, 0x61, 0x3D, 0x31, 0x26, 0x61, 0x3D, 0x25, 0x34, 0x31] [0x61, 0x3D] = some r ∧
      r = .holding 2 [0x41] := by
  obtain ⟨r, hrun, -⟩ := httpServerGetFromParamsWithDecoding_exact true lawful_viewApi
    (fun _ => rfl) (fun _ _ => rfl)
    (show 0 ∉ ([0x78, 0x61, 0x3D, 0x31, 0x26, 0x61, 0x3D, 0x25, 0x34, 0x31] : List UInt8) by
      decide) [0x61] true true
  refine ⟨r, hrun, Option.some.inj (hrun.symm.trans ?_)⟩
  decide +kernel

/-- `"a=%"`: the parameter is there, and nothing is returned. -/
theorem httpServerGetFromParamsWithDecoding_undecodable :
    FirstNamedAt [0x61, 0x3D, 0x25] [0x61, 0x3D] 0 ∧
      httpServerGetFromParamsWithDecoding viewApi true strtoulBytes true true 4
        [0x61, 0x3D, 0x25] [0x61, 0x3D] = some viewApi.null :=
  ⟨⟨⟨.inl rfl, 1, by decide, rfl, rfl⟩, fun k hk => absurd hk (Nat.not_lt_zero k)⟩,
    by decide +kernel⟩

end Url
end RuuviGateway
