import Mathlib.Data.List.Nodup
import Mathlib.Order.Basic

/-!
# Bounded maps ordered by the last update

A `RecentMap` holds at most `n` values, no two with the same key, in the order of their last
update, the most recent first.  A value whose key is new comes to the front, and if the map is
full the value at the end, whose update is the oldest, is evicted.  A value whose key is known
replaces the old one and comes to the front, unless the old one makes it be discarded.
-/

variable {V W K P : Type*}

/-- At most `n` values with different keys, the most recently updated first. -/
structure RecentMap (key : V → K) (n : Nat) where
  entries : List V
  nodup : (entries.map key).Nodup
  length_le : entries.length ≤ n

namespace RecentMap

variable {key : V → K} {n : Nat}

/-- No values. -/
def empty : RecentMap key n := ⟨[], List.nodup_nil, Nat.zero_le n⟩

@[simp] theorem entries_empty : (empty : RecentMap key n).entries = [] := rfl

variable [DecidableEq K]

/-- The value with a key. -/
def find? (m : RecentMap key n) (k : K) : Option V := m.entries.find? fun v => decide (key v = k)

/-- The value comes to the front, and takes the place of the one with its key. -/
def update (m : RecentMap key n) (v : V) : RecentMap key n where
  entries := (v :: m.entries.filter fun w => decide (key w ≠ key v)).take n
  nodup := by
    have hnodup : ((v :: m.entries.filter fun w => decide (key w ≠ key v)).map key).Nodup := by
      rw [List.map_cons, List.nodup_cons]
      refine ⟨fun hmem => ?_, m.nodup.sublist (List.filter_sublist.map key)⟩
      obtain ⟨w, hw, heq⟩ := List.mem_map.mp hmem
      exact of_decide_eq_true (List.mem_filter.mp hw).2 heq
    exact hnodup.sublist ((List.take_sublist ..).map key)
  length_le := List.length_take_le ..

/-- A value is put, unless it is discarded because of the old one; whether it was accepted. -/
def put (discards : V → V → Bool) (m : RecentMap key n) (v : V) : RecentMap key n × Bool :=
  match m.find? (key v) with
  | some old => if discards v old then (m, false) else (m.update v, true)
  | none => (m.update v, true)

/-- The key that is evicted when a value is put. -/
def evicted (m : RecentMap key n) (v : V) : Option K :=
  if (m.find? (key v)).isNone && decide (m.entries.length = n) then m.entries.getLast?.map key
  else none

variable {m : RecentMap key n} {v w : V} {k : K}

/-! ## Looking up -/

theorem find?_eq_some : m.find? k = some v ↔ v ∈ m.entries ∧ key v = k := by
  constructor
  · intro h
    exact ⟨List.mem_of_find?_eq_some h,
      of_decide_eq_true (List.find?_some (p := fun v => decide (key v = k)) h)⟩
  · rintro ⟨hmem, hkey⟩
    cases hf : m.find? k with
    | none => exact absurd hkey (by simpa using List.find?_eq_none.mp hf v hmem)
    | some w =>
      have hw : key w = k := 
      of_decide_eq_true (List.find?_some (p := fun v => decide (key v = k)) hf)
      rw [List.inj_on_of_nodup_map m.nodup (List.mem_of_find?_eq_some hf) hmem
        (hw.trans hkey.symm)]

theorem find?_eq_none : m.find? k = none ↔ ∀ v ∈ m.entries, key v ≠ k := by
  simp only [find?, List.find?_eq_none, decide_eq_true_eq, ne_eq]

theorem put_of_none {discards : V → V → Bool} (h : m.find? (key v) = none) :
    m.put discards v = (m.update v, true) := by
  rw [put, h]

theorem put_of_some {discards : V → V → Bool} {old : V} (h : m.find? (key v) = some old) :
    m.put discards v = if discards v old then (m, false) else (m.update v, true) := by
  rw [put, h]

/-- A put leaves the map as it is, or updates it. -/
theorem put_eq_or (discards : V → V → Bool) (m : RecentMap key n) (v : V) :
    (m.put discards v).1 = m ∨ (m.put discards v).1 = m.update v := by
  cases hf : m.find? (key v) with
  | none =>
    rw [put_of_none hf]
    exact Or.inr rfl
  | some old =>
    rw [put_of_some hf]
    split
    · exact Or.inl rfl
    · exact Or.inr rfl

/-! ## What an update does -/

/-- A known key stays within the bound. -/
theorem entries_update_of_find? {old : V} (h : m.find? (key v) = some old) :
    (m.update v).entries = v :: m.entries.filter fun w => decide (key w ≠ key v) := by
  obtain ⟨hmem, hkey⟩ := find?_eq_some.mp h
  have hlt : (m.entries.filter fun w => decide (key w ≠ key v)).length < m.entries.length :=
    List.length_filter_lt_length_iff_exists.mpr ⟨old, hmem, by simpa using hkey⟩
  exact List.take_of_length_le (by have := m.length_le; rw [List.length_cons]; omega)

/-- A new key comes to the front of the others. -/
theorem entries_update_of_none (h : m.find? (key v) = none) :
    (m.update v).entries = (v :: m.entries).take n := by
  have hall : (m.entries.filter fun w => decide (key w ≠ key v)) = m.entries :=
    List.filter_eq_self.mpr fun w hw => by simpa using find?_eq_none.mp h w hw
  show (v :: _).take n = _
  rw [hall]

/-- If the map is not full, nothing is evicted. -/
theorem entries_update_of_lt (h : m.find? (key v) = none) (hlt : m.entries.length < n) :
    (m.update v).entries = v :: m.entries := by
  rw [entries_update_of_none h, List.take_of_length_le hlt]

/-- If the map is full, the last value is evicted. -/
theorem entries_update_of_full (h : m.find? (key v) = none) (hn : n ≠ 0)
    (hfull : m.entries.length = n) : (m.update v).entries = v :: m.entries.dropLast := by
  obtain ⟨k, rfl⟩ := Nat.exists_eq_succ_of_ne_zero hn
  rw [entries_update_of_none h, List.take_succ_cons, List.dropLast_eq_take, hfull]
  rfl

/-- What is evicted is not the key that is put. -/
theorem ne_of_evicted (h : m.evicted v = some k) : k ≠ key v := by
  have hcond : (m.find? (key v)).isNone && decide (m.entries.length = n) := by
    by_contra hnot
    rw [evicted, if_neg hnot] at h
    exact absurd h (by simp)
  rw [evicted, if_pos hcond] at h
  obtain ⟨w, hw, rfl⟩ := Option.map_eq_some_iff.mp h
  exact find?_eq_none.mp (Option.isNone_iff_eq_none.mp (Bool.and_eq_true_iff.mp hcond).1) w
    (List.mem_of_getLast? hw)

/-- **The other keys are as they were**, but for the one that is evicted. -/
theorem find?_update_of_ne (hk : k ≠ key v) (hev : m.evicted v ≠ some k) :
    (m.update v).find? k = m.find? k := by
  have hne : ∀ {w}, key w = k → key w ≠ key v := fun hw h => hk (hw.symm.trans h)
  refine Option.ext fun w => ?_
  rw [find?_eq_some, find?_eq_some]
  refine and_congr_left fun hw => ?_
  cases hf : m.find? (key v) with
  | some old =>
    rw [entries_update_of_find? hf, List.mem_cons, List.mem_filter, decide_eq_true_eq]
    constructor
    · rintro (rfl | ⟨hmem, -⟩)
      · exact absurd hw.symm hk
      · exact hmem
    · exact fun hmem => Or.inr ⟨hmem, hne hw⟩
  | none =>
    by_cases hlt : m.entries.length < n
    · rw [entries_update_of_lt hf hlt, List.mem_cons]
      exact or_iff_right fun h => hk (by rw [← hw, h])
    · have hfull : m.entries.length = n := Nat.le_antisymm m.length_le (Nat.le_of_not_lt hlt)
      have hsub : (m.update v).entries ⊆ v :: m.entries := by
        rw [entries_update_of_none hf]
        exact List.take_subset ..
      refine ⟨fun hmem => (List.mem_cons.mp (hsub hmem)).resolve_left fun h => hk (by rw [← hw, h]),
        fun hmem => ?_⟩
      have hn : n ≠ 0 := by
        rw [← hfull]
        exact Nat.ne_of_gt (List.length_pos_of_mem hmem)
      have hnil : m.entries ≠ [] := List.ne_nil_of_mem hmem
      rw [entries_update_of_full hf hn hfull]
      refine List.mem_cons_of_mem v ?_
      -- the value is not the last one, which is evicted
      rw [← List.dropLast_append_getLast hnil, List.mem_append, List.mem_singleton] at hmem
      refine hmem.resolve_right fun hlast => hev ?_
      rw [evicted, hf, if_pos (by simpa using hfull), List.getLast?_eq_some_getLast hnil,
        Option.map_some, ← hlast, hw]

theorem find?_put_of_ne {discards : V → V → Bool} (hk : k ≠ key v)
    (hev : m.evicted v ≠ some k) : (m.put discards v).1.find? k = m.find? k := by
  cases hf : m.find? (key v) with
  | none =>
    rw [put_of_none hf]
    exact find?_update_of_ne hk hev
  | some old =>
    rw [put_of_some hf]
    split
    · rfl
    · exact find?_update_of_ne hk hev

/-! ## Orders that the updates follow -/

variable [Preorder P] {stamp : V → P}

theorem mem_update (hw : w ∈ (m.update v).entries) : w = v ∨ w ∈ m.entries :=
  (List.mem_cons.mp (List.mem_of_mem_take hw)).imp_right List.mem_of_mem_filter

theorem mem_put {discards : V → V → Bool} (hw : w ∈ (m.put discards v).1.entries) :
    w = v ∨ w ∈ m.entries := by
  rcases put_eq_or discards m v with heq | heq
  · rw [heq] at hw
    exact Or.inr hw
  · rw [heq] at hw
    exact mem_update hw

/-- Values that are put with larger and larger stamps stand in the order of their stamps. -/
theorem pairwise_put {discards : V → V → Bool}
    (h : m.entries.Pairwise fun a b => stamp b ≤ stamp a)
    (hv : ∀ w ∈ m.entries, stamp w ≤ stamp v) :
    (m.put discards v).1.entries.Pairwise fun a b => stamp b ≤ stamp a := by
  have hall : (v :: m.entries.filter fun w => decide (key w ≠ key v)).Pairwise
      fun a b => stamp b ≤ stamp a :=
    List.pairwise_cons.mpr
      ⟨fun w hw => hv w (List.mem_of_mem_filter hw), h.sublist List.filter_sublist⟩
  rcases put_eq_or discards m v with heq | heq <;> rw [heq]
  · exact h
  · exact hall.sublist (List.take_sublist ..)

/-! ## Values that carry more -/

section Map

variable {key' : W → K} (f : V → W) (hf : ∀ v, key' (f v) = key v)

/-- The values of the one map are those of the other. -/
def Shows (m : RecentMap key n) (m' : RecentMap key' n) : Prop := m.entries.map f = m'.entries

variable {f} {m' : RecentMap key' n} {discards : V → V → Bool} {discards' : W → W → Bool}

include hf

theorem Shows.find? (h : Shows f m m') (k : K) : m'.find? k = (m.find? k).map f := by
  rw [RecentMap.find?, ← h, List.find?_map]
  simp only [Function.comp_def, hf]
  rfl

theorem Shows.update (h : Shows f m m') (v : V) : Shows f (m.update v) (m'.update (f v)) := by
  show ((v :: m.entries.filter _).take n).map f = (f v :: m'.entries.filter _).take n
  rw [← h, List.filter_map, List.map_take, List.map_cons]
  simp only [Function.comp_def, hf]

/-- What is put into the one is put into the other. -/
theorem Shows.put (hd : ∀ v w, discards' (f v) (f w) = discards v w) (h : Shows f m m') (v : V) :
    Shows f (m.put discards v).1 (m'.put discards' (f v)).1 ∧
      (m'.put discards' (f v)).2 = (m.put discards v).2 := by
  unfold RecentMap.put
  rw [hf, h.find? hf]
  cases m.find? (key v) with
  | none => exact ⟨h.update hf v, rfl⟩
  | some old =>
    simp only [Option.map_some, hd]
    split
    · exact ⟨h, rfl⟩
    · exact ⟨h.update hf v, rfl⟩

end Map

end RecentMap
