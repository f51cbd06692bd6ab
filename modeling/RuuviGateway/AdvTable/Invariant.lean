import Mathlib.Data.Fintype.Card
import Mathlib.Data.List.FinRange
import Mathlib.Data.List.Nodup
import RuuviGateway.AdvTable.Model

/-!
# The representation invariant of the table

`Inv` says how the queues and the flags of the elements fit together: a hash bucket
holds exactly the hashed elements whose MAC address belongs there, no two hashed
elements have the same MAC address, a retransmission list holds exactly the elements
flagged for it, each once, and all of them hashed, and the history list is a
permutation of all elements.

Each primitive of the source is described by one lemma about every queue it touches;
everything else is unchanged by definition.
-/

namespace RuuviGateway
namespace AdvTable

variable {t u : Table} {i j : Idx} {k : ListId}

/-! ## Writing to an element -/

@[simp] theorem setElem_self (f : Elem → Elem) :
    (t.setElem i f).arrOfAdvReports i = f (t.arrOfAdvReports i) :=
  Function.update_self ..

theorem setElem_of_ne (f : Elem → Elem) (h : j ≠ i) :
    (t.setElem i f).arrOfAdvReports j = t.arrOfAdvReports j :=
  Function.update_of_ne h ..

@[simp] theorem setElem_advHashTable (f : Elem → Elem) :
    (t.setElem i f).advHashTable = t.advHashTable := rfl

@[simp] theorem setElem_retransmissionList (f : Elem → Elem) :
    (t.setElem i f).retransmissionList = t.retransmissionList := rfl

@[simp] theorem setElem_histList (f : Elem → Elem) : (t.setElem i f).histList = t.histList := rfl

/-- A field that the write leaves alone. -/
theorem setElem_field {β : Type*} (f : Elem → Elem) (g : Elem → β)
    (h : g (f (t.arrOfAdvReports i)) = g (t.arrOfAdvReports i)) (j : Idx) :
    g ((t.setElem i f).arrOfAdvReports j) = g (t.arrOfAdvReports j) := by
  by_cases hj : j = i
  · subst hj
    rw [setElem_self, h]
  · rw [setElem_of_ne f hj]

@[simp] theorem setReport_self (r : AdvReport) : (t.setReport i r).report i = r := by
  rw [Table.setReport, Table.report, setElem_self]

theorem setReport_of_ne (r : AdvReport) (h : j ≠ i) :
    (t.setReport i r).report j = t.report j := by
  rw [Table.setReport, Table.report, setElem_of_ne _ h]

theorem setReport_isInHashTable (r : AdvReport) (j : Idx) :
    ((t.setReport i r).arrOfAdvReports j).isInHashTable =
      (t.arrOfAdvReports j).isInHashTable :=
  setElem_field (fun e => { e with advReport := r }) Elem.isInHashTable rfl j

theorem setReport_isInRetransmissionList (r : AdvReport) (j : Idx) :
    ((t.setReport i r).arrOfAdvReports j).isInRetransmissionList =
      (t.arrOfAdvReports j).isInRetransmissionList :=
  setElem_field (fun e => { e with advReport := r }) Elem.isInRetransmissionList rfl j

/-! ## The invariant -/

/-- The flags and the retransmission lists agree. -/
structure ListInv (t : Table) : Prop where
  mem_iff : ∀ k i, i ∈ t.retransmissionList k ↔
    (t.arrOfAdvReports i).isInRetransmissionList k = true
  nodup : ∀ k, (t.retransmissionList k).Nodup

/-- The hash buckets hold the hashed elements, each in its own bucket. -/
structure HashInv (t : Table) : Prop where
  mem_iff : ∀ b i, i ∈ t.advHashTable b ↔
    (t.arrOfAdvReports i).isInHashTable = true ∧ hashIdx (t.report i).tagMac = b
  nodup : ∀ b, (t.advHashTable b).Nodup
  inj : ∀ i j, (t.arrOfAdvReports i).isInHashTable = true →
    (t.arrOfAdvReports j).isInHashTable = true → (t.report i).tagMac = (t.report j).tagMac → i = j

/-- The representation invariant. -/
structure Inv (t : Table) : Prop where
  lists : ListInv t
  hash : HashInv t
  hashed : ∀ k, ∀ i ∈ t.retransmissionList k, (t.arrOfAdvReports i).isInHashTable = true
  hist_nodup : t.histList.Nodup
  hist_mem : ∀ i, i ∈ t.histList

theorem inv_init : Inv init where
  lists := ⟨fun _ _ => by simp [init], fun _ => List.nodup_nil⟩
  hash := ⟨fun _ _ => by simp [init], fun _ => List.nodup_nil, fun _ _ h => by simp [init] at h⟩
  hashed := fun _ _ h => absurd h (by simp [init])
  hist_nodup := List.nodup_finRange maxAdvsTable
  hist_mem := List.mem_finRange

/-- A duplicate-free queue of elements is no longer than the table. -/
theorem length_le_of_nodup {l : List Idx} (h : l.Nodup) : l.length ≤ maxAdvsTable := by
  have hle := h.length_le_card
  rwa [Fintype.card_fin] at hle

/-- The search finds exactly the hashed element with the MAC address. -/
theorem hashTableSearch_eq_some (h : HashInv t) {mac : MacAddress} :
    hashTableSearch t mac = some i ↔
      (t.arrOfAdvReports i).isInHashTable = true ∧ (t.report i).tagMac = mac := by
  constructor
  · intro hs
    have hmem := List.mem_of_find?_eq_some hs
    have hmac : mac = (t.report i).tagMac :=
      of_decide_eq_true (List.find?_some (p := fun i => decide (mac = (t.report i).tagMac)) hs)
    exact ⟨((h.mem_iff _ _).mp hmem).1, hmac.symm⟩
  · rintro ⟨hh, hmac⟩
    have hmem : i ∈ t.advHashTable (hashIdx mac) := (h.mem_iff _ _).mpr ⟨hh, by rw [hmac]⟩
    cases hs : hashTableSearch t mac with
    | none =>
      have hnone := List.find?_eq_none.mp hs i hmem
      exact absurd (decide_eq_true hmac.symm) (by simpa using hnone)
    | some j =>
      have hj := List.mem_of_find?_eq_some hs
      have hjmac : mac = (t.report j).tagMac :=
        of_decide_eq_true (List.find?_some (p := fun i => decide (mac = (t.report i).tagMac)) hs)
      rw [h.inj i j hh ((h.mem_iff _ _).mp hj).1 (hmac.trans hjmac)]

theorem hashTableSearch_eq_none (h : HashInv t) {mac : MacAddress} :
    hashTableSearch t mac = none ↔
      ∀ i, (t.arrOfAdvReports i).isInHashTable = true → (t.report i).tagMac ≠ mac := by
  constructor
  · intro hs i hh hmac
    rw [(hashTableSearch_eq_some h).mpr ⟨hh, hmac⟩] at hs
    exact absurd hs (by simp)
  · intro hall
    cases hs : hashTableSearch t mac with
    | none => rfl
    | some i =>
      obtain ⟨hh, hmac⟩ := (hashTableSearch_eq_some h).mp hs
      exact absurd hmac (hall i hh)

/-! ## Reusing an element for a new MAC address -/

/-- The element `i` is taken out of its bucket, overwritten, and hashed again. -/
def replaceReport (t : Table) (i : Idx) (adv : AdvReport) : Table :=
  hashTableAdd ((hashTableRemove t i).setReport i adv) i

theorem hashTableRemove_arr (t : Table) (i : Idx) (j : Idx) :
    (hashTableRemove t i).arrOfAdvReports j =
      if j = i then { t.arrOfAdvReports i with isInHashTable := false }
      else t.arrOfAdvReports j := by
  unfold hashTableRemove
  split
  · rename_i hh
    split
    · rename_i hj
      subst hj
      have hf : (t.arrOfAdvReports j).isInHashTable = false := by simpa using hh
      rw [← hf]
    · rfl
  · by_cases hj : j = i
    · subst hj
      rw [setElem_self, if_pos rfl]
    · rw [setElem_of_ne _ hj, if_neg hj]

theorem mem_hashTableRemove (h : HashInv t) (b : HashIdx) :
    j ∈ (hashTableRemove t i).advHashTable b ↔ j ≠ i ∧ j ∈ t.advHashTable b := by
  unfold hashTableRemove
  split
  · rename_i hh
    refine ⟨fun hj => ⟨?_, hj⟩, fun hj => hj.2⟩
    rintro rfl
    have := ((h.mem_iff b j).mp hj).1
    simp [this] at hh
  · show j ∈ Function.update t.advHashTable _ _ b ↔ _
    by_cases hb : b = hashIdx (t.report i).tagMac
    · subst hb
      rw [Function.update_self, (h.nodup _).mem_erase_iff]
    · rw [Function.update_of_ne hb]
      refine ⟨fun hj => ⟨?_, hj⟩, fun hj => hj.2⟩
      rintro rfl
      exact hb ((h.mem_iff b j).mp hj).2.symm

theorem nodup_hashTableRemove (h : HashInv t) (b : HashIdx) :
    ((hashTableRemove t i).advHashTable b).Nodup := by
  unfold hashTableRemove
  split
  · exact h.nodup b
  · show (Function.update t.advHashTable _ _ b).Nodup
    by_cases hb : b = hashIdx (t.report i).tagMac
    · subst hb
      rw [Function.update_self]
      exact (h.nodup _).erase i
    · rw [Function.update_of_ne hb]
      exact h.nodup b

theorem replaceReport_arr (t : Table) (i : Idx) (adv : AdvReport) (j : Idx) :
    (replaceReport t i adv).arrOfAdvReports j =
      if j = i then { t.arrOfAdvReports i with isInHashTable := true, advReport := adv }
      else t.arrOfAdvReports j := by
  unfold replaceReport hashTableAdd Table.setReport
  by_cases hj : j = i
  · subst hj
    rw [setElem_self, if_pos rfl]
    simp only [setElem_self, hashTableRemove_arr, if_true]
  · rw [setElem_of_ne _ hj, if_neg hj]
    simp only [setElem_of_ne _ hj, hashTableRemove_arr, if_neg hj]

theorem replaceReport_advHashTable (t : Table) (i : Idx) (adv : AdvReport) :
    (replaceReport t i adv).advHashTable =
      Function.update (hashTableRemove t i).advHashTable (hashIdx adv.tagMac)
        ((hashTableRemove t i).advHashTable (hashIdx adv.tagMac) ++ [i]) := by
  have hrep : ((hashTableRemove t i).setReport i adv).report i = adv := setReport_self adv
  simp only [replaceReport, hashTableAdd, hrep]
  rfl

theorem replaceReport_lists (t : Table) (i : Idx) (adv : AdvReport) :
    (replaceReport t i adv).retransmissionList = t.retransmissionList ∧
      (replaceReport t i adv).histList = t.histList := by
  unfold replaceReport hashTableAdd hashTableRemove
  split <;> exact ⟨rfl, rfl⟩

/-- **Reusing an element keeps the hash table in order**, if no hashed element has the
new MAC address. -/
theorem hashInv_replaceReport (h : HashInv t) {adv : AdvReport}
    (hnew : ∀ j, (t.arrOfAdvReports j).isInHashTable = true →
      (t.report j).tagMac ≠ adv.tagMac) : HashInv (replaceReport t i adv) := by
  have harr := replaceReport_arr t i adv
  have hne : ∀ j, j ≠ i → (replaceReport t i adv).arrOfAdvReports j = t.arrOfAdvReports j :=
    fun j hj => (harr j).trans (if_neg hj)
  have hself : (replaceReport t i adv).arrOfAdvReports i =
      { t.arrOfAdvReports i with isInHashTable := true, advReport := adv } :=
    (harr i).trans (if_pos rfl)
  refine ⟨fun b j => ?_, fun b => ?_, fun j l hj hl hmac => ?_⟩
  · have hmem : j ∈ (replaceReport t i adv).advHashTable b ↔
        (j ≠ i ∧ j ∈ t.advHashTable b) ∨ (b = hashIdx adv.tagMac ∧ j = i) := by
      rw [replaceReport_advHashTable]
      by_cases hb : b = hashIdx adv.tagMac
      · subst hb
        rw [Function.update_self, List.mem_append, mem_hashTableRemove h, List.mem_singleton]
        simp
      · rw [Function.update_of_ne hb, mem_hashTableRemove h]
        simp [hb]
    rw [hmem]
    by_cases hj : j = i
    · subst hj
      rw [Table.report, hself]
      simp [eq_comm]
    · rw [Table.report, hne j hj, h.mem_iff]
      simp [hj]
  · rw [replaceReport_advHashTable]
    by_cases hb : b = hashIdx adv.tagMac
    · subst hb
      rw [Function.update_self, List.nodup_append]
      refine ⟨nodup_hashTableRemove h _, List.nodup_singleton i, fun a ha c hc => ?_⟩
      rw [List.mem_singleton.mp hc]
      exact ((mem_hashTableRemove h _).mp ha).1
    · rw [Function.update_of_ne hb]
      exact nodup_hashTableRemove h b
  · by_cases hji : j = i
    · by_cases hli : l = i
      · rw [hji, hli]
      · rw [Table.report, Table.report, hji, hself, hne l hli] at hmac
        rw [hne l hli] at hl
        exact absurd hmac.symm (hnew l hl)
    · by_cases hli : l = i
      · rw [Table.report, Table.report, hli, hself, hne j hji] at hmac
        rw [hne j hji] at hj
        exact absurd hmac (hnew j hj)
      · rw [hne j hji] at hj
        rw [hne l hli] at hl
        rw [Table.report, Table.report, hne j hji, hne l hli] at hmac
        exact h.inj j l hj hl hmac

/-! ## Joining and leaving a retransmission list -/

/-- Two tables that differ at most in the retransmission lists and their flags. -/
structure SameReports (t u : Table) : Prop where
  report : ∀ j, u.report j = t.report j
  isInHashTable : ∀ j,
    (u.arrOfAdvReports j).isInHashTable = (t.arrOfAdvReports j).isInHashTable
  advHashTable : u.advHashTable = t.advHashTable

theorem SameReports.refl (t : Table) : SameReports t t :=
  ⟨fun _ => rfl, fun _ => rfl, rfl⟩

theorem SameReports.trans {v : Table} (h : SameReports t u) (h' : SameReports u v) :
    SameReports t v :=
  ⟨fun j => (h'.report j).trans (h.report j),
    fun j => (h'.isInHashTable j).trans (h.isInHashTable j),
    h'.advHashTable.trans h.advHashTable⟩

theorem HashInv.of_same (h : HashInv t) (hs : SameReports t u) : HashInv u := by
  refine ⟨fun b j => ?_, fun b => ?_, fun j l hj hl hmac => ?_⟩
  · rw [hs.advHashTable, hs.isInHashTable, hs.report]
    exact h.mem_iff b j
  · rw [hs.advHashTable]
    exact h.nodup b
  · rw [hs.isInHashTable] at hj hl
    rw [hs.report, hs.report] at hmac
    exact h.inj j l hj hl hmac

/-- A write that touches only the flags of the retransmission lists. -/
theorem sameReports_setFlag (f : (ListId → Bool) → ListId → Bool) (l : ListId → List Idx)
    (t : Table) (i : Idx) :
    SameReports t (Table.setElem { t with retransmissionList := l } i fun e =>
      { e with isInRetransmissionList := f e.isInRetransmissionList }) :=
  ⟨fun j => setElem_field _ Elem.advReport rfl j,
    fun j => setElem_field _ Elem.isInHashTable rfl j, rfl⟩

theorem insertRetransmissionList_same (t : Table) (i : Idx) (k : ListId) :
    SameReports t (insertRetransmissionList t i k) ∧
      (insertRetransmissionList t i k).histList = t.histList := by
  unfold insertRetransmissionList
  split
  · exact ⟨.refl t, rfl⟩
  · exact ⟨sameReports_setFlag (fun f => Function.update f k true) _ t i, rfl⟩

theorem mem_insertRetransmissionList (h : ListInv t) (k' : ListId) :
    j ∈ (insertRetransmissionList t i k).retransmissionList k' ↔
      j ∈ t.retransmissionList k' ∨ (k' = k ∧ j = i) := by
  unfold insertRetransmissionList
  split
  · rename_i hf
    refine ⟨Or.inl, ?_⟩
    rintro (hj | ⟨rfl, rfl⟩)
    · exact hj
    · exact (h.mem_iff _ _).mpr hf
  · show j ∈ Function.update t.retransmissionList k _ k' ↔ _
    by_cases hk : k' = k
    · subst hk
      rw [Function.update_self, List.mem_append, List.mem_singleton]
      simp
    · rw [Function.update_of_ne hk]
      simp [hk]

theorem listInv_insertRetransmissionList (h : ListInv t) (i : Idx) (k : ListId) :
    ListInv (insertRetransmissionList t i k) := by
  refine ⟨fun k' j => ?_, fun k' => ?_⟩
  · rw [mem_insertRetransmissionList h, h.mem_iff]
    unfold insertRetransmissionList
    split
    · rename_i hf
      refine ⟨?_, Or.inl⟩
      rintro (hj | ⟨rfl, rfl⟩)
      · exact hj
      · exact hf
    · by_cases hj : j = i
      · subst hj
        rw [setElem_self]
        by_cases hk : k' = k
        · subst hk
          simp
        · simp [hk]
      · rw [setElem_of_ne _ hj]
        simp [hj]
  · unfold insertRetransmissionList
    split
    · exact h.nodup k'
    · rename_i hf
      show (Function.update t.retransmissionList k _ k').Nodup
      by_cases hk : k' = k
      · subst hk
        rw [Function.update_self, List.nodup_append]
        refine ⟨h.nodup k', List.nodup_singleton i, fun a ha c hc => ?_⟩
        rw [List.mem_singleton.mp hc]
        rintro rfl
        exact hf ((h.mem_iff _ _).mp ha)
      · rw [Function.update_of_ne hk]
        exact h.nodup k'

/-- **An accepted put links the element into all three lists.** -/
theorem markUpdated_spec (h : ListInv t) (i : Idx) :
    SameReports t (markUpdated t i) ∧ ListInv (markUpdated t i) ∧
      (markUpdated t i).histList = i :: t.histList.erase i ∧
      ∀ k j, j ∈ (markUpdated t i).retransmissionList k ↔ j ∈ t.retransmissionList k ∨ j = i := by
  have h1 := listInv_insertRetransmissionList h i .list1
  have h2 := listInv_insertRetransmissionList h1 i .list2
  have h3 := listInv_insertRetransmissionList h2 i .list3
  obtain ⟨s1, e1⟩ := insertRetransmissionList_same t i .list1
  obtain ⟨s2, e2⟩ := insertRetransmissionList_same (insertRetransmissionList t i .list1) i .list2
  obtain ⟨s3, e3⟩ := insertRetransmissionList_same
    (insertRetransmissionList (insertRetransmissionList t i .list1) i .list2) i .list3
  have hs := (s1.trans s2).trans s3
  refine ⟨⟨hs.report, hs.isInHashTable, hs.advHashTable⟩, ⟨h3.mem_iff, h3.nodup⟩, ?_,
    fun k j => ?_⟩
  · show i :: List.erase _ i = _
    rw [e3, e2, e1]
  · have hmem : j ∈ (markUpdated t i).retransmissionList k ↔
        ((j ∈ t.retransmissionList k ∨ (k = .list1 ∧ j = i)) ∨ (k = .list2 ∧ j = i)) ∨
          (k = .list3 ∧ j = i) := by
      rw [← mem_insertRetransmissionList h k, ← mem_insertRetransmissionList h1 k,
        ← mem_insertRetransmissionList h2 k]
      rfl
    rw [hmem]
    cases k <;> simp

theorem inv_markUpdated (hl : ListInv t) (hh : HashInv t)
    (hhashed : ∀ k, ∀ j ∈ t.retransmissionList k, (t.arrOfAdvReports j).isInHashTable = true)
    (hnodup : t.histList.Nodup) (hmem : ∀ j, j ∈ t.histList)
    (hi : (t.arrOfAdvReports i).isInHashTable = true) : Inv (markUpdated t i) := by
  obtain ⟨hs, hlists, hhist, hiff⟩ := markUpdated_spec hl i
  refine ⟨hlists, hh.of_same hs, fun k j hj => ?_, ?_, fun j => ?_⟩
  · rw [hs.isInHashTable]
    rcases (hiff k j).mp hj with hj | rfl
    · exact hhashed k j hj
    · exact hi
  · rw [hhist, List.nodup_cons]
    exact ⟨hnodup.not_mem_erase, hnodup.erase i⟩
  · rw [hhist, List.mem_cons, hnodup.mem_erase_iff]
    by_cases hj : j = i
    · exact Or.inl hj
    · exact Or.inr ⟨hj, hmem j⟩

/-! ## Writing to the reports only -/

/-- Two tables that differ at most in the reports, and there not in the MAC addresses. -/
structure SameLinks (t u : Table) : Prop where
  isInHashTable : ∀ j,
    (u.arrOfAdvReports j).isInHashTable = (t.arrOfAdvReports j).isInHashTable
  isInRetransmissionList : ∀ j,
    (u.arrOfAdvReports j).isInRetransmissionList = (t.arrOfAdvReports j).isInRetransmissionList
  advHashTable : u.advHashTable = t.advHashTable
  retransmissionList : u.retransmissionList = t.retransmissionList
  histList : u.histList = t.histList
  tagMac : ∀ j, (u.report j).tagMac = (t.report j).tagMac

theorem SameLinks.refl (t : Table) : SameLinks t t :=
  ⟨fun _ => rfl, fun _ => rfl, rfl, rfl, rfl, fun _ => rfl⟩

theorem SameLinks.trans {v : Table} (h : SameLinks t u) (h' : SameLinks u v) : SameLinks t v :=
  ⟨fun j => (h'.isInHashTable j).trans (h.isInHashTable j),
    fun j => (h'.isInRetransmissionList j).trans (h.isInRetransmissionList j),
    h'.advHashTable.trans h.advHashTable, h'.retransmissionList.trans h.retransmissionList,
    h'.histList.trans h.histList, fun j => (h'.tagMac j).trans (h.tagMac j)⟩

theorem sameLinks_setReport {r : AdvReport} (hmac : r.tagMac = (t.report i).tagMac) :
    SameLinks t (t.setReport i r) := by
  refine ⟨setReport_isInHashTable r, setReport_isInRetransmissionList r, rfl, rfl, rfl,
    fun j => ?_⟩
  by_cases hj : j = i
  · subst hj
    rw [setReport_self, hmac]
  · rw [setReport_of_ne r hj]

theorem Inv.of_sameLinks (h : Inv t) (hs : SameLinks t u) : Inv u := by
  refine ⟨⟨fun k j => ?_, fun k => ?_⟩, ⟨fun b j => ?_, fun b => ?_, fun j l hj hl hmac => ?_⟩,
    fun k j hj => ?_, ?_, ?_⟩
  · rw [hs.retransmissionList, hs.isInRetransmissionList]
    exact h.lists.mem_iff k j
  · rw [hs.retransmissionList]
    exact h.lists.nodup k
  · rw [hs.advHashTable, hs.isInHashTable, hs.tagMac]
    exact h.hash.mem_iff b j
  · rw [hs.advHashTable]
    exact h.hash.nodup b
  · rw [hs.isInHashTable] at hj hl
    rw [hs.tagMac, hs.tagMac] at hmac
    exact h.hash.inj j l hj hl hmac
  · rw [hs.isInHashTable]
    rw [hs.retransmissionList] at hj
    exact h.hashed k j hj
  · rw [hs.histList]
    exact h.hist_nodup
  · rw [hs.histList]
    exact h.hist_mem

/-- Overwriting the report of a hashed element by one with the same MAC address. -/
theorem inv_setReport (h : Inv t) {r : AdvReport} (hmac : r.tagMac = (t.report i).tagMac) :
    Inv (t.setReport i r) :=
  h.of_sameLinks (sameLinks_setReport hmac)

/-! ## Putting -/

/-- What `adv_table_put_unsafe` does, by what the search finds. -/
theorem put_cases (t : Table) (adv : AdvReport) :
    (hashTableSearch t adv.tagMac = none ∧
      put t adv = (markUpdated (replaceReport t (histLast t) adv) (histLast t), true)) ∨
    (∃ i, hashTableSearch t adv.tagMac = some i ∧
      checkIfAdvMustBeDiscarded adv (t.report i) = false ∧
      put t adv = (markUpdated (t.setReport i
        { adv with samplesCounter := (t.report i).samplesCounter + 1 }) i, true)) ∨
    (∃ i, hashTableSearch t adv.tagMac = some i ∧
      checkIfAdvMustBeDiscarded adv (t.report i) = true ∧
      put t adv = (t.setReport i
        { t.report i with samplesCounter := (t.report i).samplesCounter + 1 }, false)) := by
  unfold put
  cases hs : hashTableSearch t adv.tagMac with
  | none => exact Or.inl ⟨rfl, rfl⟩
  | some i =>
    cases hd : checkIfAdvMustBeDiscarded adv (t.report i) with
    | false => exact Or.inr (Or.inl ⟨i, rfl, hd, by simp [hd]⟩)
    | true => exact Or.inr (Or.inr ⟨i, rfl, hd, by simp [hd]⟩)

/-- The element taken over for a new MAC address keeps its place in the lists. -/
theorem listInv_replaceReport (h : ListInv t) (i : Idx) (adv : AdvReport) :
    ListInv (replaceReport t i adv) := by
  refine ⟨fun k j => ?_, fun k => ?_⟩
  · rw [(replaceReport_lists t i adv).1, h.mem_iff, replaceReport_arr]
    split
    · rename_i hj
      rw [hj]
    · rfl
  · rw [(replaceReport_lists t i adv).1]
    exact h.nodup k

theorem inv_put_new (h : Inv t) {adv : AdvReport} (hs : hashTableSearch t adv.tagMac = none) :
    Inv (markUpdated (replaceReport t i adv) i) := by
  have harr := replaceReport_arr t i adv
  obtain ⟨hlists, hhist⟩ := replaceReport_lists t i adv
  have hself : ((replaceReport t i adv).arrOfAdvReports i).isInHashTable = true := by
    rw [harr i, if_pos rfl]
  refine inv_markUpdated (listInv_replaceReport h.lists i adv)
    (hashInv_replaceReport h.hash ((hashTableSearch_eq_none h.hash).mp hs)) (fun k j hj => ?_)
    (by rw [hhist]; exact h.hist_nodup) (by rw [hhist]; exact h.hist_mem) hself
  rw [hlists] at hj
  rw [harr j]
  split
  · rfl
  · exact h.hashed k j hj

/-! ## Draining -/

/-- One element leaves the head of a retransmission list. -/
theorem removeHead_spec (h : ListInv t) {rest : List Idx}
    (hl : t.retransmissionList k = i :: rest) :
    SameReports t (removeHead t k i) ∧ ListInv (removeHead t k i) ∧
      (removeHead t k i).histList = t.histList ∧
      (removeHead t k i).retransmissionList = Function.update t.retransmissionList k rest := by
  have hlists : (removeHead t k i).retransmissionList =
      Function.update t.retransmissionList k rest := by
    show Function.update t.retransmissionList k (t.retransmissionList k).tail = _
    rw [hl]
    rfl
  have hnodup : (i :: rest).Nodup := hl ▸ h.nodup k
  refine ⟨sameReports_setFlag (fun f => Function.update f k false) _ t i,
    ⟨fun k' j => ?_, fun k' => ?_⟩, rfl, hlists⟩
  · rw [hlists]
    unfold removeHead
    by_cases hk : k' = k
    · subst hk
      rw [Function.update_self]
      by_cases hj : j = i
      · subst hj
        rw [setElem_self]
        simp [(List.nodup_cons.mp hnodup).1]
      · rw [setElem_of_ne _ hj]
        show j ∈ rest ↔ (t.arrOfAdvReports j).isInRetransmissionList k' = true
        rw [← h.mem_iff, hl, List.mem_cons]
        simp [hj]
    · rw [Function.update_of_ne hk, h.mem_iff]
      by_cases hj : j = i
      · subst hj
        rw [setElem_self]
        simp [hk]
      · rw [setElem_of_ne _ hj]
  · rw [hlists]
    by_cases hk : k' = k
    · subst hk
      rw [Function.update_self]
      exact (List.nodup_cons.mp hnodup).2
    · rw [Function.update_of_ne hk]
      exact h.nodup k'

/-- **The read loop drains its list.**  There is room for all of it, so the loop never
stops early and drops an element. -/
theorem readLoop_spec (k : ListId) (l : List Idx) :
    ∀ (reports : List AdvReport) (t : Table), ListInv t → t.retransmissionList k = l →
      reports.length + l.length ≤ maxAdvsTable →
      (readLoop k l reports t).1 = reports ++ l.map t.report ∧
        SameReports t (readLoop k l reports t).2 ∧ ListInv (readLoop k l reports t).2 ∧
        (readLoop k l reports t).2.histList = t.histList ∧
        (readLoop k l reports t).2.retransmissionList =
          Function.update t.retransmissionList k [] := by
  induction l with
  | nil =>
    intro reports t h hl _
    refine ⟨by simp [readLoop], .refl t, h, rfl, ?_⟩
    show t.retransmissionList = _
    rw [← hl, Function.update_eq_self]
  | cons i rest ih =>
    intro reports t h hl hlen
    obtain ⟨hs, hlists, hhist, hlist⟩ := removeHead_spec h hl
    rw [List.length_cons] at hlen
    have hroom : ¬ maxAdvsTable ≤ reports.length := by omega
    have hstep : readLoop k (i :: rest) reports t =
        readLoop k rest (reports ++ [t.report i]) (removeHead t k i) := by
      simp only [readLoop, if_neg hroom]
    obtain ⟨hr, hs', hl', hh', hlist'⟩ := ih (reports ++ [t.report i]) (removeHead t k i) hlists
      (by rw [hlist, Function.update_self])
      (by rw [List.length_append, List.length_singleton]; omega)
    rw [hstep]
    refine ⟨?_, hs.trans hs', hl', hh'.trans hhist, ?_⟩
    · rw [hr, List.map_cons, List.append_assoc, List.singleton_append]
      congr 2
      exact List.map_congr_left fun j _ => hs.report j
    · rw [hlist', hlist, Function.update_idem]

/-- Clearing a retransmission list drains it too. -/
theorem retransmissionListClear_spec (h : ListInv t) (k : ListId) :
    SameReports t (retransmissionListClear t k) ∧ ListInv (retransmissionListClear t k) ∧
      (retransmissionListClear t k).histList = t.histList ∧
      (retransmissionListClear t k).retransmissionList =
        Function.update t.retransmissionList k [] := by
  have key : ∀ (l : List Idx) (t : Table), ListInv t → t.retransmissionList k = l →
      SameReports t (l.foldl (fun t i => removeHead t k i) t) ∧
        ListInv (l.foldl (fun t i => removeHead t k i) t) ∧
        (l.foldl (fun t i => removeHead t k i) t).histList = t.histList ∧
        (l.foldl (fun t i => removeHead t k i) t).retransmissionList =
          Function.update t.retransmissionList k [] := by
    intro l
    induction l with
    | nil =>
      intro t h hl
      refine ⟨.refl t, h, rfl, ?_⟩
      show t.retransmissionList = _
      rw [← hl, Function.update_eq_self]
    | cons i rest ih =>
      intro t h hl
      obtain ⟨hs, hlists, hhist, hlist⟩ := removeHead_spec h hl
      obtain ⟨hs', hl', hh', hlist'⟩ := ih (removeHead t k i) hlists
        (by rw [hlist, Function.update_self])
      refine ⟨hs.trans hs', hl', hh'.trans hhist, ?_⟩
      rw [List.foldl_cons, hlist', hlist, Function.update_idem]
  exact key _ t h rfl

theorem Inv.of_drained (h : Inv t) (hs : SameReports t u) (hl : ListInv u)
    (hhist : u.histList = t.histList)
    (hsub : ∀ k, ∀ j ∈ u.retransmissionList k, j ∈ t.retransmissionList k) : Inv u where
  lists := hl
  hash := h.hash.of_same hs
  hashed := fun k j hj => (hs.isInHashTable j).trans (h.hashed k j (hsub k j hj))
  hist_nodup := hhist ▸ h.hist_nodup
  hist_mem := hhist ▸ h.hist_mem

theorem mem_of_mem_update {f : ListId → List Idx} {l : List Idx} (hl : ∀ j ∈ l, j ∈ f k)
    (k' : ListId) (hj : j ∈ Function.update f k l k') : j ∈ f k' := by
  by_cases hk : k' = k
  · subst hk
    rw [Function.update_self] at hj
    exact hl j hj
  · rwa [Function.update_of_ne hk] at hj

/-- Reading a list returns its reports in order and leaves it empty. -/
theorem readAndClear_spec (h : Inv t) (k : ListId) :
    (readRetransmissionListAndClear t k).1 = (t.retransmissionList k).map t.report ∧
      SameReports t (readRetransmissionListAndClear t k).2 ∧
      (readRetransmissionListAndClear t k).2.retransmissionList =
        Function.update t.retransmissionList k [] ∧
      Inv (readRetransmissionListAndClear t k).2 := by
  have hlen := length_le_of_nodup (h.lists.nodup k)
  obtain ⟨hr, hs, hl, hhist, hlist⟩ := readLoop_spec k (t.retransmissionList k) [] t h.lists rfl
    (by rw [List.length_nil]; omega)
  refine ⟨hr, hs, hlist, h.of_drained hs hl hhist fun k' j hj => ?_⟩
  have hj' : j ∈ Function.update t.retransmissionList k [] k' := hlist ▸ hj
  exact mem_of_mem_update (by simp) k' hj'

theorem inv_readRetransmissionList3Head (h : Inv t) : Inv (readRetransmissionList3Head t).2 := by
  cases hl : t.retransmissionList .list3 with
  | nil =>
    simp only [readRetransmissionList3Head, hl]
    exact h
  | cons i rest =>
    simp only [readRetransmissionList3Head, hl]
    obtain ⟨hs, hlists, hhist, hlist⟩ := removeHead_spec h.lists hl
    refine h.of_drained hs hlists hhist fun k j hj => ?_
    rw [hlist] at hj
    exact mem_of_mem_update (fun j hj => hl ▸ List.mem_cons_of_mem i hj) k hj

/-! ## Statistics and clearing -/

/-- The reports agree in everything but the samples counter. -/
def AdvReport.SameData (r s : AdvReport) : Prop :=
  { r with samplesCounter := 0 } = { s with samplesCounter := 0 }

theorem AdvReport.SameData.refl (r : AdvReport) : r.SameData r := rfl

theorem AdvReport.SameData.trans {r s v : AdvReport} (h : r.SameData s) (h' : s.SameData v) :
    r.SameData v :=
  Eq.trans h h'

theorem AdvReport.SameData.tagMac {r s : AdvReport} (h : r.SameData s) : r.tagMac = s.tagMac := by
  have hmac := congrArg AdvReport.tagMac (show { r with samplesCounter := 0 } = _ from h)
  exact hmac

/-- The samples counter is not part of the data. -/
theorem sameData_samplesCounter (r : AdvReport) (n : UInt32) :
    AdvReport.SameData { r with samplesCounter := n } r := rfl

/-- Counting the samples of an element changes no link and no data. -/
theorem sameData_setReport {r : AdvReport} (hr : r.SameData (t.report i)) (j : Idx) :
    ((t.setReport i r).report j).SameData (t.report j) := by
  by_cases hj : j = i
  · subst hj
    rw [setReport_self]
    exact hr
  · rw [setReport_of_ne r hj]
    exact .refl _

theorem statisticsLoop_spec (l : List Idx) :
    ∀ (reports : List AdvReport) (t : Table),
      SameLinks t (statisticsLoop l reports t).2 ∧
        ∀ j, ((statisticsLoop l reports t).2.report j).SameData (t.report j) := by
  induction l with
  | nil => exact fun _ t => ⟨.refl t, fun _ => .refl _⟩
  | cons i rest ih =>
    intro reports t
    rw [statisticsLoop]
    split
    · exact ⟨.refl t, fun _ => .refl _⟩
    · split
      · exact ⟨.refl t, fun _ => .refl _⟩
      · obtain ⟨hs, hd⟩ := ih (reports ++ [t.report i])
          (t.setReport i { t.report i with samplesCounter := 0 })
        have hstep : SameLinks t (t.setReport i { t.report i with samplesCounter := 0 }) :=
          sameLinks_setReport (r := { t.report i with samplesCounter := 0 }) rfl
        exact ⟨hstep.trans hs,
          fun j => (hd j).trans (sameData_setReport (sameData_samplesCounter _ 0) j)⟩

theorem sameLinks_foldl_free (l : List Idx) :
    ∀ t : Table, SameLinks t (l.foldl (fun t i => t.setReport i (t.report i).free) t) := by
  induction l with
  | nil => exact fun t => .refl t
  | cons i rest ih =>
    intro t
    have hstep : SameLinks t (t.setReport i (t.report i).free) :=
      sameLinks_setReport (r := (t.report i).free) rfl
    exact hstep.trans (ih _)

theorem inv_retransmissionListClear (h : Inv t) (k : ListId) :
    Inv (retransmissionListClear t k) := by
  obtain ⟨hs, hl, hhist, hlist⟩ := retransmissionListClear_spec h.lists k
  refine h.of_drained hs hl hhist fun k' j hj => ?_
  rw [hlist] at hj
  exact mem_of_mem_update (by simp) k' hj

/-- Clearing empties the three retransmission lists. -/
theorem clear_spec (h : Inv t) : Inv (clear t) ∧ ∀ k, (clear t).retransmissionList k = [] := by
  have h1 := inv_retransmissionListClear h .list1
  have h2 := inv_retransmissionListClear h1 .list2
  have h3 := inv_retransmissionListClear h2 .list3
  have hlists : ∀ k, (retransmissionListClear (retransmissionListClear
      (retransmissionListClear t .list1) .list2) .list3).retransmissionList k = [] := by
    intro k
    rw [(retransmissionListClear_spec h2.lists .list3).2.2.2,
      (retransmissionListClear_spec h1.lists .list2).2.2.2,
      (retransmissionListClear_spec h.lists .list1).2.2.2]
    cases k <;> simp
  have hs := sameLinks_foldl_free (retransmissionListClear (retransmissionListClear
      (retransmissionListClear t .list1) .list2) .list3).histList
    (retransmissionListClear (retransmissionListClear
      (retransmissionListClear t .list1) .list2) .list3)
  exact ⟨h3.of_sameLinks hs, fun k => (congrFun hs.retransmissionList k).trans (hlists k)⟩

end AdvTable
end RuuviGateway
