import Mathlib.Data.List.TakeWhile
import RuuviGateway.AdvTable.Delivery

/-!
# The history list

What each call does to the order of the history list and to the reports of its elements,
and what the two functions that walk it return.

An element whose `data_len` is not zero is *live*.  `LiveInv` says that the live elements
come first and are hashed.  `adv_table_read_history_unsafe` and
`adv_table_read_statistics_unsafe` both stop at the first element that fails a test, so
what they return is `List.takeWhile` of the history list.
-/

namespace RuuviGateway
namespace AdvTable

variable {t u : Table} {i j : Idx} {k : ListId}

/-! ## Lists in which the members with a property come first -/

section Prefix

variable {α : Type*} {p : α → Bool} {l : List α}

theorem takeWhile_eq_filter (h : l.Pairwise fun a b => p b = true → p a = true) :
    l.takeWhile p = l.filter p := by
  induction l with
  | nil => rfl
  | cons a l ih =>
    obtain ⟨ha, hl⟩ := List.pairwise_cons.mp h
    by_cases hp : p a = true
    · rw [List.takeWhile_cons_of_pos hp, List.filter_cons_of_pos hp, ih hl]
    · have hnil : l.filter p = [] :=
        List.filter_eq_nil_iff.mpr fun b hb hpb => hp (ha b hb hpb)
      rw [List.takeWhile_cons_of_neg hp, List.filter_cons_of_neg hp, hnil]

theorem mem_takeWhile_iff (h : l.Pairwise fun a b => p b = true → p a = true) (a : α) :
    a ∈ l.takeWhile p ↔ a ∈ l ∧ p a = true := by
  rw [takeWhile_eq_filter h, List.mem_filter]

/-- The walk reads only the members of the list. -/
theorem takeWhile_congr_of_mem {q : α → Bool} (h : ∀ a ∈ l, p a = q a) :
    l.takeWhile p = l.takeWhile q := by
  induction l with
  | nil => rfl
  | cons a l ih =>
    rw [List.takeWhile_cons, List.takeWhile_cons, h a List.mem_cons_self,
      ih fun b hb => h b (List.mem_cons_of_mem a hb)]

end Prefix

/-! ## What a put does -/

/-- The element `i` gets the report `r`, and is hashed. -/
structure Written (t u : Table) (i : Idx) (r : AdvReport) : Prop where
  self : u.report i = r
  other : ∀ j, j ≠ i → u.report j = t.report j
  hashed_self : (u.arrOfAdvReports i).isInHashTable = true
  hashed_other : ∀ j, j ≠ i →
    (u.arrOfAdvReports j).isInHashTable = (t.arrOfAdvReports j).isInHashTable

/-- The element `i` gets the report `r` and moves to the front of the history list. -/
structure Touched (t u : Table) (i : Idx) (r : AdvReport) : Prop extends Written t u i r where
  histList : u.histList = i :: t.histList.erase i

theorem written_setReport (r : AdvReport) (hhash : (t.arrOfAdvReports i).isInHashTable = true) :
    Written t (t.setReport i r) i r :=
  ⟨setReport_self r, fun _ hj => setReport_of_ne r hj,
    (setReport_isInHashTable r i).trans hhash, fun j _ => setReport_isInHashTable r j⟩

theorem touched_replaceReport (hi : Inv t) (i : Idx) (adv : AdvReport) :
    Touched t (markUpdated (replaceReport t i adv) i) i adv := by
  have harr := replaceReport_arr t i adv
  obtain ⟨hsame, -, hhist, -⟩ := markUpdated_spec (listInv_replaceReport hi.lists i adv) i
  refine ⟨⟨?_, fun j hj => ?_, ?_, fun j hj => ?_⟩, ?_⟩
  · rw [hsame.report, Table.report, harr, if_pos rfl]
  · rw [hsame.report, Table.report, harr, if_neg hj]
  · rw [hsame.isInHashTable, harr, if_pos rfl]
  · rw [hsame.isInHashTable, harr, if_neg hj]
  · rw [hhist, (replaceReport_lists t i adv).2]

theorem touched_setReport (hi : Inv t) {r : AdvReport}
    (hhash : (t.arrOfAdvReports i).isInHashTable = true)
    (hmac : r.tagMac = (t.report i).tagMac) :
    Touched t (markUpdated (t.setReport i r) i) i r := by
  have hset : Inv (t.setReport i r) := inv_setReport hi hmac
  obtain ⟨hsame, -, hhist, -⟩ := markUpdated_spec hset.lists i
  have hw : Written t (t.setReport i r) i r := written_setReport r hhash
  exact ⟨⟨(hsame.report i).trans hw.self, fun j hj => (hsame.report j).trans (hw.other j hj),
    (hsame.isInHashTable i).trans hw.hashed_self,
    fun j hj => (hsame.isInHashTable j).trans (hw.hashed_other j hj)⟩, hhist⟩

/-- **The three kinds of put.**  A new MAC address takes over the last element of the
history list, a new report of a known one goes into its element, and a report that is
discarded is only counted. -/
theorem put_spec (hi : Inv t) (adv : AdvReport) :
    (hashTableSearch t adv.tagMac = none ∧ (put t adv).2 = true ∧
      Touched t (put t adv).1 (histLast t) adv) ∨
    (∃ i, hashTableSearch t adv.tagMac = some i ∧ (put t adv).2 = true ∧
      Touched t (put t adv).1 i
        { adv with samplesCounter := (t.report i).samplesCounter + 1 }) ∨
    (∃ i, hashTableSearch t adv.tagMac = some i ∧
      checkIfAdvMustBeDiscarded adv (t.report i) = true ∧ (put t adv).2 = false ∧
      (put t adv).1 = t.setReport i
        { t.report i with samplesCounter := (t.report i).samplesCounter + 1 }) := by
  rcases put_cases t adv with ⟨hs, hput⟩ | ⟨i, hs, -, hput⟩ | ⟨i, hs, hd, hput⟩
  · rw [hput]
    exact Or.inl ⟨hs, rfl, touched_replaceReport hi _ adv⟩
  · obtain ⟨hhash, hmac⟩ := (hashTableSearch_eq_some hi.hash).mp hs
    rw [hput]
    exact Or.inr (Or.inl ⟨i, hs, rfl, touched_setReport hi hhash hmac.symm⟩)
  · rw [hput]
    exact Or.inr (Or.inr ⟨i, hs, hd, rfl, rfl⟩)

/-- A put whose report is accepted, without the kind. -/
theorem put_accepted (hi : Inv t) {adv : AdvReport} (h : (put t adv).2 = true) :
    ∃ i n, Touched t (put t adv).1 i { adv with samplesCounter := n } := by
  rcases put_spec hi adv with ⟨-, -, ht⟩ | ⟨i, -, -, ht⟩ | ⟨i, -, -, hf, -⟩
  · exact ⟨histLast t, adv.samplesCounter, ht⟩
  · exact ⟨i, _, ht⟩
  · exact absurd (h.symm.trans hf) (by simp)

/-- A put whose report is not accepted counts it. -/
theorem put_discarded (hi : Inv t) {adv : AdvReport} (h : (put t adv).2 = false) :
    ∃ i n, (put t adv).1 = t.setReport i { t.report i with samplesCounter := n } := by
  rcases put_spec hi adv with ⟨-, hf, -⟩ | ⟨i, -, hf, -⟩ | ⟨i, -, -, -, hput⟩
  · exact absurd (h.symm.trans hf) (by simp)
  · exact absurd (h.symm.trans hf) (by simp)
  · exact ⟨i, _, hput⟩

/-! ## What the other calls do -/

/-- The reports, the hash table and the order of the elements are the same. -/
structure SameHistory (t u : Table) : Prop where
  report : ∀ j, u.report j = t.report j
  isInHashTable : ∀ j,
    (u.arrOfAdvReports j).isInHashTable = (t.arrOfAdvReports j).isInHashTable
  histList : u.histList = t.histList

theorem sameHistory_readAndClear (hi : Inv t) (k : ListId) :
    SameHistory t (readRetransmissionListAndClear t k).2 := by
  have hlen := length_le_of_nodup (hi.lists.nodup k)
  obtain ⟨-, hs, -, hhist, -⟩ := readLoop_spec k (t.retransmissionList k) [] t hi.lists rfl
    (by rw [List.length_nil]; omega)
  exact ⟨hs.report, hs.isInHashTable, hhist⟩

theorem sameHistory_readHead (hi : Inv t) :
    SameHistory t (readRetransmissionList3Head t).2 := by
  cases hl : t.retransmissionList .list3 with
  | nil =>
    simp only [readRetransmissionList3Head, hl]
    exact ⟨fun _ => rfl, fun _ => rfl, rfl⟩
  | cons i rest =>
    simp only [readRetransmissionList3Head, hl]
    obtain ⟨hs, -, hhist, -⟩ := removeHead_spec hi.lists hl
    exact ⟨hs.report, hs.isInHashTable, hhist⟩

/-- The loop of `adv_table_clear` frees every report of the list it walks. -/
theorem foldl_free_report (l : List Idx) :
    ∀ (t : Table) (j : Idx), (l.foldl (fun t i => t.setReport i (t.report i).free) t).report j =
      if j ∈ l then (t.report j).free else t.report j := by
  induction l with
  | nil => exact fun t j => by simp
  | cons i rest ih =>
    intro t j
    rw [List.foldl_cons, ih]
    by_cases hj : j = i
    · subst hj
      rw [setReport_self]
      simp [AdvReport.free]
    · rw [setReport_of_ne _ hj]
      simp [hj]

theorem sameHistory_retransmissionListClear (hi : Inv t) (k : ListId) :
    SameHistory t (retransmissionListClear t k) := by
  obtain ⟨hs, -, hhist, -⟩ := retransmissionListClear_spec hi.lists k
  exact ⟨hs.report, hs.isInHashTable, hhist⟩

theorem SameHistory.trans {v : Table} (h : SameHistory t u) (h' : SameHistory u v) :
    SameHistory t v :=
  ⟨fun j => (h'.report j).trans (h.report j),
    fun j => (h'.isInHashTable j).trans (h.isInHashTable j), h'.histList.trans h.histList⟩

/-- Clearing frees every report and leaves the order and the hash table. -/
theorem clear_history (hi : Inv t) :
    (∀ j, (clear t).report j = (t.report j).free) ∧
      (∀ j, ((clear t).arrOfAdvReports j).isInHashTable =
        (t.arrOfAdvReports j).isInHashTable) ∧
      (clear t).histList = t.histList := by
  have h1 := inv_retransmissionListClear hi .list1
  have h2 := inv_retransmissionListClear h1 .list2
  have hs := ((sameHistory_retransmissionListClear hi .list1).trans
    (sameHistory_retransmissionListClear h1 .list2)).trans
    (sameHistory_retransmissionListClear h2 .list3)
  have hlinks := sameLinks_foldl_free (retransmissionListClear (retransmissionListClear
      (retransmissionListClear t .list1) .list2) .list3).histList
    (retransmissionListClear (retransmissionListClear
      (retransmissionListClear t .list1) .list2) .list3)
  refine ⟨fun j => ?_, fun j => ?_, ?_⟩
  · have hfree := foldl_free_report (retransmissionListClear (retransmissionListClear
        (retransmissionListClear t .list1) .list2) .list3).histList
      (retransmissionListClear (retransmissionListClear
        (retransmissionListClear t .list1) .list2) .list3) j
    rw [hs.histList, if_pos (hi.hist_mem j), hs.report] at hfree
    rw [← hfree, ← hs.histList]
    rfl
  · exact (hlinks.isInHashTable j).trans (hs.isInHashTable j)
  · exact hlinks.histList.trans hs.histList

/-! ## What the two walks return -/

/-- The element is live: `adv_table_read_history_unsafe` does not stop at it. -/
def Table.live (t : Table) (i : Idx) : Bool := !decide ((t.report i).dataLen = 0)

/-- The element is stamped: `adv_table_read_statistics_unsafe` does not stop at it. -/
def Table.stamped (t : Table) (i : Idx) : Bool := !decide ((t.report i).timestamp = 0)

theorem Table.live_iff : t.live i = true ↔ (t.report i).dataLen ≠ 0 := by
  simp [Table.live]

theorem Table.stamped_iff : t.stamped i = true ↔ (t.report i).timestamp ≠ 0 := by
  simp [Table.stamped]

theorem historyLoop_eq (stops : AdvReport → Bool) (l : List Idx) :
    ∀ reports : List AdvReport, reports.length + l.length ≤ maxAdvsTable →
      historyLoop t stops l reports =
        reports ++ (l.takeWhile fun i => t.live i && !stops (t.report i)).map t.report := by
  induction l with
  | nil => exact fun reports _ => by simp [historyLoop]
  | cons i rest ih =>
    intro reports hlen
    rw [List.length_cons] at hlen
    have hroom : ¬ maxAdvsTable ≤ reports.length := by omega
    rw [historyLoop, if_neg hroom]
    by_cases hlive : (t.report i).dataLen = 0
    · have hdead : t.live i = false := by simp [Table.live, hlive]
      rw [if_pos hlive, List.takeWhile_cons_of_neg (by simp [hdead])]
      simp
    · have hl : t.live i = true := Table.live_iff.mpr hlive
      rw [if_neg hlive]
      by_cases hstop : stops (t.report i) = true
      · rw [if_pos hstop, List.takeWhile_cons_of_neg (by simp [hstop])]
        simp
      · rw [if_neg hstop, List.takeWhile_cons_of_pos (by simp [hl, hstop]),
          ih _ (by rw [List.length_append, List.length_singleton]; omega)]
        simp

/-- **What the history read returns**: the reports of the live elements before the first
one at which the filter stops. -/
theorem historyRead_eq (hi : Inv t) (curTime : UInt32) (flagUseTimestamps : Bool)
    (filter : UInt32) (flagUseFilter : Bool) :
    historyRead t curTime flagUseTimestamps filter flagUseFilter =
      (t.histList.takeWhile fun i => t.live i &&
        !historyFilterStops curTime flagUseTimestamps filter flagUseFilter (t.report i)).map
          t.report := by
  have hlen := length_le_of_nodup hi.hist_nodup
  exact historyLoop_eq _ _ [] (by rw [List.length_nil]; omega)

/-- Without a filter the history read returns the reports of the live elements. -/
theorem historyRead_unfiltered (hi : Inv t) (curTime : UInt32) (flagUseTimestamps : Bool)
    (filter : UInt32) :
    historyRead t curTime flagUseTimestamps filter false =
      (t.histList.takeWhile t.live).map t.report := by
  have hstop : (fun i => t.live i &&
      !historyFilterStops curTime flagUseTimestamps filter false (t.report i)) = t.live := by
    funext i
    simp [historyFilterStops]
  rw [historyRead_eq hi, hstop]

theorem statisticsLoop_eq (l : List Idx) :
    ∀ (reports : List AdvReport) (t : Table), l.Nodup →
      reports.length + l.length ≤ maxAdvsTable →
      (statisticsLoop l reports t).1 = reports ++ (l.takeWhile t.stamped).map t.report ∧
        ∀ j, (statisticsLoop l reports t).2.report j =
          if j ∈ l.takeWhile t.stamped then { t.report j with samplesCounter := 0 }
          else t.report j := by
  induction l with
  | nil => exact fun reports t _ _ => ⟨by simp [statisticsLoop], fun j => by simp [statisticsLoop]⟩
  | cons i rest ih =>
    intro reports t hnodup hlen
    rw [List.length_cons] at hlen
    obtain ⟨hi, hrest⟩ := List.nodup_cons.mp hnodup
    have hroom : ¬ maxAdvsTable ≤ reports.length := by omega
    rw [statisticsLoop, if_neg hroom]
    by_cases hzero : (t.report i).timestamp = 0
    · have hfree : ¬ t.stamped i = true := fun h => Table.stamped_iff.mp h hzero
      rw [if_pos hzero, List.takeWhile_cons_of_neg hfree]
      exact ⟨by simp, fun j => by simp⟩
    · have hst : t.stamped i = true := Table.stamped_iff.mpr hzero
      rw [if_neg hzero, List.takeWhile_cons_of_pos hst]
      -- the write to `i` is not seen by the rest of the walk
      have hother : ∀ j ∈ rest,
          (t.setReport i { t.report i with samplesCounter := 0 }).report j = t.report j :=
        fun j hj => setReport_of_ne _ fun he => hi (he ▸ hj)
      have htake : rest.takeWhile
          (t.setReport i { t.report i with samplesCounter := 0 }).stamped =
            rest.takeWhile t.stamped :=
        takeWhile_congr_of_mem fun j hj => by rw [Table.stamped, Table.stamped, hother j hj]
      obtain ⟨hr, ht⟩ := ih (reports ++ [t.report i])
        (t.setReport i { t.report i with samplesCounter := 0 }) hrest
        (by rw [List.length_append, List.length_singleton]; omega)
      rw [htake] at hr ht
      refine ⟨?_, fun j => ?_⟩
      · rw [hr, List.map_cons, List.append_assoc, List.singleton_append]
        congr 2
        exact List.map_congr_left fun j hj =>
          hother j (List.takeWhile_subset _ hj)
      · rw [ht]
        by_cases hj : j = i
        · subst hj
          have hnot : j ∉ rest.takeWhile t.stamped := fun h => hi (List.takeWhile_subset _ h)
          rw [if_neg hnot, setReport_self, if_pos List.mem_cons_self]
        · rw [setReport_of_ne _ hj]
          simp [hj]

/-- **What the statistics read returns**, and which counters it resets. -/
theorem statisticsRead_eq (hi : Inv t) :
    (statisticsRead t).1 = (t.histList.takeWhile t.stamped).map t.report ∧
      ∀ j, (statisticsRead t).2.report j =
        if j ∈ t.histList.takeWhile t.stamped then { t.report j with samplesCounter := 0 }
        else t.report j := by
  have hlen := length_le_of_nodup hi.hist_nodup
  exact statisticsLoop_eq _ [] t hi.hist_nodup (by rw [List.length_nil]; omega)

/-! ## The live elements come first -/

theorem AdvReport.SameData.timestamp {r s : AdvReport} (h : r.SameData s) :
    r.timestamp = s.timestamp := by
  have ht := congrArg AdvReport.timestamp (show { r with samplesCounter := 0 } = _ from h)
  exact ht

theorem AdvReport.SameData.dataLen {r s : AdvReport} (h : r.SameData s) :
    r.dataLen = s.dataLen := by
  have hl := congrArg AdvReport.dataLen (show { r with samplesCounter := 0 } = _ from h)
  exact hl

/-- The reports put into the table are not empty. -/
def Op.PutsData : Op → Prop
  | .put adv => adv.dataLen ≠ 0
  | _ => True

/-- The representation invariant, together with the order of the history list. -/
structure LiveInv (t : Table) : Prop where
  inv : Inv t
  first : t.histList.Pairwise fun i j => t.live j = true → t.live i = true
  hashed : ∀ i, t.live i = true → (t.arrOfAdvReports i).isInHashTable = true

theorem liveInv_init : LiveInv init where
  inv := inv_init
  first := (List.nodup_finRange maxAdvsTable).imp fun {_ _} _ hb =>
    absurd rfl (Table.live_iff.mp hb)
  hashed := fun _ h => absurd rfl (Table.live_iff.mp h)

/-- The order survives when no element becomes live. -/
theorem LiveInv.of_live_eq (h : LiveInv t) (hi : Inv u) (hlive : ∀ j, u.live j = t.live j)
    (hhash : ∀ j, (u.arrOfAdvReports j).isInHashTable = (t.arrOfAdvReports j).isInHashTable)
    (hhist : u.histList = t.histList) : LiveInv u where
  inv := hi
  first := by
    rw [hhist]
    exact h.first.imp fun hij hj => by rw [hlive] at hj ⊢; exact hij hj
  hashed := fun j hj => by
    rw [hlive] at hj
    rw [hhash, h.hashed j hj]

theorem LiveInv.of_sameHistory (h : LiveInv t) (hi : Inv u) (hs : SameHistory t u) :
    LiveInv u :=
  h.of_live_eq hi (fun j => by rw [Table.live, Table.live, hs.report]) hs.isInHashTable hs.histList

/-- The element that moves to the front is live and hashed. -/
theorem LiveInv.of_touched (h : LiveInv t) (hi : Inv u) {r : AdvReport} (ht : Touched t u i r)
    (hr : r.dataLen ≠ 0) : LiveInv u where
  inv := hi
  first := by
    have hself : u.live i = true := Table.live_iff.mpr (by rw [ht.self]; exact hr)
    have hother : ∀ j, j ≠ i → u.live j = t.live j := fun j hj => by
      rw [Table.live, Table.live, ht.other j hj]
    rw [ht.histList]
    refine List.pairwise_cons.mpr ⟨fun _ _ _ => hself, ?_⟩
    refine (h.first.sublist List.erase_sublist).imp_of_mem fun {a b} ha hb hab hlive => ?_
    have hne : ∀ j ∈ t.histList.erase i, j ≠ i := fun j hj =>
      (h.inv.hist_nodup.mem_erase_iff.mp hj).1
    rw [hother a (hne a ha)]
    exact hab (hother b (hne b hb) ▸ hlive)
  hashed := fun j hj => by
    by_cases hji : j = i
    · rw [hji, ht.hashed_self]
    · rw [ht.hashed_other j hji]
      exact h.hashed j (by rw [Table.live, ← ht.other j hji]; exact hj)

theorem inv_put (hi : Inv t) (adv : AdvReport) : Inv (put t adv).1 := by
  rcases put_cases t adv with ⟨hs, hput⟩ | ⟨i, hs, -, hput⟩ | ⟨i, hs, -, hput⟩
  · rw [hput]
    exact inv_put_new hi hs
  · obtain ⟨hhash, hmac⟩ := (hashTableSearch_eq_some hi.hash).mp hs
    rw [hput]
    exact (accepted_setReport hi hhash hmac).inv
  · rw [hput]
    exact inv_setReport hi (r := { t.report i with samplesCounter := _ }) rfl

theorem inv_exec (hi : Inv t) (op : Op) : Inv (exec t op).1 := by
  cases op with
  | put adv => exact inv_put hi adv
  | readRetransmissionListAndClear k => exact (readAndClear_spec hi k).2.2.2
  | readRetransmissionList3Head => exact inv_readRetransmissionList3Head hi
  | historyRead => exact hi
  | statisticsRead => exact hi.of_sameLinks (statisticsLoop_spec t.histList [] t).1
  | clear => exact (clear_spec hi).1

/-- The call puts a report. -/
def Op.isPut : Op → Bool
  | .put _ => true
  | _ => false

/-- Only a put fills an empty retransmission list. -/
theorem retransmissionList_exec_eq_nil (hi : Inv t) {op : Op} (hop : op.isPut = false)
    (hk : t.retransmissionList k = []) : (exec t op).1.retransmissionList k = [] := by
  have hempty : ∀ k', Function.update t.retransmissionList k' [] k = [] := fun k' => by
    by_cases hkk : k = k'
    · rw [hkk, Function.update_self]
    · rw [Function.update_of_ne hkk, hk]
  cases op with
  | put adv => exact absurd hop (by simp [Op.isPut])
  | readRetransmissionListAndClear k' =>
    exact (congrFun (readAndClear_spec hi k').2.2.1 k).trans (hempty k')
  | readRetransmissionList3Head =>
    show (readRetransmissionList3Head t).2.retransmissionList k = []
    cases hl : t.retransmissionList .list3 with
    | nil =>
      simp only [readRetransmissionList3Head, hl]
      exact hk
    | cons i rest =>
      simp only [readRetransmissionList3Head, hl]
      have hne : k ≠ .list3 := by
        rintro rfl
        rw [hl] at hk
        exact absurd hk (by simp)
      rw [(removeHead_spec hi.lists hl).2.2.2, Function.update_of_ne hne, hk]
  | historyRead => exact hk
  | statisticsRead =>
    exact (congrFun (statisticsLoop_spec t.histList [] t).1.retransmissionList k).trans hk
  | clear => exact (clear_spec hi).2 k

theorem liveInv_put (h : LiveInv t) {adv : AdvReport} (hadv : adv.dataLen ≠ 0) :
    LiveInv (put t adv).1 := by
  have hi := inv_put h.inv adv
  cases hacc : (put t adv).2 with
  | true =>
    obtain ⟨i, n, ht⟩ := put_accepted h.inv hacc
    exact h.of_touched hi ht hadv
  | false =>
    obtain ⟨i, n, hput⟩ := put_discarded h.inv hacc
    refine h.of_live_eq hi (fun j => ?_) (fun j => ?_) (by rw [hput]; rfl)
    · rw [hput]
      by_cases hj : j = i
      · subst hj
        rw [Table.live, Table.live, setReport_self]
      · rw [Table.live, Table.live, setReport_of_ne _ hj]
    · rw [hput, setReport_isInHashTable]

theorem liveInv_statisticsRead (h : LiveInv t) : LiveInv (statisticsRead t).2 := by
  obtain ⟨hs, -⟩ := statisticsLoop_spec t.histList [] t
  refine h.of_live_eq (h.inv.of_sameLinks hs) (fun j => ?_) hs.isInHashTable hs.histList
  rw [Table.live, Table.live, (statisticsRead_eq h.inv).2]
  split <;> rfl

theorem liveInv_clear (h : LiveInv t) : LiveInv (clear t) := by
  obtain ⟨hr, -, hhist⟩ := clear_history h.inv
  have hdead : ∀ j, ¬ (clear t).live j = true := fun j hj =>
    Table.live_iff.mp hj (by rw [hr]; rfl)
  refine ⟨(clear_spec h.inv).1, ?_, fun j hj => absurd hj (hdead j)⟩
  rw [hhist]
  exact h.first.imp fun {_ b} _ hb => absurd hb (hdead b)

/-- **One call keeps the live elements first.** -/
theorem liveInv_exec (h : LiveInv t) {op : Op} (hop : op.PutsData) : LiveInv (exec t op).1 := by
  cases op with
  | put adv => exact liveInv_put h hop
  | readRetransmissionListAndClear k =>
    exact h.of_sameHistory (readAndClear_spec h.inv k).2.2.2 (sameHistory_readAndClear h.inv k)
  | readRetransmissionList3Head =>
    exact h.of_sameHistory (inv_readRetransmissionList3Head h.inv) (sameHistory_readHead h.inv)
  | historyRead => exact h
  | statisticsRead => exact liveInv_statisticsRead h
  | clear => exact liveInv_clear h

/-- A sequence of calls keeps the live elements first. -/
theorem liveInv_execAll (ops : List Op) (hops : ∀ op ∈ ops, op.PutsData) :
    ∀ t : Table, LiveInv t → LiveInv (execAll t ops) := by
  induction ops with
  | nil => exact fun t h => h
  | cons op rest ih =>
    intro t h
    have hstep := liveInv_exec h (hops op List.mem_cons_self)
    exact ih (fun o ho => hops o (List.mem_cons_of_mem op ho)) _ hstep

/-- The live elements are exactly the ones that the unfiltered history read walks. -/
theorem LiveInv.mem_takeWhile (h : LiveInv t) (i : Idx) :
    i ∈ t.histList.takeWhile t.live ↔ t.live i = true := by
  rw [mem_takeWhile_iff h.first]
  exact and_iff_right (h.inv.hist_mem i)

end AdvTable
end RuuviGateway
