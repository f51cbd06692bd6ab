import RuuviGateway.AdvTable.History
import RuuviGateway.Lib.RecentMap

/-!
# The table as a map ordered by the last update

To its callers the table is a map from MAC addresses to reports with room for
`MAX_ADVS_TABLE` of them, in the order of their last accepted update.  The elements that
hold data are its entries; which element holds which report, which elements are free, and
which of those are still hashed under a MAC address of old, is not seen.

The counter of samples is left out here: it also counts the reports that are discarded.
-/

namespace RuuviGateway
namespace AdvTable

variable {t u : Table} {i j : Idx} {k : ListId}

/-! ## The map -/

/-- A report without the counter of samples. -/
def AdvReport.data (r : AdvReport) : AdvReport := { r with samplesCounter := 0 }

@[simp] theorem AdvReport.data_tagMac (r : AdvReport) : r.data.tagMac = r.tagMac := rfl

/-- The reports that the table holds, the most recently updated first. -/
def Table.liveReports (t : Table) : List AdvReport := (t.histList.filter t.live).map t.report

/-- Maps from MAC addresses to reports, ordered by the last accepted update. -/
abbrev RecentReports := RecentMap AdvReport.tagMac maxAdvsTable

/-- What a call does to the map. -/
def recentStep (m : RecentReports) : Op → RecentReports
  | .put adv => (m.put checkIfAdvMustBeDiscarded adv.data).1
  | .clear => .empty
  | .readRetransmissionListAndClear _ | .readRetransmissionList3Head | .historyRead ..
  | .statisticsRead => m

/-- The map after a sequence of calls. -/
def recentRun (ops : List Op) : RecentReports := ops.foldl recentStep .empty

/-- The MAC address is due on a retransmission list. -/
def Table.Queued (t : Table) (k : ListId) (mac : MacAddress) : Prop :=
  ∃ i ∈ t.retransmissionList k, (t.report i).tagMac = mac

/-- **The refinement.**  The table holds what the map holds, and what is due on a
retransmission list is held. -/
structure Refines (t : Table) (m : RecentReports) : Prop where
  live : LiveInv t
  entries : t.liveReports.map AdvReport.data = m.entries
  queued : ∀ k, ∀ i ∈ t.retransmissionList k, t.live i = true

theorem refines_init : Refines init .empty where
  live := liveInv_init
  entries := by
    have hnone : init.histList.filter init.live = [] :=
      List.filter_eq_nil_iff.mpr fun _ _ h => absurd rfl (Table.live_iff.mp h)
    rw [Table.liveReports, hnone]
    rfl
  queued := fun _ _ h => absurd h (by simp [init])

/-! ## Looking up -/

/-- A live element is found under its MAC address. -/
theorem Refines.find?_live {m : RecentReports} (h : Refines t m) (hi : t.live i = true) :
    m.find? (t.report i).tagMac = some (t.report i).data := by
  refine RecentMap.find?_eq_some.mpr ⟨?_, rfl⟩
  rw [← h.entries]
  exact List.mem_map_of_mem
    (List.mem_map_of_mem (List.mem_filter.mpr ⟨h.live.inv.hist_mem i, hi⟩))

/-- A MAC address under which no live element is hashed is not held. -/
theorem Refines.find?_none {m : RecentReports} (h : Refines t m) {mac : MacAddress}
    (hmac : ∀ i, t.live i = true → (t.report i).tagMac ≠ mac) : m.find? mac = none := by
  refine RecentMap.find?_eq_none.mpr fun r hr => ?_
  rw [← h.entries] at hr
  obtain ⟨r', hr', rfl⟩ := List.mem_map.mp hr
  obtain ⟨i, hi, rfl⟩ := List.mem_map.mp hr'
  exact hmac i (List.mem_filter.mp hi).2

/-- A live element with the MAC address of a hashed one is that one. -/
theorem LiveInv.eq_of_tagMac_eq (h : LiveInv t) (hi : (t.arrOfAdvReports i).isInHashTable = true)
    (hj : t.live j = true) (hmac : (t.report j).tagMac = (t.report i).tagMac) : j = i :=
  h.inv.hash.inj j i (h.hashed j hj) hi hmac

/-! ## Putting -/

/-- An element that is written with data comes to the front. -/
theorem Touched.liveReports {r : AdvReport} (hi : Inv t) (ht : Touched t u i r)
    (hr : r.dataLen ≠ 0) :
    u.liveReports = r :: ((t.histList.erase i).filter t.live).map t.report := by
  have hself : u.live i = true := Table.live_iff.mpr (by rw [ht.self]; exact hr)
  have hne : ∀ j ∈ t.histList.erase i, j ≠ i := fun j hj =>
    (hi.hist_nodup.mem_erase_iff.mp hj).1
  have hfilter : (t.histList.erase i).filter u.live = (t.histList.erase i).filter t.live :=
    List.filter_congr fun j hj => by rw [Table.live, Table.live, ht.other j (hne j hj)]
  rw [Table.liveReports, ht.histList, List.filter_cons_of_pos hself, List.map_cons, ht.self,
    hfilter]
  exact congrArg (r :: ·) (List.map_congr_left fun j hj =>
    ht.other j (hne j (List.mem_of_mem_filter hj)))

/-- What is left when a hashed element is taken out. -/
theorem LiveInv.liveReports_erase (h : LiveInv t)
    (hi : (t.arrOfAdvReports i).isInHashTable = true) :
    ((t.histList.erase i).filter t.live).map t.report =
      t.liveReports.filter fun r => decide (r.tagMac ≠ (t.report i).tagMac) := by
  rw [Table.liveReports, List.filter_map, h.inv.hist_nodup.erase_eq_filter, List.filter_filter,
    List.filter_filter]
  refine congrArg (List.map t.report) (List.filter_congr fun j _ => ?_)
  by_cases hlive : t.live j = true
  · by_cases hji : j = i
    · simp [hji]
    · have hmac : (t.report j).tagMac ≠ (t.report i).tagMac := fun heq =>
        hji (h.eq_of_tagMac_eq hi hlive heq)
      simp [hlive, hji, hmac]
  · simp [hlive]

/-- The elements before the last one of the history list. -/
theorem Inv.histList_eq (hi : Inv t) :
    t.histList = t.histList.erase (histLast t) ++ [histLast t] := by
  have hnil : t.histList ≠ [] := List.ne_nil_of_mem (hi.hist_mem (histLast t))
  have hlast : histLast t = t.histList.getLast hnil := by
    rw [histLast, List.getLastD_eq_getLast?, List.getLast?_eq_some_getLast hnil]
    rfl
  have hsplit := List.dropLast_append_getLast hnil
  rw [← hlast] at hsplit
  have hnot : histLast t ∉ t.histList.dropLast := by
    have hnodup := hi.hist_nodup
    rw [← hsplit, List.nodup_append] at hnodup
    exact fun hmem => hnodup.2.2 _ hmem _ List.mem_cons_self rfl
  have herase : t.histList.erase (histLast t) = t.histList.dropLast := by
    conv_lhs => rw [← hsplit, List.erase_append_right _ hnot, List.erase_cons_head,
      List.append_nil]
  rw [herase, hsplit]

/-- All elements but one. -/
theorem Inv.length_erase (hi : Inv t) (i : Idx) :
    (t.histList.erase i).length + 1 = maxAdvsTable := by
  rw [List.length_erase_of_mem (hi.hist_mem i)]
  have hlen : t.histList.length = maxAdvsTable := by
    have hperm : t.histList.Perm (List.finRange maxAdvsTable) :=
      (List.perm_ext_iff_of_nodup hi.hist_nodup (List.nodup_finRange _)).mpr fun j =>
        iff_of_true (hi.hist_mem j) (List.mem_finRange j)
    rw [hperm.length_eq, List.length_finRange]
  have hpos : 0 < t.histList.length := List.length_pos_of_mem (hi.hist_mem i)
  omega

/-- **The element that is taken over is the one whose update is the oldest**: what is left is
what the map keeps of its values. -/
theorem LiveInv.liveReports_erase_histLast (h : LiveInv t) :
    ((t.histList.erase (histLast t)).filter t.live).map t.report =
      t.liveReports.take (maxAdvsTable - 1) := by
  have hlen := h.inv.length_erase (histLast t)
  have hsplit := h.inv.histList_eq
  have hfirst := h.first
  have hlive : t.liveReports = ((t.histList.erase (histLast t)).filter t.live ++
      [histLast t].filter t.live).map t.report := by
    rw [Table.liveReports, ← List.filter_append, ← hsplit]
  rw [hlive]
  by_cases hlast : t.live (histLast t) = true
  · -- all elements are live
    have hall : (t.histList.erase (histLast t)).filter t.live =
        t.histList.erase (histLast t) := by
      rw [hsplit, List.pairwise_append] at hfirst
      exact List.filter_eq_self.mpr fun j hj => hfirst.2.2 j hj _ List.mem_cons_self hlast
    rw [hall, List.map_append, List.take_left' (by rw [List.length_map]; omega)]
  · have hnil : [histLast t].filter t.live = [] := by simp [hlast]
    rw [hnil, List.append_nil, List.take_of_length_le]
    rw [List.length_map]
    have := List.length_filter_le t.live (t.histList.erase (histLast t))
    omega

/-- The map after an accepted put whose MAC address no hashed element has. -/
theorem Refines.entries_update_new {m : RecentReports} (h : Refines t m) {adv : AdvReport}
    (hs : hashTableSearch t adv.tagMac = none) :
    m.find? adv.tagMac = none ∧ (m.update adv.data).entries =
      adv.data :: (((t.histList.erase (histLast t)).filter t.live).map t.report).map
        AdvReport.data := by
  have hnone : m.find? adv.data.tagMac = none := h.find?_none fun i hi =>
    (hashTableSearch_eq_none h.live.inv.hash).mp hs i (h.live.hashed i hi)
  refine ⟨hnone, ?_⟩
  rw [RecentMap.entries_update_of_none hnone, h.live.liveReports_erase_histLast, List.map_take,
    h.entries]
  rfl

/-- The map after an accepted put for the MAC address of a hashed element, whether that is
live or not. -/
theorem Refines.entries_update_hashed {m : RecentReports} (h : Refines t m) {adv : AdvReport}
    (hi : (t.arrOfAdvReports i).isInHashTable = true) (hmac : (t.report i).tagMac = adv.tagMac) :
    (m.update adv.data).entries =
      adv.data :: (((t.histList.erase i).filter t.live).map t.report).map AdvReport.data := by
  have hlen := h.live.inv.length_erase i
  have hle := List.length_filter_le t.live (t.histList.erase i)
  have hfilter : (m.entries.filter fun w => decide (w.tagMac ≠ adv.data.tagMac)) =
      (((t.histList.erase i).filter t.live).map t.report).map AdvReport.data := by
    rw [h.live.liveReports_erase hi, ← h.entries, List.filter_map, hmac]
    rfl
  show (adv.data :: m.entries.filter _).take maxAdvsTable = _
  rw [hfilter]
  refine List.take_of_length_le ?_
  rw [List.length_cons, List.length_map, List.length_map]
  omega

/-- The counter of an element changes, and nothing else. -/
theorem liveReports_data_congr (hdata : ∀ j, (u.report j).data = (t.report j).data)
    (hhist : u.histList = t.histList) :
    u.liveReports.map AdvReport.data = t.liveReports.map AdvReport.data := by
  have hlive : u.live = t.live := funext fun j => by
    have hlen := congrArg AdvReport.dataLen (hdata j)
    rw [Table.live, Table.live, show (u.report j).dataLen = (t.report j).dataLen from hlen]
  rw [Table.liveReports, Table.liveReports, hhist, hlive, List.map_map, List.map_map]
  exact List.map_congr_left fun j _ => hdata j

/-- After an accepted put what is due is held. -/
theorem Refines.queued_of_accepted {m : RecentReports} (h : Refines t m) {adv : AdvReport}
    (ha : Accepted t u i adv) (hadv : adv.dataLen ≠ 0) (k : ListId) :
    ∀ j ∈ u.retransmissionList k, u.live j = true := by
  intro j hj
  rw [Table.live_iff]
  by_cases hji : j = i
  · rw [hji, ha.self.dataLen]
    exact hadv
  · rw [ha.other j hji]
    exact Table.live_iff.mp (h.queued k j (((ha.mem_iff k j).mp hj).resolve_right hji))

/-- A report with data is not discarded because of an element without. -/
theorem live_of_discarded {adv prevAdv : AdvReport} (hadv : adv.dataLen ≠ 0)
    (hd : checkIfAdvMustBeDiscarded adv prevAdv = true) : prevAdv.dataLen ≠ 0 := by
  intro hzero
  rw [checkIfAdvMustBeDiscarded, hzero] at hd
  simp [hadv.symm, bleMaxRegularAdvDataLen] at hd

/-- **A put does to the table what it does to the map.** -/
theorem refines_put {m : RecentReports} (h : Refines t m) {adv : AdvReport}
    (hadv : adv.dataLen ≠ 0) :
    Refines (put t adv).1 (m.put checkIfAdvMustBeDiscarded adv.data).1 ∧
      (put t adv).2 = (m.put checkIfAdvMustBeDiscarded adv.data).2 := by
  have hi := h.live.inv
  have hlive := liveInv_put h.live hadv
  rcases put_cases t adv with ⟨hs, hput⟩ | ⟨i, hs, hd, hput⟩ | ⟨i, hs, hd, hput⟩
  · obtain ⟨hnone, hentries⟩ := h.entries_update_new hs
    rw [hput] at hlive ⊢
    rw [RecentMap.put_of_none (v := adv.data) hnone]
    refine ⟨⟨hlive, ?_, h.queued_of_accepted (accepted_replaceReport hi hs) hadv⟩, rfl⟩
    rw [(touched_replaceReport hi _ adv).liveReports hi hadv, List.map_cons, hentries]
  · obtain ⟨hhash, hmac⟩ := (hashTableSearch_eq_some hi.hash).mp hs
    have hm : m.put checkIfAdvMustBeDiscarded adv.data = (m.update adv.data, true) := by
      cases hf : m.find? adv.data.tagMac with
      | none => exact RecentMap.put_of_none hf
      | some old =>
        have hold : old = (t.report i).data := by
          by_cases hl : t.live i = true
          · exact Option.some.inj (hf.symm.trans (hmac ▸ h.find?_live hl))
          · -- the element is free, and the map has nothing under its MAC address
            have hnone : m.find? adv.tagMac = none := h.find?_none fun j hj heq =>
              hl (h.live.eq_of_tagMac_eq hhash hj (heq.trans hmac.symm) ▸ hj)
            exact absurd (hnone.symm.trans hf) (by simp)
        have hnot : checkIfAdvMustBeDiscarded adv.data old = false := by rw [hold]; exact hd
        rw [RecentMap.put_of_some hf, hnot]
        rfl
    have ht := touched_setReport
      (r := { adv with samplesCounter := (t.report i).samplesCounter + 1 }) hi hhash hmac.symm
    rw [hput] at hlive ⊢
    rw [hm]
    refine ⟨⟨hlive, ?_, h.queued_of_accepted (accepted_setReport hi hhash hmac) hadv⟩, rfl⟩
    rw [ht.liveReports hi hadv, List.map_cons, h.entries_update_hashed hhash hmac]
    rfl
  · obtain ⟨hhash, hmac⟩ := (hashTableSearch_eq_some hi.hash).mp hs
    have hl : t.live i = true := Table.live_iff.mpr (live_of_discarded hadv hd)
    have hm : m.put checkIfAdvMustBeDiscarded adv.data = (m, false) := by
      have hf : m.find? adv.data.tagMac = some (t.report i).data := hmac ▸ h.find?_live hl
      have hyes : checkIfAdvMustBeDiscarded adv.data (t.report i).data = true := hd
      rw [RecentMap.put_of_some hf, if_pos hyes]
    have hdata : ∀ j, ((put t adv).1.report j).data = (t.report j).data := fun j => by
      rw [hput]
      exact sameData_setReport (sameData_samplesCounter _ _) j
    have hqueue : (put t adv).1.retransmissionList = t.retransmissionList := by
      rw [hput]
      rfl
    rw [hm]
    refine ⟨⟨hlive, ?_, fun k j hj => ?_⟩, by rw [hput]⟩
    · rw [liveReports_data_congr hdata (by rw [hput]; rfl), h.entries]
    · rw [hqueue] at hj
      have hlen := congrArg AdvReport.dataLen (hdata j)
      rw [Table.live_iff, show ((put t adv).1.report j).dataLen = (t.report j).dataLen from hlen]
      exact Table.live_iff.mp (h.queued k j hj)

/-! ## The other calls -/

/-- A call that takes reports out of the retransmission lists, or resets counters. -/
theorem Refines.of_data {m : RecentReports} (h : Refines t m) (hl : LiveInv u)
    (hdata : ∀ j, (u.report j).data = (t.report j).data) (hhist : u.histList = t.histList)
    (hsub : ∀ k, u.retransmissionList k ⊆ t.retransmissionList k) : Refines u m where
  live := hl
  entries := by rw [liveReports_data_congr hdata hhist, h.entries]
  queued := fun k j hj => by
    have hlen := congrArg AdvReport.dataLen (hdata j)
    rw [Table.live_iff, show (u.report j).dataLen = (t.report j).dataLen from hlen]
    exact Table.live_iff.mp (h.queued k j (hsub k hj))

/-- Clearing empties the map. -/
theorem refines_clear {m : RecentReports} (h : Refines t m) : Refines (clear t) .empty where
  live := liveInv_clear h.live
  entries := by
    obtain ⟨hr, -, -⟩ := clear_history h.live.inv
    have hnone : (clear t).histList.filter (clear t).live = [] :=
      List.filter_eq_nil_iff.mpr fun j _ hj => Table.live_iff.mp hj (by rw [hr]; rfl)
    rw [Table.liveReports, hnone]
    rfl
  queued := fun k j hj => by
    rw [(clear_spec h.live.inv).2 k] at hj
    exact absurd hj (by simp)

/-- One call keeps the refinement. -/
theorem refines_exec {m : RecentReports} (h : Refines t m) {op : Op} (hop : op.PutsData) :
    Refines (exec t op).1 (recentStep m op) := by
  have hi := h.live.inv
  have hl := liveInv_exec h.live hop
  cases op with
  | put adv => exact (refines_put h hop).1
  | readRetransmissionListAndClear k =>
    obtain ⟨-, -, hlist, -⟩ := readAndClear_spec hi k
    have hs := sameHistory_readAndClear hi k
    refine h.of_data hl (fun j => congrArg AdvReport.data (hs.report j)) hs.histList
      fun k' j hj => ?_
    change j ∈ (readRetransmissionListAndClear t k).2.retransmissionList k' at hj
    rw [hlist] at hj
    exact mem_of_mem_update (fun _ hmem => absurd hmem (by simp)) k' hj
  | readRetransmissionList3Head =>
    have hs := sameHistory_readHead hi
    refine h.of_data hl (fun j => congrArg AdvReport.data (hs.report j)) hs.histList
      fun k' j hj => ?_
    change j ∈ (readRetransmissionList3Head t).2.retransmissionList k' at hj
    cases hlist : t.retransmissionList .list3 with
    | nil =>
      simp only [readRetransmissionList3Head, hlist] at hj
      exact hj
    | cons i rest =>
      simp only [readRetransmissionList3Head, hlist] at hj
      rw [(removeHead_spec hi.lists hlist).2.2.2] at hj
      refine mem_of_mem_update (fun l hl => ?_) k' hj
      rw [hlist]
      exact List.mem_cons_of_mem i hl
  | historyRead => exact h
  | statisticsRead =>
    obtain ⟨hs, hsame⟩ := statisticsLoop_spec t.histList [] t
    refine h.of_data hl hsame hs.histList fun k' j hj => ?_
    exact (congrFun hs.retransmissionList k') ▸ hj
  | clear => exact refines_clear h

/-- **The table refines the map** in every run. -/
theorem refines_execAll (ops : List Op) (hops : ∀ op ∈ ops, op.PutsData) :
    Refines (execAll init ops) (recentRun ops) := by
  have hgen : ∀ (ops : List Op), (∀ op ∈ ops, op.PutsData) → ∀ t m, Refines t m →
      Refines (execAll t ops) (ops.foldl recentStep m) := by
    intro ops
    induction ops with
    | nil => exact fun _ t m h => h
    | cons op rest ih =>
      intro hops t m h
      exact ih (fun o ho => hops o (List.mem_cons_of_mem op ho)) _ _
        (refines_exec h (hops op List.mem_cons_self))
  exact hgen ops hops _ _ refines_init

/-! ## What a put means -/

/-- The data of two reports are equal: the lengths, and the bytes that count. -/
def AdvReport.SamePayload (r s : AdvReport) : Prop :=
  r.dataLen = s.dataLen ∧
    r.dataBuf.toList.take s.dataLen.toNat = s.dataBuf.toList.take s.dataLen.toNat

/-- The report is of an extended advertisement. -/
def AdvReport.Extended (r : AdvReport) : Prop := bleMaxRegularAdvDataLen < r.dataLen

theorem checkIfAdvMustBeDiscarded_iff (adv prevAdv : AdvReport) :
    checkIfAdvMustBeDiscarded adv prevAdv = true ↔
      prevAdv.SamePayload adv ∨ (prevAdv.Extended ∧ ¬ adv.Extended) := by
  simp [checkIfAdvMustBeDiscarded, AdvReport.SamePayload, AdvReport.Extended]

/-- A put of a report on a table that shows a map. -/
structure PutsAsOnMap (t : Table) (m : RecentReports) (adv : AdvReport) : Prop where
  /-- The table shows the map, and goes on to do so. -/
  before : t.liveReports.map AdvReport.data = m.entries
  after : (put t adv).1.liveReports.map AdvReport.data =
    (m.put checkIfAdvMustBeDiscarded adv.data).1.entries
  /-- An unknown MAC address is accepted, with nothing evicted while there is room. -/
  unknown : m.find? adv.tagMac = none → m.entries.length < maxAdvsTable →
    (put t adv).2 = true ∧
      (put t adv).1.liveReports.map AdvReport.data = adv.data :: m.entries
  /-- In a full table it evicts the report whose accepted update is the oldest. -/
  evicts : m.find? adv.tagMac = none → m.entries.length = maxAdvsTable →
    (put t adv).2 = true ∧
      (put t adv).1.liveReports.map AdvReport.data = adv.data :: m.entries.dropLast
  /-- A known MAC address is accepted unless the data are equal or no longer extended. -/
  known : ∀ old, m.find? adv.tagMac = some old →
    ((put t adv).2 = true ↔ ¬ (old.SamePayload adv ∨ (old.Extended ∧ ¬ adv.Extended)))
  /-- A report that is accepted comes to the front, and one that is not changes nothing. -/
  updates : ∀ old, m.find? adv.tagMac = some old →
    (put t adv).1.liveReports.map AdvReport.data =
      if (put t adv).2 then
        adv.data :: m.entries.filter fun r => decide (r.tagMac ≠ adv.tagMac)
      else m.entries
  /-- The other MAC addresses keep their data, but for the one evicted. -/
  others : ∀ r : AdvReport, r.tagMac ≠ adv.tagMac → m.evicted adv.data ≠ some r.tagMac →
    (r ∈ (put t adv).1.liveReports.map AdvReport.data ↔ r ∈ t.liveReports.map AdvReport.data)
  /-- They stay on the lists they are on. -/
  queued : ∀ k mac, mac ≠ adv.tagMac → m.evicted adv.data ≠ some mac →
    ((put t adv).1.Queued k mac ↔ t.Queued k mac)
  /-- The one that is evicted is on no list. -/
  evicted : ∀ k mac, m.evicted adv.data = some mac → ¬ (put t adv).1.Queued k mac

/-- The table is full of live elements if the last element of the history list is live. -/
theorem LiveInv.filter_live_of_last (h : LiveInv t) (hlast : t.live (histLast t) = true) :
    t.histList.filter t.live = t.histList := by
  have hfirst := h.first
  have hsplit := h.inv.histList_eq
  refine List.filter_eq_self.mpr fun j hj => ?_
  rw [hsplit, List.mem_append, List.mem_singleton] at hj
  rw [hsplit, List.pairwise_append] at hfirst
  rcases hj with hj | rfl
  · exact hfirst.2.2 j hj _ List.mem_cons_self hlast
  · exact hlast

/-- A full map is one of a table whose last element is live. -/
theorem Refines.full_iff {m : RecentReports} (h : Refines t m) :
    m.entries.length = maxAdvsTable ↔ t.live (histLast t) = true := by
  have hi := h.live.inv
  have hhist : t.histList.length = maxAdvsTable := by
    rw [hi.histList_eq, List.length_append, List.length_singleton, hi.length_erase]
  have hlen : m.entries.length = (t.histList.filter t.live).length := by
    rw [← h.entries, List.length_map, Table.liveReports, List.length_map]
  rw [hlen]
  constructor
  · intro hfull
    exact List.length_filter_eq_length_iff.mp (hfull.trans hhist.symm) _ (hi.hist_mem _)
  · intro hlast
    rw [h.live.filter_live_of_last hlast, hhist]

/-- In a full map the value at the end is that of the last element. -/
theorem Refines.getLast? {m : RecentReports} (h : Refines t m)
    (hlast : t.live (histLast t) = true) :
    m.entries.getLast? = some (t.report (histLast t)).data := by
  have hsplit := h.live.inv.histList_eq
  rw [← h.entries, Table.liveReports, h.live.filter_live_of_last hlast, hsplit, List.map_append,
    List.map_append]
  exact List.getLast?_concat ..

/-- What is due after an accepted put, for the other MAC addresses. -/
theorem Accepted.queued_iff {adv : AdvReport} (ha : Accepted t u i adv) {mac : MacAddress}
    (hmac : mac ≠ adv.tagMac) (k : ListId) :
    u.Queued k mac ↔ ∃ j ∈ t.retransmissionList k, j ≠ i ∧ (t.report j).tagMac = mac := by
  constructor
  · rintro ⟨j, hj, rfl⟩
    have hji : j ≠ i := by
      rintro rfl
      exact hmac ha.self.tagMac
    exact ⟨j, ((ha.mem_iff k j).mp hj).resolve_right hji, hji, by rw [ha.other j hji]⟩
  · rintro ⟨j, hj, hji, rfl⟩
    exact ⟨j, (ha.mem_iff k j).mpr (Or.inl hj), by rw [ha.other j hji]⟩

/-- An element is taken over by its own MAC address without an eviction. -/
theorem Refines.evicted_of_tagMac {m : RecentReports} (h : Refines t m) {adv : AdvReport}
    (hmac : (t.report i).tagMac = adv.tagMac) : m.evicted adv.data = none := by
  refine if_neg fun hcond => ?_
  obtain ⟨hnone, hfull⟩ := Bool.and_eq_true_iff.mp hcond
  have hall := h.live.filter_live_of_last (h.full_iff.mp (of_decide_eq_true hfull))
  have hlive : t.live i = true :=
    List.filter_eq_self.mp hall i (h.live.inv.hist_mem i)
  rw [AdvReport.data_tagMac, ← hmac, h.find?_live hlive] at hnone
  exact absurd hnone (by simp)

/-- The key that the map evicts is that of the last element, if that is live. -/
theorem Refines.evicted_of_new {m : RecentReports} (h : Refines t m) {adv : AdvReport}
    (hnone : m.find? adv.tagMac = none) (mac : MacAddress) :
    m.evicted adv.data = some mac ↔
      t.live (histLast t) = true ∧ (t.report (histLast t)).tagMac = mac := by
  rw [RecentMap.evicted, AdvReport.data_tagMac, hnone, Option.isNone_none, Bool.true_and]
  by_cases hlast : t.live (histLast t) = true
  · rw [if_pos (decide_eq_true (h.full_iff.mpr hlast)), h.getLast? hlast]
    simp [hlast]
  · rw [if_neg (by simpa using fun hfull => hlast (h.full_iff.mp hfull))]
    simp [hlast]

/-- **The other MAC addresses stay on the lists they are on**, and the one evicted leaves
them. -/
theorem Refines.queued_put {m : RecentReports} (h : Refines t m) (adv : AdvReport)
    {mac : MacAddress} (hmac : mac ≠ adv.tagMac) (k : ListId) :
    (put t adv).1.Queued k mac ↔ t.Queued k mac ∧ m.evicted adv.data ≠ some mac := by
  have hi := h.live.inv
  rcases put_cases t adv with ⟨hs, hput⟩ | ⟨i, hs, -, hput⟩ | ⟨i, hs, -, hput⟩
  · rw [hput, (accepted_replaceReport hi hs).queued_iff hmac, ne_eq,
      h.evicted_of_new (h.entries_update_new hs).1]
    constructor
    · rintro ⟨j, hj, hji, rfl⟩
      refine ⟨⟨j, hj, rfl⟩, fun ⟨hlast, heq⟩ => hji ?_⟩
      exact h.live.eq_of_tagMac_eq (h.live.hashed _ hlast) (h.queued k j hj) heq.symm
    · rintro ⟨⟨j, hj, rfl⟩, hnot⟩
      refine ⟨j, hj, ?_, rfl⟩
      rintro rfl
      exact hnot ⟨h.queued k _ hj, rfl⟩
  · obtain ⟨hhash, heq⟩ := (hashTableSearch_eq_some hi.hash).mp hs
    rw [h.evicted_of_tagMac heq, hput, (accepted_setReport hi hhash heq).queued_iff hmac]
    constructor
    · rintro ⟨j, hj, -, rfl⟩
      exact ⟨⟨j, hj, rfl⟩, by simp⟩
    · rintro ⟨⟨j, hj, rfl⟩, -⟩
      refine ⟨j, hj, ?_, rfl⟩
      rintro rfl
      exact hmac heq
  · obtain ⟨hhash, heq⟩ := (hashTableSearch_eq_some hi.hash).mp hs
    have htag : ∀ j, ((put t adv).1.report j).tagMac = (t.report j).tagMac := fun j => by
      rw [hput]
      exact (sameData_setReport (sameData_samplesCounter _ _) j).tagMac
    have hqueue : (put t adv).1.retransmissionList = t.retransmissionList := by
      rw [hput]
      rfl
    rw [h.evicted_of_tagMac heq, Table.Queued, hqueue]
    simp only [htag]
    exact (and_iff_left (by simp)).symm

/-- **A put behaves as on the map.** -/
theorem Refines.putsAsOnMap {m : RecentReports} (h : Refines t m) {adv : AdvReport}
    (hadv : adv.dataLen ≠ 0) : PutsAsOnMap t m adv := by
  obtain ⟨hafter, hresult⟩ := refines_put h hadv
  have hnew : m.find? adv.tagMac = none → (put t adv).2 = true ∧
      (put t adv).1.liveReports.map AdvReport.data = (m.update adv.data).entries := fun hnone => by
    have hm : m.put checkIfAdvMustBeDiscarded adv.data = (m.update adv.data, true) :=
      RecentMap.put_of_none hnone
    rw [hresult, hafter.entries, hm]
    exact ⟨rfl, rfl⟩
  have hold : ∀ old, m.find? adv.tagMac = some old → m.put checkIfAdvMustBeDiscarded adv.data =
      if checkIfAdvMustBeDiscarded adv old then (m, false) else (m.update adv.data, true) :=
    fun old hsome => RecentMap.put_of_some (v := adv.data) hsome
  refine ⟨h.entries, hafter.entries, fun hnone hlt => ?_, fun hnone hfull => ?_,
    fun old hsome => ?_, fun old hsome => ?_, fun r hmac hev => ?_, fun k mac hmac hev => ?_,
    fun k mac hev => ?_⟩
  · obtain ⟨hacc, hentries⟩ := hnew hnone
    exact ⟨hacc, hentries.trans (RecentMap.entries_update_of_lt hnone hlt)⟩
  · obtain ⟨hacc, hentries⟩ := hnew hnone
    exact ⟨hacc, hentries.trans (RecentMap.entries_update_of_full hnone (by decide) hfull)⟩
  · rw [hresult, hold old hsome, ← checkIfAdvMustBeDiscarded_iff]
    split <;> simp_all
  · rw [hresult, hafter.entries, hold old hsome]
    split
    · rfl
    · exact RecentMap.entries_update_of_find? (v := adv.data) hsome
  · have hmem : ∀ m' : RecentReports, r ∈ m'.entries ↔ m'.find? r.tagMac = some r := fun m' =>
      (RecentMap.find?_eq_some.trans (and_iff_left rfl)).symm
    rw [hafter.entries, h.entries, hmem, hmem, RecentMap.find?_put_of_ne (v := adv.data) hmac hev]
  · rw [h.queued_put adv hmac]
    exact and_iff_left hev
  · have hmac : mac ≠ adv.tagMac := RecentMap.ne_of_evicted hev
    exact fun hq => ((h.queued_put adv hmac k).mp hq).2 hev

/-- **The table is a map ordered by the last update.**  After every sequence of calls it holds
what the map holds, and a put does to it what it does to the map: a new MAC address is accepted
and in a full table takes the place of the one whose accepted update is the oldest, a known one
is accepted unless its data are equal or no longer extended, and the others keep their data and
their places on the retransmission lists. -/
theorem putsAsOnMap_execAll (ops : List Op) (hops : ∀ op ∈ ops, op.PutsData) (adv : AdvReport)
    (hadv : adv.dataLen ≠ 0) : PutsAsOnMap (execAll init ops) (recentRun ops) adv :=
  (refines_execAll ops hops).putsAsOnMap hadv

/-- A report is put twice, the table is cleared, and the report is put again. -/
theorem putsAsOnMap_sampleReport :
    PutsAsOnMap (execAll init [.put sampleReport, .put sampleReport, .clear])
      (recentRun [.put sampleReport, .put sampleReport, .clear]) sampleReport := by
  refine putsAsOnMap_execAll _ (fun op hop => ?_) _ (by decide)
  simp only [List.mem_cons, List.not_mem_nil, or_false] at hop
  rcases hop with rfl | rfl | rfl
  · exact (by decide : sampleReport.dataLen ≠ 0)
  · exact (by decide : sampleReport.dataLen ≠ 0)
  · trivial

end AdvTable
end RuuviGateway
