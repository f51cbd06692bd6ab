import RuuviGateway.AdvTable.Invariant
import RuuviGateway.Lib.KeyedDelivery
import RuuviGateway.Lib.TransitionSystem

/-!
# Delivery of advertisements

The table as a store that delivers, over three channels, the newest report of every MAC
address.  A run is a sequence of calls of the functions of `adv_table.h`.  Along with
the table it records the history of the run as `KeyedDelivery` sees it: what was
accepted, evicted, handed out and cleared.

The table refines that abstract store: a retransmission list holds, each once, exactly
the MAC addresses its channel owes, and the report of an element is, up to the samples
counter, the last one that was accepted for its MAC address.

The second half is about the channels being independent.  `AgreeOff k t u` says that two
tables differ at most in the list `k`; draining the list `k` leads to such a table, and
every call keeps two such tables alike and returns the same from both unless it reads
the list `k` itself.
-/

namespace RuuviGateway
namespace AdvTable

open KeyedDelivery TransitionSystem

/-! ## The calls -/

/-- A call of a function of `adv_table.h`. -/
inductive Op where
  | put (adv : AdvReport)
  | readRetransmissionListAndClear (k : ListId)
  | readRetransmissionList3Head
  | historyRead (curTime : UInt32) (flagUseTimestamps : Bool) (filter : UInt32)
      (flagUseFilter : Bool)
  | statisticsRead
  | clear

/-- What a call returns. -/
inductive Result where
  | accepted (res : Bool)
  | reports (reports : List AdvReport)
  | head (report : Option AdvReport)
  | none
  deriving DecidableEq

/-- Run one call. -/
def exec (t : Table) : Op → Table × Result
  | .put adv => ((put t adv).1, .accepted (put t adv).2)
  | .readRetransmissionListAndClear k =>
      ((readRetransmissionListAndClear t k).2, .reports (readRetransmissionListAndClear t k).1)
  | .readRetransmissionList3Head =>
      ((readRetransmissionList3Head t).2, .head (readRetransmissionList3Head t).1)
  | .historyRead curTime flagUseTimestamps filter flagUseFilter =>
      (t, .reports (historyRead t curTime flagUseTimestamps filter flagUseFilter))
  | .statisticsRead => ((statisticsRead t).2, .reports (statisticsRead t).1)
  | .clear => (clear t, .none)

/-- Run a sequence of calls. -/
def execAll (t : Table) (ops : List Op) : Table :=
  ops.foldl (fun t op => (exec t op).1) t

/-- The reports put into the table fit into `data_buf` and are not empty. -/
def Op.Valid : Op → Prop
  | .put adv => 1 ≤ adv.dataLen.toNat ∧ adv.dataLen.toNat ≤ advDataMaxLen
  | _ => True

instance (op : Op) : Decidable op.Valid :=
  match op with
  | .put adv =>
      inferInstanceAs (Decidable (1 ≤ adv.dataLen.toNat ∧ adv.dataLen.toNat ≤ advDataMaxLen))
  | .readRetransmissionListAndClear _ => isTrue trivial
  | .readRetransmissionList3Head => isTrue trivial
  | .historyRead .. => isTrue trivial
  | .statisticsRead => isTrue trivial
  | .clear => isTrue trivial

/-- The list a call takes reports out of. -/
def Op.drains : Op → Option ListId
  | .readRetransmissionListAndClear k => some k
  | .readRetransmissionList3Head => some .list3
  | _ => none

/-! ## The history of a run -/

/-- The history of a run of the table. -/
abbrev History := List (Event MacAddress ListId AdvReport)

/-- The MAC address that a put evicts: that of the element it takes over, if the element
is hashed. -/
def evictedBy (t : Table) (adv : AdvReport) : Option MacAddress :=
  match hashTableSearch t adv.tagMac with
  | none =>
      if (t.arrOfAdvReports (histLast t)).isInHashTable then
        some (t.report (histLast t)).tagMac
      else none
  | some _ => none

/-- What a call adds to the history. -/
def eventsOf (t : Table) : Op → History
  | .put adv =>
      if (put t adv).2 then [.accepted adv.tagMac adv (evictedBy t adv)] else []
  | .readRetransmissionListAndClear k =>
      [.handedOut k ((readRetransmissionListAndClear t k).1.map AdvReport.tagMac)]
  | .readRetransmissionList3Head =>
      [.handedOut .list3 ((readRetransmissionList3Head t).1.toList.map AdvReport.tagMac)]
  | .historyRead .. => []
  | .statisticsRead => []
  | .clear => [.cleared]

/-- The table and the history of its run. -/
structure State where
  table : Table
  history : History

/-- All runs of the table. -/
def sys : System State Op where
  init s := s = ⟨init, []⟩
  step s op :=
    if op.Valid then some ⟨(exec s.table op).1, eventsOf s.table op ++ s.history⟩ else none

/-! ## The table refines the store -/

variable {t u : Table} {h : History} {i j : Idx} {k : ListId}

/-- **The refinement.**  The list `k` holds the MAC addresses that `k` owes, with the
data it owes. -/
structure Delivers (t : Table) (h : History) : Prop where
  inv : Inv t
  due_iff : ∀ k mac, Due k mac h ↔ ∃ i ∈ t.retransmissionList k, (t.report i).tagMac = mac
  fresh : ∀ k, ∀ i ∈ t.retransmissionList k,
    ∃ adv, lastAccepted (t.report i).tagMac h = some adv ∧ (t.report i).SameData adv

theorem delivers_init : Delivers init [] where
  inv := inv_init
  due_iff := fun k mac => by simp [init]
  fresh := fun k i hi => absurd hi (by simp [init])

/-- Counting samples is invisible. -/
theorem Delivers.of_sameLinks (hd : Delivers t h) (hs : SameLinks t u)
    (hr : ∀ j, (u.report j).SameData (t.report j)) : Delivers u h where
  inv := hd.inv.of_sameLinks hs
  due_iff := fun k mac => by
    rw [hd.due_iff, hs.retransmissionList]
    simp only [hs.tagMac]
  fresh := fun k i hi => by
    rw [hs.retransmissionList] at hi
    obtain ⟨adv, hlast, hdata⟩ := hd.fresh k i hi
    exact ⟨adv, by rw [hs.tagMac, hlast], (hr i).trans hdata⟩

/-- An element of a list is hashed, so no other hashed element has its MAC address. -/
theorem Delivers.eq_of_tagMac_eq (hd : Delivers t h) (hj : j ∈ t.retransmissionList k)
    (hi : (t.arrOfAdvReports i).isInHashTable = true)
    (hmac : (t.report j).tagMac = (t.report i).tagMac) : j = i :=
  hd.inv.hash.inj j i (hd.inv.hashed k j hj) hi hmac

/-- What the lists and the reports are after an accepted put into the element `i`. -/
structure Accepted (t u : Table) (i : Idx) (adv : AdvReport) : Prop where
  inv : Inv u
  mem_iff : ∀ k j, j ∈ u.retransmissionList k ↔ j ∈ t.retransmissionList k ∨ j = i
  self : (u.report i).SameData adv
  other : ∀ j, j ≠ i → u.report j = t.report j

/-- An accepted put makes its MAC address due on every list, and takes away the one that
it evicts. -/
theorem Delivers.accepted (hd : Delivers t h) {adv : AdvReport} {evicted : Option MacAddress}
    (ha : Accepted t u i adv)
    (hnew : ∀ k, ∀ j ∈ t.retransmissionList k, j ≠ i → (t.report j).tagMac ≠ adv.tagMac)
    (hevicted : ∀ k, ∀ j ∈ t.retransmissionList k, (t.report j).tagMac ≠ adv.tagMac →
      (evicted = some (t.report j).tagMac ↔ j = i)) :
    Delivers u (.accepted adv.tagMac adv evicted :: h) := by
  refine ⟨ha.inv, fun k mac => ?_, fun k j hj => ?_⟩
  · rw [due_accepted, hd.due_iff]
    constructor
    · rintro (rfl | ⟨hne, j, hj, rfl⟩)
      · exact ⟨i, (ha.mem_iff k i).mpr (Or.inr rfl), ha.self.tagMac⟩
      · by_cases hmac : (t.report j).tagMac = adv.tagMac
        · exact ⟨i, (ha.mem_iff k i).mpr (Or.inr rfl), ha.self.tagMac.trans hmac.symm⟩
        · have hji : j ≠ i := fun hji => hne ((hevicted k j hj hmac).mpr hji)
          exact ⟨j, (ha.mem_iff k j).mpr (Or.inl hj), by rw [ha.other j hji]⟩
    · rintro ⟨j, hj, rfl⟩
      by_cases hji : j = i
      · exact Or.inl (hji ▸ ha.self.tagMac.symm)
      · have hj' := ((ha.mem_iff k j).mp hj).resolve_right hji
        rw [ha.other j hji]
        exact Or.inr ⟨fun he => hji ((hevicted k j hj' (hnew k j hj' hji)).mp he), j, hj', rfl⟩
  · by_cases hji : j = i
    · refine ⟨adv, ?_, hji ▸ ha.self⟩
      rw [hji, ha.self.tagMac, lastAccepted_accepted_self]
    · have hj' := ((ha.mem_iff k j).mp hj).resolve_right hji
      obtain ⟨a, hlast, hdata⟩ := hd.fresh k j hj'
      rw [ha.other j hji, lastAccepted_accepted_of_ne (hnew k j hj' hji).symm]
      exact ⟨a, hlast, hdata⟩

/-- A new MAC address takes over the last element of the history list. -/
theorem accepted_replaceReport (hi : Inv t) {adv : AdvReport}
    (hs : hashTableSearch t adv.tagMac = none) :
    Accepted t (markUpdated (replaceReport t i adv) i) i adv := by
  have harr := replaceReport_arr t i adv
  obtain ⟨hsame, -, -, hmem⟩ := markUpdated_spec (listInv_replaceReport hi.lists i adv) i
  refine ⟨inv_put_new hi hs, fun k j => ?_, ?_, fun j hj => ?_⟩
  · rw [hmem, (replaceReport_lists t i adv).1]
  · rw [hsame.report, Table.report, harr, if_pos rfl]
    exact .refl adv
  · rw [hsame.report, Table.report, harr, if_neg hj]

/-- A known MAC address keeps its element. -/
theorem accepted_setReport (hi : Inv t) {adv : AdvReport} {n : UInt32}
    (hhash : (t.arrOfAdvReports i).isInHashTable = true)
    (hmac : (t.report i).tagMac = adv.tagMac) :
    Accepted t (markUpdated (t.setReport i { adv with samplesCounter := n }) i) i adv := by
  have hset : Inv (t.setReport i { adv with samplesCounter := n }) :=
    inv_setReport (r := { adv with samplesCounter := n }) hi hmac.symm
  obtain ⟨hsame, -, -, hmem⟩ := markUpdated_spec hset.lists i
  refine ⟨?_, hmem, ?_, fun j hj => ?_⟩
  · refine inv_markUpdated hset.lists hset.hash hset.hashed hset.hist_nodup hset.hist_mem ?_
    rw [setReport_isInHashTable]
    exact hhash
  · rw [hsame.report, setReport_self]
    exact sameData_samplesCounter adv n
  · rw [hsame.report, setReport_of_ne _ hj]

theorem delivers_put (hd : Delivers t h) (adv : AdvReport) :
    Delivers (put t adv).1 (eventsOf t (.put adv) ++ h) := by
  rcases put_cases t adv with ⟨hs, hput⟩ | ⟨i, hs, -, hput⟩ | ⟨i, hs, -, hput⟩
  · have hnone := (hashTableSearch_eq_none hd.inv.hash).mp hs
    have hev : eventsOf t (.put adv) = [.accepted adv.tagMac adv
        (if (t.arrOfAdvReports (histLast t)).isInHashTable then
          some (t.report (histLast t)).tagMac else none)] := by
      simp only [eventsOf, evictedBy, hput, hs, if_true]
    rw [hev, hput]
    refine hd.accepted (accepted_replaceReport hd.inv hs)
      (fun k j hj _ => hnone j (hd.inv.hashed k j hj)) (fun k j hj _ => ?_)
    constructor
    · intro he
      split at he
      · rename_i hhash
        exact hd.eq_of_tagMac_eq hj hhash (Option.some.inj he).symm
      · exact absurd he (by simp)
    · rintro rfl
      rw [if_pos (hd.inv.hashed k _ hj)]
  · obtain ⟨hhash, hmac⟩ := (hashTableSearch_eq_some hd.inv.hash).mp hs
    have hev : eventsOf t (.put adv) = [.accepted adv.tagMac adv none] := by
      simp only [eventsOf, evictedBy, hput, hs, if_true]
    rw [hev, hput]
    refine hd.accepted (accepted_setReport hd.inv hhash hmac)
      (fun k j hj hji hj' => hji (hd.eq_of_tagMac_eq hj hhash (hj'.trans hmac.symm)))
      (fun k j hj hne => ?_)
    refine ⟨fun he => absurd he (by simp), ?_⟩
    rintro rfl
    exact absurd hmac hne
  · have hev : eventsOf t (.put adv) = [] := by
      simp [eventsOf, hput]
    rw [hev, hput]
    exact hd.of_sameLinks
      (sameLinks_setReport
        (r := { t.report i with samplesCounter := (t.report i).samplesCounter + 1 }) rfl)
      (sameData_setReport (sameData_samplesCounter _ _))

/-- Handing out the MAC addresses of the elements that leave a list. -/
theorem Delivers.handedOut (hd : Delivers t h) (hi : Inv u) (hs : SameReports t u)
    (out rest : List Idx) (hlist : u.retransmissionList =
      Function.update t.retransmissionList k rest)
    (hsplit : ∀ j, j ∈ t.retransmissionList k ↔ j ∈ out ∨ j ∈ rest)
    (hdisj : ∀ j ∈ out, j ∉ rest) :
    Delivers u (.handedOut k ((out.map t.report).map AdvReport.tagMac) :: h) := by
  have hout : ∀ mac, mac ∈ (out.map t.report).map AdvReport.tagMac ↔
      ∃ i ∈ out, (t.report i).tagMac = mac := by
    simp
  refine ⟨hi, fun k' mac => ?_, fun k' j hj => ?_⟩
  · rw [due_handedOut, hd.due_iff, hout, hlist]
    simp only [hs.report]
    by_cases hk : k' = k
    · subst hk
      rw [Function.update_self]
      constructor
      · rintro ⟨⟨j, hj, rfl⟩, hnot⟩
        have hjout : j ∉ out := fun hjout => hnot ⟨rfl, j, hjout, rfl⟩
        exact ⟨j, ((hsplit j).mp hj).resolve_left hjout, rfl⟩
      · rintro ⟨j, hj, rfl⟩
        have hj' := (hsplit j).mpr (Or.inr hj)
        refine ⟨⟨j, hj', rfl⟩, ?_⟩
        rintro ⟨-, l, hl, hmac⟩
        have hl' := (hsplit l).mpr (Or.inl hl)
        have hlj : l = j := hd.eq_of_tagMac_eq hl' (hd.inv.hashed _ j hj') hmac
        exact hdisj l hl (hlj ▸ hj)
    · rw [Function.update_of_ne hk]
      simp [Ne.symm hk]
  · rw [hlist] at hj
    have hj' := mem_of_mem_update (fun j hj => (hsplit j).mpr (Or.inr hj)) k' hj
    rw [hs.report, lastAccepted_handedOut]
    exact hd.fresh k' j hj'

theorem delivers_readAndClear (hd : Delivers t h) (k : ListId) :
    Delivers (readRetransmissionListAndClear t k).2
      (eventsOf t (.readRetransmissionListAndClear k) ++ h) := by
  obtain ⟨hr, hs, hlist, hi⟩ := readAndClear_spec hd.inv k
  have hev : eventsOf t (.readRetransmissionListAndClear k) =
      [.handedOut k (((t.retransmissionList k).map t.report).map AdvReport.tagMac)] := by
    rw [eventsOf, hr]
  rw [hev]
  exact hd.handedOut hi hs _ _ hlist (fun j => by simp) (fun j _ => by simp)

theorem delivers_readHead (hd : Delivers t h) :
    Delivers (readRetransmissionList3Head t).2
      (eventsOf t .readRetransmissionList3Head ++ h) := by
  have hi := inv_readRetransmissionList3Head hd.inv
  cases hl : t.retransmissionList .list3 with
  | nil =>
    have hread : readRetransmissionList3Head t = (none, t) := by
      simp only [readRetransmissionList3Head, hl]
    rw [eventsOf, hread]
    refine hd.handedOut hd.inv (.refl t) [] [] ?_ (fun j => ?_) (by simp)
    · rw [← hl, Function.update_eq_self]
    · simp [hl]
  | cons i rest =>
    have hread : readRetransmissionList3Head t = (some (t.report i), removeHead t .list3 i) := by
      simp only [readRetransmissionList3Head, hl]
    rw [hread] at hi
    rw [eventsOf, hread]
    obtain ⟨hs, -, -, hlist⟩ := removeHead_spec hd.inv.lists hl
    have hnodup : (i :: rest).Nodup := hl ▸ hd.inv.lists.nodup .list3
    refine hd.handedOut hi hs [i] rest hlist (fun j => ?_) (fun j hj => ?_)
    · simp [hl]
    · rw [List.mem_singleton.mp hj]
      exact (List.nodup_cons.mp hnodup).1

theorem delivers_clear (hd : Delivers t h) : Delivers (clear t) (.cleared :: h) := by
  obtain ⟨hi, hlists⟩ := clear_spec hd.inv
  refine ⟨hi, fun k mac => ?_, fun k j hj => ?_⟩
  · simp [hlists]
  · rw [hlists] at hj
    exact absurd hj (by simp)

/-- **One call keeps the refinement.** -/
theorem delivers_exec (hd : Delivers t h) (op : Op) :
    Delivers (exec t op).1 (eventsOf t op ++ h) := by
  cases op with
  | put adv => exact delivers_put hd adv
  | readRetransmissionListAndClear k => exact delivers_readAndClear hd k
  | readRetransmissionList3Head => exact delivers_readHead hd
  | historyRead => exact hd
  | statisticsRead =>
    obtain ⟨hs, hr⟩ := statisticsLoop_spec t.histList [] t
    exact hd.of_sameLinks hs hr
  | clear => exact delivers_clear hd

/-- The refinement holds in every run. -/
theorem delivers_of_reachable {s : State} (hr : sys.Reachable s) :
    Delivers s.table s.history := by
  refine hr.invariant (P := fun s => Delivers s.table s.history) ?_ ?_
  · rintro s rfl
    exact delivers_init
  · intro s op t _ hd _ hstep
    obtain ⟨-, rfl⟩ := Option.ite_some_none_eq_some.mp hstep
    exact delivers_exec hd op

/-! ## The lists are independent -/

/-- The elements differ at most in the flag of the list `k`. -/
structure Elem.AgreeOff (k : ListId) (e e' : Elem) : Prop where
  isInHashTable : e'.isInHashTable = e.isInHashTable
  advReport : e'.advReport = e.advReport
  isInRetransmissionList : ∀ k', k' ≠ k →
    e'.isInRetransmissionList k' = e.isInRetransmissionList k'

/-- The tables differ at most in the list `k` and its flags. -/
structure AgreeOff (k : ListId) (t u : Table) : Prop where
  elem : ∀ i, (t.arrOfAdvReports i).AgreeOff k (u.arrOfAdvReports i)
  advHashTable : u.advHashTable = t.advHashTable
  retransmissionList : ∀ k', k' ≠ k → u.retransmissionList k' = t.retransmissionList k'
  histList : u.histList = t.histList

theorem AgreeOff.report (h : AgreeOff k t u) (i : Idx) : u.report i = t.report i :=
  (h.elem i).advReport

theorem AgreeOff.refl (k : ListId) (t : Table) : AgreeOff k t t :=
  ⟨fun _ => ⟨rfl, rfl, fun _ _ => rfl⟩, rfl, fun _ _ => rfl, rfl⟩

theorem AgreeOff.symm (h : AgreeOff k t u) : AgreeOff k u t :=
  ⟨fun i => ⟨(h.elem i).isInHashTable.symm, (h.elem i).advReport.symm,
      fun k' hk => ((h.elem i).isInRetransmissionList k' hk).symm⟩,
    h.advHashTable.symm, fun k' hk => (h.retransmissionList k' hk).symm, h.histList.symm⟩

theorem AgreeOff.trans {v : Table} (h : AgreeOff k t u) (h' : AgreeOff k u v) :
    AgreeOff k t v :=
  ⟨fun i => ⟨(h'.elem i).isInHashTable.trans (h.elem i).isInHashTable,
      (h'.elem i).advReport.trans (h.elem i).advReport,
      fun k' hk => ((h'.elem i).isInRetransmissionList k' hk).trans
        ((h.elem i).isInRetransmissionList k' hk)⟩,
    h'.advHashTable.trans h.advHashTable,
    fun k' hk => (h'.retransmissionList k' hk).trans (h.retransmissionList k' hk),
    h'.histList.trans h.histList⟩

/-- The same write to an element of both tables. -/
theorem AgreeOff.setElem (h : AgreeOff k t u) (f : Elem → Elem)
    (hf : ∀ e e' : Elem, e.AgreeOff k e' → (f e).AgreeOff k (f e')) (i : Idx) :
    AgreeOff k (t.setElem i f) (u.setElem i f) := by
  refine ⟨fun j => ?_, h.advHashTable, h.retransmissionList, h.histList⟩
  by_cases hj : j = i
  · subst hj
    rw [setElem_self, setElem_self]
    exact hf _ _ (h.elem j)
  · rw [setElem_of_ne f hj, setElem_of_ne f hj]
    exact h.elem j

theorem AgreeOff.setReport (h : AgreeOff k t u) (i : Idx) (r : AdvReport) :
    AgreeOff k (t.setReport i r) (u.setReport i r) :=
  h.setElem (fun e => { e with advReport := r })
    (fun _ _ he => ⟨he.isInHashTable, rfl, he.isInRetransmissionList⟩) i

theorem AgreeOff.hashTableSearch (h : AgreeOff k t u) (mac : MacAddress) :
    AdvTable.hashTableSearch u mac = AdvTable.hashTableSearch t mac := by
  unfold AdvTable.hashTableSearch
  rw [h.advHashTable]
  simp only [h.report]

theorem AgreeOff.withBuckets (h : AgreeOff k t u) (b : HashIdx → List Idx) :
    AgreeOff k { t with advHashTable := b } { u with advHashTable := b } :=
  ⟨h.elem, rfl, h.retransmissionList, h.histList⟩

theorem AgreeOff.hashTableAdd (h : AgreeOff k t u) (i : Idx) :
    AgreeOff k (AdvTable.hashTableAdd t i) (AdvTable.hashTableAdd u i) := by
  unfold AdvTable.hashTableAdd
  simp only [h.report, h.advHashTable]
  exact (h.withBuckets _).setElem (fun e => { e with isInHashTable := true })
    (fun _ _ he => ⟨rfl, he.advReport, he.isInRetransmissionList⟩) i

theorem AgreeOff.hashTableRemove (h : AgreeOff k t u) (i : Idx) :
    AgreeOff k (AdvTable.hashTableRemove t i) (AdvTable.hashTableRemove u i) := by
  unfold AdvTable.hashTableRemove
  simp only [h.report, h.advHashTable, (h.elem i).isInHashTable]
  split
  · exact h
  · exact (h.withBuckets _).setElem (fun e => { e with isInHashTable := false })
      (fun _ _ he => ⟨rfl, he.advReport, he.isInRetransmissionList⟩) i

/-- A write to the list `k` and its flags. -/
theorem agreeOff_setFlag (k : ListId) (l : List Idx) (b : Bool) (t : Table) (i : Idx) :
    AgreeOff k t (Table.setElem
      { t with retransmissionList := Function.update t.retransmissionList k l } i fun e =>
        { e with isInRetransmissionList := Function.update e.isInRetransmissionList k b }) := by
  refine ⟨fun j => ?_, rfl, fun k' hk => Function.update_of_ne hk .., rfl⟩
  by_cases hj : j = i
  · subst hj
    rw [setElem_self]
    exact ⟨rfl, rfl, fun k' hk => Function.update_of_ne hk ..⟩
  · rw [setElem_of_ne _ hj]
    exact ⟨rfl, rfl, fun _ _ => rfl⟩

/-- The same write to another list of both tables. -/
theorem AgreeOff.setFlag {k' : ListId} (h : AgreeOff k t u) (l : List Idx) (b : Bool) (i : Idx) :
    AgreeOff k
      (Table.setElem { t with retransmissionList := Function.update t.retransmissionList k' l } i
        fun e =>
          { e with isInRetransmissionList := Function.update e.isInRetransmissionList k' b })
      (Table.setElem { u with retransmissionList := Function.update u.retransmissionList k' l } i
        fun e =>
          { e with isInRetransmissionList := Function.update e.isInRetransmissionList k' b }) := by
  have hlist : AgreeOff k
      { t with retransmissionList := Function.update t.retransmissionList k' l }
      { u with retransmissionList := Function.update u.retransmissionList k' l } := by
    refine ⟨h.elem, h.advHashTable, fun c hc => ?_, h.histList⟩
    show Function.update u.retransmissionList k' l c = Function.update t.retransmissionList k' l c
    by_cases hck : c = k'
    · subst hck
      rw [Function.update_self, Function.update_self]
    · rw [Function.update_of_ne hck, Function.update_of_ne hck, h.retransmissionList c hc]
  refine hlist.setElem
    (fun e => { e with isInRetransmissionList := Function.update e.isInRetransmissionList k' b })
    (fun e e' he => ⟨he.isInHashTable, he.advReport, fun c hc => ?_⟩) i
  show Function.update e'.isInRetransmissionList k' b c =
    Function.update e.isInRetransmissionList k' b c
  by_cases hck : c = k'
  · subst hck
    rw [Function.update_self, Function.update_self]
  · rw [Function.update_of_ne hck, Function.update_of_ne hck, he.isInRetransmissionList c hc]

theorem AgreeOff.insertRetransmissionList (h : AgreeOff k t u) (i : Idx) (k' : ListId) :
    AgreeOff k (AdvTable.insertRetransmissionList t i k')
      (AdvTable.insertRetransmissionList u i k') := by
  by_cases hk : k' = k
  · -- the flags may differ here, but neither insertion is visible outside the list
    subst hk
    have hins : ∀ v : Table, AgreeOff k' v (AdvTable.insertRetransmissionList v i k') := by
      intro v
      unfold AdvTable.insertRetransmissionList
      split
      · exact .refl k' v
      · exact agreeOff_setFlag k' _ true v i
    exact (hins t).symm.trans (h.trans (hins u))
  · unfold AdvTable.insertRetransmissionList
    rw [(h.elem i).isInRetransmissionList k' hk, h.retransmissionList k' hk]
    split
    · exact h
    · exact h.setFlag _ true i

theorem AgreeOff.markUpdated (h : AgreeOff k t u) (i : Idx) :
    AgreeOff k (AdvTable.markUpdated t i) (AdvTable.markUpdated u i) := by
  have h3 := ((h.insertRetransmissionList i .list1).insertRetransmissionList i
    .list2).insertRetransmissionList i .list3
  refine ⟨h3.elem, h3.advHashTable, h3.retransmissionList, ?_⟩
  show i :: List.erase _ i = i :: List.erase _ i
  rw [h3.histList]

theorem AgreeOff.histLast (h : AgreeOff k t u) : AdvTable.histLast u = AdvTable.histLast t := by
  unfold AdvTable.histLast
  rw [h.histList]

theorem AgreeOff.put (h : AgreeOff k t u) (adv : AdvReport) :
    AgreeOff k (AdvTable.put t adv).1 (AdvTable.put u adv).1 ∧
      (AdvTable.put u adv).2 = (AdvTable.put t adv).2 := by
  unfold AdvTable.put
  rw [h.hashTableSearch]
  cases AdvTable.hashTableSearch t adv.tagMac with
  | none =>
    simp only [h.histLast]
    exact ⟨(((h.hashTableRemove _).setReport _ adv).hashTableAdd _).markUpdated _, trivial⟩
  | some i =>
    simp only [h.report]
    split
    · exact ⟨(h.setReport i _).markUpdated i, rfl⟩
    · exact ⟨h.setReport i _, rfl⟩

theorem AgreeOff.removeHead (h : AgreeOff k t u) {k' : ListId} (hk : k' ≠ k) (i : Idx) :
    AgreeOff k (AdvTable.removeHead t k' i) (AdvTable.removeHead u k' i) := by
  unfold AdvTable.removeHead
  rw [h.retransmissionList k' hk]
  exact h.setFlag _ false i

theorem agreeOff_removeHead (k : ListId) (t : Table) (i : Idx) :
    AgreeOff k t (removeHead t k i) :=
  agreeOff_setFlag k _ false t i

theorem agreeOff_readLoop (k : ListId) (l : List Idx) :
    ∀ (reports : List AdvReport) (t : Table), AgreeOff k t (readLoop k l reports t).2 := by
  induction l with
  | nil => exact fun _ t => .refl k t
  | cons i rest ih =>
    intro reports t
    rw [readLoop]
    split
    · exact agreeOff_removeHead k t i
    · exact (agreeOff_removeHead k t i).trans (ih _ _)

theorem AgreeOff.readLoop {k' : ListId} (hk : k' ≠ k) (l : List Idx) :
    ∀ (reports : List AdvReport) (t u : Table), AgreeOff k t u →
      AgreeOff k (AdvTable.readLoop k' l reports t).2 (AdvTable.readLoop k' l reports u).2 ∧
        (AdvTable.readLoop k' l reports u).1 = (AdvTable.readLoop k' l reports t).1 := by
  induction l with
  | nil => exact fun _ _ _ h => ⟨h, rfl⟩
  | cons i rest ih =>
    intro reports t u h
    rw [AdvTable.readLoop, AdvTable.readLoop, h.report]
    split
    · exact ⟨h.removeHead hk i, rfl⟩
    · exact ih _ _ _ (h.removeHead hk i)

/-- **Draining a list is invisible outside that list.** -/
theorem agreeOff_drain {d : Op} (hd : d.drains = some k) (t : Table) :
    AgreeOff k t (exec t d).1 := by
  cases d with
  | readRetransmissionListAndClear k' =>
    rw [← Option.some.inj hd]
    exact agreeOff_readLoop k' _ [] t
  | readRetransmissionList3Head =>
    rw [← Option.some.inj hd]
    show AgreeOff .list3 t (readRetransmissionList3Head t).2
    unfold readRetransmissionList3Head
    split
    · exact .refl _ t
    · exact agreeOff_removeHead .list3 t _
  | _ => exact absurd hd (by simp [Op.drains])

theorem AgreeOff.statisticsLoop (l : List Idx) :
    ∀ (reports : List AdvReport) (t u : Table), AgreeOff k t u →
      AgreeOff k (AdvTable.statisticsLoop l reports t).2
          (AdvTable.statisticsLoop l reports u).2 ∧
        (AdvTable.statisticsLoop l reports u).1 = (AdvTable.statisticsLoop l reports t).1 := by
  induction l with
  | nil => exact fun _ _ _ h => ⟨h, rfl⟩
  | cons i rest ih =>
    intro reports t u h
    rw [AdvTable.statisticsLoop, AdvTable.statisticsLoop, h.report]
    split
    · exact ⟨h, rfl⟩
    · split
      · exact ⟨h, rfl⟩
      · exact ih _ _ _ (h.setReport i _)

theorem AgreeOff.historyLoop (h : AgreeOff k t u) (stops : AdvReport → Bool) (l : List Idx) :
    ∀ reports, AdvTable.historyLoop u stops l reports = AdvTable.historyLoop t stops l reports := by
  induction l with
  | nil => exact fun _ => rfl
  | cons i rest ih =>
    intro reports
    simp only [AdvTable.historyLoop, h.report, ih]

theorem AgreeOff.foldl_free (l : List Idx) :
    ∀ t u : Table, AgreeOff k t u →
      AgreeOff k (l.foldl (fun t i => t.setReport i (t.report i).free) t)
        (l.foldl (fun t i => t.setReport i (t.report i).free) u) := by
  induction l with
  | nil => exact fun _ _ h => h
  | cons i rest ih =>
    intro t u h
    simp only [List.foldl_cons, h.report]
    exact ih _ _ (h.setReport i _)

theorem agreeOff_foldl_removeHead (k : ListId) (l : List Idx) :
    ∀ t : Table, AgreeOff k t (l.foldl (fun t i => removeHead t k i) t) := by
  induction l with
  | nil => exact fun t => .refl k t
  | cons i rest ih => exact fun t => (agreeOff_removeHead k t i).trans (ih _)

theorem AgreeOff.foldl_removeHead {k' : ListId} (hk : k' ≠ k) (l : List Idx) :
    ∀ t u : Table, AgreeOff k t u →
      AgreeOff k (l.foldl (fun t i => AdvTable.removeHead t k' i) t)
        (l.foldl (fun t i => AdvTable.removeHead t k' i) u) := by
  induction l with
  | nil => exact fun _ _ h => h
  | cons i rest ih => exact fun t u h => ih _ _ (h.removeHead hk i)

theorem AgreeOff.retransmissionListClear (h : AgreeOff k t u) (k' : ListId) :
    AgreeOff k (AdvTable.retransmissionListClear t k')
      (AdvTable.retransmissionListClear u k') := by
  unfold AdvTable.retransmissionListClear
  by_cases hk : k' = k
  · subst hk
    exact (agreeOff_foldl_removeHead k' _ t).symm.trans
      (h.trans (agreeOff_foldl_removeHead k' _ u))
  · rw [h.retransmissionList k' hk]
    exact .foldl_removeHead hk _ t u h

theorem AgreeOff.clear (h : AgreeOff k t u) : AgreeOff k (AdvTable.clear t) (AdvTable.clear u) := by
  have h3 := ((h.retransmissionListClear .list1).retransmissionListClear
    .list2).retransmissionListClear .list3
  unfold AdvTable.clear
  simp only [h3.histList]
  exact .foldl_free _ _ _ h3

theorem AgreeOff.readHead (h : AgreeOff k t u) (hk : ListId.list3 ≠ k) :
    AgreeOff k (readRetransmissionList3Head t).2 (readRetransmissionList3Head u).2 ∧
      (readRetransmissionList3Head u).1 = (readRetransmissionList3Head t).1 := by
  unfold readRetransmissionList3Head
  rw [h.retransmissionList _ hk]
  split
  · exact ⟨h, rfl⟩
  · exact ⟨h.removeHead hk _, congrArg some (h.report _)⟩

theorem AgreeOff.readAndClear (h : AgreeOff k t u) {k' : ListId} (hk : k' ≠ k) :
    AgreeOff k (readRetransmissionListAndClear t k').2
        (readRetransmissionListAndClear u k').2 ∧
      (readRetransmissionListAndClear u k').1 = (readRetransmissionListAndClear t k').1 := by
  unfold readRetransmissionListAndClear
  rw [h.retransmissionList k' hk]
  exact AgreeOff.readLoop hk _ [] t u h

/-- A call that does not read the list `k` returns the same from two tables that agree
outside it, and leaves them in agreement. -/
theorem AgreeOff.exec_of_ne (h : AgreeOff k t u) {op : Op} (hop : op.drains ≠ some k) :
    AgreeOff k (exec t op).1 (exec u op).1 ∧ (exec u op).2 = (exec t op).2 := by
  cases op with
  | put adv => exact ⟨(h.put adv).1, congrArg Result.accepted (h.put adv).2⟩
  | readRetransmissionListAndClear k' =>
    have hne : k' ≠ k := fun hk => hop (congrArg some hk)
    have hr := h.readAndClear hne
    exact ⟨hr.1, congrArg Result.reports hr.2⟩
  | readRetransmissionList3Head =>
    have hr := h.readHead fun hk => hop (congrArg some hk)
    exact ⟨hr.1, congrArg Result.head hr.2⟩
  | historyRead curTime flagUseTimestamps filter flagUseFilter =>
    refine ⟨h, congrArg Result.reports ?_⟩
    unfold historyRead
    rw [h.histList]
    exact h.historyLoop _ _ _
  | statisticsRead =>
    have hr := AgreeOff.statisticsLoop t.histList [] t u h
    unfold exec statisticsRead
    rw [h.histList]
    exact ⟨hr.1, congrArg Result.reports hr.2⟩
  | clear => exact ⟨h.clear, rfl⟩

/-- **Every call keeps agreement.** -/
theorem AgreeOff.exec (h : AgreeOff k t u) (op : Op) :
    AgreeOff k (AdvTable.exec t op).1 (AdvTable.exec u op).1 := by
  by_cases hop : op.drains = some k
  · exact (agreeOff_drain hop t).symm.trans (h.trans (agreeOff_drain hop u))
  · exact (h.exec_of_ne hop).1

theorem AgreeOff.execAll (ops : List Op) :
    ∀ t u : Table, AgreeOff k t u →
      AgreeOff k (AdvTable.execAll t ops) (AdvTable.execAll u ops) := by
  induction ops with
  | nil => exact fun _ _ h => h
  | cons op ops ih => exact fun t u h => ih _ _ (h.exec op)

/-! ## The main result -/

/-- **Every list delivers.**  After any run, reading the list `k` returns one report for
each MAC address that is due on `k` and no other, with the data of the last accepted put.
And draining another list at this point changes neither this read nor any later one, nor
what any other call returns that does not itself drain that list. -/
theorem readAndClear_delivers {s : State} (hr : sys.Reachable s) (k : ListId) :
    ((readRetransmissionListAndClear s.table k).1.map AdvReport.tagMac).Nodup ∧
      (∀ mac, mac ∈ (readRetransmissionListAndClear s.table k).1.map AdvReport.tagMac ↔
        Due k mac s.history) ∧
      (∀ r ∈ (readRetransmissionListAndClear s.table k).1,
        ∃ adv, lastAccepted r.tagMac s.history = some adv ∧ r.SameData adv) ∧
      ∀ d : Op, ∀ k', d.drains = some k' → ∀ ops op, op.drains ≠ some k' →
        (exec (execAll (exec s.table d).1 ops) op).2 = (exec (execAll s.table ops) op).2 := by
  have hd := delivers_of_reachable hr
  have hread := (readAndClear_spec hd.inv k).1
  refine ⟨?_, fun mac => ?_, fun r hmem => ?_, fun d k' hdrain ops op hop => ?_⟩
  · rw [hread, List.map_map]
    refine List.Nodup.map_on (fun i hi j hj hmac => ?_) (hd.inv.lists.nodup k)
    exact hd.eq_of_tagMac_eq hi (hd.inv.hashed k j hj) hmac
  · rw [hread, hd.due_iff]
    simp
  · rw [hread] at hmem
    obtain ⟨i, hi, rfl⟩ := List.mem_map.mp hmem
    exact hd.fresh k i hi
  · have hagree := AgreeOff.execAll ops _ _ (agreeOff_drain hdrain s.table)
    exact (hagree.exec_of_ne hop).2

/-- One report. -/
def sampleReport : AdvReport :=
  { AdvReport.zero with timestamp := 1, tagMac := ⟨0xAA, 0, 0, 0, 0, 1⟩, rssi := -50, dataLen := 1 }

/-- After one put the report is read from the first list, and so its MAC address was due
there. -/
theorem sampleReport_delivered :
    ∃ s : State, sys.Reachable s ∧
      (readRetransmissionListAndClear s.table .list1).1 = [sampleReport] ∧
      Due .list1 sampleReport.tagMac s.history := by
  obtain ⟨s, hr, hread⟩ := sys.exists_reachable_of_run rfl [.put sampleReport]
    (fun s => decide ((readRetransmissionListAndClear s.table .list1).1 = [sampleReport]))
    (by decide)
  have hreports := of_decide_eq_true hread
  refine ⟨s, hr, hreports, ((readAndClear_delivers hr .list1).2.1 _).mp ?_⟩
  rw [hreports]
  exact List.mem_singleton_self _

end AdvTable
end RuuviGateway
