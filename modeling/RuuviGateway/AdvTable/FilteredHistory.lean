import Mathlib.Algebra.Ring.Int.Defs
import RuuviGateway.AdvTable.Recent

/-!
# The filtered history

`adv_table_read_history_unsafe` stops at the first element that does not pass the filter.
Nothing is lost if the elements that pass come first, and they do if the history list stands
in the order of the stamps.  It does when the reports are put with stamps that never
decrease: a report that is put comes to the front, and what is discarded, evicted or cleared
leaves the others where they are.

With Unix time the stamps are compared as they are.  Without, they are the low 32 bits of a
count that wraps, and `int32_t` differences are compared.  `fullCount` is the count itself.
The difference of a stamp and the filter has a meaning as long as the filter stands for a
count that is less than `2 ^ 31` below and at most `2 ^ 31` above that of the report.
-/

namespace RuuviGateway
namespace AdvTable

variable {t u : Table}

/-! ## What the walk returns -/

/-- The walk returns the reports of the live elements before the first one that the filter
stops at. -/
theorem LiveInv.historyRead_eq_takeWhile (h : LiveInv t) (curTime : UInt32)
    (flagUseTimestamps : Bool) (filter : UInt32) (flagUseFilter : Bool) :
    historyRead t curTime flagUseTimestamps filter flagUseFilter =
      t.liveReports.takeWhile fun r =>
        !historyFilterStops curTime flagUseTimestamps filter flagUseFilter r := by
  have hlive : t.histList.filter t.live = t.histList.takeWhile t.live :=
    (takeWhile_eq_filter h.first).symm
  rw [historyRead_eq h.inv, Table.liveReports, hlive, List.takeWhile_map, List.takeWhile_takeWhile]
  refine congrArg (List.map t.report) (congrArg (List.takeWhile · t.histList) (funext fun i => ?_))
  simp [Bool.and_comm]

/-- The filter does not look at the counter of samples. -/
theorem historyFilterStops_data (curTime : UInt32) (flagUseTimestamps : Bool) (filter : UInt32)
    (flagUseFilter : Bool) (r : AdvReport) :
    historyFilterStops curTime flagUseTimestamps filter flagUseFilter r.data =
      historyFilterStops curTime flagUseTimestamps filter flagUseFilter r := rfl

/-- Nothing is lost if the reports that pass come first. -/
theorem Refines.historyRead_eq_filter {m : RecentReports} (h : Refines t m) (curTime : UInt32)
    (flagUseTimestamps : Bool) (filter : UInt32)
    (hfirst : m.entries.Pairwise fun a b =>
      historyFilterStops curTime flagUseTimestamps filter true a = true →
        historyFilterStops curTime flagUseTimestamps filter true b = true) :
    historyRead t curTime flagUseTimestamps filter true =
      t.liveReports.filter fun r =>
        !historyFilterStops curTime flagUseTimestamps filter true r := by
  rw [h.live.historyRead_eq_takeWhile]
  refine takeWhile_eq_filter ?_
  rw [← h.entries, List.pairwise_map] at hfirst
  refine hfirst.imp fun {a b} hab hb => ?_
  rw [historyFilterStops_data, historyFilterStops_data] at hab
  cases ha : historyFilterStops curTime flagUseTimestamps filter true a with
  | false => rfl
  | true => simp [hab ha] at hb

/-- The report is not older than the filter says, by Unix time. -/
def passesAge (curTime filter : UInt32) (r : AdvReport) : Bool :=
  decide (curTime.toNat - r.timestamp.toNat ≤ filter.toNat)

/-- The report is newer than the filter says, by the counter. -/
def passesCounter (filter : UInt32) (r : AdvReport) : Bool :=
  decide (0 < (r.timestamp - filter).toInt32)

/-! ## Unix time -/

/-- The stamps of the reports that are put, in order. -/
def putStamps (ops : List Op) : List UInt32 :=
  ops.filterMap fun
    | .put adv => some adv.timestamp
    | _ => none

/-- The reports stand in the order of their stamps, and none is stamped later than what is
still to be put. -/
structure InTimeOrder (m : RecentReports) (ops : List Op) : Prop where
  entries : m.entries.Pairwise fun a b => b.timestamp.toNat ≤ a.timestamp.toNat
  later : ∀ r ∈ m.entries, ∀ s ∈ putStamps ops, r.timestamp.toNat ≤ s.toNat

theorem inTimeOrder_step {m : RecentReports} {op : Op} {ops : List Op}
    (h : InTimeOrder m (op :: ops)) (hops : (putStamps (op :: ops)).Pairwise (· ≤ ·)) :
    InTimeOrder (recentStep m op) ops := by
  have hother : (∀ adv, op ≠ .put adv) → InTimeOrder m ops := fun hne => by
    refine ⟨h.entries, fun r hr s hs => h.later r hr s ?_⟩
    cases op with
    | put adv => exact absurd rfl (hne adv)
    | _ => exact hs
  cases op with
  | put adv =>
    obtain ⟨hle, -⟩ := List.pairwise_cons.mp hops
    have hmax : ∀ r ∈ m.entries, r.timestamp.toNat ≤ adv.timestamp.toNat := fun r hr =>
      h.later r hr _ List.mem_cons_self
    refine ⟨RecentMap.pairwise_put (P := Nat) h.entries hmax,
      fun r hr s hs => ?_⟩
    rcases RecentMap.mem_put hr with rfl | hr
    · exact UInt32.le_iff_toNat_le.mp (hle s hs)
    · exact h.later r hr s (List.mem_cons_of_mem _ hs)
  | clear => exact ⟨List.Pairwise.nil, fun _ hr => absurd hr (by simp [recentStep])⟩
  | readRetransmissionListAndClear k => exact hother fun _ => by simp
  | readRetransmissionList3Head => exact hother fun _ => by simp
  | historyRead => exact hother fun _ => by simp
  | statisticsRead => exact hother fun _ => by simp

/-- **Stamps that never decrease stand in the history in their order.** -/
theorem inTimeOrder_run (ops : List Op) (hops : (putStamps ops).Pairwise (· ≤ ·)) :
    (recentRun ops).entries.Pairwise fun a b => b.timestamp.toNat ≤ a.timestamp.toNat := by
  have hgen : ∀ (ops : List Op) (m : RecentReports), (putStamps ops).Pairwise (· ≤ ·) →
      InTimeOrder m ops → InTimeOrder (ops.foldl recentStep m) [] := by
    intro ops
    induction ops with
    | nil => exact fun m _ h => h
    | cons op rest ih =>
      intro m hstamps h
      refine ih _ (hstamps.sublist ?_) (inTimeOrder_step h hstamps)
      exact (List.sublist_cons_self op rest).filterMap _
  exact (hgen ops .empty hops ⟨List.Pairwise.nil, fun _ hr => absurd hr (by simp)⟩).entries

/-- The age of a report, for a time that is not earlier. -/
theorem toNat_age {curTime : UInt32} {r : AdvReport} (h : r.timestamp ≤ curTime) :
    (curTime - r.timestamp).toNat = curTime.toNat - r.timestamp.toNat :=
  UInt32.toNat_sub_of_le _ _ h

/-- The filter by Unix time passes what is not too old. -/
theorem historyFilterStops_age {curTime filter : UInt32} {r : AdvReport}
    (h : r.timestamp ≤ curTime) :
    historyFilterStops curTime true filter true r = true ↔
      filter.toNat < curTime.toNat - r.timestamp.toNat := by
  rw [historyFilterStops, if_pos rfl, Bool.true_and, decide_eq_true_eq, UInt32.lt_iff_toNat_lt,
    toNat_age h]

/-- A report of the map is one of the table. -/
theorem Refines.exists_liveReport {m : RecentReports} (h : Refines t m) {r : AdvReport}
    (hr : r ∈ m.entries) : ∃ r' ∈ t.liveReports, r'.data = r := by
  rw [← h.entries] at hr
  exact List.mem_map.mp hr

/-- With Unix time the filtered history is exact. -/
theorem Refines.historyRead_time {m : RecentReports} (h : Refines t m)
    (horder : m.entries.Pairwise fun a b => b.timestamp.toNat ≤ a.timestamp.toNat)
    {curTime : UInt32} (hcur : ∀ r ∈ t.liveReports, r.timestamp ≤ curTime) (filter : UInt32) :
    historyRead t curTime true filter true =
      t.liveReports.filter (passesAge curTime filter) := by
  have hdata : ∀ r ∈ m.entries, r.timestamp ≤ curTime := fun r hr => by
    obtain ⟨r', hr', rfl⟩ := h.exists_liveReport hr
    exact hcur r' hr'
  rw [h.historyRead_eq_filter]
  · refine List.filter_congr fun r hr => ?_
    rw [Bool.eq_iff_iff, Bool.not_eq_true', ← Bool.not_eq_true,
      historyFilterStops_age (hcur r hr), passesAge, decide_eq_true_eq]
    omega
  · refine horder.imp_of_mem fun {a b} ha hb hle hstop => ?_
    rw [historyFilterStops_age (hdata a ha)] at hstop
    rw [historyFilterStops_age (hdata b hb)]
    omega

/-! ## The count -/

/-- The count that a stamp is the low 32 bits of, from the one before. -/
def fullCount (last : Option (UInt32 × Nat)) (timestamp : UInt32) : Nat :=
  match last with
  | none => timestamp.toNat
  | some (s, n) => n + (timestamp - s).toNat

/-- The map with the full count of each report, and the last stamp with its count. -/
structure Counted where
  map : RecentMap (fun e : AdvReport × Nat => e.1.tagMac) maxAdvsTable
  last : Option (UInt32 × Nat)

/-- What a call does to it. -/
def countedStep (s : Counted) : Op → Counted
  | .put adv =>
    let n := fullCount s.last adv.timestamp
    { map := (s.map.put (fun e old => checkIfAdvMustBeDiscarded e.1 old.1) (adv.data, n)).1
      last := some (adv.timestamp, n) }
  | .clear => { s with map := .empty }
  | .readRetransmissionListAndClear _ | .readRetransmissionList3Head | .historyRead ..
  | .statisticsRead => s

/-- The map with full counts after a sequence of calls. -/
def countedRun (ops : List Op) : Counted := ops.foldl countedStep ⟨.empty, none⟩

/-- The counts belong to the stamps and never decrease. -/
structure InCountOrder (s : Counted) (m : RecentReports) : Prop where
  shows : RecentMap.Shows Prod.fst s.map m
  entries : s.map.entries.Pairwise fun a b => b.2 ≤ a.2
  stamps : ∀ e ∈ s.map.entries, e.1.timestamp = UInt32.ofNat e.2
  last : ∀ l, s.last = some l → l.1 = UInt32.ofNat l.2
  le_last : ∀ e ∈ s.map.entries, ∃ l, s.last = some l ∧ e.2 ≤ l.2

theorem ofNat_fullCount {s : Counted} {m : RecentReports} (h : InCountOrder s m)
    (timestamp : UInt32) : timestamp = UInt32.ofNat (fullCount s.last timestamp) := by
  unfold fullCount
  cases hl : s.last with
  | none => exact (UInt32.ofNat_toNat ..).symm
  | some l =>
    have hlast := h.last l hl
    simp only
    rw [UInt32.ofNat_add, ← hlast, UInt32.ofNat_toNat]
    grind

theorem inCountOrder_step {s : Counted} {m : RecentReports} (h : InCountOrder s m) (op : Op) :
    InCountOrder (countedStep s op) (recentStep m op) := by
  cases op with
  | put adv =>
    have hofNat := ofNat_fullCount h adv.timestamp
    have hmax : ∀ e ∈ s.map.entries, e.2 ≤ fullCount s.last adv.timestamp := fun e he => by
      obtain ⟨l, hl, hle⟩ := h.le_last e he
      simp only [fullCount, hl]
      omega
    refine ⟨(h.shows.put (fun _ => rfl) (fun _ _ => rfl) _).1,
      RecentMap.pairwise_put h.entries hmax, fun e he => ?_, ?_, fun e he => ?_⟩
    · rcases RecentMap.mem_put he with rfl | he
      · exact hofNat
      · exact h.stamps e he
    · rintro _ ⟨⟩
      exact hofNat
    · refine ⟨_, rfl, ?_⟩
      rcases RecentMap.mem_put he with rfl | he
      · exact le_rfl
      · exact hmax e he
  | clear =>
    exact ⟨rfl, List.Pairwise.nil, fun _ he => absurd he (by simp [countedStep]), h.last,
      fun _ he => absurd he (by simp [countedStep])⟩
  | readRetransmissionListAndClear k => exact h
  | readRetransmissionList3Head => exact h
  | historyRead => exact h
  | statisticsRead => exact h

/-- **The full counts stand in the history in their order**, in every run. -/
theorem inCountOrder_run (ops : List Op) : InCountOrder (countedRun ops) (recentRun ops) := by
  have hgen : ∀ (ops : List Op) (s : Counted) (m : RecentReports), InCountOrder s m →
      InCountOrder (ops.foldl countedStep s) (ops.foldl recentStep m) := by
    intro ops
    induction ops with
    | nil => exact fun s m h => h
    | cons op rest ih => exact fun s m h => ih _ _ (inCountOrder_step h op)
  exact hgen ops _ _ ⟨rfl, List.Pairwise.nil, fun _ he => absurd he (by simp),
    fun _ hl => absurd hl (by simp), fun _ he => absurd he (by simp)⟩

/-- **The filter stands for a count** that is less than `2 ^ 31` below and at most `2 ^ 31` above
the full count of each report that is held. -/
def FilterInReach (s : Counted) (filter : UInt32) : Prop :=
  ∃ c : Int, c % 2 ^ 32 = filter.toNat ∧
    ∀ e ∈ s.map.entries, -2 ^ 31 ≤ (e.2 : Int) - c ∧ (e.2 : Int) - c < 2 ^ 31

/-- Within reach the signed difference of stamp and filter is that of the counts. -/
theorem toInt_signedDifference {n : Nat} {c : Int} {filter : UInt32}
    (hc : c % 2 ^ 32 = filter.toNat) (hlow : -2 ^ 31 ≤ (n : Int) - c)
    (hhigh : (n : Int) - c < 2 ^ 31) :
    (UInt32.ofNat n - filter).toInt32.toInt = (n : Int) - c := by
  have hnat : (UInt32.ofNat n - filter).toNat = (2 ^ 32 - filter.toNat + n % 2 ^ 32) % 2 ^ 32 := by
    rw [UInt32.toNat_sub, UInt32.toNat_ofNat']
  have hint : (UInt32.ofNat n - filter).toInt32.toInt =
      if 2 * (UInt32.ofNat n - filter).toNat < 2 ^ 32 then ((UInt32.ofNat n - filter).toNat : Int)
      else ((UInt32.ofNat n - filter).toNat : Int) - (2 ^ 32 : Nat) :=
    BitVec.toInt_eq_toNat_cond _
  have hlt := filter.toNat_lt
  rw [hint, hnat]
  split <;> omega

/-- Within reach the filter by the counter passes the reports with a larger count. -/
theorem historyFilterStops_count {curTime filter : UInt32} {r : AdvReport} {n : Nat} {c : Int}
    (hr : r.timestamp = UInt32.ofNat n) (hc : c % 2 ^ 32 = filter.toNat)
    (hlow : -2 ^ 31 ≤ (n : Int) - c) (hhigh : (n : Int) - c < 2 ^ 31) :
    historyFilterStops curTime false filter true r = true ↔ (n : Int) ≤ c := by
  rw [historyFilterStops, if_neg Bool.false_ne_true, Bool.true_and, decide_eq_true_eq,
    Int32.le_iff_toInt_le, hr, toInt_signedDifference hc hlow hhigh]
  show (n : Int) - c ≤ 0 ↔ _
  omega

/-- By the counter the filtered history is exact if the filter is in reach. -/
theorem Refines.historyRead_counter {s : Counted} {m : RecentReports} (h : Refines t m)
    (horder : InCountOrder s m) {filter : UInt32} (hreach : FilterInReach s filter)
    (curTime : UInt32) :
    historyRead t curTime false filter true =
      t.liveReports.filter (passesCounter filter) := by
  obtain ⟨c, hc, hwindow⟩ := hreach
  rw [h.historyRead_eq_filter]
  · refine List.filter_congr fun r _ => ?_
    rw [historyFilterStops, if_neg Bool.false_ne_true, Bool.true_and, ← decide_not]
    exact decide_eq_decide.mpr Int32.not_le
  · rw [← horder.shows, List.pairwise_map]
    refine horder.entries.imp_of_mem fun {a b} ha hb hle hstop => ?_
    obtain ⟨halow, hahigh⟩ := hwindow a ha
    obtain ⟨hblow, hbhigh⟩ := hwindow b hb
    rw [historyFilterStops_count (horder.stamps a ha) hc halow hahigh] at hstop
    rw [historyFilterStops_count (horder.stamps b hb) hc hblow hbhigh]
    omega

/-! ## The filtered history of a run -/

/-- **The filtered history is exact**: it has the live reports that pass the filter, the most
recently updated first, each MAC address once.  By the counter it is so as long as the filter
is in reach of every report. -/
theorem historyRead_filtered_exact (ops : List Op) (hops : ∀ op ∈ ops, op.PutsData)
    (curTime filter : UInt32) :
    (execAll init ops).liveReports.map AdvReport.data = (recentRun ops).entries ∧
      ((execAll init ops).liveReports.map AdvReport.tagMac).Nodup ∧
      ((putStamps ops).Pairwise (· ≤ ·) →
        (∀ r ∈ (execAll init ops).liveReports, r.timestamp ≤ curTime) →
        historyRead (execAll init ops) curTime true filter true =
          (execAll init ops).liveReports.filter (passesAge curTime filter)) ∧
      (FilterInReach (countedRun ops) filter →
        historyRead (execAll init ops) curTime false filter true =
          (execAll init ops).liveReports.filter (passesCounter filter)) := by
  have h := refines_execAll ops hops
  refine ⟨h.entries, ?_, fun hstamps hcur => ?_, fun hreach => ?_⟩
  · have hnodup := (recentRun ops).nodup
    rw [← h.entries, List.map_map] at hnodup
    exact hnodup
  · exact h.historyRead_time (inTimeOrder_run ops hstamps) hcur filter
  · exact h.historyRead_counter (inCountOrder_run ops) hreach curTime

/-- Two sensors, stamped with the counts 10 and 20. -/
def twoSensors : List Op :=
  [.put { sampleReport with timestamp := 10 },
    .put { sampleReport with timestamp := 20, tagMac := ⟨0xAA, 0, 0, 0, 0, 2⟩ }]

theorem putsData_twoSensors : ∀ op ∈ twoSensors, op.PutsData := by
  intro op hop
  simp only [twoSensors, List.mem_cons, List.not_mem_nil, or_false] at hop
  rcases hop with rfl | rfl
  · exact (by decide : sampleReport.dataLen ≠ 0)
  · exact (by decide : sampleReport.dataLen ≠ 0)

/-- A filter that is more than `2 ^ 31` ahead of the first report, and less of the second: the
walk stops at the second, and the first would pass. -/
theorem historyRead_out_of_reach :
    ¬ ∀ (ops : List Op) (curTime filter : UInt32), (∀ op ∈ ops, op.PutsData) →
      (putStamps ops).Pairwise (fun a b => 0 ≤ (b - a).toInt32) →
      historyRead (execAll init ops) curTime false filter true =
        (execAll init ops).liveReports.filter (passesCounter filter) := by
  intro hall
  have heq := congrArg List.length
    (hall twoSensors 0 (2 ^ 31 + 15) putsData_twoSensors (by decide))
  exact absurd heq (by decide +kernel)

/-- The same reports with a filter that the second one passes, by Unix time and by the
counter. -/
theorem historyRead_filtered_exact_twoSensors :
    historyRead (execAll init twoSensors) 30 true 15 true =
        (execAll init twoSensors).liveReports.filter (passesAge 30 15) ∧
      historyRead (execAll init twoSensors) 30 false 15 true =
        (execAll init twoSensors).liveReports.filter (passesCounter 15) := by
  have hexact := historyRead_filtered_exact twoSensors putsData_twoSensors 30 15
  have hcur : ∀ r ∈ (execAll init twoSensors).liveReports, r.timestamp ≤ 30 := by decide +kernel
  have hreach : FilterInReach (countedRun twoSensors) 15 := ⟨15, by decide, by decide +kernel⟩
  exact ⟨hexact.2.2.1 (by decide) hcur, hexact.2.2.2 hreach⟩

end AdvTable
end RuuviGateway
