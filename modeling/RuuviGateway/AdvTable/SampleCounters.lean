import RuuviGateway.AdvTable.History
import RuuviGateway.Lib.CJson

/-!
# The samples counters

Along with the table a run keeps, for every MAC address, how often it has been put since
the counting started, and how the counting started: with a counter that was set to zero,
with the counter of the report that the inserting put brought along, or with the counter
that a statistics read left alone because it stopped before the element.

The counter of an element is the number of puts plus a surplus that only the start
decides.  So it is the number of puts exactly if the start leaves no surplus.
-/

namespace RuuviGateway
namespace AdvTable

open CJson

variable {t : Table} {i j : Idx}

/-! ## The counting -/

/-- How the counting of a MAC address started. -/
inductive Start where
  /-- A statistics read that reached the element, or a clear, set the counter to zero. -/
  | zeroed
  /-- A put inserted the MAC address; its report had this counter. -/
  | inserted (samplesCounter : UInt32)
  /-- A statistics read stopped before the element, which had this counter. -/
  | skipped (samplesCounter : UInt32)

/-- The start leaves no surplus in the counter. -/
def Start.Exact : Start → Prop
  | .zeroed => True
  | .inserted samplesCounter => samplesCounter = 1
  | .skipped samplesCounter => samplesCounter = 0

/-- What the counter is ahead of the number of puts. -/
def Start.surplus : Start → UInt32
  | .zeroed => 0
  | .inserted samplesCounter => samplesCounter - 1
  | .skipped samplesCounter => samplesCounter

theorem Start.surplus_eq_zero_iff (s : Start) : s.surplus = 0 ↔ s.Exact := by
  cases s with
  | zeroed => exact iff_of_true rfl trivial
  | inserted c =>
    show c - 1 = 0 ↔ c = 1
    rw [UInt32.sub_eq_iff_eq_add, UInt32.zero_add]
  | skipped c => exact Iff.rfl

/-- The table and the counting of every MAC address. -/
structure Tally where
  table : Table
  puts : MacAddress → Nat
  start : MacAddress → Start

/-- The number of puts after a call: an insertion starts it at the inserting put, a
statistics read and a clear start it at zero. -/
def Tally.putsAfter (s : Tally) : Op → MacAddress → Nat
  | .put adv => Function.update s.puts adv.tagMac
      (if hashTableSearch s.table adv.tagMac = none then 1 else s.puts adv.tagMac + 1)
  | .statisticsRead => fun _ => 0
  | .clear => fun _ => 0
  | _ => s.puts

/-- How the counting started, after a call. -/
def Tally.startAfter (s : Tally) : Op → MacAddress → Start
  | .put adv => Function.update s.start adv.tagMac
      (if hashTableSearch s.table adv.tagMac = none then .inserted adv.samplesCounter
       else s.start adv.tagMac)
  | .statisticsRead => fun mac =>
      match hashTableSearch s.table mac with
      | none => .zeroed
      | some i =>
          if i ∈ s.table.histList.takeWhile s.table.stamped then .zeroed
          else .skipped (s.table.report i).samplesCounter
  | .clear => fun _ => .zeroed
  | _ => s.start

/-- One call. -/
def Tally.step (s : Tally) (op : Op) : Tally where
  table := (exec s.table op).1
  puts := s.putsAfter op
  start := s.startAfter op

/-- A sequence of calls after `adv_table_init`. -/
def tally (ops : List Op) : Tally :=
  ops.foldl Tally.step ⟨init, fun _ => 0, fun _ => .zeroed⟩

/-! ## The counters -/

/-- **The counting invariant.**  A stamped element is hashed, and the counter of a hashed
element is the number of puts plus the surplus. -/
structure Counts (s : Tally) : Prop where
  inv : Inv s.table
  hashed : ∀ i, s.table.stamped i = true → (s.table.arrOfAdvReports i).isInHashTable = true
  counter : ∀ i, (s.table.arrOfAdvReports i).isInHashTable = true →
    (s.table.report i).samplesCounter =
      (s.start (s.table.report i).tagMac).surplus +
        UInt32.ofNat (s.puts (s.table.report i).tagMac)

/-- A call that changes no report and no flag of the hash table, and counts nothing. -/
theorem Counts.of_sameHistory {s : Tally} (h : Counts s) {u : Table} (hi : Inv u)
    (hs : SameHistory s.table u) : Counts ⟨u, s.puts, s.start⟩ := by
  refine ⟨hi, fun i hst => ?_, fun i hh => ?_⟩
  · rw [Table.stamped, hs.report] at hst
    rw [hs.isInHashTable, h.hashed i hst]
  · rw [hs.isInHashTable] at hh
    rw [hs.report]
    exact h.counter i hh

/-- The element that is put holds the MAC address, and no other hashed element does. -/
theorem counts_written {s : Tally} (h : Counts s) {u : Table} {r : AdvReport} (hi : Inv u)
    (ht : Written s.table u i r) {n : Nat} {st : Start}
    (hr : r.samplesCounter = st.surplus + UInt32.ofNat n) :
    Counts ⟨u, Function.update s.puts r.tagMac n, Function.update s.start r.tagMac st⟩ := by
  refine ⟨hi, fun j hst => ?_, fun j hh => ?_⟩
  · by_cases hj : j = i
    · rw [hj, ht.hashed_self]
    · rw [Table.stamped, ht.other j hj] at hst
      rw [ht.hashed_other j hj, h.hashed j hst]
  · by_cases hj : j = i
    · subst hj
      show (u.report j).samplesCounter = (Function.update s.start r.tagMac st _).surplus +
        UInt32.ofNat (Function.update s.puts r.tagMac n _)
      rw [ht.self, Function.update_self, Function.update_self, hr]
    · have hne : (u.report j).tagMac ≠ r.tagMac := fun hmac =>
        hj (hi.hash.inj j i hh ht.hashed_self (by rw [hmac, ht.self]))
      rw [ht.hashed_other j hj] at hh
      show (u.report j).samplesCounter = (Function.update s.start r.tagMac st _).surplus +
        UInt32.ofNat (Function.update s.puts r.tagMac n _)
      rw [Function.update_of_ne hne, Function.update_of_ne hne, ht.other j hj]
      exact h.counter j hh

/-- A put of a known MAC address adds one to its counter and to its number of puts. -/
theorem Counts.next {s : Tally} (h : Counts s) {mac : MacAddress}
    (hs : hashTableSearch s.table mac = some i) :
    (s.table.report i).samplesCounter + 1 =
      (s.start mac).surplus + UInt32.ofNat (s.puts mac + 1) := by
  obtain ⟨hh, hmac⟩ := (hashTableSearch_eq_some h.inv.hash).mp hs
  have hc := h.counter i hh
  rw [hmac] at hc
  have hsucc : UInt32.ofNat (s.puts mac + 1) = UInt32.ofNat (s.puts mac) + 1 :=
    UInt32.ofNat_add _ _
  rw [hc, hsucc, UInt32.add_assoc]

/-- A put of a known MAC address, whether its report is accepted or only counted. -/
theorem counts_known {s : Tally} (h : Counts s) {adv r : AdvReport} (hi : Inv (put s.table adv).1)
    (hs : hashTableSearch s.table adv.tagMac = some i)
    (hw : Written s.table (put s.table adv).1 i r) (hmac : r.tagMac = adv.tagMac)
    (hr : r.samplesCounter = (s.table.report i).samplesCounter + 1) :
    Counts (s.step (.put adv)) := by
  have hne : hashTableSearch s.table adv.tagMac ≠ none := by rw [hs]; simp
  have hstep : s.step (.put adv) = ⟨(put s.table adv).1,
      Function.update s.puts r.tagMac (s.puts adv.tagMac + 1),
      Function.update s.start r.tagMac (s.start adv.tagMac)⟩ := by
    simp only [Tally.step, Tally.putsAfter, Tally.startAfter, if_neg hne, hmac]
    rfl
  rw [hstep]
  exact counts_written h hi hw (hr.trans (h.next hs))

theorem counts_put {s : Tally} (h : Counts s) (adv : AdvReport) : Counts (s.step (.put adv)) := by
  have hi := inv_put h.inv adv
  rcases put_spec h.inv adv with ⟨hs, -, ht⟩ | ⟨i, hs, -, ht⟩ | ⟨i, hs, -, -, hput⟩
  · have hstep : s.step (.put adv) = ⟨(put s.table adv).1, Function.update s.puts adv.tagMac 1,
        Function.update s.start adv.tagMac (.inserted adv.samplesCounter)⟩ := by
      simp only [Tally.step, Tally.putsAfter, Tally.startAfter, if_pos hs]
      rfl
    rw [hstep]
    exact counts_written h hi ht.toWritten (UInt32.sub_add_cancel _ _).symm
  · exact counts_known h hi hs ht.toWritten rfl rfl
  · obtain ⟨hh, hmac⟩ := (hashTableSearch_eq_some h.inv.hash).mp hs
    refine counts_known h hi hs (r := { s.table.report i with
      samplesCounter := (s.table.report i).samplesCounter + 1 }) ?_ hmac rfl
    rw [hput]
    exact written_setReport _ hh

/-- After a statistics read every counter is its own surplus. -/
theorem counts_statisticsRead {s : Tally} (h : Counts s) : Counts (s.step .statisticsRead) := by
  obtain ⟨hs, -⟩ := statisticsLoop_spec s.table.histList [] s.table
  have hr := (statisticsRead_eq h.inv).2
  refine ⟨h.inv.of_sameLinks hs, fun i hst => ?_, fun i hh => ?_⟩
  · refine (hs.isInHashTable i).trans (h.hashed i ?_)
    have ht : ((statisticsRead s.table).2.report i).timestamp = (s.table.report i).timestamp := by
      rw [hr]
      split <;> rfl
    rw [Table.stamped_iff, ← ht]
    exact Table.stamped_iff.mp hst
  · have hh' : (s.table.arrOfAdvReports i).isInHashTable = true :=
      (hs.isInHashTable i).symm.trans hh
    have hsearch : hashTableSearch s.table (s.table.report i).tagMac = some i :=
      (hashTableSearch_eq_some h.inv.hash).mpr ⟨hh', rfl⟩
    have hstart : (s.step .statisticsRead).start (s.table.report i).tagMac =
        if i ∈ s.table.histList.takeWhile s.table.stamped then .zeroed
        else .skipped (s.table.report i).samplesCounter := by
      simp only [Tally.step, Tally.startAfter, hsearch]
    have hrep : (s.step .statisticsRead).table.report i =
        if i ∈ s.table.histList.takeWhile s.table.stamped
        then { s.table.report i with samplesCounter := 0 } else s.table.report i := hr i
    have hmac : ((s.step .statisticsRead).table.report i).tagMac = (s.table.report i).tagMac :=
      hs.tagMac i
    rw [hmac, hstart, hrep]
    show _ = _ + 0
    split
    · rfl
    · exact (UInt32.add_zero _).symm

theorem counts_clear {s : Tally} (h : Counts s) : Counts (s.step .clear) := by
  obtain ⟨hr, -, -⟩ := clear_history h.inv
  refine ⟨(clear_spec h.inv).1, fun i hst => ?_, fun i _ => ?_⟩
  · have hzero : ((s.step .clear).table.report i).timestamp = 0 := by
      show ((clear s.table).report i).timestamp = 0
      rw [hr]
      rfl
    exact absurd hzero (Table.stamped_iff.mp hst)
  · show ((clear s.table).report i).samplesCounter = 0 + 0
    rw [hr]
    rfl

/-- **One call keeps the counting invariant.** -/
theorem counts_step {s : Tally} (h : Counts s) (op : Op) : Counts (s.step op) := by
  cases op with
  | put adv => exact counts_put h adv
  | readRetransmissionListAndClear k =>
    exact h.of_sameHistory (readAndClear_spec h.inv k).2.2.2 (sameHistory_readAndClear h.inv k)
  | readRetransmissionList3Head =>
    exact h.of_sameHistory (inv_readRetransmissionList3Head h.inv) (sameHistory_readHead h.inv)
  | historyRead => exact h.of_sameHistory h.inv ⟨fun _ => rfl, fun _ => rfl, rfl⟩
  | statisticsRead => exact counts_statisticsRead h
  | clear => exact counts_clear h

theorem counts_init : Counts ⟨init, fun _ => 0, fun _ => .zeroed⟩ where
  inv := inv_init
  hashed := fun _ h => absurd rfl (Table.stamped_iff.mp h)
  counter := fun _ h => absurd h (by simp [init])

theorem counts_tally (ops : List Op) : Counts (tally ops) := by
  have hrun : ∀ (ops : List Op) (s : Tally), Counts s → Counts (ops.foldl Tally.step s) := by
    intro ops
    induction ops with
    | nil => exact fun s h => h
    | cons op rest ih => exact fun s h => ih _ (counts_step h op)
  exact hrun ops _ counts_init

/-! ## The attributes of the sensors -/

section Attributes

/- `mac_address_to_str`. -/
variable (macAddressToStr : MacAddress → List Char)

/-- The object of a sensor that has been seen. -/
def activeSensor (mac : MacAddress) (samplesCounter : UInt32) : Json :=
  .object [("MAC", .string (macAddressToStr mac)),
    ("COUNTER", .string (Nat.repr samplesCounter.toNat).toList)]

/-- The loop of `http_json_generate_attributes_for_sensors`: the arrays of the active and of
the inactive sensors. -/
def generateAttributesForSensors : List AdvReport → List Json × List Json → List Json × List Json
  | [], arrays => arrays
  | r :: rest, (active, inactive) =>
      if r.samplesCounter ≠ 0 then
        generateAttributesForSensors rest
          (active ++ [activeSensor macAddressToStr r.tagMac r.samplesCounter], inactive)
      else
        generateAttributesForSensors rest
          (active, inactive ++ [.string (macAddressToStr r.tagMac)])

/-- The arrays show the counter of the sensor; a sensor whose counter is zero is among the
inactive ones. -/
def Shows (arrays : List Json × List Json) (mac : MacAddress) (samplesCounter : UInt32) : Prop :=
  if samplesCounter ≠ 0 then activeSensor macAddressToStr mac samplesCounter ∈ arrays.1
  else .string (macAddressToStr mac) ∈ arrays.2

variable {macAddressToStr}

/-- What the arrays hold is not lost by the rest of the loop. -/
theorem subset_generate (reports : List AdvReport) :
    ∀ arrays : List Json × List Json,
      arrays.1 ⊆ (generateAttributesForSensors macAddressToStr reports arrays).1 ∧
        arrays.2 ⊆ (generateAttributesForSensors macAddressToStr reports arrays).2 := by
  induction reports with
  | nil => exact fun _ => ⟨List.Subset.refl _, List.Subset.refl _⟩
  | cons r rest ih =>
    rintro ⟨active, inactive⟩
    rw [generateAttributesForSensors]
    split
    · obtain ⟨h1, h2⟩ :=
        ih (active ++ [activeSensor macAddressToStr r.tagMac r.samplesCounter], inactive)
      exact ⟨fun x hx => h1 (List.mem_append_left _ hx), h2⟩
    · obtain ⟨h1, h2⟩ := ih (active, inactive ++ [.string (macAddressToStr r.tagMac)])
      exact ⟨h1, fun x hx => h2 (List.mem_append_left _ hx)⟩

/-- The arrays show the counter of every report. -/
theorem shows_of_mem (reports : List AdvReport) {r : AdvReport} (hr : r ∈ reports) :
    ∀ arrays : List Json × List Json,
      Shows macAddressToStr (generateAttributesForSensors macAddressToStr reports arrays)
        r.tagMac r.samplesCounter := by
  induction reports with
  | nil => exact absurd hr List.not_mem_nil
  | cons s rest ih =>
    rintro ⟨active, inactive⟩
    rcases List.mem_cons.mp hr with rfl | hrest
    · rw [generateAttributesForSensors]
      split
      · rename_i hne
        rw [Shows, if_pos hne]
        exact (subset_generate rest _).1 (List.mem_append_right _ (List.mem_singleton_self _))
      · rename_i hzero
        rw [Shows, if_neg hzero]
        exact (subset_generate rest _).2 (List.mem_append_right _ (List.mem_singleton_self _))
    · rw [generateAttributesForSensors]
      split
      · exact ih hrest _
      · exact ih hrest _

end Attributes

/-! ## What the statistics read reports -/

/-- A reported element is stamped, and its report is that of the element. -/
theorem exists_of_mem_statisticsRead (hi : Inv t) {r : AdvReport} (hr : r ∈ (statisticsRead t).1) :
    ∃ i, t.stamped i = true ∧ t.report i = r := by
  rw [(statisticsRead_eq hi).1] at hr
  obtain ⟨i, hmem, rfl⟩ := List.mem_map.mp hr
  exact ⟨i, List.mem_takeWhile_imp hmem, rfl⟩

/-- **When the samples counters count.**  The statistics read reports, and the attributes
show, the number of puts of a MAC address exactly if its counting started without a
surplus. -/
theorem samplesCounter_eq_puts_iff (macAddressToStr : MacAddress → List Char) (ops : List Op) :
    ∀ r ∈ (statisticsRead (tally ops).table).1,
      (r.samplesCounter = UInt32.ofNat ((tally ops).puts r.tagMac) ∧
        Shows macAddressToStr (generateAttributesForSensors macAddressToStr
          (statisticsRead (tally ops).table).1 ([], []))
          r.tagMac (UInt32.ofNat ((tally ops).puts r.tagMac))) ↔
        ((tally ops).start r.tagMac).Exact := by
  intro r hr
  have h := counts_tally ops
  have hshows := @shows_of_mem macAddressToStr _ _ hr ([], [])
  obtain ⟨i, hst, rfl⟩ := exists_of_mem_statisticsRead h.inv hr
  have hc := h.counter i (h.hashed i hst)
  rw [← Start.surplus_eq_zero_iff]
  constructor
  · rintro ⟨heq, -⟩
    rw [heq] at hc
    exact UInt32.right_eq_add.mp hc
  · intro hzero
    rw [hzero, UInt32.zero_add] at hc
    exact ⟨hc, hc ▸ hshows⟩

/-- A sensor that is put again after a statistics read is counted from there. -/
theorem samplesCounter_eq_puts_sampleReport :
    ({ sampleReport with samplesCounter := 1 } : AdvReport).samplesCounter = UInt32.ofNat
        ((tally [.put sampleReport, .statisticsRead, .put sampleReport]).puts
          sampleReport.tagMac) ∧
      Shows (fun _ => []) (generateAttributesForSensors (fun _ => []) (statisticsRead (tally
        [.put sampleReport, .statisticsRead, .put sampleReport]).table).1 ([], []))
        sampleReport.tagMac (UInt32.ofNat
          ((tally [.put sampleReport, .statisticsRead, .put sampleReport]).puts
            sampleReport.tagMac)) :=
  (samplesCounter_eq_puts_iff (fun _ => [])
    [.put sampleReport, .statisticsRead, .put sampleReport]
    { sampleReport with samplesCounter := 1 } (by decide)).mpr trivial

/-- The inserting put is not counted: a sensor that has been put once is reported with the
counter zero. -/
theorem inserting_put_is_not_counted :
    ∃ ops : List Op, ∃ r ∈ (statisticsRead (tally ops).table).1,
      r.samplesCounter = 0 ∧ (tally ops).puts r.tagMac = 1 ∧
        r.samplesCounter ≠ UInt32.ofNat ((tally ops).puts r.tagMac) :=
  ⟨[.put sampleReport], sampleReport, by decide, by decide, by decide, by decide⟩

end AdvTable
end RuuviGateway
