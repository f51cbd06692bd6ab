import RuuviGateway.AdvTable.History

/-!
# The representation of the table

`WellFormed` is the representation invariant written out over the globals of
`adv_table.c`, for every state that the calls of `adv_table.h` lead to.  `Inv` and
`LiveInv` are its inductive form.

The read loops have a branch that leaves the loop when the report table is full, after
the element has been dequeued.  `readLoopOverflows` says that the loop takes it.  No
retransmission list is longer than the report table, so it never does.
-/

namespace RuuviGateway
namespace AdvTable

variable {t : Table}

/-- The loop of `adv_table_read_retransmission_listK_and_clear_unsafe` finds the report
table full with an element in hand. -/
def readLoopOverflows (k : ListId) : List Idx → List AdvReport → Table → Bool
  | [], _, _ => false
  | i :: rest, reports, t =>
      if maxAdvsTable ≤ reports.length then true
      else readLoopOverflows k rest (reports ++ [t.report i]) (removeHead t k i)

/-- A list that fits into the report table does not overflow it. -/
theorem readLoopOverflows_eq_false (k : ListId) (l : List Idx) :
    ∀ (reports : List AdvReport) (t : Table), reports.length + l.length ≤ maxAdvsTable →
      readLoopOverflows k l reports t = false := by
  induction l with
  | nil => exact fun _ _ _ => rfl
  | cons i rest ih =>
    intro reports t hlen
    rw [List.length_cons] at hlen
    have hroom : ¬ maxAdvsTable ≤ reports.length := by omega
    rw [readLoopOverflows, if_neg hroom]
    exact ih _ _ (by rw [List.length_append, List.length_singleton]; omega)

/-- **The representation invariant.** -/
structure WellFormed (t : Table) : Prop where
  /-- An element is in the bucket of its MAC address if its flag is set, and in no other. -/
  bucket_iff : ∀ b i, i ∈ t.advHashTable b ↔
    (t.arrOfAdvReports i).isInHashTable = true ∧ b = hashIdx (t.report i).tagMac
  bucket_nodup : ∀ b, (t.advHashTable b).Nodup
  /-- No two hashed elements have the same MAC address. -/
  mac_inj : ∀ i j, (t.arrOfAdvReports i).isInHashTable = true →
    (t.arrOfAdvReports j).isInHashTable = true → (t.report i).tagMac = (t.report j).tagMac → i = j
  /-- The flag of a retransmission list is membership in it. -/
  list_iff : ∀ k i, (t.arrOfAdvReports i).isInRetransmissionList k = true ↔
    i ∈ t.retransmissionList k
  list_nodup : ∀ k, (t.retransmissionList k).Nodup
  /-- The history list is a permutation of all elements. -/
  hist_perm : t.histList.Perm (List.finRange maxAdvsTable)
  /-- The live elements are a prefix of the history list. -/
  live_prefix : ∃ l, l <+: t.histList ∧ ∀ i, i ∈ l ↔ (t.report i).dataLen ≠ 0
  live_hashed : ∀ i, (t.report i).dataLen ≠ 0 → (t.arrOfAdvReports i).isInHashTable = true
  /-- A retransmission list fits into the report table. -/
  list_length : ∀ k, (t.retransmissionList k).length ≤ maxAdvsTable
  /-- A read loop never drops an element. -/
  no_overflow : ∀ k, readLoopOverflows k (t.retransmissionList k) [] t = false

/-- The inductive form of the invariant gives the written-out one. -/
theorem LiveInv.wellFormed (h : LiveInv t) : WellFormed t where
  bucket_iff := fun b i => by
    rw [h.inv.hash.mem_iff b i]
    exact and_congr_right fun _ => eq_comm
  bucket_nodup := h.inv.hash.nodup
  mac_inj := h.inv.hash.inj
  list_iff := fun k i => (h.inv.lists.mem_iff k i).symm
  list_nodup := h.inv.lists.nodup
  hist_perm := by
    refine (List.perm_ext_iff_of_nodup h.inv.hist_nodup (List.nodup_finRange _)).mpr fun i => ?_
    exact iff_of_true (h.inv.hist_mem i) (List.mem_finRange i)
  live_prefix := by
    refine ⟨t.histList.takeWhile t.live, List.takeWhile_prefix _, fun i => ?_⟩
    rw [h.mem_takeWhile, Table.live_iff]
  live_hashed := fun i hi => h.hashed i (Table.live_iff.mpr hi)
  list_length := fun k => length_le_of_nodup (h.inv.lists.nodup k)
  no_overflow := fun k => by
    have hlen := length_le_of_nodup (h.inv.lists.nodup k)
    exact readLoopOverflows_eq_false k _ [] t (by rw [List.length_nil]; omega)

/-- **The representation invariant holds after every sequence of calls.** -/
theorem wellFormed_execAll (ops : List Op) (hops : ∀ op ∈ ops, op.PutsData) :
    WellFormed (execAll init ops) :=
  (liveInv_execAll ops hops init liveInv_init).wellFormed

/-- A report is put, handed out, cleared and put again. -/
theorem wellFormed_sampleReport : WellFormed (execAll init
    [.put sampleReport, .readRetransmissionListAndClear .list1, .statisticsRead, .clear,
      .put sampleReport]) := by
  refine wellFormed_execAll _ fun op hop => ?_
  simp only [List.mem_cons, List.not_mem_nil, or_false] at hop
  rcases hop with rfl | rfl | rfl | rfl | rfl
  · exact (by decide : sampleReport.dataLen ≠ 0)
  · trivial
  · trivial
  · trivial
  · exact (by decide : sampleReport.dataLen ≠ 0)

end AdvTable
end RuuviGateway
