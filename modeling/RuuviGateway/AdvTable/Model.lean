import Mathlib.Data.Fin.Basic
import Mathlib.Logic.Function.Basic

/-!
# The table of advertisements

`adv_table.c`.  The table is a fixed array of `MAX_ADVS_TABLE` elements.  Each element
is linked into up to five queues: its hash bucket, the three retransmission lists, and
the history list, which always holds all elements, the most recently updated first.
Four flags in the element say in which of the first four it is linked.

Elements are named by their index in the array and a queue is the list of the indices
that are linked into it, in order.  The links themselves (`STAILQ_ENTRY`) are what the
order of that list says.  `STAILQ_REMOVE` is `List.erase`, which takes out the first
occurrence.

The three retransmission lists have three copies of each function in the source.  Here
a function takes the list as an argument and keeps three names.
-/

namespace RuuviGateway
namespace AdvTable

/-- `MAX_ADVS_TABLE`. -/
def maxAdvsTable : Nat := 100

/-- `ADV_TABLE_HASH_SIZE`. -/
def advTableHashSize : Nat := 101

/-- `ADV_DATA_MAX_LEN`, the size of `data_buf`. -/
def advDataMaxLen : Nat := 48

/-- `BLE_MAX_REGULAR_ADV_DATA_LEN`. -/
def bleMaxRegularAdvDataLen : UInt8 := 31

/-- `mac_address_bin_t`. -/
structure MacAddress where
  b0 : UInt8
  b1 : UInt8
  b2 : UInt8
  b3 : UInt8
  b4 : UInt8
  b5 : UInt8
  deriving DecidableEq, Repr

/-- `adv_report_t`.  `timestamp` is a 32-bit `time_t`. -/
structure AdvReport where
  timestamp : UInt32
  samplesCounter : UInt32
  tagMac : MacAddress
  rssi : Int8
  primaryPhy : UInt8
  secondaryPhy : UInt8
  chIndex : UInt8
  isCodedPhy : Bool
  txPower : Int8
  dataLen : UInt8
  dataBuf : Vector UInt8 advDataMaxLen
  deriving DecidableEq

/-- An index into `g_arr_of_adv_reports`. -/
abbrev Idx := Fin maxAdvsTable

/-- An index into `g_adv_hash_table`. -/
abbrev HashIdx := Fin advTableHashSize

/-- The three retransmission lists. -/
inductive ListId where
  | list1
  | list2
  | list3
  deriving DecidableEq, Repr

/-- `adv_reports_list_elem_t`, without the links. -/
structure Elem where
  isInHashTable : Bool
  /-- `is_in_retransmission_list1`, `2` and `3`. -/
  isInRetransmissionList : ListId → Bool
  advReport : AdvReport

/-- The globals of `adv_table.c`. -/
structure Table where
  arrOfAdvReports : Idx → Elem
  advHashTable : HashIdx → List Idx
  retransmissionList : ListId → List Idx
  histList : List Idx

/-- A report with all bytes zero. -/
def AdvReport.zero : AdvReport where
  timestamp := 0
  samplesCounter := 0
  tagMac := ⟨0, 0, 0, 0, 0, 0⟩
  rssi := 0
  primaryPhy := 0
  secondaryPhy := 0
  chIndex := 0
  isCodedPhy := false
  txPower := 0
  dataLen := 0
  dataBuf := Vector.replicate advDataMaxLen 0

/-- `adv_table_init`. -/
def init : Table where
  arrOfAdvReports := fun _ =>
    { isInHashTable := false, isInRetransmissionList := fun _ => false, advReport := .zero }
  advHashTable := fun _ => []
  retransmissionList := fun _ => []
  histList := List.finRange maxAdvsTable

variable (t : Table)

/-- The report of an element. -/
abbrev Table.report (i : Idx) : AdvReport := (t.arrOfAdvReports i).advReport

/-- Write to an element. -/
def Table.setElem (i : Idx) (f : Elem → Elem) : Table :=
  { t with arrOfAdvReports := Function.update t.arrOfAdvReports i (f (t.arrOfAdvReports i)) }

/-- Write to the report of an element. -/
def Table.setReport (i : Idx) (r : AdvReport) : Table :=
  t.setElem i fun e => { e with advReport := r }

/-! ## The hash table -/

/-- `adv_report_calc_hash`. -/
def calcHash (mac : MacAddress) : UInt32 :=
  ((mac.b0.toUInt32 ^^^ mac.b3.toUInt32) <<< 0) |||
    ((mac.b1.toUInt32 ^^^ mac.b4.toUInt32) <<< 8) |||
      ((mac.b2.toUInt32 ^^^ mac.b5.toUInt32) <<< 16)

/-- `hash_idx`. -/
def hashIdx (mac : MacAddress) : HashIdx :=
  ⟨(calcHash mac).toNat % advTableHashSize, Nat.mod_lt _ (by decide)⟩

/-- `adv_hash_table_search`. -/
def hashTableSearch (mac : MacAddress) : Option Idx :=
  (t.advHashTable (hashIdx mac)).find? fun i => decide (mac = (t.report i).tagMac)

/-- `adv_hash_table_add`. -/
def hashTableAdd (i : Idx) : Table :=
  let b := hashIdx (t.report i).tagMac
  Table.setElem
    { t with advHashTable := Function.update t.advHashTable b (t.advHashTable b ++ [i]) } i
    fun e => { e with isInHashTable := true }

/-- `adv_hash_table_remove`. -/
def hashTableRemove (i : Idx) : Table :=
  if !(t.arrOfAdvReports i).isInHashTable then t
  else
    let b := hashIdx (t.report i).tagMac
    Table.setElem
      { t with advHashTable := Function.update t.advHashTable b ((t.advHashTable b).erase i) } i
      fun e => { e with isInHashTable := false }

/-! ## Putting an advertisement -/

/-- `adv_table_check_if_adv_must_be_discarded`. -/
def checkIfAdvMustBeDiscarded (adv prevAdv : AdvReport) : Bool :=
  (decide (prevAdv.dataLen = adv.dataLen) &&
      decide (prevAdv.dataBuf.toList.take adv.dataLen.toNat =
        adv.dataBuf.toList.take adv.dataLen.toNat)) ||
    (decide (bleMaxRegularAdvDataLen < prevAdv.dataLen) &&
      !decide (bleMaxRegularAdvDataLen < adv.dataLen))

/-- `TAILQ_LAST(&g_adv_reports_hist_list)`.  The history list holds all elements and is
never empty. -/
def histLast : Idx :=
  t.histList.getLastD ⟨0, by decide⟩

/-- Append an element to a retransmission list unless its flag says it is there. -/
def insertRetransmissionList (i : Idx) (k : ListId) : Table :=
  if (t.arrOfAdvReports i).isInRetransmissionList k then t
  else
    Table.setElem
      { t with
        retransmissionList :=
          Function.update t.retransmissionList k (t.retransmissionList k ++ [i]) } i
      fun e =>
        { e with isInRetransmissionList := Function.update e.isInRetransmissionList k true }

/-- `TAILQ_REMOVE` and `TAILQ_INSERT_HEAD` on the history list. -/
def moveToHistHead (i : Idx) : Table :=
  { t with histList := i :: t.histList.erase i }

/-- What follows an accepted put: the three insertions and the move to the front. -/
def markUpdated (i : Idx) : Table :=
  let t := insertRetransmissionList t i .list1
  let t := insertRetransmissionList t i .list2
  let t := insertRetransmissionList t i .list3
  moveToHistHead t i

/-- `adv_table_put_unsafe`. -/
def put (adv : AdvReport) : Table × Bool :=
  match hashTableSearch t adv.tagMac with
  | none =>
      let i := histLast t
      let t := hashTableRemove t i
      let t := t.setReport i adv
      let t := hashTableAdd t i
      (markUpdated t i, true)
  | some i =>
      if !checkIfAdvMustBeDiscarded adv (t.report i) then
        let prevCounter := (t.report i).samplesCounter
        let t := t.setReport i { adv with samplesCounter := prevCounter + 1 }
        (markUpdated t i, true)
      else
        let r := t.report i
        (t.setReport i { r with samplesCounter := r.samplesCounter + 1 }, false)

/-! ## Reading the retransmission lists -/

/-- `STAILQ_REMOVE_HEAD` and the flag. -/
def removeHead (k : ListId) (i : Idx) : Table :=
  Table.setElem
    { t with
      retransmissionList := Function.update t.retransmissionList k (t.retransmissionList k).tail } i
    fun e => { e with isInRetransmissionList := Function.update e.isInRetransmissionList k false }

/-- The loop of `adv_table_read_retransmission_listK_and_clear_unsafe`, over what the
list holds when the loop starts; `reports` is the table read so far. -/
def readLoop (k : ListId) : List Idx → List AdvReport → Table → List AdvReport × Table
  | [], reports, t => (reports, t)
  | i :: rest, reports, t =>
      let r := t.report i
      let t := removeHead t k i
      if maxAdvsTable ≤ reports.length then (reports, t)
      else readLoop k rest (reports ++ [r]) t

/-- The common body of the three functions. -/
def readRetransmissionListAndClear (k : ListId) : List AdvReport × Table :=
  readLoop k (t.retransmissionList k) [] t

/-- `adv_table_read_retransmission_list1_and_clear_unsafe`. -/
def readRetransmissionList1AndClear : List AdvReport × Table :=
  readRetransmissionListAndClear t .list1

/-- `adv_table_read_retransmission_list2_and_clear_unsafe`. -/
def readRetransmissionList2AndClear : List AdvReport × Table :=
  readRetransmissionListAndClear t .list2

/-- `adv_table_read_retransmission_list3_and_clear_unsafe`. -/
def readRetransmissionList3AndClear : List AdvReport × Table :=
  readRetransmissionListAndClear t .list3

/-- `adv_table_read_retransmission_list3_head_unsafe`. -/
def readRetransmissionList3Head : Option AdvReport × Table :=
  match t.retransmissionList .list3 with
  | [] => (none, t)
  | i :: _ => (some (t.report i), removeHead t .list3 i)

/-- `adv_table_read_retransmission_list3_is_empty`. -/
def readRetransmissionList3IsEmpty : Bool :=
  (t.retransmissionList .list3).isEmpty

/-! ## History, statistics, clearing -/

/-- The filter of `adv_table_read_history_unsafe` stops the loop.  The arithmetic is that
of the 32-bit target: `cur_time - timestamp` is compared as `uint32_t`, and the
difference of counters as `int32_t`. -/
def historyFilterStops (curTime : UInt32) (flagUseTimestamps : Bool) (filter : UInt32)
    (flagUseFilter : Bool) (r : AdvReport) : Bool :=
  if flagUseTimestamps then flagUseFilter && decide (filter < curTime - r.timestamp)
  else flagUseFilter && decide ((r.timestamp - filter).toInt32 ≤ 0)

/-- The loop of `adv_table_read_history_unsafe`. -/
def historyLoop (stops : AdvReport → Bool) : List Idx → List AdvReport → List AdvReport
  | [], reports => reports
  | i :: rest, reports =>
      if maxAdvsTable ≤ reports.length then reports
      else if (t.report i).dataLen = 0 then reports
      else if stops (t.report i) then reports
      else historyLoop stops rest (reports ++ [t.report i])

/-- `adv_table_history_read`. -/
def historyRead (curTime : UInt32) (flagUseTimestamps : Bool) (filter : UInt32)
    (flagUseFilter : Bool) : List AdvReport :=
  historyLoop t (historyFilterStops curTime flagUseTimestamps filter flagUseFilter) t.histList []

/-- The loop of `adv_table_read_statistics_unsafe`. -/
def statisticsLoop : List Idx → List AdvReport → Table → List AdvReport × Table
  | [], reports, t => (reports, t)
  | i :: rest, reports, t =>
      if maxAdvsTable ≤ reports.length then (reports, t)
      else if (t.report i).timestamp = 0 then (reports, t)
      else
        statisticsLoop rest (reports ++ [t.report i])
          (t.setReport i { t.report i with samplesCounter := 0 })

/-- `adv_table_statistics_read`. -/
def statisticsRead : List AdvReport × Table :=
  statisticsLoop t.histList [] t

/-- `adv_retransmission_listK_clear_unsafe`. -/
def retransmissionListClear (k : ListId) : Table :=
  (t.retransmissionList k).foldl (fun t i => removeHead t k i) t

/-- Mark a report as free in the history list. -/
def AdvReport.free (r : AdvReport) : AdvReport :=
  { r with timestamp := 0, samplesCounter := 0, dataLen := 0 }

/-- `adv_table_clear`. -/
def clear : Table :=
  let t := retransmissionListClear t .list1
  let t := retransmissionListClear t .list2
  let t := retransmissionListClear t .list3
  t.histList.foldl (fun t i => t.setReport i (t.report i).free) t

end AdvTable
end RuuviGateway
