import RuuviGateway.AdvTable.Model

/-!
# The manufacturer of an advertisement

`get_ble_manuf_id` of `adv_post.c`.  It walks over the AD structures of the data, length by length,
to the first one whose type is 0xFF, and returns the company id that this structure begins with.

The model keeps the indices of the bytes that are read.  They may be beyond the data: there is
memory behind the report, and it holds anything.

The loop goes on while what is left of the data is at least `2U`.  Behind a structure that runs
beyond the data the difference is negative, and since `ptrdiff_t` is an `int` on the ESP32, it is
compared as a large `unsigned` number: the walk goes on behind the data.
-/

namespace RuuviGateway
namespace AdvTable

/-! ## The code -/

/-- The byte at an index from `data_buf` on, which is the last member of the report. -/
def AdvReport.byteAt (adv : AdvReport) (behind : Nat → UInt8) (i : Nat) : UInt8 :=
  if h : i < advDataMaxLen then adv.dataBuf[i] else behind (i - advDataMaxLen)

/-- `BLE_MSG_CHUNK_TYPE_MANUFACTURED_SPECIFIC_DATA`. -/
def manufacturedSpecificData : UInt8 := 0xFF

/-- What is returned, and the indices of the bytes that are read. -/
structure ManufIdRun where
  id : UInt16
  reads : List Nat
  deriving DecidableEq

/-- The loop of `get_ble_manuf_id`, with `p_data` at `pos`. -/
def getBleManufIdLoop (dataBuf : Nat → UInt8) (dataLen : UInt8) : Nat → Nat → Option ManufIdRun
  | 0, _ => none
  | fuel + 1, pos =>
      -- the difference is an `int`, and is converted for the comparison with `2U`
      if 2 ≤ UInt32.ofInt ((dataLen.toNat : Int) - pos) then
        let len := dataBuf pos
        let type := dataBuf (pos + 1)
        if manufacturedSpecificData ≠ type then
          (getBleManufIdLoop dataBuf dataLen fuel (pos + (len.toNat + 1))).map fun run =>
            { run with reads := pos :: (pos + 1) :: run.reads }
        else if len < 3 then some ⟨0, [pos, pos + 1]⟩
        else
          some ⟨(dataBuf (pos + 3)).toUInt16 <<< 8 ||| (dataBuf (pos + 2)).toUInt16,
            [pos, pos + 1, pos + 3, pos + 2]⟩
      else some ⟨0, []⟩

/-- `get_ble_manuf_id`. -/
def getBleManufId (adv : AdvReport) (behind : Nat → UInt8) (fuel : Nat) : Option ManufIdRun :=
  if adv.dataLen < 2 then some ⟨0, []⟩
  else getBleManufIdLoop (adv.byteAt behind) adv.dataLen fuel 0

/-! ## AD structures -/

/-- An AD structure: its length, and the bytes behind it, which are fewer if the data ends.  The
first of them is the type. -/
structure AdStructure where
  len : UInt8
  body : List UInt8

/-- The AD structures of the data, length by length. -/
def adStructures : List UInt8 → List AdStructure
  | [] => []
  | len :: rest => ⟨len, rest.take len.toNat⟩ :: adStructures (rest.drop len.toNat)
termination_by data => data.length
decreasing_by simp only [List.length_drop, List.length_cons]; omega

def AdStructure.isManufacturerSpecific (a : AdStructure) : Bool :=
  a.body.head? = some manufacturedSpecificData

/-- The little-endian company id of a structure that is long enough and that the data does not cut
off. -/
def AdStructure.companyId (a : AdStructure) : UInt16 :=
  if 3 ≤ a.len ∧ a.body.length = a.len.toNat then
    .ofNat ((a.body.getD 1 0).toNat + 256 * (a.body.getD 2 0).toNat)
  else 0

/-- The company id of the first manufacturer-specific structure, or 0. -/
def companyId (data : List UInt8) : UInt16 :=
  match (adStructures data).find? AdStructure.isManufacturerSpecific with
  | some a => a.companyId
  | none => 0

theorem adStructures_nil : adStructures [] = [] := by
  simp only [adStructures]

theorem adStructures_cons (len : UInt8) (rest : List UInt8) : adStructures (len :: rest) =
    ⟨len, rest.take len.toNat⟩ :: adStructures (rest.drop len.toNat) := by
  simp only [adStructures]

theorem companyId_nil : companyId [] = 0 := by
  rw [companyId, adStructures_nil]
  rfl

/-- A structure that is not manufacturer-specific is passed. -/
theorem companyId_cons_of_not {len : UInt8} {rest : List UInt8}
    (h : (rest.take len.toNat).head? ≠ some manufacturedSpecificData) :
    companyId (len :: rest) = companyId (rest.drop len.toNat) := by
  rw [companyId, adStructures_cons, List.find?_cons_of_neg]
  · rfl
  · exact fun hspecific => h (of_decide_eq_true hspecific)

/-- Otherwise it is the one. -/
theorem companyId_cons_of_head {len : UInt8} {rest : List UInt8}
    (h : (rest.take len.toNat).head? = some manufacturedSpecificData) :
    companyId (len :: rest) = AdStructure.companyId ⟨len, rest.take len.toNat⟩ := by
  rw [companyId, adStructures_cons, List.find?_cons_of_pos]
  exact decide_eq_true h

/-- A structure that is cut off has no company id, and nothing comes behind it. -/
theorem companyId_of_cutOff {len : UInt8} {rest : List UInt8} (h : rest.length < len.toNat) :
    companyId (len :: rest) = 0 := by
  by_cases hhead : (rest.take len.toNat).head? = some manufacturedSpecificData
  · rw [companyId_cons_of_head hhead]
    refine if_neg ?_
    rintro ⟨-, hlen⟩
    have hlen : (rest.take len.toNat).length = len.toNat := hlen
    rw [List.length_take, Nat.min_eq_right (Nat.le_of_lt h)] at hlen
    exact absurd h (by rw [hlen]; exact Nat.lt_irrefl len.toNat)
  · rw [companyId_cons_of_not hhead, List.drop_of_length_le (Nat.le_of_lt h), companyId_nil]

theorem companyId_singleton (len : UInt8) : companyId [len] = 0 := by
  rw [companyId_cons_of_not (by rw [List.take_nil]; simp), List.drop_nil, companyId_nil]

theorem companyId_of_type_ne {len type : UInt8} {rest : List UInt8}
    (h : manufacturedSpecificData ≠ type) :
    companyId (len :: type :: rest) = companyId ((type :: rest).drop len.toNat) := by
  refine companyId_cons_of_not ?_
  rw [List.head?_take]
  split
  · simp
  · exact fun heq => h (Option.some.inj heq).symm

/-- A length below 3 leaves no room for a company id.  Behind an empty structure, 0xFF is the
length of the next one, which is longer than the data. -/
theorem companyId_of_short {len : UInt8} {rest : List UInt8} (hlen : len < 3)
    (hrest : rest.length < 255) : companyId (len :: manufacturedSpecificData :: rest) = 0 := by
  by_cases hzero : len.toNat = 0
  · rw [companyId_cons_of_not (by rw [hzero]; simp), hzero, List.drop_zero]
    exact companyId_of_cutOff hrest
  · rw [companyId_cons_of_head (by rw [List.head?_take, if_neg hzero, List.head?_cons])]
    refine if_neg ?_
    rintro ⟨hthree, -⟩
    exact absurd hlen (UInt8.not_lt.mpr hthree)

theorem companyId_of_complete {len low high : UInt8} {rest : List UInt8} (hlen : 3 ≤ len)
    (h : len.toNat ≤ (manufacturedSpecificData :: low :: high :: rest).length) :
    companyId (len :: manufacturedSpecificData :: low :: high :: rest) =
      .ofNat (low.toNat + 256 * high.toNat) := by
  have hthree : 3 ≤ len.toNat := UInt8.le_iff_toNat_le.mp hlen
  have hhead : ((manufacturedSpecificData :: low :: high :: rest).take len.toNat).head? =
      some manufacturedSpecificData := by
    rw [List.head?_take, if_neg (by omega), List.head?_cons]
  have hcomplete : ((manufacturedSpecificData :: low :: high :: rest).take len.toNat).length =
      len.toNat := by rw [List.length_take, Nat.min_eq_left h]
  rw [companyId_cons_of_head hhead, AdStructure.companyId, if_pos ⟨hlen, hcomplete⟩]
  obtain ⟨k, hk⟩ := Nat.exists_eq_add_of_le' hthree
  rw [hk]
  rfl

/-! ## The company id in the code -/

theorem shiftLeft_or_eq (low high : UInt8) : high.toUInt16 <<< 8 ||| low.toUInt16 =
    .ofNat (low.toNat + 256 * high.toNat) := by
  have hlow := low.toNat_lt
  have hhigh := high.toNat_lt
  rw [← UInt16.toNat_inj, UInt16.toNat_or, UInt16.toNat_shiftLeft, UInt8.toNat_toUInt16,
    UInt8.toNat_toUInt16, UInt16.toNat_ofNat_of_lt' (show _ < 2 ^ 16 by omega)]
  have hshift : high.toNat <<< ((8 : UInt16).toNat % 16) % 2 ^ 16 = high.toNat <<< 8 := by
    refine Nat.mod_eq_of_lt ?_
    show high.toNat <<< 8 < 2 ^ 16
    rw [Nat.shiftLeft_eq]
    omega
  rw [hshift, ← Nat.shiftLeft_add_eq_or_of_lt hlow, Nat.shiftLeft_eq]
  omega

theorem ofNat_eq_zero_iff (low high : UInt8) :
    UInt16.ofNat (low.toNat + 256 * high.toNat) = 0 ↔ low = 0 ∧ high = 0 := by
  have hlow := low.toNat_lt
  have hhigh := high.toNat_lt
  rw [← UInt16.toNat_inj, UInt16.toNat_ofNat_of_lt' (show _ < 2 ^ 16 by omega),
    ← UInt8.toNat_inj, ← UInt8.toNat_inj]
  show _ = 0 ↔ _ = 0 ∧ _ = 0
  omega

/-! ## The data from an index on -/

/-- The bytes from `pos` up to `n`. -/
def dataFrom (dataBuf : Nat → UInt8) (n pos : Nat) : List UInt8 :=
  (List.range' pos (n - pos)).map dataBuf

/-- The data of a report. -/
def AdvReport.payload (adv : AdvReport) (behind : Nat → UInt8) : List UInt8 :=
  dataFrom (adv.byteAt behind) adv.dataLen.toNat 0

variable {dataBuf : Nat → UInt8} {n pos : Nat}

theorem dataFrom_of_le (h : n ≤ pos) : dataFrom dataBuf n pos = [] := by
  rw [dataFrom, Nat.sub_eq_zero_of_le h]
  rfl

theorem dataFrom_of_lt (h : pos < n) :
    dataFrom dataBuf n pos = dataBuf pos :: dataFrom dataBuf n (pos + 1) := by
  obtain ⟨k, hk⟩ : ∃ k, n - pos = k + 1 := ⟨n - pos - 1, by omega⟩
  have hrest : n - (pos + 1) = k := by omega
  rw [dataFrom, dataFrom, hk, hrest]
  rfl

theorem length_dataFrom : (dataFrom dataBuf n pos).length = n - pos := by
  rw [dataFrom, List.length_map, List.length_range']

theorem drop_dataFrom (k : Nat) :
    (dataFrom dataBuf n pos).drop k = dataFrom dataBuf n (pos + k) := by
  rw [dataFrom, ← List.map_drop, List.drop_range', dataFrom, Nat.mul_one, Nat.sub_sub]

/-- A structure with a type. -/
theorem dataFrom_of_add_two_le (h : pos + 2 ≤ n) : dataFrom dataBuf n pos =
    dataBuf pos :: dataBuf (pos + 1) :: dataFrom dataBuf n (pos + 2) := by
  rw [dataFrom_of_lt (by omega), dataFrom_of_lt (by omega)]

/-- Data that begins with a structure with a type. -/
theorem eq_of_dataFrom_eq_cons {len type : UInt8} {rest : List UInt8}
    (h : dataFrom dataBuf n pos = len :: type :: rest) : pos + 2 ≤ n ∧ dataBuf pos = len ∧
      dataBuf (pos + 1) = type ∧ dataFrom dataBuf n (pos + 2) = rest := by
  have hlen := congrArg List.length h
  rw [length_dataFrom, List.length_cons, List.length_cons] at hlen
  have hpos : pos + 2 ≤ n := by omega
  rw [dataFrom_of_add_two_le hpos] at h
  obtain ⟨hfirst, h⟩ := List.cons.inj h
  obtain ⟨hsecond, h⟩ := List.cons.inj h
  exact ⟨hpos, hfirst, hsecond, h⟩

theorem companyId_of_lt_two (h : n < pos + 2) : companyId (dataFrom dataBuf n pos) = 0 := by
  rcases Nat.lt_or_ge pos n with hlt | hle
  · rw [dataFrom_of_lt hlt, dataFrom_of_le (by omega)]
    exact companyId_singleton _
  · rw [dataFrom_of_le hle, companyId_nil]

/-! ## What is left of the data -/

theorem toNat_ofInt (d : Int) : (UInt32.ofInt d).toNat = (d % 4294967296).toNat := by
  rw [UInt32.ofInt]
  exact UInt32.toNat_ofNat_of_lt' (show _ < 4294967296 by omega)

theorem remaining_iff {dataLen : UInt8} (h : pos ≤ dataLen.toNat) :
    2 ≤ UInt32.ofInt ((dataLen.toNat : Int) - pos) ↔ pos + 2 ≤ dataLen.toNat := by
  have hlt := dataLen.toNat_lt
  rw [UInt32.le_iff_toNat_le, toNat_ofInt]
  show 2 ≤ _ ↔ _
  omega

/-- Behind the data it is a large number. -/
theorem remaining_of_lt {dataLen : UInt8} (h : dataLen.toNat < pos)
    (hpos : pos ≤ dataLen.toNat + 256) :
    2 ≤ UInt32.ofInt ((dataLen.toNat : Int) - pos) := by
  have hlt := dataLen.toNat_lt
  rw [UInt32.le_iff_toNat_le, toNat_ofInt]
  show 2 ≤ _
  omega

/-! ## One round -/

variable {dataLen : UInt8} {fuel : Nat}

theorem getBleManufIdLoop_of_end (h : pos ≤ dataLen.toNat) (hend : dataLen.toNat < pos + 2) :
    getBleManufIdLoop dataBuf dataLen (fuel + 1) pos = some ⟨0, []⟩ := by
  rw [getBleManufIdLoop, if_neg]
  rw [remaining_iff h]
  omega

theorem getBleManufIdLoop_of_type_ne
    (h : 2 ≤ UInt32.ofInt ((dataLen.toNat : Int) - pos))
    (htype : manufacturedSpecificData ≠ dataBuf (pos + 1)) :
    getBleManufIdLoop dataBuf dataLen (fuel + 1) pos =
      (getBleManufIdLoop dataBuf dataLen fuel (pos + ((dataBuf pos).toNat + 1))).map fun run =>
        { run with reads := pos :: (pos + 1) :: run.reads } := by
  rw [getBleManufIdLoop, if_pos h]
  exact if_pos htype

theorem getBleManufIdLoop_of_short (h : 2 ≤ UInt32.ofInt ((dataLen.toNat : Int) - pos))
    (htype : dataBuf (pos + 1) = manufacturedSpecificData) (hlen : dataBuf pos < 3) :
    getBleManufIdLoop dataBuf dataLen (fuel + 1) pos = some ⟨0, [pos, pos + 1]⟩ := by
  rw [getBleManufIdLoop, if_pos h]
  exact (if_neg (not_not.mpr htype.symm)).trans (if_pos hlen)

theorem getBleManufIdLoop_of_long (h : 2 ≤ UInt32.ofInt ((dataLen.toNat : Int) - pos))
    (htype : dataBuf (pos + 1) = manufacturedSpecificData) (hlen : ¬ dataBuf pos < 3) :
    getBleManufIdLoop dataBuf dataLen (fuel + 1) pos =
      some ⟨.ofNat ((dataBuf (pos + 2)).toNat + 256 * (dataBuf (pos + 3)).toNat),
        [pos, pos + 1, pos + 3, pos + 2]⟩ := by
  rw [getBleManufIdLoop, if_pos h, ← shiftLeft_or_eq]
  exact (if_neg (not_not.mpr htype.symm)).trans (if_neg hlen)

/-- There is a round. -/
theorem exists_fuel {run : ManufIdRun}
    (hrun : getBleManufIdLoop dataBuf dataLen fuel pos = some run) : ∃ k, fuel = k + 1 := by
  cases fuel with
  | zero => exact absurd hrun (by simp [getBleManufIdLoop])
  | succ fuel => exact ⟨fuel, rfl⟩

/-- A round reads the byte at `pos`. -/
theorem mem_reads (h : 2 ≤ UInt32.ofInt ((dataLen.toNat : Int) - pos)) {run : ManufIdRun}
    (hrun : getBleManufIdLoop dataBuf dataLen fuel pos = some run) : pos ∈ run.reads := by
  obtain ⟨fuel, rfl⟩ := exists_fuel hrun
  by_cases htype : manufacturedSpecificData ≠ dataBuf (pos + 1)
  · rw [getBleManufIdLoop_of_type_ne h htype] at hrun
    obtain ⟨run', -, rfl⟩ := Option.map_eq_some_iff.mp hrun
    exact List.mem_cons_self
  · rw [not_not] at htype
    by_cases hlen : dataBuf pos < 3
    · rw [getBleManufIdLoop_of_short h htype.symm hlen] at hrun
      obtain rfl := Option.some.inj hrun
      exact List.mem_cons_self
    · rw [getBleManufIdLoop_of_long h htype.symm hlen] at hrun
      obtain rfl := Option.some.inj hrun
      exact List.mem_cons_self

/-! ## Which data is read right -/

/-- The walk comes to a structure with a type that the end of the data cuts off, and that is not
taken for what it is: it is not manufacturer-specific, or the company id is not all in the data, or
it is there and not 0.  A manufacturer-specific structure with a length below 3 does no harm. -/
inductive ComesToCutOff : List UInt8 → Prop where
  | next {len type : UInt8} {rest : List UInt8} : manufacturedSpecificData ≠ type →
      len.toNat ≤ (type :: rest).length → ComesToCutOff ((type :: rest).drop len.toNat) →
      ComesToCutOff (len :: type :: rest)
  | other {len type : UInt8} {rest : List UInt8} : manufacturedSpecificData ≠ type →
      (type :: rest).length < len.toNat → ComesToCutOff (len :: type :: rest)
  | noId {len : UInt8} {rest : List UInt8} : 3 ≤ len → rest.length < 2 →
      ComesToCutOff (len :: manufacturedSpecificData :: rest)
  | id {len low high : UInt8} {rest : List UInt8} :
      (manufacturedSpecificData :: low :: high :: rest).length < len.toNat →
      ¬ (low = 0 ∧ high = 0) →
      ComesToCutOff (len :: manufacturedSpecificData :: low :: high :: rest)

theorem ComesToCutOff.two_le_length {data : List UInt8} (h : ComesToCutOff data) :
    2 ≤ data.length := by
  cases h with
  | next | other | noId | id =>
    simp only [List.length_cons]
    omega

/-- The loop comes to its end, reads no byte but those of the data, and returns the company id. -/
def StaysInPayload (adv : AdvReport) (behind : Nat → UInt8) : Prop :=
  ∃ fuel run, getBleManufId adv behind fuel = some run ∧
    (∀ i ∈ run.reads, i < adv.dataLen.toNat) ∧ run.id = companyId (adv.payload behind)

/-- The last round, at a manufacturer-specific structure that is not cut off. -/
theorem getBleManufIdLoop_of_specific (hrem : pos + 2 ≤ dataLen.toNat)
    (htype : dataBuf (pos + 1) = manufacturedSpecificData)
    (h : ¬ ComesToCutOff (dataFrom dataBuf dataLen.toNat pos)) :
    ∃ run, getBleManufIdLoop dataBuf dataLen (fuel + 1) pos = some run ∧
      (∀ i ∈ run.reads, i < dataLen.toNat) ∧
      run.id = companyId (dataFrom dataBuf dataLen.toNat pos) := by
  have hround := (remaining_iff (by omega)).mpr hrem
  have hlength : (dataFrom dataBuf dataLen.toNat (pos + 2)).length = dataLen.toNat - (pos + 2) :=
    length_dataFrom
  rw [dataFrom_of_add_two_le hrem, htype] at h ⊢
  by_cases hlen : dataBuf pos < 3
  · refine ⟨_, getBleManufIdLoop_of_short hround htype hlen, ?_, ?_⟩
    · simp only [List.mem_cons, List.not_mem_nil, or_false]
      rintro i (rfl | rfl)
      · omega
      · omega
    · have hlt := dataLen.toNat_lt
      exact (companyId_of_short hlen (by omega)).symm
  · have hthree : 3 ≤ dataBuf pos := UInt8.not_lt.mp hlen
    have hfour : pos + 2 + 2 ≤ dataLen.toNat := by
      have htwo : 2 ≤ (dataFrom dataBuf dataLen.toNat (pos + 2)).length :=
        Nat.le_of_not_lt fun hlt => h (.noId hthree hlt)
      omega
    refine ⟨_, getBleManufIdLoop_of_long hround htype hlen, ?_, ?_⟩
    · simp only [List.mem_cons, List.not_mem_nil, or_false]
      rintro i (rfl | rfl | rfl | rfl)
      all_goals omega
    · rw [dataFrom_of_add_two_le hfour] at h ⊢
      by_cases hcut : (manufacturedSpecificData :: dataBuf (pos + 2) :: dataBuf (pos + 2 + 1) ::
          dataFrom dataBuf dataLen.toNat (pos + 2 + 2)).length < (dataBuf pos).toNat
      · -- it is cut off, and its company id is 0
        rw [companyId_of_cutOff hcut]
        exact (ofNat_eq_zero_iff _ _).mpr (by_contra fun hne => h (.id hcut hne))
      · exact (companyId_of_complete hthree (Nat.le_of_not_lt hcut)).symm

/-- The structure behind one that is passed. -/
theorem drop_body (hrem : pos + 2 ≤ n) :
    (dataBuf (pos + 1) :: dataFrom dataBuf n (pos + 2)).drop (dataBuf pos).toNat =
      dataFrom dataBuf n (pos + ((dataBuf pos).toNat + 1)) := by
  rw [← dataFrom_of_lt hrem, drop_dataFrom, Nat.add_right_comm, Nat.add_assoc]

/-- What the loop does from `pos` on, if it does not come to a structure that is cut off. -/
theorem getBleManufIdLoop_of_not_comesToCutOff (hpos : pos ≤ dataLen.toNat)
    (hfuel : dataLen.toNat - pos < fuel)
    (h : ¬ ComesToCutOff (dataFrom dataBuf dataLen.toNat pos)) :
    ∃ run, getBleManufIdLoop dataBuf dataLen fuel pos = some run ∧
      (∀ i ∈ run.reads, i < dataLen.toNat) ∧
      run.id = companyId (dataFrom dataBuf dataLen.toNat pos) := by
  induction fuel generalizing pos with
  | zero => exact absurd hfuel (Nat.not_lt_zero _)
  | succ fuel ih =>
    rcases Nat.lt_or_ge dataLen.toNat (pos + 2) with hend | hrem
    · refine ⟨_, getBleManufIdLoop_of_end hpos hend, by simp, ?_⟩
      exact (companyId_of_lt_two hend).symm
    by_cases htype : manufacturedSpecificData ≠ dataBuf (pos + 1)
    · rw [dataFrom_of_add_two_le hrem] at h ⊢
      have hlen : (dataBuf pos).toNat ≤
          (dataBuf (pos + 1) :: dataFrom dataBuf dataLen.toNat (pos + 2)).length :=
        Nat.le_of_not_lt fun hlt => h (.other htype hlt)
      have hnext : ¬ ComesToCutOff
          (dataFrom dataBuf dataLen.toNat (pos + ((dataBuf pos).toNat + 1))) := by
        rw [← drop_body hrem]
        exact fun hcut => h (.next htype hlen hcut)
      rw [List.length_cons, length_dataFrom] at hlen
      obtain ⟨run, hrun, hreads, hid⟩ := ih (by omega) (by omega) hnext
      rw [getBleManufIdLoop_of_type_ne ((remaining_iff hpos).mpr hrem) htype, hrun]
      refine ⟨_, rfl, ?_, ?_⟩
      · intro i hi
        rcases List.mem_cons.mp hi with rfl | hi
        · omega
        rcases List.mem_cons.mp hi with rfl | hi
        · omega
        · exact hreads i hi
      · rw [companyId_of_type_ne htype, drop_body hrem]
        exact hid
    · exact getBleManufIdLoop_of_specific hrem (not_not.mp htype).symm h

/-- If it comes to one and does not read behind the data, then it returns something else. -/
theorem id_ne_of_comesToCutOff {data : List UInt8} (h : ComesToCutOff data)
    (hdata : dataFrom dataBuf dataLen.toNat pos = data) {run : ManufIdRun}
    (hrun : getBleManufIdLoop dataBuf dataLen fuel pos = some run)
    (hreads : ∀ i ∈ run.reads, i < dataLen.toNat) : run.id ≠ companyId data := by
  induction h generalizing pos fuel run with
  | @next len type rest htype hle _ ih =>
    obtain ⟨hrem, rfl, rfl, rfl⟩ := eq_of_dataFrom_eq_cons hdata
    obtain ⟨fuel, rfl⟩ := exists_fuel hrun
    rw [getBleManufIdLoop_of_type_ne ((remaining_iff (by omega)).mpr hrem) htype] at hrun
    obtain ⟨run', hrun', rfl⟩ := Option.map_eq_some_iff.mp hrun
    rw [companyId_of_type_ne htype]
    show run'.id ≠ _
    exact ih (drop_body hrem).symm hrun' fun i hi =>
      hreads i (List.mem_cons_of_mem _ (List.mem_cons_of_mem _ hi))
  | @other len type rest htype hlt =>
    obtain ⟨hrem, rfl, rfl, rfl⟩ := eq_of_dataFrom_eq_cons hdata
    obtain ⟨fuel, rfl⟩ := exists_fuel hrun
    rw [getBleManufIdLoop_of_type_ne ((remaining_iff (by omega)).mpr hrem) htype] at hrun
    obtain ⟨run', hrun', rfl⟩ := Option.map_eq_some_iff.mp hrun
    rw [List.length_cons, length_dataFrom] at hlt
    have hdataLen := dataLen.toNat_lt
    have hlen := (dataBuf pos).toNat_lt
    -- the next round is behind the data, and reads there
    have hbehind : 2 ≤ UInt32.ofInt
        ((dataLen.toNat : Int) - (pos + ((dataBuf pos).toNat + 1) : Nat)) :=
      remaining_of_lt (by omega) (by omega)
    have hread := hreads _ (List.mem_cons_of_mem _ (List.mem_cons_of_mem _
      (mem_reads hbehind hrun')))
    omega
  | @noId len rest hthree hlt =>
    obtain ⟨hrem, rfl, htype, rfl⟩ := eq_of_dataFrom_eq_cons hdata
    obtain ⟨fuel, rfl⟩ := exists_fuel hrun
    rw [getBleManufIdLoop_of_long ((remaining_iff (by omega)).mpr hrem) htype
      (UInt8.not_lt.mpr hthree)] at hrun
    obtain rfl := Option.some.inj hrun
    rw [length_dataFrom] at hlt
    have hread := hreads (pos + 3) (by simp)
    omega
  | @id len low high rest hlt hne =>
    obtain ⟨hrem, rfl, htype, hrest⟩ := eq_of_dataFrom_eq_cons hdata
    obtain ⟨-, rfl, rfl, rfl⟩ := eq_of_dataFrom_eq_cons hrest
    obtain ⟨fuel, rfl⟩ := exists_fuel hrun
    have hthree : 3 ≤ dataBuf pos := by
      rw [UInt8.le_iff_toNat_le]
      simp only [List.length_cons] at hlt
      show 3 ≤ _
      omega
    rw [getBleManufIdLoop_of_long ((remaining_iff (by omega)).mpr hrem) htype
      (UInt8.not_lt.mpr hthree)] at hrun
    obtain rfl := Option.some.inj hrun
    rw [companyId_of_cutOff hlt]
    exact fun hzero => hne ((ofNat_eq_zero_iff _ _).mp hzero)

/-- **The manufacturer id is read from the data alone, and right, unless the walk comes to a
structure that is cut off.** -/
theorem staysInPayload_iff (adv : AdvReport) (behind : Nat → UInt8) :
    StaysInPayload adv behind ↔ ¬ ComesToCutOff (adv.payload behind) := by
  by_cases hlen : adv.dataLen < 2
  · -- there is no structure with a type
    have hlt : adv.dataLen.toNat < 0 + 2 := UInt8.lt_iff_toNat_lt.mp hlen
    refine iff_of_true ⟨0, _, if_pos hlen, by simp, (companyId_of_lt_two hlt).symm⟩ ?_
    intro h
    have htwo := h.two_le_length
    rw [AdvReport.payload, length_dataFrom] at htwo
    omega
  · have hloop : ∀ fuel, getBleManufId adv behind fuel =
        getBleManufIdLoop (adv.byteAt behind) adv.dataLen fuel 0 := fun fuel => if_neg hlen
    constructor
    · rintro ⟨fuel, run, hrun, hreads, hid⟩ h
      rw [hloop] at hrun
      exact id_ne_of_comesToCutOff h rfl hrun hreads hid
    · intro h
      obtain ⟨run, hrun, hreads, hid⟩ := getBleManufIdLoop_of_not_comesToCutOff (Nat.zero_le _)
        (Nat.lt_succ_self (adv.dataLen.toNat - 0)) h
      exact ⟨_, run, (hloop _).trans hrun, hreads, hid⟩

/-- A report whose data are the length 3 and the type 0xFF. -/
def cutOffReport : AdvReport :=
  { AdvReport.zero with
    dataLen := 2
    dataBuf := Vector.ofFn fun i => [3, 0xFF].getD i.val 0 }

theorem not_staysInPayload_cutOff : ¬ StaysInPayload cutOffReport fun _ => 0 := by
  rintro ⟨fuel, run, hrun, hreads, -⟩
  have hlen : ¬ cutOffReport.dataLen < 2 := by decide
  rw [getBleManufId, if_neg hlen] at hrun
  obtain ⟨fuel, rfl⟩ := exists_fuel hrun
  rw [getBleManufIdLoop_of_long (by decide) (by decide) (by decide)] at hrun
  obtain rfl := Option.some.inj hrun
  have hread : 0 + 3 < cutOffReport.dataLen.toNat := hreads _ (by simp)
  exact absurd hread (by decide)

end AdvTable
end RuuviGateway
