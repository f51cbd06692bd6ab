import RuuviGateway.AdvJson.Decode
import RuuviGateway.Lib.CString

/-!
# The document posted over HTTP

`http_json.c`: `http_json_create_stream_gen_advs` and its callbacks.  What is read back of the
document is compared with the table.

`ble_tx_power` is an `int8_t` that goes through `JSON_STREAM_GEN_ADD_UINT32`, so a negative
power comes out as a number near 2 ^ 32; `rssi` goes through the signed macro.  A `time_t`
goes through the unsigned one as well, which changes it before 1970.
-/

namespace RuuviGateway
namespace AdvJson

open AdvTable JsonStream CJson Components

/-- The bytes of `data_buf` that are data. -/
def reportData (r : AdvReport) : List UInt8 := r.dataBuf.toList.take r.dataLen.toNat

/-- The value of `timestamp`, a signed 32-bit `time_t`. -/
def reportTime (r : AdvReport) : Int := r.timestamp.toInt32.toInt

/-- `adv_report_table_t`, with reports whose data lie in their buffers. -/
structure AdvReportTable where
  numOfAdvs : UInt32
  table : Vector AdvReport maxAdvsTable
  numOfAdvs_le : numOfAdvs.toNat ≤ maxAdvsTable
  dataLen_le : ∀ r ∈ table.toList.take numOfAdvs.toNat, r.dataLen.toNat ≤ advDataMaxLen

/-- The reports of a table. -/
def AdvReportTable.reports (t : AdvReportTable) : List AdvReport :=
  t.table.toList.take t.numOfAdvs.toNat

/-- `GW_CFG_MAX_COORDINATES_STR_LEN`. -/
def gwCfgMaxCoordinatesStrLen : Nat := 64

instance : NeZero gwCfgMaxCoordinatesStrLen := ⟨by decide⟩

/-- `http_json_create_stream_gen_advs_params_t`. -/
structure StreamGenAdvsParams where
  flagRawData : Bool
  flagDecode : Bool
  flagUseTimestamps : Bool
  curTime : UInt32
  flagUseNonce : Bool
  nonce : UInt32
  macAddr : List Char
  coordinatesStrBuf : List Char

/-- `http_json_stream_gen_advs_ctx_t`. -/
structure StreamGenAdvsCtx where
  flagRawData : Bool
  flagDecode : Bool
  flagUseTimestamps : Bool
  flagUseNonce : Bool
  timestamp : UInt32
  nonce : UInt32
  gwMac : List Char
  coordinates : CString.Buf gwCfgMaxCoordinatesStrLen
  reports : List AdvReport

/-- `http_json_create_stream_gen_advs`: what it leaves in the context of the generator. -/
def httpJsonCreateStreamGenAdvs (reports : Option AdvReportTable) (p : StreamGenAdvsParams) :
    StreamGenAdvsCtx where
  flagRawData := p.flagRawData
  flagDecode := p.flagDecode
  flagUseTimestamps := p.flagUseTimestamps
  flagUseNonce := p.flagUseNonce
  timestamp := p.curTime
  nonce := p.nonce
  gwMac := p.macAddr
  coordinates := CString.snprintf gwCfgMaxCoordinatesStrLen p.coordinatesStrBuf
  reports := match reports with
    | none => []
    | some t => t.reports

section Callbacks

variable (F : Type) [Components F] (ctx : StreamGenAdvsCtx) (r : AdvReport)

/-- The `switch` over `secondary_phy`. -/
def blePhyFields : List (NamedValue F) :=
  if r.secondaryPhy = phyNotSet F then [("ble_phy", .string ['1', 'M'])]
  else if r.secondaryPhy = phy2Mbps F then [("ble_phy", .string ['2', 'M'])]
  else if r.secondaryPhy = phyCoded F then
    [("ble_phy", .string ['C', 'o', 'd', 'e', 'd'])]
  else []

/-- The fields of `cb_json_stream_gen_adv` that are there without decoding. -/
def advFields : List (NamedValue F) :=
  ("rssi", .int32 r.rssi.toInt32) ::
    ((if ctx.flagUseTimestamps then [("timestamp", .uint32 r.timestamp)]
        else [("counter", .uint32 r.timestamp)]) ++
      blePhyFields F r ++
      ("ble_chan", .uint32 r.chIndex.toUInt32) ::
      ((if powerLevelInvalid F ≠ r.txPower then
          [("ble_tx_power", .uint32 r.txPower.toInt32.toUInt32)] else []) ++
        (if ctx.flagRawData then [("data", .hexBuf (reportData r))] else [])))

/-- The fields that `cb_json_stream_gen_adv` adds if `flag_decode`. -/
def httpDecodedFields : List (NamedValue F) :=
  (if re5CheckFormat F r.dataBuf then advDecodeDf5 F r.dataBuf else []) ++
    (if re6CheckFormat F r.dataBuf then advDecodeDf6 F r.dataBuf else []) ++
    (if reF0CheckFormat F r.dataBuf then advDecodeDfxf0 F r.dataBuf else []) ++
    (if reE0CheckFormat F r.dataBuf then advDecodeDfxe0 F r.dataBuf else []) ++
    (if reE1CheckFormat F r.dataBuf then advDecodeDfxe1 F r.dataBuf else [])

/-- The name of the object of a report. -/
def macName : String := String.ofList (macAddressToStr F r.tagMac)

/-- `cb_json_stream_gen_adv`. -/
def cbJsonStreamGenAdv : List (Call F) :=
  .startObject (macName F r) ::
    ((advFields F ctx r ++ if ctx.flagDecode then httpDecodedFields F r else []).map .add ++
      [.endObject])

/-- The fields of `cb_json_stream_gen_advs` before the reports. -/
def gatewayFields : List (NamedValue F) :=
  ("coordinates", .string ctx.coordinates.chars) ::
    ((if ctx.flagUseTimestamps then [("timestamp", .uint32 ctx.timestamp)] else []) ++
      (if ctx.flagUseNonce then [("nonce", .uint32 ctx.nonce)] else []) ++
      [("gw_mac", .string ctx.gwMac)])

/-- `cb_json_stream_gen_advs`. -/
def cbJsonStreamGenAdvs : List (Call F) :=
  .startObject "data" ::
    ((gatewayFields F ctx).map .add ++
      (.startObject "tags" :: (ctx.reports.flatMap (cbJsonStreamGenAdv F ctx) ++ [.endObject])) ++
      [.endObject])

/-- The document that the generator produces. -/
def httpDocument : Option Json := document printFloat (cbJsonStreamGenAdvs F ctx)

end Callbacks

/-! ## Reading back -/

/-- What a document says about a sensor. -/
@[ext] structure Entry where
  mac : MacAddress
  rssi : Option ℚ
  timestamp : Option ℚ
  counter : Option ℚ
  blePhy : Option (List Char)
  bleChan : Option ℚ
  bleTxPower : Option ℚ
  data : Option (List Char)
  deriving DecidableEq

/-- A number. -/
def number : Json → Option ℚ
  | .number q => some q
  | _ => none

variable (F : Type) [Components F]

/-- Read one member of `tags`. -/
def readEntry (m : String × Json) : Option Entry :=
  (macAddressOfStr F m.1.toList).map fun mac =>
    { mac := mac
      rssi := (getObjectItem m.2 "rssi").bind number
      timestamp := (getObjectItem m.2 "timestamp").bind number
      counter := (getObjectItem m.2 "counter").bind number
      blePhy := (getObjectItem m.2 "ble_phy").bind getStringValue
      bleChan := (getObjectItem m.2 "ble_chan").bind number
      bleTxPower := (getObjectItem m.2 "ble_tx_power").bind number
      data := (getObjectItem m.2 "data").bind getStringValue }

/-- Read the members of `tags`, in their order. -/
def readBack (doc : Json) : Option (List Entry) :=
  match (getObjectItem doc "data").bind fun data => getObjectItem data "tags" with
  | some (.object items) => items.mapM (readEntry F)
  | _ => none

/-- The name of the secondary PHY. -/
def phyName (phy : UInt8) : Option (List Char) :=
  if phy = phyNotSet F then some ['1', 'M']
  else if phy = phy2Mbps F then some ['2', 'M']
  else if phy = phyCoded F then some ['C', 'o', 'd', 'e', 'd']
  else none

/-- What a document should say about a report. -/
def entryOf (p : StreamGenAdvsParams) (r : AdvReport) : Entry where
  mac := r.tagMac
  rssi := some (r.rssi.toInt : ℚ)
  timestamp := if p.flagUseTimestamps then some (reportTime r : ℚ) else none
  counter := if p.flagUseTimestamps then none else some ((r.timestamp.toNat : Int) : ℚ)
  blePhy := phyName F r.secondaryPhy
  bleChan := some ((r.chIndex.toNat : Int) : ℚ)
  bleTxPower := if r.txPower = powerLevelInvalid F then none else some (r.txPower.toInt : ℚ)
  data := if p.flagRawData then some (Hex.text true (reportData r)) else none

/-- The document has exactly one entry for each report, with what the report says. -/
def Exported (p : StreamGenAdvsParams) (t : AdvReportTable) : Prop :=
  (httpDocument F (httpJsonCreateStreamGenAdvs (some t) p)).bind (readBack F) =
    some (t.reports.map (entryOf F p))

instance (p : StreamGenAdvsParams) (t : AdvReportTable) : Decidable (Exported F p t) :=
  inferInstanceAs (Decidable (_ = _))

/-! ## The members of the document -/

section Members

variable (ctx : StreamGenAdvsCtx) (r : AdvReport)

/-- The members of a report that are there without decoding. -/
def advMembers : List (String × Option Json) :=
  [("rssi", some (.number (r.rssi.toInt : ℚ))),
    ("timestamp",
      if ctx.flagUseTimestamps then some (.number ((r.timestamp.toNat : Int) : ℚ)) else none),
    ("counter",
      if ctx.flagUseTimestamps then none else some (.number ((r.timestamp.toNat : Int) : ℚ))),
    ("ble_phy", (phyName F r.secondaryPhy).map .string),
    ("ble_chan", some (.number ((r.chIndex.toNat : Int) : ℚ))),
    ("ble_tx_power",
      if r.txPower = powerLevelInvalid F then none
      else some (.number ((r.txPower.toInt32.toUInt32.toNat : Int) : ℚ))),
    ("data",
      if ctx.flagRawData then some (.string (Hex.text true (reportData r))) else none)]

theorem map_member_blePhyFields :
    (blePhyFields F r).map (member (printFloat (F := F))) =
      present [("ble_phy", (phyName F r.secondaryPhy).map .string)] := by
  unfold blePhyFields phyName
  split
  · rfl
  · split
    · rfl
    · split <;> rfl

theorem map_member_advFields :
    (advFields F ctx r).map (member (printFloat (F := F))) = present (advMembers F ctx r) := by
  have hrssi : member (printFloat (F := F)) ("rssi", .int32 r.rssi.toInt32) =
      ("rssi", .number (r.rssi.toInt : ℚ)) := by
    rw [← Int8.toInt_toInt32]
    rfl
  have htime : (if ctx.flagUseTimestamps then [("timestamp", Value.uint32 r.timestamp)]
        else [("counter", .uint32 r.timestamp)]).map (member (printFloat (F := F))) =
      present [("timestamp",
          if ctx.flagUseTimestamps then some (.number ((r.timestamp.toNat : Int) : ℚ)) else none),
        ("counter",
          if ctx.flagUseTimestamps then none
          else some (.number ((r.timestamp.toNat : Int) : ℚ)))] := by
    cases ctx.flagUseTimestamps <;> rfl
  have hpower : (if powerLevelInvalid F ≠ r.txPower then
          [("ble_tx_power", Value.uint32 r.txPower.toInt32.toUInt32)] else []).map
        (member (printFloat (F := F))) =
      present [("ble_tx_power",
        if r.txPower = powerLevelInvalid F then none
        else some (.number ((r.txPower.toInt32.toUInt32.toNat : Int) : ℚ)))] := by
    by_cases h : r.txPower = powerLevelInvalid F
    · rw [if_neg (not_not_intro h.symm), if_pos h]
      rfl
    · rw [if_pos (Ne.symm h), if_neg h]
      rfl
  have hdata : (if ctx.flagRawData then [("data", Value.hexBuf (reportData r))] else []).map
        (member (printFloat (F := F))) =
      present [("data",
        if ctx.flagRawData then some (.string (Hex.text true (reportData r))) else none)] := by
    cases ctx.flagRawData <;> rfl
  have hsplit : advMembers F ctx r = [("rssi", some (.number (r.rssi.toInt : ℚ)))] ++ ([_, _] ++
      [_] ++ ([("ble_chan", some (.number ((r.chIndex.toNat : Int) : ℚ)))] ++ ([_] ++ [_]))) := rfl
  rw [hsplit]
  simp only [present_append]
  rw [← htime, ← hpower, ← hdata, ← map_member_blePhyFields, advFields, List.map_cons, hrssi,
    List.map_append, List.map_append, List.map_cons, List.map_append]
  rfl

/-- Decoded fields have names of their own. -/
theorem names_httpDecodedFields : ∀ f ∈ httpDecodedFields F r, f.1 ∈ decodedNames := by
  intro f hf
  simp only [httpDecodedFields, List.mem_append] at hf
  rcases hf with (((h | h) | h) | h) | h
  · exact (isDecoded_of_check isDecoded_df5 _ r.dataBuf).names f h
  · exact (isDecoded_of_check isDecoded_df6 _ r.dataBuf).names f h
  · exact (isDecoded_of_check isDecoded_dfxf0 _ r.dataBuf).names f h
  · exact (isDecoded_of_check isDecoded_dfxe0 _ r.dataBuf).names f h
  · exact (isDecoded_of_check isDecoded_dfxe1 _ r.dataBuf).names f h

/-- The members that decoding adds. -/
def decodedMembers : List (String × Json) :=
  (if ctx.flagDecode then httpDecodedFields F r else []).map (member (printFloat (F := F)))

/-- The member of `tags` that a report becomes. -/
def tagMember : String × Json :=
  (macName F r, .object (present (advMembers F ctx r) ++ decodedMembers F ctx r))

theorem adds_cbJsonStreamGenAdv :
    Adds (printFloat (F := F)) (cbJsonStreamGenAdv F ctx r) [tagMember F ctx r] := by
  have h := @adds_fields _ (printFloat (F := F))
    (advFields F ctx r ++ if ctx.flagDecode then httpDecodedFields F r else [])
  rw [List.map_append (f := member _), map_member_advFields] at h
  exact h.object (macName F r)

/-- The names of the members without decoding. -/
theorem advMembers_names : (advMembers F ctx r).map Prod.fst =
    ["rssi", "timestamp", "counter", "ble_phy", "ble_chan", "ble_tx_power", "data"] := rfl

/-- Lookups in the object of a report. -/
theorem getObjectItem_tagMember :
    ∀ i ∈ advMembers F ctx r, getObjectItem (tagMember F ctx r).2 i.1 = i.2 := by
  have hnames := advMembers_names F ctx r
  have hnodup : ((advMembers F ctx r).map fun i => foldCase i.1).Nodup := by
    have h : (((advMembers F ctx r).map Prod.fst).map foldCase).Nodup := by
      rw [hnames]
      decide
    rwa [List.map_map] at h
  have hfresh : ∀ name ∈ (advMembers F ctx r).map Prod.fst,
      foldCase name ∉ decodedNames.map foldCase := by
    rw [hnames]
    decide
  intro i hi
  have hdecoded : foldCase i.1 ∉ (names (decodedMembers F ctx r)).map foldCase := by
    rw [decodedMembers, names_map_member]
    intro h
    obtain ⟨n, hn, heq⟩ := List.mem_map.mp h
    obtain ⟨f, hf, rfl⟩ := List.mem_map.mp hn
    refine hfresh i.1 (List.mem_map_of_mem hi) (List.mem_map.mpr ⟨f.1, ?_, heq⟩)
    cases hflag : ctx.flagDecode with
    | false => simp [hflag] at hf
    | true => exact names_httpDecodedFields F r f (by simpa [hflag] using hf)
  show getObjectItem (.object (present (advMembers F ctx r) ++ decodedMembers F ctx r)) i.1 = i.2
  rw [getObjectItem_append hdecoded]
  exact getObjectItem_present hnodup hi

/-- What is read back of a report. -/
def exported : Entry where
  mac := r.tagMac
  rssi := some (r.rssi.toInt : ℚ)
  timestamp := if ctx.flagUseTimestamps then some ((r.timestamp.toNat : Int) : ℚ) else none
  counter := if ctx.flagUseTimestamps then none else some ((r.timestamp.toNat : Int) : ℚ)
  blePhy := phyName F r.secondaryPhy
  bleChan := some ((r.chIndex.toNat : Int) : ℚ)
  bleTxPower :=
    if r.txPower = powerLevelInvalid F then none
    else some ((r.txPower.toInt32.toUInt32.toNat : Int) : ℚ)
  data := if ctx.flagRawData then some (Hex.text true (reportData r)) else none

theorem readEntry_tagMember : readEntry F (tagMember F ctx r) = some (exported F ctx r) := by
  have hmac : macAddressOfStr F (tagMember F ctx r).1.toList = some r.tagMac := by
    show macAddressOfStr F (String.ofList _).toList = _
    rw [String.toList_ofList, macAddressOfStr_toStr]
  have hitems := getObjectItem_tagMember F ctx r
  simp only [advMembers, List.forall_mem_cons] at hitems
  obtain ⟨hrssi, htime, hcounter, hphy, hchan, hpower, hdata, -⟩ := hitems
  rw [readEntry, hmac, Option.map_some, hrssi, htime, hcounter, hphy, hchan, hpower, hdata]
  refine congrArg some (Entry.ext rfl rfl ?_ ?_ ?_ rfl ?_ ?_)
  · show Option.bind (ite _ _ _) _ = ite _ _ _
    split <;> rfl
  · show Option.bind (ite _ _ _) _ = ite _ _ _
    split <;> rfl
  · show ((phyName F r.secondaryPhy).map .string).bind getStringValue = phyName F r.secondaryPhy
    cases phyName F r.secondaryPhy <;> rfl
  · show Option.bind (ite _ _ _) _ = ite _ _ _
    split <;> rfl
  · show Option.bind (ite _ _ _) _ = ite _ _ _
    split <;> rfl

/-- The members of `data` before `tags`. -/
theorem getObjectItem_tags (tags : Json) :
    getObjectItem (.object ((gatewayFields F ctx).map (member (printFloat (F := F))) ++
      [("tags", tags)])) "tags" = some tags := by
  have hgateway : ∀ f ∈ gatewayFields F ctx,
      f.1 ∈ ["coordinates", "timestamp", "nonce", "gw_mac"] := by
    unfold gatewayFields
    cases ctx.flagUseTimestamps <;> cases ctx.flagUseNonce <;> simp
  have hfresh : ∀ name ∈ ["coordinates", "timestamp", "nonce", "gw_mac"],
      foldCase name ≠ foldCase "tags" := by decide
  have hnone : getObjectItem (.object ((gatewayFields F ctx).map (member (printFloat (F := F)))))
      "tags" = none := by
    refine getObjectItem_eq_none fun h => ?_
    rw [names_map_member] at h
    obtain ⟨n, hn, heq⟩ := List.mem_map.mp h
    obtain ⟨f, hf, rfl⟩ := List.mem_map.mp hn
    exact hfresh f.1 (hgateway f hf) heq
  rw [getObjectItem_append_of_none hnone, getObjectItem_cons_self]

/-- The document. -/
theorem httpDocument_eq : httpDocument F ctx =
    some (.object [("data", .object ((gatewayFields F ctx).map (member (printFloat (F := F))) ++
      [("tags", .object (ctx.reports.map (tagMember F ctx)))]))]) := by
  have htags := (adds_flatMap fun r (_ : r ∈ ctx.reports) =>
    adds_cbJsonStreamGenAdv F ctx r).object "tags"
  have hdata := ((adds_fields (gatewayFields F ctx)).append htags).object "data"
  exact hdata.document_eq

theorem readBack_httpDocument : (httpDocument F ctx).bind (readBack F) =
    some (ctx.reports.map (exported F ctx)) := by
  have hentries : (ctx.reports.map (tagMember F ctx)).mapM (readEntry F) =
      some (ctx.reports.map (exported F ctx)) := by
    induction ctx.reports with
    | nil => rfl
    | cons r rest ih =>
      rw [List.map_cons, List.mapM_cons, readEntry_tagMember, ih]
      rfl
  rw [httpDocument_eq, Option.bind_some, readBack, getObjectItem_cons_self, Option.bind_some,
    getObjectItem_tags]
  exact hentries

end Members

/-! ## What is exported -/

theorem toNat_toUInt32_eq_iff (v : Int32) : ((v.toUInt32.toNat : Int) : ℚ) = (v.toInt : ℚ) ↔
    0 ≤ v.toInt := by
  have hbits : v.toInt = if 2 * v.toUInt32.toNat < 2 ^ 32 then (v.toUInt32.toNat : Int)
      else (v.toUInt32.toNat : Int) - ((2 ^ 32 : Nat) : Int) :=
    BitVec.toInt_eq_toNat_cond v.toBitVec
  have hlt := v.toUInt32.toNat_lt
  rw [Rat.intCast_inj]
  split at hbits <;> omega

/-- The unsigned macro is right for what this report holds. -/
def FitsUint32 (p : StreamGenAdvsParams) (r : AdvReport) : Prop :=
  (p.flagUseTimestamps → 0 ≤ reportTime r) ∧
    (r.txPower = powerLevelInvalid F ∨ 0 ≤ r.txPower.toInt)

/-- What is read back of a report is the report exactly if the unsigned macro is right. -/
theorem exported_eq_entryOf_iff (reports : Option AdvReportTable) (p : StreamGenAdvsParams)
    (r : AdvReport) : exported F (httpJsonCreateStreamGenAdvs reports p) r = entryOf F p r ↔
      FitsUint32 F p r := by
  have htime : ((r.timestamp.toNat : Int) : ℚ) = (reportTime r : ℚ) ↔ 0 ≤ reportTime r :=
    toNat_toUInt32_eq_iff r.timestamp.toInt32
  have hpower : ((r.txPower.toInt32.toUInt32.toNat : Int) : ℚ) = (r.txPower.toInt : ℚ) ↔
      0 ≤ r.txPower.toInt := by
    rw [← Int8.toInt_toInt32]
    exact toNat_toUInt32_eq_iff r.txPower.toInt32
  have htime' : (if p.flagUseTimestamps then some ((r.timestamp.toNat : Int) : ℚ) else none) =
      (if p.flagUseTimestamps then some (reportTime r : ℚ) else none) ↔
        (p.flagUseTimestamps → 0 ≤ reportTime r) := by
    cases p.flagUseTimestamps with
    | false => simp
    | true => simpa using htime
  have hpower' : (if r.txPower = powerLevelInvalid F then none
        else some ((r.txPower.toInt32.toUInt32.toNat : Int) : ℚ)) =
      (if r.txPower = powerLevelInvalid F then none else some (r.txPower.toInt : ℚ)) ↔
        (r.txPower = powerLevelInvalid F ∨ 0 ≤ r.txPower.toInt) := by
    by_cases h : r.txPower = powerLevelInvalid F
    · simp [h]
    · rw [if_neg h, if_neg h, Option.some_inj, hpower]
      exact (or_iff_right h).symm
  unfold FitsUint32
  rw [← htime', ← hpower', Entry.ext_iff]
  constructor
  · rintro ⟨-, -, ht, -, -, -, hp, -⟩
    exact ⟨ht, hp⟩
  · rintro ⟨ht, hp⟩
    exact ⟨rfl, rfl, ht, rfl, rfl, rfl, hp, rfl⟩

/-- The document is a faithful export exactly of tables without a negative power, and without
a negative timestamp if timestamps are used. -/
theorem exported_iff (p : StreamGenAdvsParams) (t : AdvReportTable) :
    Exported F p t ↔ ∀ r ∈ t.reports, FitsUint32 F p r := by
  have hread := readBack_httpDocument F (httpJsonCreateStreamGenAdvs (some t) p)
  unfold Exported
  rw [hread, Option.some_inj]
  show t.reports.map _ = t.reports.map _ ↔ _
  rw [List.map_inj_left]
  exact forall₂_congr fun r _ => exported_eq_entryOf_iff F (some t) p r

section NegativePower

/-- A table with one report, heard at -4 dBm. -/
def negativePower : AdvReportTable where
  numOfAdvs := 1
  table := Vector.replicate maxAdvsTable { AdvReport.zero with txPower := -4 }
  numOfAdvs_le := by decide
  dataLen_le r hr := by
    have hmem := List.mem_of_mem_take hr
    rw [Vector.toList_replicate, List.mem_replicate] at hmem
    rw [hmem.2]
    decide

/-- The request with timestamps and raw data. -/
def rawParams : StreamGenAdvsParams where
  flagRawData := true
  flagDecode := false
  flagUseTimestamps := true
  curTime := 0
  flagUseNonce := false
  nonce := 0
  macAddr := []
  coordinatesStrBuf := []

/-- A power of -4 dBm is posted as 4294967292. -/
theorem negativePower_not_exported : ¬ @Exported ℚ f0Components rawParams negativePower := by
  decide

end NegativePower

end AdvJson
end RuuviGateway
