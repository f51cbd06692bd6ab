import RuuviGateway.AdvJson.Http
import RuuviGateway.GwCfgJson.Config

/-!
# The message published over MQTT

`mqtt_json.c`: `mqtt_cb_json_stream_gen_adv`.  It has its own dispatch over the formats of a
payload, and what decoding adds to the message is compared with what it adds to the report in
the document posted over HTTP.

The dispatch of HTTP has five formats.  The one of MQTT has three of them: F0 and E0 are
missing.
-/

namespace RuuviGateway
namespace AdvJson

open AdvTable JsonStream CJson Components
open GwCfgJson (MqttDataFormat)

/-- `mqtt_json_stream_gen_adv_ctx_t`. -/
structure MqttJsonStreamGenAdvCtx where
  adv : AdvReport
  flagUseTimestamps : Bool
  timestamp : UInt32
  macAddr : List Char
  coordinatesStr : List Char
  mqttDataFormat : MqttDataFormat

section Callback

variable (F : Type) [Components F]

/-- The fields before the array `aoa`. -/
def mqttHeadFields (ctx : MqttJsonStreamGenAdvCtx) : List (NamedValue F) :=
  [("gw_mac", .string ctx.macAddr), ("rssi", .int32 ctx.adv.rssi.toInt32)]

/-- The fields after it, up to the decoded ones. -/
def mqttAdvFields (ctx : MqttJsonStreamGenAdvCtx) : List (NamedValue F) :=
  (if ctx.flagUseTimestamps then
      [("gwts", .uint32 ctx.timestamp), ("ts", .uint32 ctx.adv.timestamp)]
    else [("cnt", .uint32 ctx.adv.timestamp)]) ++
    (if ctx.mqttDataFormat = .ruuviRaw ∨ ctx.mqttDataFormat = .ruuviRawAndDecoded then
      [("data", .hexBuf (reportData ctx.adv))] else [])

/-- The fields that `mqtt_cb_json_stream_gen_adv` adds if it decodes. -/
def mqttDecodedFields (r : AdvReport) : List (NamedValue F) :=
  (if re5CheckFormat F r.dataBuf then advDecodeDf5 F r.dataBuf else []) ++
    (if re6CheckFormat F r.dataBuf then advDecodeDf6 F r.dataBuf else []) ++
    (if reE1CheckFormat F r.dataBuf then advDecodeDfxe1 F r.dataBuf else [])

/-- The fields after the array `aoa`. -/
def mqttFields (ctx : MqttJsonStreamGenAdvCtx) : List (NamedValue F) :=
  mqttAdvFields F ctx ++
    (if ctx.mqttDataFormat = .ruuviRawAndDecoded ∨ ctx.mqttDataFormat = .ruuviDecoded then
      mqttDecodedFields F ctx.adv else []) ++
    [("coords", .string ctx.coordinatesStr)]

/-- `mqtt_cb_json_stream_gen_adv`. -/
def mqttCbJsonStreamGenAdv (ctx : MqttJsonStreamGenAdvCtx) : List (Call F) :=
  (mqttHeadFields F ctx).map .add ++ [.startArray "aoa", .endArray] ++
    (mqttFields F ctx).map .add

end Callback

/-! ## What decoding adds -/

/-- A report in the document posted over HTTP has the field if it is decoded, and not if it is
not. -/
def HttpDecodes (F : Type) [Components F] (ctx : StreamGenAdvsCtx) (r : AdvReport)
    (f : NamedValue F) : Prop :=
  .add f ∈ cbJsonStreamGenAdv F { ctx with flagDecode := true } r ∧
    .add f ∉ cbJsonStreamGenAdv F { ctx with flagDecode := false } r

/-- The two formats with decoded data. -/
def decodingFormat (raw : Bool) : MqttDataFormat :=
  if raw then .ruuviRawAndDecoded else .ruuviDecoded

/-- The message about a report has the field in a format with decoded data, and not if only raw
data are sent. -/
def MqttDecodes (F : Type) [Components F] (ctx : MqttJsonStreamGenAdvCtx) (raw : Bool)
    (r : AdvReport) (f : NamedValue F) : Prop :=
  .add f ∈ mqttCbJsonStreamGenAdv F
      { ctx with adv := r, mqttDataFormat := decodingFormat raw } ∧
    .add f ∉ mqttCbJsonStreamGenAdv F { ctx with adv := r, mqttDataFormat := .ruuviRaw }

variable {F : Type} [Components F]

theorem add_mem_cbJsonStreamGenAdv {ctx : StreamGenAdvsCtx} {r : AdvReport} {f : NamedValue F} :
    .add f ∈ cbJsonStreamGenAdv F ctx r ↔
      f ∈ advFields F ctx r ∨ (ctx.flagDecode ∧ f ∈ httpDecodedFields F r) := by
  unfold cbJsonStreamGenAdv
  cases ctx.flagDecode <;> simp

/-- The fields without decoding have names of their own. -/
theorem notMem_advFields {ctx : StreamGenAdvsCtx} {r : AdvReport} {f : NamedValue F}
    (h : f.1 ∈ decodedNames) : f ∉ advFields F ctx r := by
  intro hf
  have hname : f.1 ∈ names (present (advMembers F ctx r)) := by
    rw [← map_member_advFields, names_map_member]
    exact List.mem_map_of_mem hf
  have hnames := names_present_subset _ hname
  rw [advMembers_names] at hnames
  have hfresh : ∀ name ∈ ["rssi", "timestamp", "counter", "ble_phy", "ble_chan",
      "ble_tx_power", "data"], name ∉ decodedNames := by decide
  exact hfresh f.1 hnames h

theorem httpDecodes_iff (ctx : StreamGenAdvsCtx) (r : AdvReport) (f : NamedValue F) :
    HttpDecodes F ctx r f ↔ f ∈ httpDecodedFields F r := by
  unfold HttpDecodes
  rw [add_mem_cbJsonStreamGenAdv, add_mem_cbJsonStreamGenAdv]
  constructor
  · rintro ⟨hmem | ⟨-, hmem⟩, hnot⟩
    · exact absurd (Or.inl hmem) hnot
    · exact hmem
  · intro hmem
    refine ⟨Or.inr ⟨rfl, hmem⟩, ?_⟩
    rintro (hbase | ⟨hflag, -⟩)
    · exact notMem_advFields (names_httpDecodedFields F r f hmem) hbase
    · exact absurd hflag Bool.false_ne_true

/-- MQTT adds nothing that HTTP does not add. -/
theorem mqttDecodedFields_subset (r : AdvReport) :
    mqttDecodedFields F r ⊆ httpDecodedFields F r := by
  intro f hf
  simp only [mqttDecodedFields, httpDecodedFields, List.mem_append] at hf ⊢
  rcases hf with (h | h) | h
  · exact Or.inl (Or.inl (Or.inl (Or.inl h)))
  · exact Or.inl (Or.inl (Or.inl (Or.inr h)))
  · exact Or.inr h

theorem add_mem_mqttCbJsonStreamGenAdv {ctx : MqttJsonStreamGenAdvCtx} {f : NamedValue F} :
    .add f ∈ mqttCbJsonStreamGenAdv F ctx ↔
      f ∈ mqttHeadFields F ctx ∨ f ∈ mqttFields F ctx := by
  simp [mqttCbJsonStreamGenAdv]

/-- The message without decoding has names of its own. -/
theorem names_mqtt_raw {ctx : MqttJsonStreamGenAdvCtx} (hraw : ctx.mqttDataFormat = .ruuviRaw)
    {f : NamedValue F} (h : f ∈ mqttHeadFields F ctx ∨ f ∈ mqttFields F ctx) :
    f.1 ∉ decodedNames := by
  have hhead : ∀ f ∈ mqttHeadFields F ctx, f.1 ∉ decodedNames := by
    simp [mqttHeadFields, decodedNames]
  have hfields : ∀ f ∈ mqttFields F ctx, f.1 ∉ decodedNames := by
    unfold mqttFields mqttAdvFields
    rw [hraw]
    cases ctx.flagUseTimestamps <;> simp [decodedNames]
  exact h.elim (hhead f) (hfields f)

/-- The fields of a format with decoded data. -/
theorem mem_mqttFields_decoding (ctx : MqttJsonStreamGenAdvCtx) {raw : Bool} {f : NamedValue F} :
    f ∈ mqttFields F { ctx with mqttDataFormat := decodingFormat raw } →
      f ∈ mqttFields F { ctx with mqttDataFormat := .ruuviRaw } ∨
        f ∈ mqttDecodedFields F ctx.adv := by
  intro h
  simp only [mqttFields, mqttAdvFields, List.mem_append] at h ⊢
  rcases h with ((htime | hdata) | hdecoded) | hcoords
  · exact Or.inl (Or.inl (Or.inl (Or.inl htime)))
  · refine Or.inl (Or.inl (Or.inl (Or.inr ?_)))
    split at hdata
    · rwa [if_pos (Or.inl trivial)]
    · exact absurd hdata List.not_mem_nil
  · refine Or.inr ?_
    split at hdecoded
    · exact hdecoded
    · exact absurd hdecoded List.not_mem_nil
  · exact Or.inl (Or.inr hcoords)

theorem mem_mqttFields_of_decoded (ctx : MqttJsonStreamGenAdvCtx) {raw : Bool} {f : NamedValue F}
    (h : f ∈ mqttDecodedFields F ctx.adv) :
    f ∈ mqttFields F { ctx with mqttDataFormat := decodingFormat raw } := by
  have hformat : decodingFormat raw = .ruuviRawAndDecoded ∨ decodingFormat raw = .ruuviDecoded := by
    cases raw <;> decide
  refine List.mem_append_left _ (List.mem_append_right _ ?_)
  rwa [if_pos hformat]

theorem mqttDecodes_iff (ctx : MqttJsonStreamGenAdvCtx) (raw : Bool) (r : AdvReport)
    (f : NamedValue F) : MqttDecodes F ctx raw r f ↔ f ∈ mqttDecodedFields F r := by
  unfold MqttDecodes
  rw [add_mem_mqttCbJsonStreamGenAdv, add_mem_mqttCbJsonStreamGenAdv]
  constructor
  · rintro ⟨hhead | hmem, hnot⟩
    · exact absurd (Or.inl hhead) hnot
    · rcases mem_mqttFields_decoding { ctx with adv := r } hmem with h | h
      · exact absurd (Or.inr h) hnot
      · exact h
  · intro hmem
    refine ⟨Or.inr (mem_mqttFields_of_decoded { ctx with adv := r } hmem), ?_⟩
    intro hraw
    exact names_mqtt_raw rfl hraw (names_httpDecodedFields F r f (mqttDecodedFields_subset r hmem))

/-! ## The formats that are missing -/

/-- The decoder for F0 takes the payload. -/
def AcceptsF0 (F : Type) [Components F] (buf : DataBuf) : Prop :=
  reF0CheckFormat F buf ∧ (reF0Decode (F := F) buf).isSome

/-- The decoder for E0 takes the payload. -/
def AcceptsE0 (F : Type) [Components F] (buf : DataBuf) : Prop :=
  reE0CheckFormat F buf ∧ (reE0Decode (F := F) buf).isSome

omit [Components F] in
/-- A decoder that does not take the payload adds nothing. -/
theorem decoded_eq_nil {D : Type} {check : Bool} {decode : DataBuf → Option D}
    {fields : D → List (NamedValue F)} {buf : DataBuf} (h : ¬ (check ∧ (decode buf).isSome)) :
    (if check then decoded decode fields buf else []) = [] := by
  cases check with
  | false => rfl
  | true =>
    rw [if_pos rfl, decoded]
    cases hdecode : decode buf with
    | none => rfl
    | some d => exact absurd ⟨rfl, by rw [hdecode]; rfl⟩ h

omit [Components F] in
/-- A decoder that takes the payload gives the format first. -/
theorem dataFormat_mem_decoded {D : Type} {check : Bool} {decode : DataBuf → Option D}
    {fields : D → List (NamedValue F)} {buf : DataBuf} {destination : Int32}
    (hhead : ∀ d, (fields d).head? = some ("dataFormat", .int32 destination))
    (h : check ∧ (decode buf).isSome) :
    ("dataFormat", .int32 destination) ∈ if check then decoded decode fields buf else [] := by
  obtain ⟨d, hd⟩ := Option.isSome_iff_exists.mp h.2
  rw [if_pos h.1, decoded, hd]
  exact List.mem_of_head? (hhead d)

/-- The formats that MQTT gives. -/
theorem dataFormat_mqttDecodedFields {r : AdvReport} {v : Value F}
    (h : ("dataFormat", v) ∈ mqttDecodedFields F r) :
    v = .int32 (re5Destination F) ∨ v = .int32 (re6Destination F) ∨
      v = .int32 (reE1Destination F) := by
  simp only [mqttDecodedFields, List.mem_append] at h
  rcases h with (h | h) | h
  · exact Or.inl ((isDecoded_of_check isDecoded_df5 _ r.dataBuf).dataFormat v h)
  · exact Or.inr (Or.inl ((isDecoded_of_check isDecoded_df6 _ r.dataBuf).dataFormat v h))
  · exact Or.inr (Or.inr ((isDecoded_of_check isDecoded_dfxe1 _ r.dataBuf).dataFormat v h))

theorem notMem_mqtt_of_destination {r : AdvReport} {destination : Int32}
    (h : destination ∉ [re5Destination F, re6Destination F, reE1Destination F]) :
    ("dataFormat", .int32 destination) ∉ mqttDecodedFields F r := by
  intro hmem
  rcases dataFormat_mqttDecodedFields hmem with heq | heq | heq <;>
    exact h (by simp [Value.int32.inj heq])

theorem dataFormat_f0_mem {r : AdvReport} (h : AcceptsF0 F r.dataBuf) :
    ("dataFormat", .int32 (reF0Destination F)) ∈ httpDecodedFields F r := by
  have hmem := @dataFormat_mem_decoded F _ _ _ dfxf0Fields _ _ (fun _ => rfl) h
  simp only [httpDecodedFields, List.mem_append]
  exact Or.inl (Or.inl (Or.inr hmem))

theorem dataFormat_e0_mem {r : AdvReport} (h : AcceptsE0 F r.dataBuf) :
    ("dataFormat", .int32 (reE0Destination F)) ∈ httpDecodedFields F r := by
  have hmem := @dataFormat_mem_decoded F _ _ _ dfxe0Fields _ _ (fun _ => rfl) h
  simp only [httpDecodedFields, List.mem_append]
  exact Or.inl (Or.inr hmem)

/-- Decoding adds the same fields on both paths. -/
def SameDecoded (F : Type) [Components F] (httpCtx : StreamGenAdvsCtx)
    (mqttCtx : MqttJsonStreamGenAdvCtx) (raw : Bool) (r : AdvReport) : Prop :=
  ∀ f : NamedValue F, HttpDecodes F httpCtx r f ↔ MqttDecodes F mqttCtx raw r f

/-- The formats that only HTTP decodes are none of those of MQTT. -/
theorem destinations_notMem_mqtt :
    reF0Destination F ∉ [re5Destination F, re6Destination F, reE1Destination F] ∧
      reE0Destination F ∉ [re5Destination F, re6Destination F, reE1Destination F] := by
  have hf0 : (reF0Destination F :: [re5Destination F, re6Destination F, reE0Destination F,
      reE1Destination F]).Nodup :=
    (@List.nodup_middle _ _ [re5Destination F, re6Destination F] _).mp destinations_nodup
  have he0 : (reE0Destination F :: [re5Destination F, re6Destination F, reF0Destination F,
      reE1Destination F]).Nodup :=
    (@List.nodup_middle _ _ [re5Destination F, re6Destination F, reF0Destination F] _).mp
      destinations_nodup
  have hsub : ∀ d, [re5Destination F, re6Destination F, reE1Destination F] ⊆
      [re5Destination F, re6Destination F, d, reE1Destination F] := fun d => by simp
  exact ⟨fun h => (List.nodup_cons.mp hf0).1 (hsub _ h),
    fun h => (List.nodup_cons.mp he0).1 (hsub _ h)⟩

/-- Both paths add the same fields exactly for the payloads that neither the decoder for F0 nor
the one for E0 takes. -/
theorem sameDecoded_iff (httpCtx : StreamGenAdvsCtx) (mqttCtx : MqttJsonStreamGenAdvCtx)
    (raw : Bool) (r : AdvReport) : SameDecoded F httpCtx mqttCtx raw r ↔
      ¬ AcceptsF0 F r.dataBuf ∧ ¬ AcceptsE0 F r.dataBuf := by
  unfold SameDecoded
  simp only [httpDecodes_iff, mqttDecodes_iff]
  constructor
  · intro hsame
    constructor
    · intro hf0
      exact notMem_mqtt_of_destination destinations_notMem_mqtt.1
        ((hsame _).mp (dataFormat_f0_mem hf0))
    · intro he0
      exact notMem_mqtt_of_destination destinations_notMem_mqtt.2
        ((hsame _).mp (dataFormat_e0_mem he0))
  · rintro ⟨hf0, he0⟩ f
    have hnil0 := @decoded_eq_nil F _ _ _ dfxf0Fields _ hf0
    have hnil1 := @decoded_eq_nil F _ _ _ dfxe0Fields _ he0
    refine ⟨fun h => ?_, fun h => mqttDecodedFields_subset r h⟩
    unfold httpDecodedFields advDecodeDfxf0 advDecodeDfxe0 at h
    rw [hnil0, hnil1, List.append_nil, List.append_nil] at h
    exact h

section FormatF0

/-- A report with a measurement in format F0. -/
def reportF0 : AdvReport :=
  { AdvReport.zero with
    dataLen := 31
    dataBuf := Vector.ofFn fun i => [2, 1, 6, 27, 0xFF, 0x99, 4, 0xF0].getD i.val 0 }

def reportF0Ctx : MqttJsonStreamGenAdvCtx where
  adv := reportF0
  flagUseTimestamps := true
  timestamp := 0
  macAddr := []
  coordinatesStr := []
  mqttDataFormat := .ruuviRawAndDecoded

/-- The document has the measurement and the message has not. -/
theorem reportF0_only_http : ¬ @SameDecoded ℚ f0Components
    (httpJsonCreateStreamGenAdvs none rawParams) reportF0Ctx true reportF0 := by
  intro hsame
  have hhttp : @HttpDecodes ℚ f0Components (httpJsonCreateStreamGenAdvs none rawParams) reportF0
      ("dataFormat", .int32 0xF0) := by
    unfold HttpDecodes
    decide
  have hmqtt : ¬ @MqttDecodes ℚ f0Components reportF0Ctx true reportF0
      ("dataFormat", .int32 0xF0) := by
    unfold MqttDecodes
    decide
  exact hmqtt ((hsame _).mp hhttp)

end FormatF0

end AdvJson
end RuuviGateway
