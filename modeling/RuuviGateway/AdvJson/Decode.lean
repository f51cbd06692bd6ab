import RuuviGateway.AdvTable.Model
import RuuviGateway.Lib.JsonStream

/-!
# Decoded measurements

`adv_decode_0x05.c`, `adv_decode_0x06.c`, `adv_decode_0xf0.c`, `adv_decode_0xe0.c` and
`adv_decode_0xe1.c`.  The decoders of `ruuvi.endpoints.c` are functions of the payload; a
decoded record has the types that the macros of the generator take.
-/

namespace RuuviGateway
namespace AdvJson

open AdvTable JsonStream

/-- `data_buf`. -/
abbrev DataBuf := Vector UInt8 advDataMaxLen

/-- `re_5_data_t`. -/
structure Re5Data (F : Type) where
  temperatureC : F
  humidityRh : F
  pressurePa : F
  accelerationxG : F
  accelerationyG : F
  accelerationzG : F
  movementCount : F
  batteryV : F
  txPower : F
  measurementCount : Int32
  address : UInt64

/-- `re_6_data_t`. -/
structure Re6Data (F : Type) where
  temperatureC : F
  humidityRh : F
  pressurePa : F
  pm2p5Ppm : F
  co2 : F
  voc : F
  nox : F
  luminosity : F
  soundAvgDba : F
  seqCnt2 : Int32
  flagCalibrationInProgress : Bool
  flagButtonPressed : Bool
  flagRtcRunningOnBoot : Bool
  macAddr24 : UInt8 × UInt8 × UInt8

/-- `re_f0_data_t`. -/
structure ReF0Data (F : Type) where
  temperatureC : F
  humidityRh : F
  pressurePa : F
  pm1p0Ppm : F
  pm2p5Ppm : F
  pm4p0Ppm : F
  pm10p0Ppm : F
  co2 : F
  vocIndex : F
  noxIndex : F
  luminosity : F
  soundAvgDba : F
  flagSeqCnt : Int32
  flagUsbOn : Bool
  flagLowBattery : Bool
  flagCalibrationInProgress : Bool
  flagBoostMode : Bool
  address : UInt64

/-- `re_e0_data_t`. -/
structure ReE0Data (F : Type) where
  temperatureC : F
  humidityRh : F
  pressurePa : F
  pm1p0Ppm : F
  pm2p5Ppm : F
  pm4p0Ppm : F
  pm10p0Ppm : F
  co2 : F
  vocIndex : F
  noxIndex : F
  luminosity : F
  soundAvgDba : F
  soundPeakSplDb : F
  voltage : F
  measurementCount : Int32
  flagUsbOn : Bool
  flagLowBattery : Bool
  flagCalibrationInProgress : Bool
  flagBoostMode : Bool
  address : UInt64

/-- `re_e1_data_t`. -/
structure ReE1Data (F : Type) where
  temperatureC : F
  humidityRh : F
  pressurePa : F
  pm1p0Ppm : F
  pm2p5Ppm : F
  pm4p0Ppm : F
  pm10p0Ppm : F
  co2 : F
  voc : F
  nox : F
  luminosity : F
  soundInstDba : F
  soundAvgDba : F
  soundPeakSplDb : F
  seqCnt : UInt32
  flagCalibrationInProgress : Bool
  flagButtonPressed : Bool
  flagRtcRunningOnBoot : Bool
  address : UInt64

/-- What the code uses of the submodules. -/
class Components (F : Type) where
  macAddressToStr : MacAddress → List Char
  /-- A reader of the text of a MAC address. -/
  macAddressOfStr : List Char → Option MacAddress
  macAddressOfStr_toStr : ∀ a, macAddressOfStr (macAddressToStr a) = some a
  /-- How the generator prints a `float`. -/
  printFloat : F → Nat → CJson.Json
  /-- `RE_CA_UART_BLE_PHY_NOT_SET`, `_2MBPS` and `_CODED`, labels of one `switch`. -/
  phyNotSet : UInt8
  phy2Mbps : UInt8
  phyCoded : UInt8
  phys_nodup : [phyNotSet, phy2Mbps, phyCoded].Nodup
  /-- `RE_CA_UART_BLE_GAP_POWER_LEVEL_INVALID`. -/
  powerLevelInvalid : Int8
  /-- `RE_5_DESTINATION` and the others. -/
  re5Destination : Int32
  re6Destination : Int32
  reF0Destination : Int32
  reE0Destination : Int32
  reE1Destination : Int32
  destinations_nodup :
    [re5Destination, re6Destination, reF0Destination, reE0Destination, reE1Destination].Nodup
  re5CheckFormat : DataBuf → Bool
  re6CheckFormat : DataBuf → Bool
  reF0CheckFormat : DataBuf → Bool
  reE0CheckFormat : DataBuf → Bool
  reE1CheckFormat : DataBuf → Bool
  /-- The decoders, with a result if they return `RE_SUCCESS`. -/
  re5Decode : DataBuf → Option (Re5Data F)
  re6Decode : DataBuf → Option (Re6Data F)
  reF0Decode : DataBuf → Option (ReF0Data F)
  reE0Decode : DataBuf → Option (ReE0Data F)
  reE1Decode : DataBuf → Option (ReE1Data F)

open Components

variable {F : Type} [Components F]

/-- The loop that makes a MAC address of `data.address`. -/
def macOfAddress (address : UInt64) : MacAddress where
  b0 := (address >>> 40).toUInt8
  b1 := (address >>> 32).toUInt8
  b2 := (address >>> 24).toUInt8
  b3 := (address >>> 16).toUInt8
  b4 := (address >>> 8).toUInt8
  b5 := (address >>> 0).toUInt8

/-- `re_mac_addr24_to_str`. -/
def reMacAddr24ToStr (mac : UInt8 × UInt8 × UInt8) : List Char :=
  Hex.byte true mac.1 ++ ':' :: (Hex.byte true mac.2.1 ++ ':' :: Hex.byte true mac.2.2)

/-- The `id`. -/
def idField (F : Type) [Components F] (address : UInt64) : NamedValue F :=
  ("id", .string (macAddressToStr F (macOfAddress address)))

/-- The fields that `adv_decode_df5_cb_json_stream_gen` adds. -/
def df5Fields (d : Re5Data F) : List (NamedValue F) :=
  [("dataFormat", .int32 (re5Destination F)),
    ("temperature", .floatLimitedFixedPoint d.temperatureC 3),
    ("humidity", .floatLimitedFixedPoint d.humidityRh 4),
    ("pressure", .floatLimitedFixedPoint d.pressurePa 0),
    ("accelX", .floatLimitedFixedPoint d.accelerationxG 3),
    ("accelY", .floatLimitedFixedPoint d.accelerationyG 3),
    ("accelZ", .floatLimitedFixedPoint d.accelerationzG 3),
    ("movementCounter", .floatLimitedFixedPoint d.movementCount 0),
    ("voltage", .floatLimitedFixedPoint d.batteryV 3),
    ("txPower", .floatLimitedFixedPoint d.txPower 0),
    ("measurementSequenceNumber", .int32 d.measurementCount),
    idField F d.address]

/-- The fields that `adv_decode_df6_cb_json_stream_gen` adds. -/
def df6Fields (d : Re6Data F) : List (NamedValue F) :=
  [("dataFormat", .int32 (re6Destination F)),
    ("temperature", .floatLimitedFixedPoint d.temperatureC 1),
    ("humidity", .floatLimitedFixedPoint d.humidityRh 1),
    ("pressure", .floatLimitedFixedPoint d.pressurePa 0),
    ("PM2.5", .floatLimitedFixedPoint d.pm2p5Ppm 1),
    ("CO2", .floatLimitedFixedPoint d.co2 0),
    ("VOC", .floatLimitedFixedPoint d.voc 0),
    ("NOx", .floatLimitedFixedPoint d.nox 0),
    ("luminosity", .floatLimitedFixedPoint d.luminosity 0),
    ("sound_avg_dba", .floatLimitedFixedPoint d.soundAvgDba 1),
    ("measurementSequenceNumber", .int32 d.seqCnt2),
    ("flag_calibration_in_progress", .bool d.flagCalibrationInProgress),
    ("flag_button_pressed", .bool d.flagButtonPressed),
    ("flag_rtc_running_on_boot", .bool d.flagRtcRunningOnBoot),
    ("id", .string (reMacAddr24ToStr d.macAddr24))]

/-- The fields that `adv_decode_dfxf0_cb_json_stream_gen` adds. -/
def dfxf0Fields (d : ReF0Data F) : List (NamedValue F) :=
  [("dataFormat", .int32 (reF0Destination F)),
    ("temperature", .floatLimitedFixedPoint d.temperatureC 0),
    ("humidity", .floatLimitedFixedPoint d.humidityRh 1),
    ("pressure", .floatLimitedFixedPoint d.pressurePa 0),
    ("PM1.0", .floatLimitedFixedPoint d.pm1p0Ppm 1),
    ("PM2.5", .floatLimitedFixedPoint d.pm2p5Ppm 1),
    ("PM4.0", .floatLimitedFixedPoint d.pm4p0Ppm 1),
    ("PM10.0", .floatLimitedFixedPoint d.pm10p0Ppm 1),
    ("CO2", .floatLimitedFixedPoint d.co2 0),
    ("VOC", .floatLimitedFixedPoint d.vocIndex 0),
    ("NOx", .floatLimitedFixedPoint d.noxIndex 0),
    ("luminosity", .floatLimitedFixedPoint d.luminosity 0),
    ("sound_avg_dba", .floatLimitedFixedPoint d.soundAvgDba 1),
    ("measurementSequenceNumber", .int32 d.flagSeqCnt),
    ("flag_usb_on", .bool d.flagUsbOn),
    ("flag_low_battery", .bool d.flagLowBattery),
    ("flag_calibration_in_progress", .bool d.flagCalibrationInProgress),
    ("flag_boost_mode", .bool d.flagBoostMode),
    idField F d.address]

/-- The fields that `adv_decode_dfxe0_cb_json_stream_gen` adds. -/
def dfxe0Fields (d : ReE0Data F) : List (NamedValue F) :=
  [("dataFormat", .int32 (reE0Destination F)),
    ("temperature", .floatLimitedFixedPoint d.temperatureC 3),
    ("humidity", .floatLimitedFixedPoint d.humidityRh 2),
    ("pressure", .floatLimitedFixedPoint d.pressurePa 0),
    ("PM1.0", .floatLimitedFixedPoint d.pm1p0Ppm 1),
    ("PM2.5", .floatLimitedFixedPoint d.pm2p5Ppm 1),
    ("PM4.0", .floatLimitedFixedPoint d.pm4p0Ppm 1),
    ("PM10.0", .floatLimitedFixedPoint d.pm10p0Ppm 1),
    ("CO2", .floatLimitedFixedPoint d.co2 0),
    ("VOC", .floatLimitedFixedPoint d.vocIndex 0),
    ("NOx", .floatLimitedFixedPoint d.noxIndex 0),
    ("luminosity", .floatLimitedFixedPoint d.luminosity 0),
    ("sound_avg_dba", .floatLimitedFixedPoint d.soundAvgDba 1),
    ("sound_peak_spl_db", .floatLimitedFixedPoint d.soundPeakSplDb 1),
    ("voltage", .floatLimitedFixedPoint d.voltage 2),
    ("measurementSequenceNumber", .int32 d.measurementCount),
    ("flag_usb_on", .bool d.flagUsbOn),
    ("flag_low_battery", .bool d.flagLowBattery),
    ("flag_calibration_in_progress", .bool d.flagCalibrationInProgress),
    ("flag_boost_mode", .bool d.flagBoostMode),
    idField F d.address]

/-- The fields that `adv_decode_dfxe1_cb_json_stream_gen` adds. -/
def dfxe1Fields (d : ReE1Data F) : List (NamedValue F) :=
  [("dataFormat", .int32 (reE1Destination F)),
    ("temperature", .floatLimitedFixedPoint d.temperatureC 3),
    ("humidity", .floatLimitedFixedPoint d.humidityRh 2),
    ("pressure", .floatLimitedFixedPoint d.pressurePa 0),
    ("PM1.0", .floatLimitedFixedPoint d.pm1p0Ppm 1),
    ("PM2.5", .floatLimitedFixedPoint d.pm2p5Ppm 1),
    ("PM4.0", .floatLimitedFixedPoint d.pm4p0Ppm 1),
    ("PM10.0", .floatLimitedFixedPoint d.pm10p0Ppm 1),
    ("CO2", .floatLimitedFixedPoint d.co2 0),
    ("VOC", .floatLimitedFixedPoint d.voc 0),
    ("NOx", .floatLimitedFixedPoint d.nox 0),
    ("luminosity", .floatLimitedFixedPoint d.luminosity 0),
    ("sound_inst_dba", .floatLimitedFixedPoint d.soundInstDba 1),
    ("sound_avg_dba", .floatLimitedFixedPoint d.soundAvgDba 1),
    ("sound_peak_spl_db", .floatLimitedFixedPoint d.soundPeakSplDb 1),
    ("measurementSequenceNumber", .uint32 d.seqCnt),
    ("flag_calibration_in_progress", .bool d.flagCalibrationInProgress),
    ("flag_button_pressed", .bool d.flagButtonPressed),
    ("flag_rtc_running_on_boot", .bool d.flagRtcRunningOnBoot),
    idField F d.address]

/-- What a decoder adds: nothing, unless it succeeds. -/
def decoded {D : Type} (decode : DataBuf → Option D) (fields : D → List (NamedValue F))
    (buf : DataBuf) : List (NamedValue F) :=
  match decode buf with
  | some d => fields d
  | none => []

/-- `adv_decode_df5_cb_json_stream_gen`. -/
def advDecodeDf5 (F : Type) [Components F] : DataBuf → List (NamedValue F) :=
  decoded re5Decode df5Fields

/-- `adv_decode_df6_cb_json_stream_gen`. -/
def advDecodeDf6 (F : Type) [Components F] : DataBuf → List (NamedValue F) :=
  decoded re6Decode df6Fields

/-- `adv_decode_dfxf0_cb_json_stream_gen`. -/
def advDecodeDfxf0 (F : Type) [Components F] : DataBuf → List (NamedValue F) :=
  decoded reF0Decode dfxf0Fields

/-- `adv_decode_dfxe0_cb_json_stream_gen`. -/
def advDecodeDfxe0 (F : Type) [Components F] : DataBuf → List (NamedValue F) :=
  decoded reE0Decode dfxe0Fields

/-- `adv_decode_dfxe1_cb_json_stream_gen`. -/
def advDecodeDfxe1 (F : Type) [Components F] : DataBuf → List (NamedValue F) :=
  decoded reE1Decode dfxe1Fields

/-- The names of decoded fields. -/
def decodedNames : List String :=
  ["dataFormat", "temperature", "humidity", "pressure", "accelX", "accelY", "accelZ",
    "movementCounter", "voltage", "txPower", "measurementSequenceNumber", "id", "PM1.0",
    "PM2.5", "PM4.0", "PM10.0", "CO2", "VOC", "NOx", "luminosity", "sound_inst_dba",
    "sound_avg_dba", "sound_peak_spl_db", "flag_usb_on", "flag_low_battery",
    "flag_calibration_in_progress", "flag_boost_mode", "flag_button_pressed",
    "flag_rtc_running_on_boot"]

/-- The fields have names of decoded fields, and the format is the only `dataFormat`. -/
structure IsDecoded (destination : Int32) (fields : List (NamedValue F)) : Prop where
  names : ∀ f ∈ fields, f.1 ∈ decodedNames
  dataFormat : ∀ v, ("dataFormat", v) ∈ fields → v = .int32 destination

omit [Components F] in
/-- What one branch of a dispatch over the formats adds. -/
theorem isDecoded_of_check {D : Type} {decode : DataBuf → Option D}
    {fields : D → List (NamedValue F)} {destination : Int32}
    (h : ∀ d, IsDecoded destination (fields d)) (check : Bool) (buf : DataBuf) :
    IsDecoded destination (if check then decoded decode fields buf else []) := by
  have hnil : IsDecoded destination ([] : List (NamedValue F)) := ⟨by simp, by simp⟩
  cases check with
  | false => exact hnil
  | true =>
    rw [if_pos rfl, decoded]
    cases decode buf with
    | none => exact hnil
    | some d => exact h d

theorem isDecoded_df5 (d : Re5Data F) : IsDecoded (re5Destination F) (df5Fields d) :=
  ⟨by simp [df5Fields, idField, decodedNames], by simp [df5Fields, idField]⟩

theorem isDecoded_df6 (d : Re6Data F) : IsDecoded (re6Destination F) (df6Fields d) :=
  ⟨by simp [df6Fields, decodedNames], by simp [df6Fields]⟩

theorem isDecoded_dfxf0 (d : ReF0Data F) : IsDecoded (reF0Destination F) (dfxf0Fields d) :=
  ⟨by simp [dfxf0Fields, idField, decodedNames], by simp [dfxf0Fields, idField]⟩

theorem isDecoded_dfxe0 (d : ReE0Data F) : IsDecoded (reE0Destination F) (dfxe0Fields d) :=
  ⟨by simp [dfxe0Fields, idField, decodedNames], by simp [dfxe0Fields, idField]⟩

theorem isDecoded_dfxe1 (d : ReE1Data F) : IsDecoded (reE1Destination F) (dfxe1Fields d) :=
  ⟨by simp [dfxe1Fields, idField, decodedNames], by simp [dfxe1Fields, idField]⟩

/-! ## A choice of components

An advertisement with nothing but a measurement in format F0 behind the header of the
manufacturer is recognised; nothing else is. -/

/-- `%02X` with colons. -/
def macText (a : MacAddress) : List Char :=
  Hex.byte true a.b0 ++ ':' :: Hex.byte true a.b1 ++ ':' :: Hex.byte true a.b2 ++
    ':' :: Hex.byte true a.b3 ++ ':' :: Hex.byte true a.b4 ++ ':' :: Hex.byte true a.b5

/-- The address in the text. -/
def macOfText : List Char → Option MacAddress
  | [a, b, _, c, d, _, e, f, _, g, h, _, i, j, _, k, l] =>
      match Hex.read [a, b, c, d, e, f, g, h, i, j, k, l] with
      | [b0, b1, b2, b3, b4, b5] => some ⟨b0, b1, b2, b3, b4, b5⟩
      | _ => none
  | _ => none

theorem macOfText_macText (a : MacAddress) : macOfText (macText a) = some a := by
  have h := Hex.read_text true [a.b0, a.b1, a.b2, a.b3, a.b4, a.b5]
  simp only [Hex.text, List.flatMap_cons, List.flatMap_nil, Hex.byte, List.cons_append,
    List.nil_append, List.append_nil] at h
  simp only [macOfText, macText, Hex.byte, List.cons_append, List.nil_append, h]

/-- The manufacturer's header and the format. -/
def isFormatF0 (buf : DataBuf) : Bool :=
  buf.toList.take 8 == [2, 1, 6, 27, 0xFF, 0x99, 4, 0xF0]

/-- A quiet measurement. -/
def quietF0 : ReF0Data ℚ where
  temperatureC := 21
  humidityRh := 50
  pressurePa := 100000
  pm1p0Ppm := 0
  pm2p5Ppm := 0
  pm4p0Ppm := 0
  pm10p0Ppm := 0
  co2 := 400
  vocIndex := 1
  noxIndex := 1
  luminosity := 0
  soundAvgDba := 30
  flagSeqCnt := 0
  flagUsbOn := false
  flagLowBattery := false
  flagCalibrationInProgress := false
  flagBoostMode := false
  address := 0

@[reducible] def f0Components : Components ℚ where
  macAddressToStr := macText
  macAddressOfStr := macOfText
  macAddressOfStr_toStr := macOfText_macText
  printFloat v _ := .number v
  phyNotSet := 0
  phy2Mbps := 2
  phyCoded := 4
  phys_nodup := by decide
  powerLevelInvalid := 127
  re5Destination := 0x05
  re6Destination := 0x06
  reF0Destination := 0xF0
  reE0Destination := 0xE0
  reE1Destination := 0xE1
  destinations_nodup := by decide
  re5CheckFormat _ := false
  re6CheckFormat _ := false
  reF0CheckFormat := isFormatF0
  reE0CheckFormat _ := false
  reE1CheckFormat _ := false
  re5Decode _ := none
  re6Decode _ := none
  reF0Decode buf := if isFormatF0 buf then some quietF0 else none
  reE0Decode _ := none
  reE1Decode _ := none

end AdvJson
end RuuviGateway
