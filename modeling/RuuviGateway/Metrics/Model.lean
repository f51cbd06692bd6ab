import RuuviGateway.AdvTable.RecvAdv
import RuuviGateway.Lib.CString
import RuuviGateway.Lib.Exposition
import RuuviGateway.Lib.StrBuf

/-!
# The metrics document

`metrics.c` collects counters and the state of the heap and prints them as lines of samples, first
to a buffer without memory to learn the size and then to memory of that size.  The strings in the
labels are printed as they are.

The hashes with SHA-256 are calculated too, but nothing prints them, and they are left out.
-/

namespace RuuviGateway
namespace Metrics

open AdvTable CString StrBuf

/-- `metrics_malloc_cap_e`. -/
inductive MallocCap where
  | exec
  | cap32Bit
  | cap8Bit
  | dma
  | pid2
  | pid3
  | pid4
  | pid5
  | pid6
  | pid7
  | spiram
  | internal
  | default
  | iram8Bit
  deriving DecidableEq, Repr

/-- The members of `metrics_total_free_info_t` and of `metrics_largest_free_info_t`, in the order in
which they are printed. -/
def reportedCaps : List MallocCap :=
  [.exec, .cap32Bit, .cap8Bit, .dma, .pid2, .pid3, .pid4, .pid5, .pid6, .pid7, .spiram, .internal,
    .default]

/-- The name in the label. -/
def MallocCap.label : MallocCap → String
  | .exec => "MALLOC_CAP_EXEC"
  | .cap32Bit => "MALLOC_CAP_32BIT"
  | .cap8Bit => "MALLOC_CAP_8BIT"
  | .dma => "MALLOC_CAP_DMA"
  | .pid2 => "MALLOC_CAP_PID2"
  | .pid3 => "MALLOC_CAP_PID3"
  | .pid4 => "MALLOC_CAP_PID4"
  | .pid5 => "MALLOC_CAP_PID5"
  | .pid6 => "MALLOC_CAP_PID6"
  | .pid7 => "MALLOC_CAP_PID7"
  | .spiram => "MALLOC_CAP_SPIRAM"
  | .internal => "MALLOC_CAP_INTERNAL"
  | .default => "MALLOC_CAP_DEFAULT"
  | .iram8Bit => "MALLOC_CAP_IRAM_8BIT"

/-- `metrics_info_t`. -/
structure MetricsInfo where
  receivedAdvertisements : UInt64
  receivedExtAdvertisements : UInt64
  receivedCodedAdvertisements : UInt64
  uptimeUs : Int64
  nrfSelfRebootCnt : UInt32
  nrfExtHwResetCnt : UInt32
  nrfLostAckCnt : UInt64
  totalFreeBytes : MallocCap → UInt32
  largestFreeBlock : MallocCap → UInt32
  macAddrStr : List Char
  nrfFw : List Char
  espFw : List Char
  gwCfgCrc32 : List Char
  ruuviJsonCrc32 : List Char

/-- What `gen_metrics` and `metrics_generate` find around them, the counters of received
advertisements apart. -/
structure Env where
  /-- The three allocations, in their order. -/
  allocTmpBuf : Bool
  allocInfo : Bool
  allocText : Bool
  uptimeUs : Int64
  nrfSelfRebootCnt : UInt32
  nrfExtHwResetCnt : UInt32
  nrfLostAckCnt : UInt64
  totalFreeBytes : MallocCap → UInt32
  largestFreeBlock : MallocCap → UInt32
  macAddrStr : List Char
  nrfFw : List Char
  espFw : List Char
  /-- The CRC of the configuration in memory. -/
  gwCfgCrc32 : UInt32
  /-- What `gw_cfg_ruuvi_json_generate` generates. -/
  ruuviJson : Option (List Char)

/-- `sizeof(metrics_crc32_str_t)`. -/
def crc32StrSize : Nat := 11

/-- `"%lu"` in a `metrics_crc32_str_t`. -/
def crc32Str (crc : UInt32) : List Char := written crc32StrSize (Exposition.number crc.toNat)

/-- `metrics_calc_ruuvi_json_hash`: the string stays empty without a document. -/
def calcRuuviJsonHash (crc32 : List Char → UInt32) (json : Option (List Char)) : List Char :=
  match json with
  | none => []
  | some json => crc32Str (crc32 json)

/-- `gen_metrics`. -/
def genMetrics (crc32 : List Char → UInt32) (g : Gateway) (env : Env) : Option MetricsInfo :=
  if !env.allocTmpBuf then none
  else if !env.allocInfo then none
  else some
    { receivedAdvertisements := g.receivedAdvertisements
      receivedExtAdvertisements := g.receivedAdvertisementsExt
      receivedCodedAdvertisements := g.receivedAdvertisementsCoded
      uptimeUs := env.uptimeUs
      nrfSelfRebootCnt := env.nrfSelfRebootCnt
      nrfExtHwResetCnt := env.nrfExtHwResetCnt
      nrfLostAckCnt := env.nrfLostAckCnt
      totalFreeBytes := env.totalFreeBytes
      largestFreeBlock := env.largestFreeBlock
      macAddrStr := env.macAddrStr
      nrfFw := env.nrfFw
      espFw := env.espFw
      gwCfgCrc32 := crc32Str env.gwCfgCrc32
      ruuviJsonCrc32 := calcRuuviJsonHash crc32 env.ruuviJson }

/-! ## Printing -/

/-- `METRICS_PREFIX` and the name of a metric. -/
def metricName (name : String) : List Char := ("ruuvigw_" ++ name).toList

/-- A line without labels, the value of which is printed already. -/
def plainLine (name : String) (value : List Char) : List Char :=
  metricName name ++ ' ' :: (value ++ ['\n'])

/-- `"%lld"` of an unsigned number is that of the signed one with the same bits. -/
def lld (v : UInt64) : List Char := Exposition.number v.toInt64.toInt

/-- A line with the label `capability`. -/
def capLine (name : String) (cap : MallocCap) (size : UInt32) : List Char :=
  metricName name ++ "\x7bcapability=\"".toList ++ cap.label.toList ++ "\"\x7d ".toList ++
    Exposition.number size.toNat ++ ['\n']

/-- `metrics_print_total_free_bytes`: what the calls of `str_buf_printf` print. -/
def printTotalFreeBytes (info : MetricsInfo) : List (List Char) :=
  reportedCaps.map fun cap => capLine "heap_free_bytes" cap (info.totalFreeBytes cap)

/-- `metrics_print_largest_free_blk`. -/
def printLargestFreeBlk (info : MetricsInfo) : List (List Char) :=
  reportedCaps.map fun cap =>
    capLine "heap_largest_free_block_bytes" cap (info.largestFreeBlock cap)

/-- `metrics_print_gwinfo`. -/
def printGwinfo (info : MetricsInfo) : List (List Char) :=
  [metricName "info" ++ "\x7bmac=\"".toList ++ info.macAddrStr ++ "\",esp_fw=\"".toList ++
    info.espFw ++ "\",nrf_fw=\"".toList ++ info.nrfFw ++ "\"\x7d ".toList ++
    Exposition.number 1 ++ ['\n']]

/-- `metrics_print_gw_cfg_info`. -/
def printGwCfgInfo (info : MetricsInfo) : List (List Char) :=
  [plainLine "gw_cfg_crc32" info.gwCfgCrc32, plainLine "ruuvi_json_crc32" info.ruuviJsonCrc32]

/-- What the calls of `metrics_print` print, in their order. -/
def printed (info : MetricsInfo) : List (List Char) :=
  [plainLine "received_advertisements" (lld info.receivedAdvertisements),
    plainLine "received_ext_advertisements" (lld info.receivedExtAdvertisements),
    plainLine "received_coded_advertisements" (lld info.receivedCodedAdvertisements),
    plainLine "uptime_us" (Exposition.number info.uptimeUs.toInt),
    plainLine "nrf_self_reboot_cnt" (Exposition.number info.nrfSelfRebootCnt.toNat),
    plainLine "nrf_ext_hw_reset_cnt" (Exposition.number info.nrfExtHwResetCnt.toNat),
    plainLine "nrf_lost_ack_cnt" (Exposition.number info.nrfLostAckCnt.toNat)] ++
    printTotalFreeBytes info ++ printLargestFreeBlk info ++ printGwinfo info ++ printGwCfgInfo info

variable {B : Type} (A : Api B)

/-- `metrics_print`. -/
def metricsPrint (info : MetricsInfo) (d : B) : B :=
  (printed info).foldl (fun d text => A.printf d (bytes text)) d

/-- `metrics_generate`.  It prints what `gen_metrics` returns without looking whether that is a
null pointer, in which case there is no result. -/
def metricsGenerate (crc32 : List Char → UInt32) (g : Gateway) (env : Env) : Option (Option B) :=
  (genMetrics crc32 g env).map fun info =>
    (A.initWithAlloc env.allocText (metricsPrint A info A.null)).map (metricsPrint A info)

/-! ## The counters -/

open TransitionSystem

/-- The receiver of advertisements, with the secondary PHY of each report that it has put into the
table. -/
structure Receiver where
  gateway : Gateway
  accepted : List UInt8

variable (phy : BlePhy)

/-- One step of the receiver. -/
def receiverStep (r : Receiver) (a : RecvStep) : Option Receiver :=
  ((recvSystem phy).step r.gateway a).map fun g =>
    match a with
    | .recv env msg =>
        ⟨g, ((recvReport r.gateway env msg).map fun adv => adv.secondaryPhy).toList ++ r.accepted⟩
    | .call _ => ⟨g, r.accepted⟩

/-- The receiver from the start of the gateway. -/
def receiverSystem : System Receiver RecvStep where
  init r := r = ⟨Gateway.init, []⟩
  step := receiverStep phy

end Metrics
end RuuviGateway
