import RuuviGateway.Metrics.Model

/-!
# What the metrics document says

A reader of the document gets the counters, the heap and the versions back, one sample for each.
The counters of received advertisements are the numbers of reports that were put into the table.

Two strings in the document do not come from a number: a version with a quotation mark would end
its label early, and when the `ruuvi.json` cannot be generated its CRC is missing and so the line
has no number, which makes a reader reject the whole document.
-/

namespace RuuviGateway
namespace Metrics

open AdvTable CString Exposition StrBuf TransitionSystem

/-! ## The samples -/

/-- A sample without labels. -/
def plainSample (name : String) (value : Int) : Sample := ⟨metricName name, [], value⟩

def capSample (name : String) (size : MallocCap → UInt32) (cap : MallocCap) : Sample :=
  ⟨metricName name, [("capability".toList, cap.label.toList)], (size cap).toNat⟩

/-- The counters of received advertisements, by the secondary PHY. -/
structure Counts where
  primary : Nat
  ext : Nat
  coded : Nat

/-- A count as a signed number of 64 bits. -/
def wrapped (n : Nat) : Int := Int.bmod n Int64.size

/-- All samples but the last one. -/
def commonSamples (counts : Counts) (env : Env) : List Sample :=
  [plainSample "received_advertisements" (wrapped counts.primary),
    plainSample "received_ext_advertisements" (wrapped counts.ext),
    plainSample "received_coded_advertisements" (wrapped counts.coded),
    plainSample "uptime_us" env.uptimeUs.toInt,
    plainSample "nrf_self_reboot_cnt" env.nrfSelfRebootCnt.toNat,
    plainSample "nrf_ext_hw_reset_cnt" env.nrfExtHwResetCnt.toNat,
    plainSample "nrf_lost_ack_cnt" env.nrfLostAckCnt.toNat] ++
    reportedCaps.map (capSample "heap_free_bytes" env.totalFreeBytes) ++
    reportedCaps.map (capSample "heap_largest_free_block_bytes" env.largestFreeBlock) ++
    [⟨metricName "info", [("mac".toList, env.macAddrStr), ("esp_fw".toList, env.espFw),
      ("nrf_fw".toList, env.nrfFw)], 1⟩] ++
    [plainSample "gw_cfg_crc32" env.gwCfgCrc32.toNat]

/-- What the document is to say, for the CRC of the `ruuvi.json`. -/
def samples (counts : Counts) (env : Env) (ruuviJsonCrc32 : UInt32) : List Sample :=
  commonSamples counts env ++ [plainSample "ruuvi_json_crc32" ruuviJsonCrc32.toNat]

/-- Nothing in the string has to be escaped. -/
def IsPlain (s : List Char) : Prop := ∀ c ∈ s, escape c = [c]

instance (s : List Char) : Decidable (IsPlain s) :=
  List.decidableBAll (fun c => escape c = [c]) s

/-- The strings in the labels are plain. -/
structure Env.Plain (env : Env) : Prop where
  macAddrStr : IsPlain env.macAddrStr
  espFw : IsPlain env.espFw
  nrfFw : IsPlain env.nrfFw

theorem quote_of_isPlain {s : List Char} (h : IsPlain s) : quote s = s := by
  induction s with
  | nil => rfl
  | cons c s ih =>
    have hc := h c List.mem_cons_self
    have ih := ih fun x hx => h x (List.mem_cons_of_mem c hx)
    rw [quote] at ih ⊢
    rw [List.flatMap_cons, hc, ih, List.singleton_append]

/-! ## The lines -/

theorem plainLine_number (name : String) (v : Int) :
    plainLine name (number v) = (plainSample name v).line ++ ['\n'] := by
  simp [plainLine, Sample.line, plainSample, labelList]

theorem isPlain_label (cap : MallocCap) : IsPlain cap.label.toList := by
  cases cap <;> decide +kernel

theorem capLine_eq (name : String) (size : MallocCap → UInt32) (cap : MallocCap) :
    capLine name cap (size cap) = (capSample name size cap).line ++ ['\n'] := by
  simp [capLine, Sample.line, capSample, labelList, label, quote_of_isPlain (isPlain_label cap),
    List.intercalate]

/-- The CRC fits into its string. -/
theorem crc32Str_eq (crc : UInt32) : crc32Str crc = number crc.toNat := by
  have hdigits : number crc.toNat = Nat.toDigits 10 crc.toNat := by
    rw [number, if_neg (Int.not_lt.mpr (Int.natCast_nonneg _)), Int.natAbs_natCast]
  have hlt := crc.toNat_lt
  refine written_eq_self ?_ ?_
  · rw [hdigits]
    exact fun h => absurd (Nat.isDigit_of_mem_toDigits (by decide) (by decide) h) (by decide)
  · have hlen : (Nat.toDigits 10 crc.toNat).length ≤ 10 :=
      (Nat.length_toDigits_le_iff (by decide) (by decide)).mpr (by omega)
    rw [hdigits, crc32StrSize]
    omega

/-! ## The counters -/

variable {phy : BlePhy}

/-- The numbers of reports with each of the three secondary PHYs. -/
def Receiver.counts (phy : BlePhy) (r : Receiver) : Counts where
  primary := r.accepted.count phy.notSet
  ext := r.accepted.count phy.phy2Mbps
  coded := r.accepted.count phy.phyCoded

/-- The counters are the numbers of reports, as far as 64 bits hold them. -/
structure Receiver.Counted (phy : BlePhy) (r : Receiver) : Prop where
  primary : r.gateway.receivedAdvertisements = UInt64.ofNat (r.counts phy).primary
  ext : r.gateway.receivedAdvertisementsExt = UInt64.ofNat (r.counts phy).ext
  coded : r.gateway.receivedAdvertisementsCoded = UInt64.ofNat (r.counts phy).coded

/-- A report counts for its own PHY. -/
theorem counted_increment {r : Receiver} (h : r.Counted phy) (secondaryPhy : UInt8) :
    Receiver.Counted phy ⟨metricsReceivedAdvsIncrement phy r.gateway secondaryPhy,
      secondaryPhy :: r.accepted⟩ := by
  have h1 := phy.notSet_ne_2Mbps
  have h2 := phy.notSet_ne_coded
  have h3 := phy.phy2Mbps_ne_coded
  obtain ⟨hp, he, hc⟩ := h
  simp only [Receiver.counts] at hp he hc
  unfold metricsReceivedAdvsIncrement
  split
  · rename_i hphy
    constructor <;> simp [Receiver.counts, *]
  · split
    · rename_i hphy
      constructor <;> simp [Receiver.counts, h1.symm, *]
    · split
      · rename_i hphy
        constructor <;> simp [Receiver.counts, h2.symm, h3.symm, *]
      · constructor <;> simp [Receiver.counts, *]

theorem counted_of_reachable {r : Receiver} (h : (receiverSystem phy).Reachable r) :
    r.Counted phy := by
  refine System.ReachableVia.invariant (P := fun r => r.Counted phy) ?_ ?_ h
  · rintro r rfl
    exact ⟨rfl, rfl, rfl⟩
  · rintro r (⟨env, msg⟩ | op) r' - hr - hstep
    · simp only [receiverSystem, receiverStep] at hstep
      obtain ⟨g, hg, rfl⟩ := Option.map_eq_some_iff.mp hstep
      obtain rfl := Option.some.inj hg
      simp only [nrf52CbOnRecvAdv]
      cases hreport : recvReport r.gateway env msg with
      | none => exact hr
      | some adv =>
        have hinc := counted_increment hr adv.secondaryPhy
        exact ⟨hinc.primary, hinc.ext, hinc.coded⟩
    · simp only [receiverSystem, receiverStep] at hstep
      obtain ⟨g, hg, rfl⟩ := Option.map_eq_some_iff.mp hstep
      obtain ⟨-, hg⟩ := Option.ite_none_left_eq_some.mp hg
      obtain rfl := Option.some.inj hg
      exact ⟨hr.primary, hr.ext, hr.coded⟩

/-! ## The document -/

theorem lld_ofNat (n : Nat) : lld (UInt64.ofNat n) = number (wrapped n) :=
  congrArg number Int64.toInt_ofNat'

theorem printGwinfo_eq {info : MetricsInfo} (hmac : IsPlain info.macAddrStr)
    (hesp : IsPlain info.espFw) (hnrf : IsPlain info.nrfFw) :
    printGwinfo info = [Sample.line ⟨metricName "info", [("mac".toList, info.macAddrStr),
      ("esp_fw".toList, info.espFw), ("nrf_fw".toList, info.nrfFw)], 1⟩ ++ ['\n']] := by
  simp [printGwinfo, Sample.line, labelList, label, List.intercalate, quote_of_isPlain hmac,
    quote_of_isPlain hesp, quote_of_isPlain hnrf]

/-- The lines of the document are those of the samples, but for the last one. -/
theorem printed_eq {crc32 : List Char → UInt32} {r : Receiver} {env : Env} {info : MetricsInfo}
    (hr : r.Counted phy) (hplain : env.Plain) (h : genMetrics crc32 r.gateway env = some info) :
    printed info = ((commonSamples (r.counts phy) env).map fun s => s.line ++ ['\n']) ++
      [plainLine "ruuvi_json_crc32" (calcRuuviJsonHash crc32 env.ruuviJson)] := by
  obtain ⟨-, h⟩ := Option.ite_none_left_eq_some.mp h
  obtain ⟨-, h⟩ := Option.ite_none_left_eq_some.mp h
  obtain rfl := Option.some.inj h
  rw [printed, printGwinfo_eq hplain.macAddrStr hplain.espFw hplain.nrfFw]
  simp only [printTotalFreeBytes, printLargestFreeBlk, printGwCfgInfo,
    commonSamples, hr.primary, hr.ext, hr.coded, lld_ofNat, plainLine_number, crc32Str_eq,
    capLine_eq, List.map_append, List.map_cons, List.map_nil, List.map_map, List.append_assoc,
    List.cons_append, List.nil_append, Function.comp_def]

theorem wellNamed_plainSample {name : String} (h : isName isNameChar (metricName name) = true)
    (v : Int) : (plainSample name v).WellNamed :=
  ⟨h, fun _ hl => absurd hl List.not_mem_nil⟩

theorem wellNamed_capSample {name : String} (h : isName isNameChar (metricName name) = true)
    (size : MallocCap → UInt32) (cap : MallocCap) : (capSample name size cap).WellNamed := by
  refine ⟨h, fun l hl => ?_⟩
  rw [List.mem_singleton.mp hl]
  show isName isLabelChar "capability".toList = true
  decide +kernel

theorem wellNamed_gwinfo (macAddrStr espFw nrfFw : List Char) :
    Sample.WellNamed ⟨metricName "info", [("mac".toList, macAddrStr), ("esp_fw".toList, espFw),
      ("nrf_fw".toList, nrfFw)], 1⟩ := by
  have hname : isName isNameChar (metricName "info") = true := by decide +kernel
  have hmac : isName isLabelChar "mac".toList = true := by decide +kernel
  have hesp : isName isLabelChar "esp_fw".toList = true := by decide +kernel
  have hnrf : isName isLabelChar "nrf_fw".toList = true := by decide +kernel
  refine ⟨hname, fun l hl => ?_⟩
  simp only [List.mem_cons, List.not_mem_nil, or_false] at hl
  obtain rfl | rfl | rfl := hl
  · exact hmac
  · exact hesp
  · exact hnrf

theorem wellNamed_commonSamples {counts : Counts} {env : Env} :
    ∀ s ∈ commonSamples counts env, s.WellNamed := by
  intro s hs
  simp only [commonSamples, List.mem_append, List.mem_map, List.mem_cons, List.not_mem_nil,
    or_false] at hs
  obtain (((hs | ⟨cap, -, rfl⟩) | ⟨cap, -, rfl⟩) | rfl) | rfl := hs
  · obtain rfl | rfl | rfl | rfl | rfl | rfl | rfl := hs <;>
      exact wellNamed_plainSample (by decide +kernel) _
  · exact wellNamed_capSample (by decide +kernel) _ _
  · exact wellNamed_capSample (by decide +kernel) _ _
  · exact wellNamed_gwinfo _ _ _
  · exact wellNamed_plainSample (by decide +kernel) _

/-- A line without a number is not read, and so the document is not either. -/
theorem parse_noNumber {l : List Sample} (h : ∀ s ∈ l, s.WellNamed) :
    parse (unlines (l.map Sample.line ++ [metricName "ruuvi_json_crc32" ++ [' ']])) = none := by
  refine parse_eq_none (fun x hx => ?_) (List.mem_append_right _ (List.mem_singleton_self _))
    (by decide +kernel) (by decide +kernel)
  obtain hx | hx := List.mem_append.mp hx
  · obtain ⟨s, hs, rfl⟩ := List.mem_map.mp hx
    exact newline_notMem_line (h s hs)
  · rw [List.mem_singleton.mp hx]
    decide +kernel

/-- **The document is read back**, if the `ruuvi.json` has been generated, and not read at all
otherwise. -/
theorem parse_printed {crc32 : List Char → UInt32} {r : Receiver} {env : Env} {info : MetricsInfo}
    (hr : r.Counted phy) (hplain : env.Plain) (h : genMetrics crc32 r.gateway env = some info) :
    parse (printed info).flatten =
      env.ruuviJson.map fun json => samples (r.counts phy) env (crc32 json) := by
  have htext : (printed info).flatten =
      unlines ((commonSamples (r.counts phy) env).map Sample.line ++
      [metricName "ruuvi_json_crc32" ++ ' ' :: calcRuuviJsonHash crc32 env.ruuviJson]) := by
    rw [printed_eq hr hplain h]
    simp [unlines, plainLine, List.flatMap_def, Function.comp_def]
  rw [htext]
  cases env.ruuviJson with
  | none => exact parse_noNumber wellNamed_commonSamples
  | some json =>
    have hline : metricName "ruuvi_json_crc32" ++ ' ' :: crc32Str (crc32 json) =
        (plainSample "ruuvi_json_crc32" (crc32 json).toNat).line := by
      simp [crc32Str_eq, Sample.line, plainSample, labelList]
    have hall : ∀ s ∈ samples (r.counts phy) env (crc32 json), s.WellNamed := by
      intro s hs
      obtain hs | hs := List.mem_append.mp hs
      · exact wellNamed_commonSamples s hs
      · rw [List.mem_singleton.mp hs]
        exact wellNamed_plainSample (by decide +kernel) _
    rw [Option.map_some, ← parse_render hall, calcRuuviJsonHash, hline, render, samples,
      List.map_append, List.map_singleton]

/-! ## The response -/

variable {B : Type} {A : Api B} {view : B → View}

theorem prints_metricsPrint (hA : A.Lawful view) (info : MetricsInfo) :
    Prints view (metricsPrint A info) (bytes (printed info).flatten) := by
  have hall : ∀ l : List (List Char), Prints view
      (fun d => l.foldl (fun d text => A.printf d (bytes text)) d) (bytes l.flatten) := by
    intro l
    induction l with
    | nil => exact Prints.nothing
    | cons text l ih =>
      have hcomp := ih.comp (hA.prints (bytes text))
      rw [List.flatten_cons, bytes_append]
      exact hcomp
  exact hall (printed info)

/-- **The metrics of a gateway that has run in any way**: with memory there is a document, which a
reader takes for the counters, the heap and the versions, if the `ruuvi.json` has been generated,
and for nothing otherwise. -/
theorem metricsGenerate_of_reachable (crc32 : List Char → UInt32) (hA : A.Lawful view)
    {r : Receiver} (hr : (receiverSystem phy).Reachable r) {env : Env} (hplain : env.Plain)
    (htmp : env.allocTmpBuf = true) (hinfo : env.allocInfo = true)
    (htext : env.allocText = true) :
    ∃ e text, metricsGenerate A crc32 r.gateway env = some (some e) ∧
      view e = .holding (text.length + 1) (bytes text) ∧
      parse text = env.ruuviJson.map fun json => samples (r.counts phy) env (crc32 json) := by
  obtain ⟨info, hgen⟩ : ∃ info, genMetrics crc32 r.gateway env = some info := by
    simp [genMetrics, htmp, hinfo]
  obtain ⟨e, he, -, hview⟩ := (prints_metricsPrint hA info).alloc hA
  refine ⟨metricsPrint A info e, (printed info).flatten, ?_, ?_,
    parse_printed (counted_of_reachable hr) hplain hgen⟩
  · rw [metricsGenerate, hgen, htext, Option.map_some, he, Option.map_some]
  · rw [hview, length_bytes]

/-- The `ruuvi.json` is empty. -/
def sampleMetricsEnv : Env :=
  { allocTmpBuf := true, allocInfo := true, allocText := true, uptimeUs := 5, nrfSelfRebootCnt := 0
    nrfExtHwResetCnt := 1, nrfLostAckCnt := 0, totalFreeBytes := fun _ => 4096
    largestFreeBlock := fun _ => 1024, macAddrStr := "AA:BB".toList, nrfFw := "v1.0".toList
    espFw := "v1.15".toList, gwCfgCrc32 := 12, ruuviJson := some [] }

/-- One advertisement with the coded PHY has been received. -/
theorem metricsGenerate_of_one_report :
    ∃ r, (receiverSystem sampleBlePhy).Reachable r ∧ ∃ e text,
      metricsGenerate viewApi (fun json => UInt32.ofNat json.length) r.gateway sampleMetricsEnv =
        some (some e) ∧ e = .holding (text.length + 1) (bytes text) ∧
      parse text = some (samples ⟨0, 0, 1⟩ sampleMetricsEnv 0) := by
  obtain ⟨r, hr, hp⟩ := (receiverSystem sampleBlePhy).exists_reachable_of_run rfl
    [.recv (sampleEnv true) (some (sampleMsg 3 0))]
    (fun r => decide (r.accepted = [3])) (by decide)
  have hcounts : r.counts sampleBlePhy = ⟨0, 0, 1⟩ := by
    rw [Receiver.counts, of_decide_eq_true hp]
    rfl
  have hplain : sampleMetricsEnv.Plain :=
    ⟨by decide +kernel, by decide +kernel, by decide +kernel⟩
  obtain ⟨e, text, hgen, hview, hparse⟩ := metricsGenerate_of_reachable
    (fun json => UInt32.ofNat json.length) lawful_viewApi hr hplain rfl rfl rfl
  rw [hcounts] at hparse
  exact ⟨r, hr, e, text, hgen, hview, hparse⟩

end Metrics
end RuuviGateway
