import RuuviGateway.AdvTable.History

/-!
# Receiving advertisements

`adv_post_nrf52_cb_on_recv_adv` and what it calls: the message from the nRF52 is parsed
into a report, filtered by its MAC address, counted by its secondary PHY in `metrics.c`,
and put into the table.  The report is stamped with Unix time when NTP is used, and with
the number of received advertisements otherwise.

The values of `re_ca_uart_ble_phy_e` are declared outside the repository; three of them are
labels of one `switch`, so they are distinct.

The statistics read finds the end of the live elements by their stamp and the history read
by their length.  The two agree exactly if no live element is stamped zero.
-/

namespace RuuviGateway
namespace AdvTable

open TransitionSystem

/-- The values of `re_ca_uart_ble_phy_e` that `metrics_received_advs_increment` tells apart. -/
structure BlePhy where
  notSet : UInt8
  phy2Mbps : UInt8
  phyCoded : UInt8
  notSet_ne_2Mbps : notSet ≠ phy2Mbps
  notSet_ne_coded : notSet ≠ phyCoded
  phy2Mbps_ne_coded : phy2Mbps ≠ phyCoded

/-- `re_ca_uart_payload_t.cmd`, as far as it matters here. -/
inductive UartCmd where
  | advRprt
  | advRprt2
  | other
  deriving DecidableEq

/-- `re_ca_uart_ble_adv_t`. -/
structure UartBleAdv where
  mac : MacAddress
  rssiDb : Int8
  primaryPhy : UInt8
  secondaryPhy : UInt8
  chIndex : UInt8
  isCodedPhy : Bool
  txPower : Int8
  advLen : UInt8
  adv : List UInt8

/-- `re_ca_uart_payload_t`. -/
structure UartPayload where
  cmd : UartCmd
  adv : UartBleAdv

/-- `adv_post_cfg_cache_t`. -/
structure CfgCache where
  flagUseNtp : Bool
  scanFilterAllowListed : Bool
  arrOfScanFilterMac : List MacAddress

/-- `parse_adv_report_from_uart`.  The two PHY fields of the report have four bits. -/
def parseAdvReportFromUart (msg : Option UartPayload) (timestamp : UInt32) : Option AdvReport :=
  match msg with
  | none => none
  | some msg =>
      if msg.cmd ≠ .advRprt ∧ msg.cmd ≠ .advRprt2 then none
      else if advDataMaxLen < msg.adv.advLen.toNat then none
      else if msg.adv.advLen = 0 then none
      else some
        { timestamp := timestamp
          samplesCounter := 0
          tagMac := msg.adv.mac
          rssi := msg.adv.rssiDb
          primaryPhy := msg.adv.primaryPhy &&& 0x0F
          secondaryPhy := msg.adv.secondaryPhy &&& 0x0F
          chIndex := msg.adv.chIndex
          isCodedPhy := msg.adv.isCodedPhy
          txPower := msg.adv.txPower
          dataLen := msg.adv.advLen
          dataBuf := Vector.ofFn fun i =>
            if i.val < msg.adv.advLen.toNat then msg.adv.adv.getD i.val 0 else 0 }

/-- `adv_post_check_if_mac_filtered_out`. -/
def checkIfMacFilteredOut (cfg : CfgCache) (mac : MacAddress) : Bool :=
  if cfg.arrOfScanFilterMac.isEmpty then false
  else if cfg.scanFilterAllowListed then !cfg.arrOfScanFilterMac.any fun m => decide (mac = m)
  else cfg.arrOfScanFilterMac.any fun m => decide (mac = m)

/-- The table and the counters of `metrics.c`. -/
structure Gateway where
  table : Table
  receivedAdvertisements : UInt64
  receivedAdvertisementsExt : UInt64
  receivedAdvertisementsCoded : UInt64

/-- The state after the initialisation of both modules. -/
def Gateway.init : Gateway := ⟨AdvTable.init, 0, 0, 0⟩

/-- What the callback finds around it. -/
structure RecvEnv where
  /-- `adv_post_nrf52_is_configured`. -/
  nrf52IsConfigured : Bool
  /-- `gw_cfg_is_initialized`. -/
  gwCfgIsInitialized : Bool
  /-- `adv_post_cfg_cache_mutex_try_lock`: none while the gateway is being reconfigured. -/
  cfgCache : Option CfgCache
  /-- `time_is_synchronized`. -/
  timeIsSynchronized : Bool
  /-- `time(NULL)`. -/
  time : UInt32

variable (phy : BlePhy) (g : Gateway)

/-- `metrics_received_advs_increment`. -/
def metricsReceivedAdvsIncrement (secondaryPhy : UInt8) : Gateway :=
  if secondaryPhy = phy.notSet then
    { g with receivedAdvertisements := g.receivedAdvertisements + 1 }
  else if secondaryPhy = phy.phy2Mbps then
    { g with receivedAdvertisementsExt := g.receivedAdvertisementsExt + 1 }
  else if secondaryPhy = phy.phyCoded then
    { g with receivedAdvertisementsCoded := g.receivedAdvertisementsCoded + 1 }
  else g

/-- `adv_put_to_table`. -/
def advPutToTable (adv : AdvReport) : Gateway × Bool :=
  let g := metricsReceivedAdvsIncrement phy g adv.secondaryPhy
  ({ g with table := (put g.table adv).1 }, (put g.table adv).2)

/-- `(time_t)metrics_received_advs_get()`, for a `time_t` of 32 bits. -/
def metricsReceivedAdvsGet : UInt32 := g.receivedAdvertisements.toUInt32

/-- The stamp of a report. -/
def stampOf (env : RecvEnv) (cfg : CfgCache) : UInt32 :=
  if cfg.flagUseNtp then (if env.timeIsSynchronized then env.time else 0)
  else metricsReceivedAdvsGet g

/-- The report that `adv_post_nrf52_cb_on_recv_adv` hands to `adv_put_to_table`, or none if
the message is dropped. -/
def recvReport (env : RecvEnv) (msg : Option UartPayload) : Option AdvReport :=
  if !env.nrf52IsConfigured then none
  else if !env.gwCfgIsInitialized then none
  else
    match env.cfgCache with
    | none => none
    | some cfg =>
        match parseAdvReportFromUart msg (stampOf g env cfg) with
        | none => none
        | some adv =>
            if checkIfMacFilteredOut cfg adv.tagMac then none
            else if cfg.flagUseNtp && !env.timeIsSynchronized then none
            else some adv

/-- `adv_post_nrf52_cb_on_recv_adv`, with whether it notifies `EVENT_MGR_EV_RECV_ADV`. -/
def nrf52CbOnRecvAdv (env : RecvEnv) (msg : Option UartPayload) : Gateway × Bool :=
  match recvReport g env msg with
  | none => (g, false)
  | some adv => advPutToTable phy g adv

/-! ## Runs -/

/-- What can happen: a message from the nRF52, or a read or a clear by another task. -/
inductive RecvStep where
  | recv (env : RecvEnv) (msg : Option UartPayload)
  | call (op : Op)

/-- All runs of the receiver and the readers.  Reports are put by the callback only. -/
def recvSystem : System Gateway RecvStep where
  init g := g = Gateway.init
  step g
    | .recv env msg => some (nrf52CbOnRecvAdv phy g env msg).1
    | .call op => if op.isPut then none else some { g with table := (exec g.table op).1 }

variable {phy g}

/-- A report that is put has data, and its samples counter is zero. -/
theorem recvReport_eq_some {env : RecvEnv} {msg : Option UartPayload} {adv : AdvReport}
    (h : recvReport g env msg = some adv) :
    adv.dataLen ≠ 0 ∧ ∃ cfg, env.cfgCache = some cfg ∧ adv.timestamp = stampOf g env cfg := by
  unfold recvReport at h
  split at h
  · exact absurd h (by simp)
  · split at h
    · exact absurd h (by simp)
    · split at h
      · exact absurd h (by simp)
      · rename_i cfg hcfg
        split at h
        · exact absurd h (by simp)
        · rename_i report hparse
          split at h
          · exact absurd h (by simp)
          · split at h
            · exact absurd h (by simp)
            · obtain rfl := Option.some.inj h
              unfold parseAdvReportFromUart at hparse
              split at hparse
              · exact absurd hparse (by simp)
              · split at hparse
                · exact absurd hparse (by simp)
                · split at hparse
                  · exact absurd hparse (by simp)
                  · split at hparse
                    · exact absurd hparse (by simp)
                    · rename_i hlen
                      obtain rfl := Option.some.inj hparse
                      exact ⟨hlen, cfg, hcfg, rfl⟩

@[simp] theorem metricsReceivedAdvsIncrement_table (secondaryPhy : UInt8) :
    (metricsReceivedAdvsIncrement phy g secondaryPhy).table = g.table := by
  unfold metricsReceivedAdvsIncrement
  split
  · rfl
  · split
    · rfl
    · split <;> rfl

theorem advPutToTable_table (adv : AdvReport) :
    (advPutToTable phy g adv).1.table = (put g.table adv).1 ∧
      (advPutToTable phy g adv).2 = (put g.table adv).2 := by
  simp [advPutToTable]

/-- The table changes only by a call, and a put among them puts data. -/
theorem step_table {a : RecvStep} {g' : Gateway} (h : (recvSystem phy).step g a = some g') :
    g'.table = g.table ∨ ∃ op : Op, op.PutsData ∧ g'.table = (exec g.table op).1 := by
  cases a with
  | recv env msg =>
    obtain rfl : (nrf52CbOnRecvAdv phy g env msg).1 = g' := Option.some.inj h
    unfold nrf52CbOnRecvAdv
    cases hrep : recvReport g env msg with
    | none => exact Or.inl rfl
    | some adv =>
      exact Or.inr ⟨.put adv, (recvReport_eq_some hrep).1, (advPutToTable_table adv).1⟩
  | call op =>
    simp only [recvSystem] at h
    split at h
    · exact absurd h (by simp)
    · rename_i hput
      obtain rfl := Option.some.inj h
      refine Or.inr ⟨op, ?_, rfl⟩
      cases op with
      | put adv => exact absurd rfl hput
      | _ => trivial

/-! ## The two walks -/

variable {t : Table}

/-- The order of the history list, and what is stamped is live. -/
structure WalkInv (t : Table) : Prop where
  live : LiveInv t
  stamped : ∀ i, t.stamped i = true → t.live i = true

theorem walkInv_init : WalkInv AdvTable.init where
  live := liveInv_init
  stamped := fun _ h => absurd rfl (Table.stamped_iff.mp h)

/-- A call that changes neither the stamp nor the length of a report. -/
theorem stamped_live_of_eq {u : Table} (h : ∀ i, t.stamped i = true → t.live i = true)
    (ht : ∀ j, (u.report j).timestamp = (t.report j).timestamp)
    (hl : ∀ j, (u.report j).dataLen = (t.report j).dataLen) :
    ∀ i, u.stamped i = true → u.live i = true := by
  intro i hi
  rw [Table.stamped, ht] at hi
  rw [Table.live, hl]
  exact h i hi

theorem walkInv_exec (h : WalkInv t) {op : Op} (hop : op.PutsData) : WalkInv (exec t op).1 := by
  refine ⟨liveInv_exec h.live hop, ?_⟩
  have hi := h.live.inv
  cases op with
  | put adv =>
    show ∀ i, (put t adv).1.stamped i = true → (put t adv).1.live i = true
    cases hacc : (put t adv).2 with
    | true =>
      obtain ⟨i, n, ht⟩ := put_accepted hi hacc
      intro j hj
      by_cases hji : j = i
      · rw [hji, Table.live_iff, ht.self]
        exact hop
      · rw [Table.stamped, ht.other j hji] at hj
        rw [Table.live, ht.other j hji]
        exact h.stamped j hj
    | false =>
      obtain ⟨i, n, hput⟩ := put_discarded hi hacc
      have hcounted : ∀ j, ((put t adv).1.report j).SameData (t.report j) := fun j => by
        rw [hput]
        exact sameData_setReport (sameData_samplesCounter _ n) j
      exact stamped_live_of_eq h.stamped (fun j => (hcounted j).timestamp)
        fun j => (hcounted j).dataLen
  | readRetransmissionListAndClear k =>
    have hs := (sameHistory_readAndClear hi k).report
    exact stamped_live_of_eq h.stamped (fun j => congrArg _ (hs j)) fun j => congrArg _ (hs j)
  | readRetransmissionList3Head =>
    have hs := (sameHistory_readHead hi).report
    exact stamped_live_of_eq h.stamped (fun j => congrArg _ (hs j)) fun j => congrArg _ (hs j)
  | historyRead => exact h.stamped
  | statisticsRead =>
    have hs := (statisticsLoop_spec t.histList [] t).2
    exact stamped_live_of_eq h.stamped (fun j => (hs j).timestamp) fun j => (hs j).dataLen
  | clear =>
    intro i hst
    have hzero : ((clear t).report i).timestamp = 0 := by
      rw [(clear_history hi).1]
      rfl
    exact absurd hzero (Table.stamped_iff.mp hst)

/-- The invariant holds in every run. -/
theorem walkInv_of_reachable (hr : (recvSystem phy).Reachable g) : WalkInv g.table := by
  refine hr.invariant (P := fun g => WalkInv g.table) ?_ ?_
  · rintro g rfl
    exact walkInv_init
  · intro g a g' _ h _ hstep
    rcases step_table hstep with htable | ⟨op, hop, htable⟩
    · rw [htable]
      exact h
    · rw [htable]
      exact walkInv_exec h hop

/-- The walk of the statistics read is a prefix of that of the history read. -/
theorem takeWhile_stamped_initial (h : WalkInv t) :
    t.histList.takeWhile t.stamped <+: t.histList.takeWhile t.live := by
  have hboth : (fun i => decide (t.stamped i = true ∧ t.live i = true)) = t.stamped := by
    funext i
    cases hst : t.stamped i with
    | false => simp
    | true => simp [h.stamped i hst]
  have hwalk := List.takeWhile_takeWhile t.stamped t.live t.histList
  rw [hboth] at hwalk
  rw [← hwalk]
  exact List.takeWhile_prefix _

/-- **When the statistics and the history agree.**  They report the same MAC addresses in
the same order exactly if no live element is stamped zero. -/
theorem statistics_history_agree_iff (hr : (recvSystem phy).Reachable g) (curTime : UInt32)
    (flagUseTimestamps : Bool) (filter : UInt32) :
    (statisticsRead g.table).1.map AdvReport.tagMac =
        (historyRead g.table curTime flagUseTimestamps filter false).map AdvReport.tagMac ↔
      ∀ i, (g.table.report i).dataLen ≠ 0 → (g.table.report i).timestamp ≠ 0 := by
  have h := walkInv_of_reachable hr
  rw [(statisticsRead_eq h.live.inv).1, historyRead_unfiltered h.live.inv]
  constructor
  · intro heq i hi
    have hlen := congrArg List.length heq
    simp only [List.length_map] at hlen
    have hwalk := (takeWhile_stamped_initial h).eq_of_length hlen
    have hmem := (h.live.mem_takeWhile i).mpr (Table.live_iff.mpr hi)
    rw [← hwalk] at hmem
    exact Table.stamped_iff.mp (List.mem_takeWhile_imp hmem)
  · intro hall
    have hsame : g.table.histList.takeWhile g.table.stamped =
        g.table.histList.takeWhile g.table.live :=
      takeWhile_congr_of_mem fun i _ => Bool.eq_iff_iff.mpr ⟨h.stamped i, fun hl =>
        Table.stamped_iff.mpr (hall i (Table.live_iff.mp hl))⟩
    rw [hsame]

/-- Some values of the enumeration. -/
def sampleBlePhy : BlePhy := ⟨15, 2, 3, by decide, by decide, by decide⟩

/-- The gateway is configured and does not filter. -/
def sampleEnv (flagUseNtp : Bool) : RecvEnv :=
  { nrf52IsConfigured := true, gwCfgIsInitialized := true, cfgCache := some ⟨flagUseNtp, false, []⟩,
    timeIsSynchronized := true, time := 1 }

/-- An advertisement of one byte. -/
def sampleMsg (secondaryPhy byte : UInt8) : UartPayload :=
  ⟨.advRprt2, ⟨⟨0xAA, 0, 0, 0, 0, 1⟩, -50, 1, secondaryPhy, 37, false, 0, 1, [byte]⟩⟩

/-- With NTP the sensor is in both. -/
theorem statistics_history_agree_ntp :
    ∃ g, (recvSystem sampleBlePhy).Reachable g ∧ (statisticsRead g.table).1 ≠ [] ∧
      (statisticsRead g.table).1.map AdvReport.tagMac =
        (historyRead g.table 1 true 0 false).map AdvReport.tagMac := by
  obtain ⟨g, hr, hp⟩ := (recvSystem sampleBlePhy).exists_reachable_of_run rfl
    [.recv (sampleEnv true) (some (sampleMsg 15 0))]
    (fun g => decide ((statisticsRead g.table).1 ≠ [] ∧ ∀ i,
      (g.table.report i).dataLen ≠ 0 → (g.table.report i).timestamp ≠ 0)) (by decide)
  obtain ⟨hne, hall⟩ := of_decide_eq_true hp
  exact ⟨g, hr, hne, (statistics_history_agree_iff hr 1 true 0).mpr hall⟩

/-- The first advertisement that is received without NTP is stamped zero: it is in the
history and not in the statistics. -/
theorem first_counter_stamp_is_zero :
    ∃ g, (recvSystem sampleBlePhy).Reachable g ∧ (statisticsRead g.table).1 = [] ∧
      (historyRead g.table 1 false 0 false).map AdvReport.tagMac = [⟨0xAA, 0, 0, 0, 0, 1⟩] := by
  obtain ⟨g, hr, hp⟩ := (recvSystem sampleBlePhy).exists_reachable_of_run rfl
    [.recv (sampleEnv false) (some (sampleMsg 15 0))]
    (fun g => decide ((statisticsRead g.table).1 = [] ∧
      (historyRead g.table 1 false 0 false).map AdvReport.tagMac = [⟨0xAA, 0, 0, 0, 0, 1⟩]))
    (by decide)
  exact ⟨g, hr, of_decide_eq_true hp⟩

end AdvTable
end RuuviGateway
