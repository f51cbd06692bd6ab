import Mathlib.Algebra.GroupWithZero.Nat
import RuuviGateway.AdvTable.RecvAdv
import RuuviGateway.Lib.Strtoul

/-!
# Polling the history by the counter

Without NTP a report is stamped with the number of received advertisements, and
`GET /history?counter=C` asks for what is newer than `C`.  A run here is one of the
receiver, the readers of the table, and a client that always passes the largest counter it
has seen.

The stamp is taken before the advertisement is counted, and only an advertisement without
a secondary PHY is counted by the counter that stamps are taken from.  So two reports get
the same stamp when no such advertisement arrived from the first to the second.  As long as
one did, and neither `uint32_t` nor the signed difference of two counters wraps, nothing is
missed.
-/

namespace RuuviGateway
namespace AdvTable

open TransitionSystem

/-! ## The request -/

/-- The loop of `http_server_get_from_params` over `strstr`: what follows the first
occurrence of the key that starts a parameter; `prev` is the character before. -/
def findParam (key : List Char) : Option Char → List Char → Option (List Char)
  | _, [] => none
  | prev, c :: rest =>
      if key.isPrefixOf (c :: rest) && (prev == none || prev == some '&') then
        some ((c :: rest).drop key.length)
      else findParam key (some c) rest

/-- `http_server_get_from_params`. -/
def httpServerGetFromParams (params key : List Char) : Option (List Char) :=
  (findParam key none params).map fun value => value.takeWhile fun c => c != '&'

/-- `strtoul(s, NULL, 0)`. -/
def strtoul (s : List Char) : UInt32 := (Strtoul.strtoul s 0).1

/-- `HTTP_SERVER_DEFAULT_HISTORY_INTERVAL_SECONDS`. -/
def httpServerDefaultHistoryIntervalSeconds : UInt32 := 60

/-- `http_server_get_filter_from_params`, from and to `flag_use_filter` and `filter`. -/
def httpServerGetFilterFromParams (params : List Char) (flagUseTimestamps : Bool)
    (flagTimeIsSynchronized : Bool) (flagUseFilter : Bool) (filter : UInt32) : Bool × UInt32 :=
  if flagUseTimestamps then
    match httpServerGetFromParams params "time=".toList with
    | none => (flagUseFilter, filter)
    | some value => (flagTimeIsSynchronized || flagUseFilter, strtoul value)
  else
    match httpServerGetFromParams params "counter=".toList with
    | none => (flagUseFilter, filter)
    | some value => (true, strtoul value)

/-- The reports that `http_server_resp_history` puts into its response. -/
def httpServerRespHistory (t : Table) (ntpUse flagTimeIsSynchronized : Bool) (curTime : UInt32)
    (params : Option (List Char)) : List AdvReport :=
  let filter := if ntpUse then httpServerDefaultHistoryIntervalSeconds else 0
  let flagUseFilter := ntpUse && flagTimeIsSynchronized
  match params with
  | none => historyRead t curTime ntpUse filter flagUseFilter
  | some params =>
      let (flagUseFilter, filter) :=
        httpServerGetFilterFromParams params ntpUse flagTimeIsSynchronized flagUseFilter filter
      historyRead t curTime ntpUse filter flagUseFilter

/-! ## Runs -/

/-- The counter that a request passes. -/
def requestedCounter (params : Option (List Char)) : Option UInt32 :=
  (params.bind fun p => httpServerGetFromParams p "counter=".toList).map strtoul

/-- The larger of the counter seen so far and that of a report. -/
def largerSeen (seen : Option UInt32) (counter : UInt32) : UInt32 :=
  match seen with
  | none => counter
  | some c => if c < counter then counter else c

/-- The largest counter seen after a response. -/
def largestSeen (seen : Option UInt32) (reports : List AdvReport) : Option UInt32 :=
  reports.foldl (fun seen r => some (largerSeen seen r.timestamp)) seen

/-- The gateway and what its client knows, and about the run: the MAC addresses whose
stored data has changed since the last request, the stamps of the stored reports, the
newest first, and whether an advertisement has been counted from the newest stored one on. -/
structure Polling where
  gateway : Gateway
  seen : Option UInt32
  changed : List MacAddress
  stored : List UInt32
  counted : Bool

/-- What can happen. -/
inductive PollStep where
  | recv (env : RecvEnv) (msg : Option UartPayload)
  | call (op : Op)
  | history (curTime : UInt32) (flagTimeIsSynchronized : Bool) (params : Option (List Char))

/-- The gateway does not use NTP. -/
def RecvEnv.usesCounter (env : RecvEnv) : Bool :=
  env.cfgCache.all fun cfg => !cfg.flagUseNtp

/-- `adv_table_put_unsafe` stores the report. -/
def isStored (t : Table) (adv : AdvReport) : Bool :=
  match hashTableSearch t adv.tagMac with
  | none => true
  | some i => !checkIfAdvMustBeDiscarded adv (t.report i)

variable (phy : BlePhy)

/-- What the run records of a report that is put. -/
def Polling.record (s : Polling) (adv : AdvReport) : Polling :=
  if isStored s.gateway.table adv then
    { s with
      gateway := (advPutToTable phy s.gateway adv).1
      changed := adv.tagMac :: s.changed
      stored := adv.timestamp :: s.stored
      counted := decide (adv.secondaryPhy = phy.notSet) }
  else
    { s with
      gateway := (advPutToTable phy s.gateway adv).1
      counted := s.counted || decide (adv.secondaryPhy = phy.notSet) }

/-- The run records the response and what the client learns from it. -/
def Polling.respond (s : Polling) (reports : List AdvReport) : Polling :=
  { s with seen := largestSeen s.seen reports, changed := [] }

/-- All runs of the gateway without NTP and its client. -/
def pollSystem : System Polling PollStep where
  init s := s = ⟨Gateway.init, none, [], [], true⟩
  step s
    | .recv env msg =>
        if env.usesCounter then
          some ((recvReport s.gateway env msg).elim s (s.record phy))
        else none
    | .call op =>
        if op.isPut then none
        else some { s with
          gateway := { s.gateway with table := (exec s.gateway.table op).1 } }
    | .history curTime flagTimeIsSynchronized params =>
        if requestedCounter params = s.seen then
          some (s.respond (httpServerRespHistory s.gateway.table false flagTimeIsSynchronized
            curTime params))
        else none

/-! ## Nothing is missed -/

/-- The table holds a report of the MAC address. -/
def Holds (t : Table) (mac : MacAddress) : Prop :=
  ∃ i, (t.report i).dataLen ≠ 0 ∧ (t.report i).tagMac = mac

/-- Every stored report has a larger stamp than those before, and the response to the next
request of the client has every MAC address whose data has changed and that the table
holds. -/
def NothingMissed (s : Polling) : Prop :=
  s.stored.Pairwise (· > ·) ∧
    ∀ (curTime : UInt32) (flagTimeIsSynchronized : Bool) (params : Option (List Char)),
      requestedCounter params = s.seen → ∀ mac ∈ s.changed, Holds s.gateway.table mac →
        mac ∈ (httpServerRespHistory s.gateway.table false flagTimeIsSynchronized curTime
          params).map AdvReport.tagMac

/-- A report may be put: the count of 64 bits does not wrap, and if the report is stored, an
advertisement has been counted since the stored one before, the stamp fits into 32 bits and
is less than `2 ^ 31` ahead of the counter of the client. -/
def Polling.Admits (s : Polling) (adv : AdvReport) : Prop :=
  s.gateway.receivedAdvertisements.toNat + 1 < 2 ^ 64 ∧
    (isStored s.gateway.table adv = true → s.counted = true ∧
      s.gateway.receivedAdvertisements.toNat < 2 ^ 32 ∧
      ∀ c ∈ s.seen, s.gateway.receivedAdvertisements.toNat < c.toNat + 2 ^ 31)

instance decidableAdmits (s : Polling) (adv : AdvReport) : Decidable (s.Admits adv) :=
  -- not by going through all values of `UInt32`
  letI : Decidable (∀ c ∈ s.seen,
      s.gateway.receivedAdvertisements.toNat < c.toNat + 2 ^ 31) :=
    Option.decidableForallMem s.seen
  inferInstanceAs (Decidable (_ ∧ (_ → _ ∧ _ ∧ _)))

/-- The step puts no report, or one that may be put. -/
def Steady (s : Polling) : PollStep → Prop
  | .recv env msg => ∀ adv ∈ recvReport s.gateway env msg, s.Admits adv
  | _ => True

instance decidableSteady (s : Polling) (a : PollStep) : Decidable (Steady s a) :=
  match a with
  | .recv env msg =>
      inferInstanceAs (Decidable (∀ adv ∈ recvReport s.gateway env msg, s.Admits adv))
  | .call _ => isTrue trivial
  | .history _ _ _ => isTrue trivial

/-- A number above all stamps of stored reports. -/
def Polling.bound (s : Polling) : Nat :=
  s.stored.head?.elim 0 fun n => n.toNat + 1

/-- The stamp of an element. -/
abbrev Table.stamp (t : Table) (i : Idx) : Nat := (t.report i).timestamp.toNat

/-- **The polling invariant.**  The live elements come first and in the order of their
stamps, and the largest counter seen tells the changed ones from the others. -/
structure Polls (s : Polling) : Prop where
  live : LiveInv s.gateway.table
  order : s.gateway.table.histList.Pairwise fun i j => s.gateway.table.live j = true →
    s.gateway.table.live i = true ∧ s.gateway.table.stamp j < s.gateway.table.stamp i
  sorted : s.stored.Pairwise (· > ·)
  bound_le : s.bound ≤ s.gateway.receivedAdvertisements.toNat + if s.counted then 0 else 1
  live_lt : ∀ i, s.gateway.table.live i = true → s.gateway.table.stamp i < s.bound
  seen_lt : ∀ c ∈ s.seen, c.toNat < s.bound
  changed : ∀ c ∈ s.seen, ∀ mac ∈ s.changed, ∀ i, s.gateway.table.live i = true →
    (s.gateway.table.report i).tagMac = mac → c.toNat < s.gateway.table.stamp i
  window : ∀ c ∈ s.seen, ∀ i, s.gateway.table.live i = true →
    c.toNat < s.gateway.table.stamp i → s.gateway.table.stamp i < c.toNat + 2 ^ 31

variable {phy} {s : Polling} {t u : Table} {i : Idx}

theorem polls_init : Polls ⟨Gateway.init, none, [], [], true⟩ where
  live := liveInv_init
  order := (List.nodup_finRange maxAdvsTable).imp fun {_ _} _ hb =>
    absurd rfl (Table.live_iff.mp hb)
  sorted := List.Pairwise.nil
  bound_le := Nat.zero_le _
  live_lt := fun _ hi => absurd rfl (Table.live_iff.mp hi)
  seen_lt := fun _ hc => absurd hc (by simp)
  changed := fun _ hc => absurd hc (by simp)
  window := fun _ hc => absurd hc (by simp)

/-! ### What the response holds -/

/-- A walk reaches a member that passes the test, if every member before it does. -/
theorem mem_takeWhile_of_pairwise {α : Type*} {R : α → α → Prop} {p : α → Bool} {l : List α}
    {a : α} (h : l.Pairwise R) (ha : a ∈ l) (hp : p a = true)
    (hbefore : ∀ b, R b a → p b = true) : a ∈ l.takeWhile p := by
  induction l with
  | nil => exact absurd ha List.not_mem_nil
  | cons b l ih =>
    obtain ⟨hb, hl⟩ := List.pairwise_cons.mp h
    rcases List.mem_cons.mp ha with rfl | hmem
    · rw [List.takeWhile_cons_of_pos hp]
      exact List.mem_cons_self
    · rw [List.takeWhile_cons_of_pos (hbefore b (hb a hmem))]
      exact List.mem_cons_of_mem b (ih hl hmem)

/-- The counter of the request is the filter of the history read. -/
theorem httpServerRespHistory_eq (t : Table) (flagTimeIsSynchronized : Bool) (curTime : UInt32)
    (params : Option (List Char)) :
    httpServerRespHistory t false flagTimeIsSynchronized curTime params =
      historyRead t curTime false ((requestedCounter params).getD 0)
        (requestedCounter params).isSome := by
  cases params with
  | none => rfl
  | some p =>
    have hreq : requestedCounter (some p) =
        (httpServerGetFromParams p "counter=".toList).map strtoul := rfl
    rw [hreq]
    simp only [httpServerRespHistory, httpServerGetFilterFromParams]
    cases httpServerGetFromParams p "counter=".toList with
    | none => rfl
    | some value => rfl

/-- A stamp ahead of the filter by less than `2 ^ 31` does not stop the walk. -/
theorem historyFilterStops_eq_false {curTime c : UInt32} {r : AdvReport}
    (hlt : c.toNat < r.timestamp.toNat) (hwindow : r.timestamp.toNat < c.toNat + 2 ^ 31)
    (flagUseFilter : Bool) :
    historyFilterStops curTime false c flagUseFilter r = false := by
  have hsub : (r.timestamp - c).toNat = r.timestamp.toNat - c.toNat :=
    UInt32.toNat_sub_of_le _ _ (UInt32.le_iff_toNat_le.mpr hlt.le)
  have hint : (r.timestamp - c).toInt32.toInt = ((r.timestamp - c).toNat : Int) := by
    refine BitVec.toInt_eq_toNat_of_lt ?_
    show 2 * (r.timestamp - c).toNat < 2 ^ 32
    omega
  have hpos : ¬ (r.timestamp - c).toInt32 ≤ 0 := by
    rw [Int32.le_iff_toInt_le, hint, hsub]
    show ¬ ((_ : Int) ≤ 0)
    omega
  rw [historyFilterStops, if_neg Bool.false_ne_true, decide_eq_false hpos, Bool.and_false]

/-- A live element whose stamp is ahead of the counter of the request is in the response. -/
theorem Polls.mem_response (h : Polls s) (hi : s.gateway.table.live i = true)
    (hseen : ∀ c ∈ s.seen, c.toNat < s.gateway.table.stamp i) (flagTimeIsSynchronized : Bool)
    (curTime : UInt32) {params : Option (List Char)} (hreq : requestedCounter params = s.seen) :
    s.gateway.table.report i ∈ httpServerRespHistory s.gateway.table false
      flagTimeIsSynchronized curTime params := by
  rw [httpServerRespHistory_eq, hreq, historyRead_eq h.live.inv]
  refine List.mem_map_of_mem ?_
  have hpass : ∀ j, s.gateway.table.live j = true →
      s.gateway.table.stamp i ≤ s.gateway.table.stamp j →
      (s.gateway.table.live j && !historyFilterStops curTime false (s.seen.getD 0) s.seen.isSome
        (s.gateway.table.report j)) = true := by
    intro j hj hle
    rw [hj, Bool.true_and, Bool.not_eq_true']
    cases hs : s.seen with
    | none => simp [historyFilterStops]
    | some c =>
      have hlt : c.toNat < s.gateway.table.stamp j := (hseen c hs).trans_le hle
      exact historyFilterStops_eq_false hlt (h.window c hs j hj hlt) _
  exact mem_takeWhile_of_pairwise h.order (h.live.inv.hist_mem i) (hpass i hi le_rfl)
    fun j hj => hpass j (hj hi).1 (hj hi).2.le

/-- **The invariant gives the property.** -/
theorem Polls.nothingMissed (h : Polls s) : NothingMissed s := by
  refine ⟨h.sorted, fun curTime flagTimeIsSynchronized params hreq mac hmac hholds => ?_⟩
  obtain ⟨i, hlive, htag⟩ := hholds
  have hi := Table.live_iff.mpr hlive
  rw [← htag]
  exact List.mem_map_of_mem (h.mem_response hi
    (fun c hc => h.changed c hc mac hmac i hi htag) flagTimeIsSynchronized curTime hreq)

/-! ### What one step preserves -/

/-- The order, the stamps and the MAC addresses of the live elements are the same. -/
structure SameStamps (t u : Table) : Prop where
  live : ∀ j, u.live j = t.live j
  stamp : ∀ j, u.stamp j = t.stamp j
  tagMac : ∀ j, (u.report j).tagMac = (t.report j).tagMac
  histList : u.histList = t.histList

theorem sameStamps_of_sameData (hr : ∀ j, (u.report j).SameData (t.report j))
    (hhist : u.histList = t.histList) : SameStamps t u :=
  ⟨fun j => by rw [Table.live, Table.live, (hr j).dataLen],
    fun j => congrArg UInt32.toNat (hr j).timestamp, fun j => (hr j).tagMac, hhist⟩

theorem SameHistory.sameStamps (h : SameHistory t u) : SameStamps t u :=
  sameStamps_of_sameData (fun j => by rw [h.report]; exact .refl _) h.histList

/-- A step after which the table looks the same to the client. -/
theorem Polls.of_sameStamps (h : Polls s) {g : Gateway} {counted : Bool} (hlive : LiveInv g.table)
    (hs : SameStamps s.gateway.table g.table)
    (hbound : s.bound ≤ g.receivedAdvertisements.toNat + if counted then 0 else 1) :
    Polls { s with gateway := g, counted := counted } where
  live := hlive
  order := by
    show g.table.histList.Pairwise fun i j => g.table.live j = true →
      g.table.live i = true ∧ g.table.stamp j < g.table.stamp i
    rw [hs.histList]
    refine h.order.imp fun {a b} hab hb => ?_
    rw [hs.live] at hb
    rw [hs.live, hs.stamp, hs.stamp]
    exact hab hb
  sorted := h.sorted
  bound_le := hbound
  live_lt := fun i hi => by
    rw [hs.live] at hi
    rw [hs.stamp]
    exact h.live_lt i hi
  seen_lt := h.seen_lt
  changed := fun c hc mac hmac i hi htag => by
    rw [hs.live] at hi
    rw [hs.tagMac] at htag
    rw [hs.stamp]
    exact h.changed c hc mac hmac i hi htag
  window := fun c hc i hi hlt => by
    rw [hs.live] at hi
    rw [hs.stamp] at hlt ⊢
    exact h.window c hc i hi hlt

theorem largerSeen_spec (seen : Option UInt32) (n : UInt32) :
    (largerSeen seen n ∈ seen ∨ largerSeen seen n = n) ∧
      (∀ c ∈ seen, c.toNat ≤ (largerSeen seen n).toNat) ∧
      n.toNat ≤ (largerSeen seen n).toNat := by
  cases seen with
  | none => exact ⟨Or.inr rfl, fun _ hc => absurd hc (by simp), le_rfl⟩
  | some c =>
    have hmem : ∀ d ∈ some c, d = c := fun d hd => (Option.some.inj hd).symm
    by_cases hlt : c < n
    · have heq : largerSeen (some c) n = n := if_pos hlt
      rw [heq]
      refine ⟨Or.inr rfl, fun d hd => ?_, le_rfl⟩
      rw [hmem d hd]
      exact (UInt32.lt_iff_toNat_lt.mp hlt).le
    · have heq : largerSeen (some c) n = c := if_neg hlt
      rw [heq]
      refine ⟨Or.inl rfl, fun d hd => by rw [hmem d hd], ?_⟩
      exact Nat.le_of_not_lt fun h => hlt (UInt32.lt_iff_toNat_lt.mpr h)

/-- What the client has seen after a response: a counter that it had seen or that the
response has, and none of these is larger. -/
theorem largestSeen_spec (reports : List AdvReport) :
    ∀ seen : Option UInt32,
      (∀ c ∈ largestSeen seen reports, c ∈ seen ∨ ∃ r ∈ reports, r.timestamp = c) ∧
        (∀ c ∈ seen, ∃ d ∈ largestSeen seen reports, c.toNat ≤ d.toNat) ∧
        ∀ r ∈ reports, ∃ d ∈ largestSeen seen reports, r.timestamp.toNat ≤ d.toNat := by
  induction reports with
  | nil =>
    exact fun seen => ⟨fun c hc => Or.inl hc, fun c hc => ⟨c, hc, le_rfl⟩,
      fun r hr => absurd hr List.not_mem_nil⟩
  | cons r rest ih =>
    intro seen
    obtain ⟨hchoice, hmax, hr⟩ := largerSeen_spec seen r.timestamp
    obtain ⟨hfrom, hseen, hrest⟩ := ih (some (largerSeen seen r.timestamp))
    obtain ⟨d, hd, hnew⟩ := hseen _ rfl
    refine ⟨fun c hc => ?_, fun c hc => ⟨d, hd, (hmax c hc).trans hnew⟩, fun q hq => ?_⟩
    · rcases hfrom c hc with hold | ⟨q, hq, htime⟩
      · obtain rfl := Option.some.inj hold
        exact hchoice.imp_right fun heq => ⟨r, List.mem_cons_self, heq.symm⟩
      · exact Or.inr ⟨q, List.mem_cons_of_mem r hq, htime⟩
    · rcases List.mem_cons.mp hq with rfl | hq'
      · exact ⟨d, hd, hr.trans hnew⟩
      · exact hrest q hq'

/-- A report of the response is that of a live element. -/
theorem exists_of_mem_response (h : LiveInv t) {flagTimeIsSynchronized : Bool} {curTime : UInt32}
    {params : Option (List Char)} {r : AdvReport}
    (hr : r ∈ httpServerRespHistory t false flagTimeIsSynchronized curTime params) :
    ∃ i, t.live i = true ∧ t.report i = r := by
  rw [httpServerRespHistory_eq, historyRead_eq h.inv] at hr
  obtain ⟨i, hi, rfl⟩ := List.mem_map.mp hr
  have hpass := List.mem_takeWhile_imp (p := fun i => t.live i && !historyFilterStops curTime false
    ((requestedCounter params).getD 0) (requestedCounter params).isSome (t.report i)) hi
  exact ⟨i, (Bool.and_eq_true_iff.mp hpass).1, rfl⟩

/-- A request, its response, and what the client learns. -/
theorem polls_respond (h : Polls s) (flagTimeIsSynchronized : Bool) (curTime : UInt32)
    {params : Option (List Char)} (hreq : requestedCounter params = s.seen) :
    Polls (s.respond (httpServerRespHistory s.gateway.table false flagTimeIsSynchronized
      curTime params)) := by
  obtain ⟨hfrom, hold, hnew⟩ := largestSeen_spec (httpServerRespHistory s.gateway.table false
    flagTimeIsSynchronized curTime params) s.seen
  refine ⟨h.live, h.order, h.sorted, h.bound_le, h.live_lt, fun c hc => ?_, fun _ _ _ hmac =>
    absurd hmac List.not_mem_nil, fun c hc i hi hlt => ?_⟩
  · rcases hfrom c hc with hseen | ⟨r, hr, rfl⟩
    · exact h.seen_lt c hseen
    · obtain ⟨i, hi, rfl⟩ := exists_of_mem_response h.live hr
      exact h.live_lt i hi
  · cases hs : s.seen with
    | none =>
      -- the first response has all live elements
      have hmem := h.mem_response hi (fun c hc => absurd hc (by simp [hs]))
        flagTimeIsSynchronized curTime hreq
      obtain ⟨d, hd, hle⟩ := hnew _ hmem
      obtain rfl : d = c := Option.mem_unique hd hc
      exact absurd hlt (Nat.not_lt.mpr hle)
    | some c0 =>
      obtain ⟨d, hd, hle⟩ := hold c0 hs
      obtain rfl : d = c := Option.mem_unique hd hc
      have hwindow := h.window c0 hs i hi (hle.trans_lt hlt)
      exact hwindow.trans_le (Nat.add_le_add_right hle _)

theorem put_eq_isStored (t : Table) (adv : AdvReport) : (put t adv).2 = isStored t adv := by
  unfold isStored
  rcases put_cases t adv with ⟨hs, hput⟩ | ⟨i, hs, hd, hput⟩ | ⟨i, hs, hd, hput⟩
  · rw [hput, hs]
  · rw [hput, hs]
    simp [hd]
  · rw [hput, hs]
    simp [hd]

/-- The counter that stamps are taken from counts the advertisements without a secondary
PHY. -/
theorem advPutToTable_received (g : Gateway) (adv : AdvReport) :
    (advPutToTable phy g adv).1.receivedAdvertisements =
      if adv.secondaryPhy = phy.notSet then g.receivedAdvertisements + 1
      else g.receivedAdvertisements := by
  simp only [advPutToTable, metricsReceivedAdvsIncrement]
  split
  · rfl
  · split
    · rfl
    · split <;> rfl

/-- What the counter is after a put, if it does not wrap. -/
theorem received_after_put {g : Gateway} (hwrap : g.receivedAdvertisements.toNat + 1 < 2 ^ 64)
    (adv : AdvReport) :
    (advPutToTable phy g adv).1.receivedAdvertisements.toNat =
      g.receivedAdvertisements.toNat + if adv.secondaryPhy = phy.notSet then 1 else 0 := by
  rw [advPutToTable_received]
  split
  · rw [UInt64.toNat_add]
    exact Nat.mod_eq_of_lt hwrap
  · rfl

/-- A report whose data is known only counts. -/
theorem polls_discarded (h : Polls s) {adv : AdvReport} (hadv : adv.dataLen ≠ 0)
    (hwrap : s.gateway.receivedAdvertisements.toNat + 1 < 2 ^ 64)
    (hstored : isStored s.gateway.table adv = false) : Polls (s.record phy adv) := by
  have hrecord : s.record phy adv = { s with
      gateway := (advPutToTable phy s.gateway adv).1
      counted := s.counted || decide (adv.secondaryPhy = phy.notSet) } := by
    rw [Polling.record, hstored]
    rfl
  obtain ⟨i, n, hput⟩ :=
    put_discarded h.live.inv ((put_eq_isStored s.gateway.table adv).trans hstored)
  have htable := (@advPutToTable_table phy s.gateway adv).1
  rw [hrecord]
  refine h.of_sameStamps ?_ ?_ ?_
  · rw [htable]
    exact liveInv_put h.live hadv
  · rw [htable, hput]
    exact sameStamps_of_sameData (sameData_setReport (sameData_samplesCounter _ n)) rfl
  · rw [received_after_put hwrap]
    refine h.bound_le.trans ?_
    cases s.counted with
    | true => simp
    | false =>
      by_cases hphy : adv.secondaryPhy = phy.notSet
      · simp [hphy]
      · simp [hphy]

theorem Polls.stored_lt (h : Polls s) : ∀ m ∈ s.stored, m.toNat < s.bound := by
  have hsorted := h.sorted
  unfold Polling.bound
  cases hs : s.stored with
  | nil => exact fun m hm => absurd hm List.not_mem_nil
  | cons n rest =>
    rw [hs] at hsorted
    intro m hm
    show m.toNat < n.toNat + 1
    rcases List.mem_cons.mp hm with rfl | hrest
    · exact Nat.lt_succ_self _
    · have hlt := UInt32.lt_iff_toNat_lt.mp ((List.pairwise_cons.mp hsorted).1 m hrest)
      exact hlt.trans (Nat.lt_succ_self _)

theorem Touched.stamp_self {adv : AdvReport} (h : Touched t u i adv) :
    u.stamp i = adv.timestamp.toNat := by
  rw [Table.stamp, h.self]

theorem Touched.live_self {adv : AdvReport} (h : Touched t u i adv) (hadv : adv.dataLen ≠ 0) :
    u.live i = true := by
  rw [Table.live_iff, h.self]
  exact hadv

theorem Touched.live_other {adv : AdvReport} (h : Touched t u i adv) {j : Idx} (hj : j ≠ i) :
    u.live j = t.live j := by
  rw [Table.live, Table.live, h.other j hj]

theorem Touched.stamp_other {adv : AdvReport} (h : Touched t u i adv) {j : Idx} (hj : j ≠ i) :
    u.stamp j = t.stamp j := by
  rw [Table.stamp, Table.stamp, h.other j hj]

/-- The element that comes to the front has the largest stamp. -/
theorem Polls.order_touched (h : Polls s) {adv : AdvReport}
    (ht : Touched s.gateway.table u i adv) (hadv : adv.dataLen ≠ 0)
    (hlt : ∀ j, s.gateway.table.live j = true →
      s.gateway.table.stamp j < adv.timestamp.toNat) :
    u.histList.Pairwise fun a b => u.live b = true → u.live a = true ∧ u.stamp b < u.stamp a := by
  have hne : ∀ j ∈ s.gateway.table.histList.erase i, j ≠ i := fun j hj =>
    (h.live.inv.hist_nodup.mem_erase_iff.mp hj).1
  rw [ht.histList]
  refine List.pairwise_cons.mpr ⟨fun j hj hjlive => ⟨ht.live_self hadv, ?_⟩, ?_⟩
  · rw [ht.live_other (hne j hj)] at hjlive
    rw [ht.stamp_other (hne j hj), ht.stamp_self]
    exact hlt j hjlive
  · refine (h.order.sublist List.erase_sublist).imp_of_mem fun {a b} ha hb hab hblive => ?_
    rw [ht.live_other (hne b hb)] at hblive
    rw [ht.live_other (hne a ha), ht.stamp_other (hne a ha), ht.stamp_other (hne b hb)]
    exact hab hblive

/-- A report that is stored gets a stamp above all those before. -/
theorem polls_stored (h : Polls s) {adv : AdvReport} (hadv : adv.dataLen ≠ 0)
    (hstamp : adv.timestamp = metricsReceivedAdvsGet s.gateway) (hadmits : s.Admits adv)
    (hstored : isStored s.gateway.table adv = true) : Polls (s.record phy adv) := by
  obtain ⟨hwrap, hrest⟩ := hadmits
  obtain ⟨hcounted, hsmall, hahead⟩ := hrest hstored
  have hrecord : s.record phy adv = ⟨(advPutToTable phy s.gateway adv).1, s.seen,
      adv.tagMac :: s.changed, adv.timestamp :: s.stored,
      decide (adv.secondaryPhy = phy.notSet)⟩ := by
    rw [Polling.record, hstored]
    rfl
  obtain ⟨i, n, ht⟩ :=
    put_accepted h.live.inv ((put_eq_isStored s.gateway.table adv).trans hstored)
  have htable := (@advPutToTable_table phy s.gateway adv).1
  -- the stamp is the counter, and the counter is above every stamp so far
  have hnew : adv.timestamp.toNat = s.gateway.receivedAdvertisements.toNat := by
    rw [hstamp]
    exact Nat.mod_eq_of_lt hsmall
  have hbound : s.bound ≤ adv.timestamp.toNat := by
    have hb := h.bound_le
    rw [hcounted, if_pos rfl, Nat.add_zero] at hb
    exact hb.trans_eq hnew.symm
  have hself : (put s.gateway.table adv).1.stamp i = adv.timestamp.toNat := ht.stamp_self
  have hlt : ∀ j, s.gateway.table.live j = true →
      s.gateway.table.stamp j < adv.timestamp.toNat := fun j hj =>
    (h.live_lt j hj).trans_le hbound
  rw [hrecord]
  refine ⟨htable ▸ liveInv_put h.live hadv, ?_, ?_, ?_, ?_, ?_, ?_, ?_⟩
  · show (advPutToTable phy s.gateway adv).1.table.histList.Pairwise _
    simp only [htable]
    exact h.order_touched ht hadv hlt
  · exact List.pairwise_cons.mpr ⟨fun m hm => UInt32.lt_iff_toNat_lt.mpr
      ((h.stored_lt m hm).trans_le hbound), h.sorted⟩
  · show adv.timestamp.toNat + 1 ≤ (advPutToTable phy s.gateway adv).1.receivedAdvertisements.toNat
      + if decide (adv.secondaryPhy = phy.notSet) then 0 else 1
    rw [received_after_put hwrap, hnew]
    by_cases hphy : adv.secondaryPhy = phy.notSet
    · simp [hphy]
    · simp [hphy]
  · intro j hj
    simp only [htable] at hj ⊢
    show _ < adv.timestamp.toNat + 1
    by_cases hji : j = i
    · rw [hji, hself]
      exact Nat.lt_succ_self _
    · rw [ht.live_other hji] at hj
      rw [ht.stamp_other hji]
      exact (hlt j hj).trans (Nat.lt_succ_self _)
  · exact fun c hc => ((h.seen_lt c hc).trans_le hbound).trans (Nat.lt_succ_self _)
  · intro c hc mac hmac j hj htag
    simp only [htable] at hj htag ⊢
    by_cases hji : j = i
    · rw [hji, hself]
      exact (h.seen_lt c hc).trans_le hbound
    · rw [ht.live_other hji] at hj
      rw [ht.other j hji] at htag
      rw [ht.stamp_other hji]
      rcases List.mem_cons.mp hmac with rfl | hmac'
      · -- no other live element has the MAC address of the report
        have hjhash := h.live.hashed j hj
        rw [← ht.hashed_other j hji] at hjhash
        refine absurd ((inv_put h.live.inv adv).hash.inj j i hjhash ht.hashed_self ?_) hji
        rw [ht.other j hji, ht.self]
        exact htag
      · exact h.changed c hc mac hmac' j hj htag
  · intro c hc j hj hclt
    simp only [htable] at hj hclt ⊢
    by_cases hji : j = i
    · rw [hji, hself, hnew]
      exact hahead c hc
    · rw [ht.live_other hji] at hj
      rw [ht.stamp_other hji] at hclt ⊢
      exact h.window c hc j hj hclt

/-- A read by another task, or a clear. -/
theorem polls_call (h : Polls s) (op : Op) (hput : ¬ op.isPut = true) :
    Polls { s with gateway := { s.gateway with table := (exec s.gateway.table op).1 } } := by
  have hdata : op.PutsData := by
    cases op with
    | put adv => exact absurd rfl hput
    | _ => trivial
  have hlive := liveInv_exec h.live hdata
  have hi := h.live.inv
  cases op with
  | put adv => exact absurd rfl hput
  | readRetransmissionListAndClear k =>
    exact h.of_sameStamps hlive (sameHistory_readAndClear hi k).sameStamps h.bound_le
  | readRetransmissionList3Head =>
    exact h.of_sameStamps hlive (sameHistory_readHead hi).sameStamps h.bound_le
  | historyRead => exact h
  | statisticsRead =>
    obtain ⟨hlinks, hr⟩ := statisticsLoop_spec s.gateway.table.histList [] s.gateway.table
    exact h.of_sameStamps hlive (sameStamps_of_sameData hr hlinks.histList) h.bound_le
  | clear =>
    obtain ⟨hr, -, hhist⟩ := clear_history hi
    have hdead : ∀ j, ¬ (clear s.gateway.table).live j = true := fun j hj =>
      Table.live_iff.mp hj (by rw [hr]; rfl)
    refine ⟨hlive, ?_, h.sorted, h.bound_le, fun j hj => absurd hj (hdead j), h.seen_lt,
      fun _ _ _ _ j hj => absurd hj (hdead j), fun _ _ j hj => absurd hj (hdead j)⟩
    show (clear s.gateway.table).histList.Pairwise _
    rw [hhist]
    exact h.order.imp fun {_ b} _ hb => absurd hb (hdead b)

/-- **One step keeps the polling invariant.** -/
theorem polls_step (h : Polls s) {a : PollStep} {s' : Polling} (hsteady : Steady s a)
    (hstep : (pollSystem phy).step s a = some s') : Polls s' := by
  cases a with
  | recv env msg =>
    obtain ⟨hcounter, rfl⟩ := Option.ite_some_none_eq_some.mp hstep
    cases hrep : recvReport s.gateway env msg with
    | none => exact h
    | some adv =>
      obtain ⟨hadv, cfg, hcfg, hstamp⟩ := recvReport_eq_some hrep
      have hadmits : s.Admits adv := hsteady adv hrep
      have hntp : cfg.flagUseNtp = false := by
        rw [RecvEnv.usesCounter, hcfg] at hcounter
        simpa using hcounter
      rw [stampOf, hntp, if_neg Bool.false_ne_true] at hstamp
      cases hst : isStored s.gateway.table adv with
      | true => exact polls_stored h hadv hstamp hadmits hst
      | false => exact polls_discarded h hadv hadmits.1 hst
  | call op =>
    simp only [pollSystem] at hstep
    split at hstep
    · exact absurd hstep (by simp)
    · rename_i hput
      obtain rfl := Option.some.inj hstep
      exact polls_call h op hput
  | history curTime flagTimeIsSynchronized params =>
    obtain ⟨hreq, rfl⟩ := Option.ite_some_none_eq_some.mp hstep
    exact polls_respond h flagTimeIsSynchronized curTime hreq

/-- **Polling by the counter misses nothing**, in every run in which every report that is
put may be put. -/
theorem nothingMissed_of_steady (hr : (pollSystem phy).ReachableVia Steady s) :
    NothingMissed s := by
  refine Polls.nothingMissed (hr.invariant (P := Polls) ?_ ?_)
  · rintro s rfl
    exact polls_init
  · exact fun s a s' _ h hsteady hstep => polls_step h hsteady hstep

/-- Two advertisements without a secondary PHY, and a request in between. -/
theorem nothingMissed_sampleRun :
    ∃ s, (pollSystem sampleBlePhy).ReachableVia Steady s ∧ s.seen = some 0 ∧
      s.changed = [⟨0xAA, 0, 0, 0, 0, 1⟩] ∧ NothingMissed s := by
  obtain ⟨s, hr, hp⟩ := (pollSystem sampleBlePhy).exists_reachableVia_of_run (C := Steady) rfl
    [.recv (sampleEnv false) (some (sampleMsg 15 0)), .history 0 false none,
      .recv (sampleEnv false) (some (sampleMsg 15 1))]
    (fun s => decide (s.seen = some 0 ∧ s.changed = [⟨0xAA, 0, 0, 0, 0, 1⟩])) (by decide)
  obtain ⟨hseen, hchanged⟩ := of_decide_eq_true hp
  exact ⟨s, hr, hseen, hchanged, nothingMissed_of_steady hr⟩

/-- Two advertisements with a coded PHY, and a request in between: the second gets the stamp
of the first, and the response to the next request is empty. -/
theorem coded_advertisement_is_missed :
    ∃ s, (pollSystem sampleBlePhy).Reachable s ∧ s.stored = [0, 0] ∧
      httpServerRespHistory s.gateway.table false false 0 (some "counter=0".toList) = [] ∧
      ¬ NothingMissed s := by
  obtain ⟨s, hr, hp⟩ := (pollSystem sampleBlePhy).exists_reachable_of_run rfl
    [.recv (sampleEnv false) (some (sampleMsg 3 0)), .history 0 false none,
      .recv (sampleEnv false) (some (sampleMsg 3 1))]
    (fun s => decide (s.stored = [0, 0] ∧
      httpServerRespHistory s.gateway.table false false 0 (some "counter=0".toList) = [] ∧
      requestedCounter (some "counter=0".toList) = s.seen ∧
      (s.gateway.table.report (histLast AdvTable.init)).tagMac ∈ s.changed ∧
      (s.gateway.table.report (histLast AdvTable.init)).dataLen ≠ 0)) (by decide)
  obtain ⟨hstored, hresp, hreq, hmac, hlive⟩ := of_decide_eq_true hp
  refine ⟨s, hr, hstored, hresp, fun ⟨_, hall⟩ => ?_⟩
  have hmem := hall 0 false _ hreq _ hmac ⟨_, hlive, rfl⟩
  rw [hresp] at hmem
  exact absurd hmem List.not_mem_nil

end AdvTable
end RuuviGateway
