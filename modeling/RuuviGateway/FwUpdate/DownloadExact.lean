import RuuviGateway.FwUpdate.Download

/-!
# When the resumed download is exact

`Fed` says what the data events of one attempt do to the two counters: as long as the
flash takes everything, `offset` advances by the bytes of the file and `downloaded_size`
by all bytes.  `attempt_serves` says which bytes of the file the events carry.  Together
they give one lemma for each outcome of an attempt, and `exact_iff_clean` is the
induction on the attempts with the two counters equal.
-/

namespace RuuviGateway
namespace FwUpdate

variable {file : List UInt8} {start : Nat} {a : Attempt} {p : PartitionInfo}

/-! ## The data of the file among the events -/

/-- The data that does not come with a redirect. -/
def fileData (events : List (Nat × Data)) : List Data :=
  (events.filter fun e => !decide (e.1 = 301 ∨ e.1 = 302)).map Prod.snd

/-- All data of the events. -/
def allData (events : List (Nat × Data)) : List Data :=
  events.map Prod.snd

theorem bytesOf_cons (d : Data) (l : List Data) : bytesOf (d :: l) = d.bytes ++ bytesOf l :=
  List.flatMap_cons ..

theorem fileData_append (l m : List (Nat × Data)) :
    fileData (l ++ m) = fileData l ++ fileData m := by
  unfold fileData
  rw [List.filter_append, List.map_append]

theorem fileData_cons_redirect {e : Nat × Data} (h : e.1 = 301 ∨ e.1 = 302)
    (l : List (Nat × Data)) : fileData (e :: l) = fileData l := by
  unfold fileData
  rw [List.filter_cons_of_neg (by simpa using fun hne => h.resolve_left hne)]

theorem fileData_cons_other {e : Nat × Data} (h : ¬(e.1 = 301 ∨ e.1 = 302))
    (l : List (Nat × Data)) : fileData (e :: l) = e.2 :: fileData l := by
  unfold fileData
  rw [List.filter_cons_of_pos (by simpa using not_or.mp h), List.map_cons]

/-- The events of a redirect carry nothing of the file. -/
theorem fileData_redirect {status : Nat} (h : status = 301 ∨ status = 302) (l : List Data) :
    fileData (l.map fun d => (status, d)) = [] := by
  unfold fileData
  rw [List.filter_eq_nil_iff.mpr, List.map_nil]
  intro e he
  obtain ⟨d, -, rfl⟩ := List.mem_map.mp he
  simp [h]

/-- The events of any other response carry its body. -/
theorem fileData_other {status : Nat} (h : ¬(status = 301 ∨ status = 302)) (l : List Data) :
    fileData (l.map fun d => (status, d)) = l := by
  unfold fileData
  rw [List.filter_eq_self.mpr, List.map_map]
  · exact List.map_id l
  · intro e he
    obtain ⟨d, -, rfl⟩ := List.mem_map.mp he
    simp [h]

theorem expectedHttpRespCode_cases (start : Nat) :
    expectedHttpRespCode start = 200 ∧ start = 0 ∨
      expectedHttpRespCode start = 206 ∧ start ≠ 0 := by
  unfold expectedHttpRespCode
  by_cases h : start = 0
  · exact Or.inl ⟨by simp [h], h⟩
  · exact Or.inr ⟨by simp [h], h⟩

theorem expected_not_redirect (start : Nat) :
    ¬(expectedHttpRespCode start = 301 ∨ expectedHttpRespCode start = 302) := by
  rcases expectedHttpRespCode_cases start with ⟨h, -⟩ | ⟨h, -⟩ <;> omega

theorem expected_isSuccess (start : Nat) :
    isSuccessStatus (expectedHttpRespCode start) = true := by
  rcases expectedHttpRespCode_cases start with ⟨h, -⟩ | ⟨h, -⟩ <;> rw [h] <;> rfl

/-- What the events of an attempt carry when a server of the file answers. -/
structure CarriesFile (file : List UInt8) (start : Nat) (events : List (Nat × Data))
    (answer : Option Response) : Prop where
  status : ∀ e ∈ events, (e.1 = 301 ∨ e.1 = 302) ∨ e.1 = expectedHttpRespCode start
  isPrefix : bytesOf (fileData events) <+: file.drop start
  answered : ∀ r, answer = some r →
    r.status = expectedHttpRespCode start ∧ r.ending ≠ .failed ∧
      (r.ending = .complete → bytesOf (fileData events) = file.drop start) ∧
      (r.ending = .closedByFin → bytesOf (fileData events) ≠ file.drop start)

/-- The events of one response. -/
theorem carriesFile_one {r : Response} (h : r.Serves file start) :
    CarriesFile file start (r.body.map fun d => (r.status, d)) none := by
  refine ⟨fun e he => ?_, ?_, fun _ hr => absurd hr (by simp)⟩
  · obtain ⟨d, -, rfl⟩ := List.mem_map.mp he
    exact h.imp id And.left
  · rcases h with hred | ⟨hst, hpre, -⟩
    · rw [fileData_redirect hred]
      exact List.nil_prefix
    · rw [fileData_other (hst ▸ expected_not_redirect start)]
      exact hpre

/-- **An attempt carries a prefix of the file**, out of its last response only: the client
asks again after a redirect, and stops at any other response. -/
theorem carriesFile_perform :
    ∀ (rs : List Response) (n : Nat), (∀ r ∈ rs, r.Serves file start) →
      CarriesFile file start (perform n rs).1 (perform n rs).2 := by
  intro rs
  induction rs with
  | nil =>
    intro n _
    exact ⟨fun e he => absurd he (by simp [perform]), List.nil_prefix,
      fun _ hr => absurd hr (by simp [perform])⟩
  | cons r rest ih =>
    intro n h
    have hr := h r (List.mem_cons_self ..)
    have hone := carriesFile_one hr
    rw [perform]
    split
    · exact hone
    · split
      · exact hone
      · rename_i hfailed
        split
        · rename_i hagain
          obtain ⟨hstatus, hpre, hans⟩ := ih (n + 1) fun s hs => h s (List.mem_cons_of_mem _ hs)
          have hred : r.status = 301 ∨ r.status = 302 := by
            rcases hr with hred | ⟨hst, -⟩
            · exact hred
            · -- a response with the expected status is never asked again
              have hexp := expectedHttpRespCode_cases start
              simp only [Response.processAgain, hst, Bool.or_eq_true, decide_eq_true_eq,
                Bool.and_eq_true] at hagain
              omega
          have hdata : fileData ((r.body.map fun d => (r.status, d)) ++ (perform (n + 1) rest).1)
              = fileData (perform (n + 1) rest).1 := by
            rw [fileData_append, fileData_redirect hred, List.nil_append]
          refine ⟨fun e he => ?_, hdata ▸ hpre, fun s hs => ?_⟩
          · rcases List.mem_append.mp he with he | he
            · exact hone.status e he
            · exact hstatus e he
          · rw [hdata]
            exact hans s hs
        · rename_i hagain
          refine ⟨hone.status, hone.isPrefix, fun s hs => ?_⟩
          obtain rfl := Option.some.inj hs
          rcases hr with hred | ⟨hst, -, hcomplete, hfin⟩
          · simp only [Response.processAgain, Bool.or_eq_true, decide_eq_true_eq] at hagain
            omega
          · rw [fileData_other (hst ▸ expected_not_redirect start)]
            exact ⟨hst, hfailed, hcomplete, hfin⟩

theorem carriesFile_attempt (h : ∀ r ∈ a.responses, r.Serves file start) :
    CarriesFile file start a.events a.answer := by
  unfold Attempt.events Attempt.answer
  split
  · exact carriesFile_perform a.responses 0 h
  · exact ⟨fun e he => absurd he (by simp), List.nil_prefix, fun _ hr => absurd hr (by simp)⟩

/-! ## Feeding the events to the callback -/

/-- The flash takes all data of the file among the events. -/
def writesOk (events : List (Nat × Data)) : Bool :=
  events.all fun e => decide (e.1 = 301 ∨ e.1 = 302) || e.2.writeOk

/-- The data in the partition ends at the offset. -/
def PartitionInfo.Wf (p : PartitionInfo) : Prop :=
  p.partition.length = p.offset

/-- The partition after all data of the file has been written. -/
def PartitionInfo.append (p : PartitionInfo) (bytes : List UInt8) : PartitionInfo where
  partition := p.partition ++ bytes
  offset := p.offset + bytes.length
  isError := false

theorem PartitionInfo.Wf.append (h : p.Wf) (bytes : List UInt8) : (p.append bytes).Wf := by
  show (p.partition ++ bytes).length = p.offset + bytes.length
  rw [List.length_append, h]

theorem PartitionInfo.append_nil (h : p.isError = false) : p.append [] = p := by
  cases p
  simp_all [PartitionInfo.append]

theorem PartitionInfo.append_append (p : PartitionInfo) (l m : List UInt8) :
    (p.append l).append m = p.append (l ++ m) := by
  simp [PartitionInfo.append, Nat.add_assoc]

theorem partitionCb_redirect {status : Nat} {d : Data} (h : status = 301 ∨ status = 302)
    (p : PartitionInfo) : (partitionCbOnRecvData start p status d).2 = p := by
  have hne : expectedHttpRespCode start ≠ status := fun he =>
    expected_not_redirect start (he ▸ h)
  unfold partitionCbOnRecvData
  split
  · rfl
  · simp [handleHttpRespCode, hne, h]

theorem partitionCb_expected {d : Data} (h : p.Wf) (hp : p.isError = false) :
    (partitionCbOnRecvData start p (expectedHttpRespCode start) d).2 =
      if d.writeOk then p.append d.bytes else { p with isError := true } := by
  have htake : p.partition.take p.offset = p.partition :=
    List.take_of_length_le (Nat.le_of_eq h)
  unfold partitionCbOnRecvData
  simp only [hp, handleHttpRespCode, ne_eq, not_true_eq_false, if_false, Bool.false_eq_true]
  split
  · rw [htake]
    rfl
  · rfl

theorem partitionCb_isError {status : Nat} {d : Data} (hp : p.isError = true) :
    (partitionCbOnRecvData start p status d).2 = p := by
  unfold partitionCbOnRecvData
  rw [if_pos hp]

/-- After an error the callback drops everything. -/
theorem foldl_isError (events : List (Nat × Data)) :
    ∀ c : CbData, c.info.isError = true →
      (events.foldl (downloadCbOnRecvData start) c).info = c.info := by
  induction events with
  | nil => exact fun _ _ => rfl
  | cons e rest ih =>
    intro c hc
    have hinfo : (downloadCbOnRecvData start c e).info = c.info := partitionCb_isError hc
    rw [List.foldl_cons, ih _ (hinfo ▸ hc), hinfo]

/-- `downloaded_size` counts all data. -/
theorem foldl_downloadedSize (events : List (Nat × Data)) :
    ∀ c : CbData, (events.foldl (downloadCbOnRecvData start) c).downloadedSize =
      c.downloadedSize + (bytesOf (allData events)).length := by
  induction events with
  | nil => exact fun _ => rfl
  | cons e rest ih =>
    intro c
    have hcons : bytesOf (allData (e :: rest)) = e.2.bytes ++ bytesOf (allData rest) := rfl
    rw [List.foldl_cons, ih, hcons, List.length_append, ← Nat.add_assoc]
    rfl

/-- `offset` counts what is written, which is the data of the file if the flash takes all
of it and less otherwise. -/
theorem foldl_info (events : List (Nat × Data))
    (hst : ∀ e ∈ events, (e.1 = 301 ∨ e.1 = 302) ∨ e.1 = expectedHttpRespCode start) :
    ∀ c : CbData, c.info.Wf → c.info.isError = false →
      (writesOk events = true → (events.foldl (downloadCbOnRecvData start) c).info =
        c.info.append (bytesOf (fileData events))) ∧
      (writesOk events = false →
        (events.foldl (downloadCbOnRecvData start) c).info.isError = true ∧
        (events.foldl (downloadCbOnRecvData start) c).info.offset <
          c.info.offset + (bytesOf (fileData events)).length) := by
  induction events with
  | nil =>
    intro c _ hc
    refine ⟨fun _ => (PartitionInfo.append_nil hc).symm, fun h => ?_⟩
    exact absurd h (by simp [writesOk])
  | cons e rest ih =>
    intro c hwf hc
    have hrest := ih fun e he => hst e (List.mem_cons_of_mem _ he)
    rw [List.foldl_cons]
    by_cases hred : e.1 = 301 ∨ e.1 = 302
    · have hinfo : (downloadCbOnRecvData start c e).info = c.info := partitionCb_redirect hred _
      have hdata := fileData_cons_redirect hred rest
      have hok : writesOk (e :: rest) = writesOk rest := by
        rw [writesOk, List.all_cons, decide_eq_true hred, Bool.true_or, Bool.true_and]
        rfl
      rw [hdata, hok, ← hinfo]
      exact hrest _ (hinfo ▸ hwf) (hinfo ▸ hc)
    · have hexp : e.1 = expectedHttpRespCode start :=
        (hst e (List.mem_cons_self ..)).resolve_left hred
      have hinfo : (downloadCbOnRecvData start c e).info =
          if e.2.writeOk then c.info.append e.2.bytes else { c.info with isError := true } := by
        show (partitionCbOnRecvData start c.info e.1 e.2).2 = _
        rw [hexp]
        exact partitionCb_expected hwf hc
      have hdata : bytesOf (fileData (e :: rest)) = e.2.bytes ++ bytesOf (fileData rest) := by
        rw [fileData_cons_other hred, bytesOf_cons]
      have hok : writesOk (e :: rest) = (e.2.writeOk && writesOk rest) := by
        rw [writesOk, List.all_cons, decide_eq_false hred, Bool.false_or]
        rfl
      rw [hdata, hok]
      cases hw : e.2.writeOk with
      | true =>
        rw [hw, if_pos rfl] at hinfo
        obtain ⟨h1, h2⟩ := hrest (downloadCbOnRecvData start c e)
          (hinfo ▸ hwf.append e.2.bytes) (by rw [hinfo]; rfl)
        rw [Bool.true_and]
        refine ⟨fun h => ?_, fun h => ?_⟩
        · rw [h1 h, hinfo, PartitionInfo.append_append]
        · obtain ⟨herr, hlt⟩ := h2 h
          have hoff : (downloadCbOnRecvData start c e).info.offset =
              c.info.offset + e.2.bytes.length := by
            rw [hinfo]
            rfl
          refine ⟨herr, ?_⟩
          rw [List.length_append]
          omega
      | false =>
        rw [hw, if_neg (by simp)] at hinfo
        have hpos : 0 < e.2.bytes.length := List.length_pos_iff.mpr e.2.nonempty
        have herr : (downloadCbOnRecvData start c e).info.isError = true := by
          rw [hinfo]
        have hstuck : (rest.foldl (downloadCbOnRecvData start) _).info = _ :=
          foldl_isError rest _ herr
        refine ⟨fun h => absurd h (by simp), fun _ => ?_⟩
        rw [hstuck, hinfo, List.length_append]
        exact ⟨rfl, by show c.info.offset < _; omega⟩

/-- Every byte of the file is a byte of the events, and there are no others exactly if no
data comes with a redirect. -/
theorem length_fileData (events : List (Nat × Data)) :
    (bytesOf (fileData events)).length ≤ (bytesOf (allData events)).length ∧
      ((bytesOf (fileData events)).length = (bytesOf (allData events)).length ↔
        events.all (fun e => !decide (e.1 = 301 ∨ e.1 = 302)) = true) := by
  induction events with
  | nil => simp [fileData, allData]
  | cons e rest ih =>
    have hpos : 0 < e.2.bytes.length := List.length_pos_iff.mpr e.2.nonempty
    have hall : bytesOf (allData (e :: rest)) = e.2.bytes ++ bytesOf (allData rest) := rfl
    by_cases hred : e.1 = 301 ∨ e.1 = 302
    · have hdata := fileData_cons_redirect hred rest
      rw [hall, hdata, List.length_append, List.all_cons]
      refine ⟨by omega, ?_⟩
      constructor
      · intro h
        omega
      · intro h
        simp [hred] at h
    · have hdata : bytesOf (fileData (e :: rest)) = e.2.bytes ++ bytesOf (fileData rest) := by
        rw [fileData_cons_other hred, bytesOf_cons]
      rw [hall, hdata, List.length_append, List.length_append, List.all_cons]
      refine ⟨by omega, ?_⟩
      have hhead : (!decide (e.1 = 301 ∨ e.1 = 302)) = true := by simpa using not_or.mp hred
      rw [hhead, Bool.true_and, ← ih.2]
      omega

/-! ## One attempt -/

/-- The two counters agree and the partition holds the file up to there. -/
structure Synced (file : List UInt8) (downloadedSize : Nat) (p : PartitionInfo) : Prop where
  offset : p.offset = downloadedSize
  wf : p.Wf
  isError : p.isError = false
  partition : p.partition = file.take downloadedSize

theorem synced_start : Synced file 0 ⟨[], 0, false⟩ :=
  ⟨rfl, rfl, rfl, rfl⟩

theorem answer_isSome_of_serves {r : Response} (h : ∀ r ∈ a.responses, r.Serves file start)
    (hr : a.answer = some r) : a.started = true ∧ a.httpDownload start = true := by
  have hstarted : a.started = true := by
    unfold Attempt.answer at hr
    split at hr
    · rename_i hst
      exact hst
    · exact absurd hr (by simp)
  refine ⟨hstarted, ?_⟩
  have hst := ((carriesFile_attempt h).answered r hr).1
  unfold Attempt.httpDownload Attempt.httpRespCode
  simp only [hstarted, hr, hst, expected_isSuccess]
  rcases expectedHttpRespCode_cases start with ⟨he, -⟩ | ⟨he, hne⟩
  · cases a.isAsync <;> simp [he]
  · cases a.isAsync <;> simp [he, hne]

theorem httpDownload_of_answer_none (hr : a.answer = none) : a.httpDownload start = false := by
  unfold Attempt.httpDownload Attempt.httpRespCode
  cases a.started <;> simp [hr]

/-- An attempt that is retried ends with `FW_UPDATE_DOWNLOAD_STATUS_RETRY`. -/
theorem download_retried (h : a.retried = true) :
    (download a start p).1 = .retry := by
  simp only [Attempt.retried, Bool.and_eq_true, Option.isNone_iff_eq_none] at h
  obtain ⟨⟨hst, hans⟩, hrec⟩ := h
  have hretry : a.flagAllowRetry = true := by
    simp [Attempt.flagAllowRetry, Attempt.httpRespCode, hst, hans]
  unfold download
  simp [httpDownload_of_answer_none hans, hretry, hrec]

/-- An attempt that ends with a response succeeds. -/
theorem download_answered {r : Response} (h : ∀ r ∈ a.responses, r.Serves file start)
    (hr : a.answer = some r) : (download a start p).1 = .success := by
  unfold download
  simp [(answer_isSome_of_serves h hr).2]

/-- Any other attempt fails. -/
theorem download_failed (hret : a.retried = false) (hans : a.answer = none) :
    (download a start p).1 = .failed := by
  have hno : (a.flagAllowRetry && a.reconnected) = false := by
    cases hst : a.started with
    | false => simp [Attempt.flagAllowRetry, Attempt.httpRespCode, hst]
    | true =>
      have hrec : a.reconnected = false := by
        simpa [Attempt.retried, hst, hans] using hret
      simp [hrec]
  unfold download
  simp [httpDownload_of_answer_none hans, hno]

theorem download_snd (a : Attempt) (start : Nat) (p : PartitionInfo) :
    (download a start p).2 = a.events.foldl (downloadCbOnRecvData start) ⟨start, p⟩ := by
  unfold download
  split
  · rfl
  · split <;> rfl

/-- An attempt whose data is all written extends the file in the partition. -/
theorem download_written (h : ∀ r ∈ a.responses, r.Serves file start)
    (hs : Synced file start p) (hw : a.writesOk = true) :
    (download a start p).2.info = p.append (bytesOf (fileData a.events)) ∧
      Synced file (start + (bytesOf (fileData a.events)).length)
        (p.append (bytesOf (fileData a.events))) := by
  have hc := carriesFile_attempt h
  have hinfo := (foldl_info a.events hc.status ⟨start, p⟩ hs.wf hs.isError).1 hw
  refine ⟨by rw [download_snd, hinfo], ?_, hs.wf.append _, rfl, ?_⟩
  · show p.offset + _ = start + _
    rw [hs.offset]
  · show p.partition ++ _ = _
    rw [hs.partition, List.take_add]
    congr 1
    exact List.prefix_iff_eq_take.mp hc.isPrefix

/-- If some data is not written, a failed attempt leaves the counters apart. -/
theorem download_unsynced (h : ∀ r ∈ a.responses, r.Serves file start)
    (hs : Synced file start p) (hne : ¬(a.redirectsEmpty = true ∧ a.writesOk = true)) :
    (download a start p).2.info.offset < (download a start p).2.downloadedSize := by
  have hc := carriesFile_attempt h
  have hfed := foldl_info a.events hc.status ⟨start, p⟩ hs.wf hs.isError
  have hlen := length_fileData a.events
  rw [download_snd, foldl_downloadedSize]
  cases hw : a.writesOk with
  | true =>
    have hred : ¬ a.redirectsEmpty = true := fun hr => hne ⟨hr, hw⟩
    have hlt : (bytesOf (fileData a.events)).length ≠ (bytesOf (allData a.events)).length :=
      fun he => hred (hlen.2.mp he)
    rw [hfed.1 hw]
    show p.offset + _ < start + _
    have := hs.offset
    omega
  | false =>
    have hoff := (hfed.2 hw).2
    have : (⟨start, p⟩ : CbData).info.offset = start := hs.offset
    show _ < start + _
    omega

/-! ## All attempts -/

/-- The requests of a run are answered by what they ask for. -/
def ServedLoop (file : List UInt8) (attempts : List Attempt) (downloadedSize : Nat)
    (p : PartitionInfo) : Prop :=
  ∀ q ∈ (downloadLoop attempts downloadedSize p).requests.zip attempts,
    ∀ r ∈ q.2.responses, r.Serves file q.1.1

/-- The run is exact. -/
def ExactLoop (file : List UInt8) (r : DownloadResult) : Prop :=
  (∀ q ∈ r.requests, q.1 = q.2) ∧ (r.reportsSuccess = true → r.info.partition = file)

theorem requests_head (attempts : List Attempt) (n : Nat) (p : PartitionInfo) (b : Attempt) :
    (n, p.offset) ∈ (downloadLoop (b :: attempts) n p).requests := by
  rw [downloadLoop]
  cases (download b n p).1 <;> simp

/-- The first request of a served run. -/
theorem ServedLoop.head {rest : List Attempt} {n : Nat} (h : ServedLoop file (a :: rest) n p) :
    ∀ r ∈ a.responses, r.Serves file n := by
  refine h ((n, p.offset), a) ?_
  rw [downloadLoop]
  cases (download a n p).1 <;> simp

theorem downloadLoop_retried {rest : List Attempt} {n : Nat} (h : a.retried = true) :
    downloadLoop (a :: rest) n p =
      { downloadLoop rest (download a n p).2.downloadedSize (download a n p).2.info with
        requests := (n, p.offset) :: (downloadLoop rest (download a n p).2.downloadedSize
          (download a n p).2.info).requests } := by
  rw [downloadLoop, download_retried h]

theorem ServedLoop.tail {rest : List Attempt} {n : Nat} (h : ServedLoop file (a :: rest) n p)
    (hret : a.retried = true) :
    ServedLoop file rest (download a n p).2.downloadedSize (download a n p).2.info := by
  intro q hq
  refine h q ?_
  rw [downloadLoop_retried hret]
  exact List.mem_cons_of_mem _ hq

theorem synced_request (hs : Synced file start p) : ∀ q ∈ [(start, p.offset)], q.1 = q.2 := by
  intro q hq
  rw [List.mem_singleton.mp hq]
  exact hs.offset.symm

/-- After an attempt that leaves the counters in step, everything depends on the others. -/
theorem exactLoop_in_step {rest : List Attempt} {n : Nat} (hs : Synced file n p)
    (hserved : ServedLoop file (a :: rest) n p) (hret : a.retried = true)
    (hall : a.redirectsEmpty = true ∧ a.writesOk = true)
    (ih : ∀ (m : Nat) (q : PartitionInfo), Synced file m q → ServedLoop file rest m q →
      (ExactLoop file (downloadLoop rest m q) ↔ CleanLoop rest)) :
    ExactLoop file (downloadLoop (a :: rest) n p) ↔ CleanLoop rest := by
  have htail := hserved.tail hret
  obtain ⟨hinfo, hsync⟩ := download_written hserved.head hs hall.2
  have hsize : (download a n p).2.downloadedSize = n + (bytesOf (fileData a.events)).length := by
    rw [download_snd, foldl_downloadedSize, (length_fileData a.events).2.mpr hall.1]
  rw [downloadLoop_retried hret]
  rw [hsize, hinfo] at htail ⊢
  have hih := ih _ _ hsync htail
  constructor
  · rintro ⟨hreq, hsucc⟩
    exact hih.mp ⟨fun q hq => hreq q (List.mem_cons_of_mem _ hq), hsucc⟩
  · intro hclean
    obtain ⟨hreq, hsucc⟩ := hih.mpr hclean
    refine ⟨fun q hq => ?_, hsucc⟩
    rcases List.mem_cons.mp hq with rfl | hq
    · exact hs.offset.symm
    · exact hreq q hq

/-- After any other attempt the next request, if there is one, starts too far on. -/
theorem exactLoop_out_of_step {rest : List Attempt} {n : Nat} (hs : Synced file n p)
    (hserves : ∀ r ∈ a.responses, r.Serves file n) (hret : a.retried = true)
    (hall : ¬(a.redirectsEmpty = true ∧ a.writesOk = true)) :
    ExactLoop file (downloadLoop (a :: rest) n p) ↔ rest = [] := by
  have hlt := download_unsynced hserves hs hall
  rw [downloadLoop_retried hret]
  cases rest with
  | nil =>
    refine ⟨fun _ => rfl, fun _ => ⟨synced_request hs, fun h => ?_⟩⟩
    simp [downloadLoop, DownloadResult.reportsSuccess] at h
  | cons b rest =>
    refine iff_of_false ?_ (List.cons_ne_nil b rest)
    rintro ⟨hreq, -⟩
    have heq := hreq _ (List.mem_cons_of_mem _ (requests_head rest _ _ b))
    simp only at heq
    omega

/-- An attempt that fails is the last one, and no success is reported. -/
theorem exactLoop_failed {rest : List Attempt} {n : Nat} (hs : Synced file n p)
    (hret : a.retried = false) (hans : a.answer = none) :
    ExactLoop file (downloadLoop (a :: rest) n p) := by
  rw [downloadLoop, download_failed hret hans]
  exact ⟨synced_request hs, fun h => absurd h (by simp [DownloadResult.reportsSuccess])⟩

/-- The partition holds the file once the rest of it has been written. -/
theorem partition_eq_file_iff (hserves : ∀ r ∈ a.responses, r.Serves file start)
    (hs : Synced file start p) (hw : a.writesOk = true) :
    (download a start p).2.info.partition = file ↔
      bytesOf (fileData a.events) = file.drop start := by
  rw [(download_written hserves hs hw).1]
  show p.partition ++ _ = file ↔ _
  rw [hs.partition]
  constructor
  · intro h
    exact List.append_cancel_left (h.trans (List.take_append_drop start file).symm)
  · intro h
    rw [h, List.take_append_drop]

/-- An attempt that is answered is the last one; it is exact if the body was not cut short, or
if an error is reported because of the flash. -/
theorem exactLoop_answered {rest : List Attempt} {n : Nat} {r : Response}
    (hs : Synced file n p) (hserves : ∀ r ∈ a.responses, r.Serves file n)
    (hans : a.answer = some r) :
    ExactLoop file (downloadLoop (a :: rest) n p) ↔ (a.cutShort = true → a.writesOk = false) := by
  obtain ⟨-, hnf, hcomplete, hfin⟩ := (carriesFile_attempt hserves).answered r hans
  have hcut : a.cutShort = decide (r.ending = .closedByFin) := by
    rw [Attempt.cutShort, hans]
    rfl
  rw [downloadLoop, download_answered (p := p) hserves hans, hcut, decide_eq_true_eq]
  cases hw : a.writesOk with
  | false =>
    have herr := ((foldl_info a.events (carriesFile_attempt hserves).status ⟨n, p⟩ hs.wf
      hs.isError).2 hw).1
    rw [← download_snd] at herr
    exact ⟨fun _ _ => rfl,
      fun _ => ⟨synced_request hs, by simp [DownloadResult.reportsSuccess, herr]⟩⟩
  | true =>
    have hfile := partition_eq_file_iff hserves hs hw
    have hrep : DownloadResult.reportsSuccess
        ⟨true, (download a n p).2.info, [(n, p.offset)]⟩ = true := by
      rw [(download_written hserves hs hw).1]
      rfl
    constructor
    · rintro ⟨-, h⟩ hend
      exact absurd (hfile.mp (h hrep)) (hfin hend)
    · intro h
      refine ⟨synced_request hs, fun _ => hfile.mpr (hcomplete ?_)⟩
      cases hend : r.ending with
      | complete => rfl
      | closedByFin => exact absurd (h hend) (by simp)
      | failed => exact absurd hend hnf

/-- **The induction on the attempts**, as long as the counters agree. -/
theorem exactLoop_iff_clean :
    ∀ (attempts : List Attempt) (n : Nat) (p : PartitionInfo), Synced file n p →
      ServedLoop file attempts n p →
      (ExactLoop file (downloadLoop attempts n p) ↔ CleanLoop attempts) := by
  intro attempts
  induction attempts with
  | nil =>
    intro n p _ _
    exact ⟨fun _ => trivial, fun _ => ⟨by simp [downloadLoop],
      by simp [downloadLoop, DownloadResult.reportsSuccess]⟩⟩
  | cons a rest ih =>
    intro n p hs hserved
    rw [CleanLoop]
    cases hret : a.retried with
    | true =>
      rw [if_pos rfl]
      by_cases hall : a.redirectsEmpty = true ∧ a.writesOk = true
      · rw [exactLoop_in_step hs hserved hret hall ih]
        exact ⟨fun h => ⟨fun _ => hall, h⟩, And.right⟩
      · rw [exactLoop_out_of_step hs hserved.head hret hall]
        constructor
        · rintro rfl
          exact ⟨fun h => absurd rfl h, trivial⟩
        · rintro ⟨h, -⟩
          exact not_not.mp fun hne => hall (h hne)
    | false =>
      rw [if_neg (by simp)]
      cases hans : a.answer with
      | none =>
        refine iff_of_true (exactLoop_failed hs hret hans) fun h => ?_
        rw [Attempt.cutShort, hans] at h
        exact absurd h (by simp)
      | some r => exact exactLoop_answered hs hserved.head hans

/-- **The main result.**  If every request is answered by what it asks for, the download
is exact if and only if no attempt that is followed by another one receives data with a
redirect or fails to write, and the last one is not cut short. -/
theorem exact_iff_clean {attempts : List Attempt} (h : Served file attempts) :
    Exact file attempts ↔ Clean attempts :=
  exactLoop_iff_clean (attempts.take fwUpdateMaxRetries) 0 _ synced_start h

/-- One piece of data that the flash takes. -/
def data (b : UInt8) : Data := ⟨[b], by simp, true⟩

/-- A connection that is lost after one byte of three, and a second attempt for the other
two. -/
def resumedRun : List Attempt :=
  [{ started := true, isAsync := true, reconnected := true,
     responses := [⟨200, false, [data 1], .failed⟩] },
   { started := true, isAsync := true, reconnected := false,
     responses := [⟨302, false, [], .complete⟩, ⟨206, false, [data 2, data 3], .complete⟩] }]

/-- That run is exact. -/
theorem resumedRun_exact : Served [1, 2, 3] resumedRun ∧ Exact [1, 2, 3] resumedRun :=
  ⟨by decide, (exact_iff_clean (by decide)).mpr (by decide)⟩

/-- The same, but the first attempt is redirected by a response with a body of one byte:
the second attempt asks for the range from byte two on. -/
def redirectedRun : List Attempt :=
  [{ started := true, isAsync := true, reconnected := true,
     responses := [⟨302, false, [data 9], .complete⟩, ⟨200, false, [data 1], .failed⟩] },
   { started := true, isAsync := true, reconnected := false,
     responses := [⟨206, false, [data 3], .complete⟩] }]

/-- One attempt, whose connection is closed by the peer after one byte of three. -/
def cutShortRun : List Attempt :=
  [{ started := true, isAsync := true, reconnected := false,
     responses := [⟨200, false, [data 1], .closedByFin⟩] }]

/-- In the first run the second request starts at byte two with one byte written, and
success is reported with byte two missing; in the second run success is reported with one
byte of three. -/
theorem redirect_and_fin_lose_bytes :
    (Served [1, 2, 3] redirectedRun ∧
      downloadWithRetries redirectedRun = ⟨true, ⟨[1, 3], 2, false⟩, [(0, 0), (2, 1)]⟩ ∧
      ¬ Exact [1, 2, 3] redirectedRun) ∧
    (Served [1, 2, 3] cutShortRun ∧
      downloadWithRetries cutShortRun = ⟨true, ⟨[1], 1, false⟩, [(0, 0)]⟩ ∧
      ¬ Exact [1, 2, 3] cutShortRun) := by
  decide

end FwUpdate
end RuuviGateway
