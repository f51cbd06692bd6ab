import RuuviGateway.HttpPost.Model

/-!
# A post gives back what it takes

When no request is in progress any more, the semaphore and the buffer have to be free again,
since the next post asserts that it gets both at once.  `http_async_info_free_data` unlocks the
buffer, and it is called wherever a request ends or cannot be started, but not where a function
returns before it has tried to start one.
-/

namespace RuuviGateway
namespace HttpPost

open CString GwCfgJson Program

/-! ## The life of a request -/

/-- A request, with all that its function finds. -/
inductive Request where
  | postAdvs (flagPostToRuuvi : Bool) (cfg : Http) (e : AdvsEnv)
  | checkPostAdvs (p : HttpCheckParams) (e : CheckAdvsEnv)
  | postStat (useSslClientCert useSslServerCert : Bool) (e : StatEnv)
  | checkPostStat (p : HttpCheckParams) (e : CheckStatEnv)

/-- The call of the function: whether a request is in progress afterwards. -/
def Request.start : Request → Prog Bool
  | .postAdvs flagPostToRuuvi cfg e => httpPostAdvs flagPostToRuuvi cfg e
  | .checkPostAdvs p e => do
      let _ ← httpCheckPostAdvs p e
      pure false
  | .postStat useSslClientCert useSslServerCert e =>
      httpPostStat useSslClientCert useSslServerCert e
  | .checkPostStat p e => do
      let _ ← httpCheckPostStat p e
      pure false

/-- What is called while a request is in progress. -/
inductive Act where
  | poll (sameTask : Bool) (err : Perform)
  | abort (sameTask : Bool)

/-- The call: whether the request is still in progress afterwards. -/
def Act.call : Act → Prog Bool
  | .poll sameTask err => do
      let completed ← httpAsyncPoll sameTask err
      pure !completed
  | .abort sameTask => do
      httpAbortAnyReqDuringProcessing sameTask
      pure false

/-- A request in progress, and the calls that follow until it has ended. -/
def follow : List Act → Prog Bool
  | [] => pure true
  | act :: acts => do
      if ← act.call then follow acts else pure false

/-- A request and the calls that follow. -/
def Request.run (r : Request) (acts : List Act) : Prog Bool := do
  if ← r.start then follow acts else pure false

/-- The state after the start of the gateway. -/
def idle : AsyncInfo where
  semaFree := true
  bufLocked := false
  tlsSharedBuf := false
  httpClientHandle := false
  certs := ⟨false, false, false⟩
  useJsonStreamGen := false
  select := false
  recipient := .stats

/-- The semaphore and the buffer are free. -/
def AsyncInfo.Ready (s : AsyncInfo) : Prop := s.semaFree = true ∧ s.bufLocked = false

/-- Whenever no request is in progress any more, the semaphore and the buffer are free, and the
next call gets them. -/
structure Request.Releases (r : Request) : Prop where
  ready : ∀ s acts s', s.Ready → r.run acts s = .ok (false, s') → s'.Ready
  next : ∀ s acts s', s.Ready → r.run acts s = .ok (false, s') →
    ∃ t, acquire false s' = .ok ((), t)

/-- The function gets as far as to prepare the request, or an assertion fails before. -/
def Request.Prepared : Request → Prop
  | .postAdvs _ _ _ => True
  | .checkPostAdvs p e =>
      e.relayingViaHttpEnabled = true ∨
        e.cfgAllocated = true ∧ (checkPostAdvsCfg p).isSome = true
  | .postStat _ _ e => e.statusCreated = true
  | .checkPostStat p e =>
      e.relayingViaHttpEnabled = true ∨
        e.cfgAllocated = true ∧ (checkPostStatCfg p).isSome = true ∧ e.statInfo = true ∧
          e.send.statusCreated = true

/-! ## Steps -/

/-- A request holds both. -/
def Held (s : AsyncInfo) : Prop :=
  s.semaFree = false ∧ s.bufLocked = true ∧ s.tlsSharedBuf = true

/-- The buffer has been unlocked, the semaphore is still taken. -/
def Dropped (s : AsyncInfo) : Prop := s.semaFree = false ∧ s.bufLocked = false

/-- What the sending of a request leaves. -/
def Sent (inProgress : Bool) (s : AsyncInfo) : Prop :=
  (inProgress = true → Held s) ∧ (inProgress = false → Dropped s)

/-- What a call of one of the four functions leaves. -/
def Left (inProgress : Bool) (s : AsyncInfo) : Prop :=
  (inProgress = true → Held s) ∧ (inProgress = false → s.Ready)

theorem acquire_of_ready {s : AsyncInfo} (h : s.Ready) :
    acquire false s =
      .ok ((), { s with semaFree := false, bufLocked := true, tlsSharedBuf := true }) := by
  obtain ⟨hsema, hbuf⟩ := h
  simp [acquire, osSemaWaitImmediate, tlsSharedBufGetHttpsPost, bind, StateT.bind, Except.bind,
    hsema, hbuf]

/-- A check while relaying is enabled does not return. -/
theorem ensures_acquire_enabled {P : AsyncInfo → Prop} :
    Ensures P (acquire true) fun _ _ => False := by
  refine Ensures.bind (Q := fun _ _ => True) (fun _ _ _ _ _ => trivial) fun _ => ?_
  exact Ensures.throw _

theorem ensures_acquire (relayingViaHttpEnabled : Bool) :
    Ensures AsyncInfo.Ready (acquire relayingViaHttpEnabled) fun _ => Held := by
  cases relayingViaHttpEnabled with
  | false =>
    intro s hs a s' hrun
    rw [acquire_of_ready hs] at hrun
    injection hrun with hrun
    injection hrun with _ hs'
    rw [← hs']
    exact ⟨rfl, rfl, rfl⟩
  | true => exact ensures_acquire_enabled.mono (fun _ h => h) fun _ _ h => h.elim

theorem ensures_unlock :
    Ensures Held tlsSharedBufUnlockHttpsPost fun _ => Dropped := by
  rintro s ⟨hsema, -, hbuf⟩ a s' hrun
  rw [tlsSharedBufUnlockHttpsPost, if_pos hbuf] at hrun
  injection hrun with hrun
  injection hrun with _ hs'
  rw [← hs']
  exact ⟨hsema, rfl⟩

theorem ensures_freeData : Ensures Held httpAsyncInfoFreeData fun _ => Dropped := by
  refine Ensures.bind Ensures.get fun t => ?_
  dsimp only
  refine Ensures.ite (fun _ => ?_) fun hnull => ?_
  · exact Ensures.bind (ensures_unlock.mono (fun _ h => h.2) fun _ _ h => h) fun _ =>
      Ensures.keep fun _ hs => hs
  · -- the pointer of a request is not NULL
    rintro s ⟨rfl, hs⟩
    exact absurd hs.2.2 hnull

theorem ensures_cleanup : Ensures Held espHttpClientCleanup fun _ => Held :=
  Ensures.keep fun _ hs => hs

theorem ensures_clientInit (ok : Bool) : Ensures Held (espHttpClientInit ok) fun _ => Held :=
  Ensures.bind (Ensures.keep fun _ hs => hs) fun _ => Ensures.pure fun _ hs => hs

theorem ensures_configInit (certs : Certs) (path query : Bool) (e : ConfigEnv) :
    Ensures Held (httpClientConfigInit certs path query e) fun _ => Held := by
  refine Ensures.bind (Ensures.keep fun _ hs => hs) fun _ => ?_
  refine Ensures.ite (fun _ => Ensures.pure fun _ hs => hs) fun _ =>
    Ensures.ite (fun _ => Ensures.pure fun _ hs => hs) fun _ =>
    Ensures.ite (fun _ => Ensures.pure fun _ hs => hs) fun _ => Ensures.pure fun _ hs => hs

theorem ensures_configInitForHttpTarget (p : SendAdvsParams) (e : AdvsEnv) :
    Ensures Held (httpClientConfigInitForHttpTarget p e) fun _ => Held :=
  Ensures.ite (fun _ => Ensures.pure fun _ hs => hs) fun _ =>
    Ensures.ite (fun _ => Ensures.pure fun _ hs => hs) fun _ =>
    Ensures.ite (fun _ => Ensures.pure fun _ hs => hs) fun _ => ensures_configInit _ _ _ _

theorem ensures_sendAsync (e : SendEnv) : Ensures Held (httpSendAsync e) fun _ => Held := by
  refine Ensures.ite (fun _ => Ensures.pure fun _ hs => hs) fun _ =>
    Ensures.ite (fun _ => ?_) fun _ => Ensures.pure fun _ hs => hs
  exact Ensures.bind (Ensures.keep fun _ hs => hs) fun _ =>
    Ensures.bind ensures_cleanup fun _ => Ensures.pure fun _ hs => hs

/-- A request that cannot be sent is ended by `http_async_info_free_data`. -/
theorem ensures_giveUp :
    Ensures Held (do httpAsyncInfoFreeData; pure false : Prog Bool) Sent :=
  Ensures.bind ensures_freeData fun _ =>
    Ensures.pure fun _ hs => ⟨fun h => absurd h (by simp), fun _ => hs⟩

theorem ensures_inProgress : Ensures Held (pure true : Prog Bool) Sent :=
  Ensures.pure fun _ hs => ⟨fun _ => hs, fun h => absurd h (by simp)⟩

theorem ensures_sendAdvs (cfg : Http) (p : SendAdvsParams) (e : AdvsEnv) :
    Ensures Held (httpSendAdvsInternal cfg p e) Sent := by
  refine Ensures.bind (Ensures.keep fun _ hs => hs) fun _ => ?_
  refine Ensures.ite (fun _ => Ensures.throw _) fun _ => ?_
  refine Ensures.bind (ensures_configInitForHttpTarget p e) fun _ => ?_
  refine Ensures.ite (fun _ => ensures_giveUp) fun _ => ?_
  refine Ensures.bind (ensures_clientInit _) fun _ => ?_
  refine Ensures.ite (fun _ => ensures_giveUp) fun _ =>
    Ensures.ite (fun _ => ensures_giveUp) fun _ => ?_
  refine Ensures.bind (ensures_sendAsync _) fun _ => ?_
  exact Ensures.ite (fun _ => Ensures.bind ensures_cleanup fun _ => ensures_giveUp)
    fun _ => ensures_inProgress

theorem ensures_sendStatistics (client server : Bool) {e : StatEnv}
    (hcreated : e.statusCreated = true) :
    Ensures Held (httpSendStatisticsInternal client server e) Sent := by
  refine Ensures.bind (Ensures.keep fun _ hs => hs) fun _ => ?_
  refine Ensures.ite (fun h => absurd h (by simp [hcreated])) fun _ => ?_
  refine Ensures.bind (ensures_configInit _ _ _ _) fun _ => ?_
  refine Ensures.ite (fun _ => ensures_giveUp) fun _ => ?_
  refine Ensures.bind (ensures_clientInit _) fun _ => ?_
  refine Ensures.ite (fun _ => ensures_giveUp) fun _ => ?_
  refine Ensures.bind (ensures_sendAsync _) fun _ => ?_
  exact Ensures.ite (fun _ => Ensures.bind ensures_cleanup fun _ => ensures_giveUp)
    fun _ => ensures_inProgress

theorem ensures_signal : Ensures Dropped osSemaSignal fun _ => AsyncInfo.Ready :=
  Ensures.update fun _ hs => ⟨rfl, hs.2⟩

/-- A request that the function waits for is ended before the function returns. -/
theorem ensures_wait (resp : Relaying.HttpRespCode) :
    Ensures Held (waitUntilAsyncReqCompletedAndGenResp resp) fun _ => Dropped :=
  Ensures.bind ensures_cleanup fun _ => Ensures.bind ensures_freeData fun _ =>
    Ensures.pure fun _ hs => hs

/-- The end of `http_post_advs` and `http_post_stat`. -/
theorem ensures_return (ok : Bool) :
    Ensures (Sent ok)
      (if !ok then do osSemaSignal; pure false else pure true : Prog Bool) Left := by
  cases ok with
  | false =>
    refine Ensures.mono (P := Dropped) ?_ (fun _ hs => hs.2 rfl) fun _ _ h => h
    exact Ensures.bind ensures_signal fun _ =>
      Ensures.pure fun _ hs => ⟨fun h => absurd h (by simp), fun _ => hs⟩
  | true => exact Ensures.pure fun _ hs => ⟨hs.1, fun h => absurd h (by simp)⟩

/-! ## Requests -/

theorem ensures_postAdvs (flagPostToRuuvi : Bool) (cfg : Http) (e : AdvsEnv) :
    Ensures AsyncInfo.Ready (httpPostAdvs flagPostToRuuvi cfg e) Left := by
  refine Ensures.bind (ensures_acquire _) fun _ =>
    Ensures.bind (ensures_sendAdvs _ _ _) fun ok => ?_
  exact ensures_return ok

theorem ensures_postStat (client server : Bool) {e : StatEnv} (hcreated : e.statusCreated = true) :
    Ensures AsyncInfo.Ready (httpPostStat client server e) Left := by
  refine Ensures.bind (ensures_acquire _) fun _ =>
    Ensures.bind (ensures_sendStatistics _ _ hcreated) fun ok => ?_
  exact ensures_return ok

/-- The end of the two checks. -/
theorem ensures_checkReturn (resp : Relaying.HttpRespCode) :
    Ensures Dropped (do osSemaSignal; pure resp : Prog _) fun _ => AsyncInfo.Ready :=
  Ensures.bind ensures_signal fun _ => Ensures.pure fun _ hs => hs

/-- What a check does after the request has been sent or has failed. -/
theorem ensures_checkSent (ok : Bool) (resp : Relaying.HttpRespCode) :
    Ensures (Sent ok)
      (if !ok then pure 500 else waitUntilAsyncReqCompletedAndGenResp resp : Prog _)
      fun _ => Dropped := by
  cases ok with
  | false => exact Ensures.pure fun _ hs => hs.2 rfl
  | true => exact (ensures_wait resp).mono (fun _ hs => hs.1 rfl) fun _ _ h => h

theorem ensures_checkPostAdvs {p : HttpCheckParams} {e : CheckAdvsEnv}
    (h : (Request.checkPostAdvs p e).Prepared) :
    Ensures AsyncInfo.Ready (httpCheckPostAdvs p e) fun _ => AsyncInfo.Ready := by
  rcases h with henabled | ⟨hallocated, hparams⟩
  · unfold httpCheckPostAdvs
    rw [henabled]
    exact Ensures.bind ensures_acquire_enabled fun _ _ hfalse => hfalse.elim
  · refine Ensures.bind (ensures_acquire _) fun _ => ?_
    refine Ensures.bind (Q := fun _ => Dropped) ?_ ensures_checkReturn
    refine Ensures.ite (fun hnone => absurd hnone (by simp [hallocated])) fun _ => ?_
    unfold httpCheckPostAdvsInternal3
    obtain ⟨cfg, hcfg⟩ := Option.isSome_iff_exists.mp hparams
    simp only [hcfg]
    exact Ensures.bind (ensures_sendAdvs _ _ _) fun ok => ensures_checkSent ok e.resp

theorem ensures_checkPostStat {p : HttpCheckParams} {e : CheckStatEnv}
    (h : (Request.checkPostStat p e).Prepared) :
    Ensures AsyncInfo.Ready (httpCheckPostStat p e) fun _ => AsyncInfo.Ready := by
  rcases h with henabled | ⟨hallocated, hparams, hstat, hcreated⟩
  · unfold httpCheckPostStat
    rw [henabled]
    exact Ensures.bind ensures_acquire_enabled fun _ _ hfalse => hfalse.elim
  · refine Ensures.bind (ensures_acquire _) fun _ => ?_
    refine Ensures.bind (Q := fun _ => Dropped) ?_ ensures_checkReturn
    refine Ensures.ite (fun hnone => absurd hnone (by simp [hallocated])) fun _ => ?_
    unfold httpCheckPostStatInternal3
    obtain ⟨cfg, hcfg⟩ := Option.isSome_iff_exists.mp hparams
    simp only [hcfg]
    refine Ensures.ite (fun hnone => absurd hnone (by simp [hstat])) fun _ => ?_
    exact Ensures.bind (ensures_sendStatistics _ _ hcreated) fun ok => ensures_checkSent ok e.resp

theorem left_of_ready {s : AsyncInfo} (h : s.Ready) : Left false s :=
  ⟨fun hf => absurd hf (by simp), fun _ => h⟩

theorem ensures_start {r : Request} (h : r.Prepared) : Ensures AsyncInfo.Ready r.start Left := by
  cases r with
  | postAdvs flagPostToRuuvi cfg e => exact ensures_postAdvs flagPostToRuuvi cfg e
  | checkPostAdvs p e =>
    exact Ensures.bind (ensures_checkPostAdvs h) fun _ => Ensures.pure fun _ => left_of_ready
  | postStat client server e => exact ensures_postStat client server h
  | checkPostStat p e =>
    exact Ensures.bind (ensures_checkPostStat h) fun _ => Ensures.pure fun _ => left_of_ready

/-! ## The calls that follow -/

/-- The end of a request in progress. -/
theorem ensures_end :
    Ensures Held (do espHttpClientCleanup; httpAsyncInfoFreeData; osSemaSignal : Prog Unit)
      fun _ => AsyncInfo.Ready :=
  Ensures.bind ensures_cleanup fun _ => Ensures.bind ensures_freeData fun _ => ensures_signal

theorem ensures_poll (sameTask : Bool) (err : Perform) :
    Ensures Held (httpAsyncPoll sameTask err) fun completed => Left !completed := by
  refine Ensures.ite (fun _ => Ensures.throw _) fun _ => ?_
  refine Ensures.ite (fun _ => ?_) fun _ => Ensures.ite (fun _ => Ensures.throw _) fun _ => ?_
  · exact Ensures.pure fun _ hs => ⟨fun _ => hs, fun h => absurd h (by simp)⟩
  · exact Ensures.bind ensures_cleanup fun _ => Ensures.bind ensures_freeData fun _ =>
      Ensures.bind ensures_signal fun _ => Ensures.pure fun _ => left_of_ready

theorem ensures_abort (sameTask : Bool) :
    Ensures Held (httpAbortAnyReqDuringProcessing sameTask) fun _ => AsyncInfo.Ready := by
  refine Ensures.bind Ensures.get fun t => Ensures.ite (fun hfree => ?_) fun _ => ?_
  · -- the semaphore is taken while a request is in progress
    rintro s ⟨rfl, hs⟩
    exact absurd hfree (by simp [hs.1])
  · refine Ensures.ite (fun _ => Ensures.throw _) fun _ => ?_
    exact ensures_end.mono (fun _ h => h.2) fun _ _ h => h

/-- A request stays as it is, or is ended. -/
theorem ensures_call (act : Act) : Ensures Held act.call Left := by
  cases act with
  | poll sameTask err =>
    exact Ensures.bind (ensures_poll sameTask err) fun _ => Ensures.pure fun _ hs => hs
  | abort sameTask =>
    exact Ensures.bind (ensures_abort sameTask) fun _ => Ensures.pure fun _ => left_of_ready

/-- What is done with the result of a step. -/
theorem ensures_continue {inProgress : Bool} {m : Prog Bool} (hm : Ensures Held m Left) :
    Ensures (Left inProgress) (if inProgress then m else pure false) Left := by
  cases inProgress with
  | false => exact Ensures.pure fun _ hs => hs
  | true => exact hm.mono (fun _ hs => hs.1 rfl) fun _ _ h => h

theorem ensures_follow (acts : List Act) : Ensures Held (follow acts) Left := by
  induction acts with
  | nil => exact Ensures.pure fun _ hs => ⟨fun _ => hs, fun h => absurd h (by simp)⟩
  | cons act acts ih => exact Ensures.bind (ensures_call act) fun _ => ensures_continue ih

theorem ensures_run {r : Request} (h : r.Prepared) (acts : List Act) :
    Ensures AsyncInfo.Ready (r.run acts) Left :=
  Ensures.bind (ensures_start h) fun _ => ensures_continue (ensures_follow acts)

/-! ## Requests that are not prepared -/

/-- The state after `acquire`. -/
def AsyncInfo.acquired (s : AsyncInfo) : AsyncInfo :=
  { s with semaFree := false, bufLocked := true, tlsSharedBuf := true }

/-- Without the JSON, the function returns and the buffer stays locked. -/
theorem sendStatistics_of_not_created (client server : Bool) {e : StatEnv}
    (hcreated : e.statusCreated = false) (s : AsyncInfo) :
    httpSendStatisticsInternal client server e s.acquired =
      .ok (false, { s.acquired with recipient := .stats, useJsonStreamGen := false,
                                    select := false }) := by
  unfold httpSendStatisticsInternal
  simp only [hcreated, Bool.not_false, if_true]
  rfl

theorem checkPostAdvs_leaks {p : HttpCheckParams} {e : CheckAdvsEnv} {s : AsyncInfo}
    (h : ¬(Request.checkPostAdvs p e).Prepared) (hs : s.Ready) :
    ∃ code s', httpCheckPostAdvs p e s = .ok (code, s') ∧ s'.bufLocked = true := by
  simp only [Request.Prepared, not_or, not_and, Bool.not_eq_true] at h
  obtain ⟨hrelaying, hcfg⟩ := h
  have hinner : ∃ code, httpCheckPostAdvsInternal2 p e s.acquired = .ok (code, s.acquired) := by
    unfold httpCheckPostAdvsInternal2 httpCheckPostAdvsInternal3
    cases hallocated : e.cfgAllocated with
    | false => exact ⟨500, rfl⟩
    | true =>
      have hnone : checkPostAdvsCfg p = none := by simpa using hcfg hallocated
      rw [hnone]
      exact ⟨400, rfl⟩
  obtain ⟨code, hinner⟩ := hinner
  refine ⟨code, { s.acquired with semaFree := true }, ?_, rfl⟩
  unfold httpCheckPostAdvs
  rw [hrelaying, run_bind_of_ok (acquire_of_ready hs)]
  exact run_bind_of_ok hinner

theorem checkPostStat_leaks {p : HttpCheckParams} {e : CheckStatEnv} {s : AsyncInfo}
    (h : ¬(Request.checkPostStat p e).Prepared) (hs : s.Ready) :
    ∃ code s', httpCheckPostStat p e s = .ok (code, s') ∧ s'.bufLocked = true := by
  simp only [Request.Prepared, not_or, not_and, Bool.not_eq_true] at h
  obtain ⟨hrelaying, hcfg⟩ := h
  have hinner : ∃ code t, httpCheckPostStatInternal2 p e s.acquired = .ok (code, t) ∧
      t.bufLocked = true := by
    unfold httpCheckPostStatInternal2 httpCheckPostStatInternal3
    cases hallocated : e.cfgAllocated with
    | false => exact ⟨500, _, rfl, rfl⟩
    | true =>
      cases hparams : checkPostStatCfg p with
      | none => exact ⟨400, _, rfl, rfl⟩
      | some cfg =>
        cases hstat : e.statInfo with
        | false => exact ⟨500, _, rfl, rfl⟩
        | true =>
          have hcreated : e.send.statusCreated = false :=
            hcfg hallocated (by simp [hparams]) hstat
          exact ⟨500, _, run_bind_of_ok (sendStatistics_of_not_created _ _ hcreated s), rfl⟩
  obtain ⟨code, t, hinner, hlocked⟩ := hinner
  refine ⟨code, { t with semaFree := true }, ?_, hlocked⟩
  unfold httpCheckPostStat
  rw [hrelaying, run_bind_of_ok (acquire_of_ready hs)]
  exact run_bind_of_ok hinner

theorem start_leaks {r : Request} {s : AsyncInfo} (h : ¬r.Prepared) (hs : s.Ready) :
    ∃ s', r.start s = .ok (false, s') ∧ s'.bufLocked = true := by
  cases r with
  | postAdvs flagPostToRuuvi cfg e => exact absurd trivial h
  | checkPostAdvs p e =>
    obtain ⟨code, s', hrun, hlocked⟩ := checkPostAdvs_leaks h hs
    exact ⟨s', run_bind_of_ok hrun, hlocked⟩
  | postStat client server e =>
    have hcreated : e.statusCreated = false := by simpa [Request.Prepared] using h
    have hrun : httpPostStat client server e s = (do
        if !(← httpSendStatisticsInternal client server e) then
          osSemaSignal
          pure false
        else pure true : Prog Bool) s.acquired := run_bind_of_ok (acquire_of_ready hs)
    rw [run_bind_of_ok (sendStatistics_of_not_created client server hcreated s)] at hrun
    exact ⟨_, hrun, rfl⟩
  | checkPostStat p e =>
    obtain ⟨code, s', hrun, hlocked⟩ := checkPostStat_leaks h hs
    exact ⟨s', run_bind_of_ok hrun, hlocked⟩

/-! ## The balance -/

/-- A request gives back the semaphore and the buffer if and only if its function gets as far as
to prepare it. -/
theorem request_releases_iff (r : Request) : r.Releases ↔ r.Prepared := by
  constructor
  · intro h
    by_contra hnot
    obtain ⟨s', hstart, hlocked⟩ := start_leaks hnot (s := idle) ⟨rfl, rfl⟩
    have hready := h.ready idle [] s' ⟨rfl, rfl⟩ (run_bind_of_ok hstart)
    rw [hready.2] at hlocked
    exact absurd hlocked (by simp)
  · intro h
    have hready : ∀ s acts s', s.Ready → r.run acts s = .ok (false, s') → s'.Ready :=
      fun s acts s' hs hrun => (ensures_run h acts s hs false s' hrun).2 rfl
    refine ⟨hready, fun s acts s' hs hrun => ?_⟩
    exact ⟨_, acquire_of_ready (hready s acts s' hs hrun)⟩

/-- A check of a URL for statistics, with basic authentication but without a user. -/
def checkWithoutUser : Request :=
  .checkPostStat
    { url := some "https://example.com/status".toList
      authType := .basic
      user := none
      pass := some []
      useSslClientCert := false
      useSslServerCert := false
      useExtraHttpPath := false
      useExtraHttpQuery := false
      useExtraHttpHeaders := false }
    { relayingViaHttpEnabled := false
      cfgAllocated := true
      statInfo := true
      send := ⟨true, true, true, true, ⟨true, false, false⟩, true, ⟨true, true⟩⟩
      resp := 200 }

/-- The check is answered with an error, and the next post fails its assertion. -/
theorem checkWithoutUser_keeps_buffer :
    ∃ s', checkWithoutUser.run [] idle = .ok (false, s') ∧ s'.semaFree = true ∧
      s'.bufLocked = true ∧ acquire false s' = .error .tlsSharedBuf ∧
      ¬checkWithoutUser.Releases := by
  have hrun : checkWithoutUser.run [] idle =
      .ok (false, { idle with bufLocked := true, tlsSharedBuf := true }) := by rfl
  refine ⟨_, hrun, rfl, rfl, rfl, fun h => ?_⟩
  have hready := h.ready idle [] _ ⟨rfl, rfl⟩ hrun
  exact absurd hready.2 (by simp)

end HttpPost
end RuuviGateway
