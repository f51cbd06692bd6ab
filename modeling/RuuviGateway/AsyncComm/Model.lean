import RuuviGateway.Lib.TransitionSystem

/-!
# Asynchronous communication of the `adv_post` task

`adv_post_async_comm.c`, the signal handlers of `adv_post_signals.c` that share
its state, and the parts of `http.c`, `http_post_advs.c`, `http_post_stat.c` and
`http_post_event_handler.c` that a post goes through.

## The state

`AdvPostState` is `adv_post_state_t`.  `State` adds the globals of
`adv_post_async_comm.c`; the HTTP-server mutex with its owner; the HTTP async
semaphore, which is taken exactly while a request is being processed and is
modelled by that request (`httpReq`); the task recorded in `p_task`; and the keys
and periods that a response header can change.

`badUnlock` records an `http_server_mutex_unlock` by a task that does not hold
the mutex, `headerLog` every header of a response with the credentials before and
after it, and `published` what was passed to `mqtt_publish_adv`.  No handler reads
them.

## The environment

What a handler asks others is in `Env`: the configuration, the time, the outcome
of allocations and of sending.  The headers that arrive while
`esp_http_client_perform` runs are part of the outcome.  A handler returns `none`
where an `assert` of the source fails.
-/

namespace RuuviGateway
namespace AsyncComm

/-- `adv_post_action_e`. -/
inductive Action where
  | none
  | postAdvsToRuuvi
  | postAdvsToCustom
  | postStats
  | postAdvsToMqtt
  deriving DecidableEq, Repr

/-- The actions that go through the HTTP client. -/
def Action.isHttp : Action → Bool
  | .postAdvsToRuuvi | .postAdvsToCustom | .postStats => true
  | .none | .postAdvsToMqtt => false

/-- Where a post goes: `http_post_recipient_e`. -/
inductive Target where
  | advs1
  | advs2
  | stats
  deriving DecidableEq, Repr

/-- The tasks that post. -/
inductive Task where
  | advPost
  | httpServer
  deriving DecidableEq, Repr

/-- A request that is being processed. -/
structure Request where
  target : Target
  task : Task
  deriving DecidableEq, Repr

/-- The HMAC keys and the default posting periods. -/
structure Creds where
  keyRuuvi : String
  keyCustom : String
  keyStats : String
  /-- `default_interval_ms` of `adv1_post_timer`. -/
  period1 : Nat
  /-- `default_interval_ms` of `adv2_post_timer`. -/
  period2 : Nat
  deriving DecidableEq, Repr

/-- A response header as `http_post_event_handler_on_header` tells them apart; the
value of `X-Ruuvi-Gateway-Rate` is the number `os_str_to_uint32_cptr` reads. -/
inductive Header where
  | ruuviHmacKey (value : String)
  | gatewayRate (periodSeconds : Nat)
  | other
  deriving DecidableEq, Repr

/-- A header that was handled: the target of the request it answers, and the
credentials before and after. -/
structure HeaderEvent where
  target : Target
  header : Header
  before : Creds
  after : Creds
  deriving DecidableEq, Repr

/-- `adv_post_state_t`. -/
structure AdvPostState where
  flagPrimaryTimeSyncIsDone : Bool
  flagNetworkConnected : Bool
  flagAsyncCommInProgress : Bool
  flagNeedToSendAdvs1 : Bool
  flagNeedToSendAdvs2 : Bool
  flagNeedToSendStatistics : Bool
  flagNeedToSendMqttPeriodic : Bool
  flagRelayingEnabled : Bool
  flagUseTimestamps : Bool
  flagStop : Bool
  deriving DecidableEq, Repr

/-- The state of the task and of what it shares with others.  `ρ` is the type of
reports. -/
structure State (ρ : Type) where
  advPost : AdvPostState
  nonce : UInt32
  action : Action
  /-- `g_p_adv_post_reports_mqtt`, the snapshot that is being published. -/
  reportsMqtt : Option (List ρ)
  reportsMqttIdx : Nat
  reportsMqttTimestamp : Nat
  /-- What was passed to `mqtt_publish_adv`, newest first; `none` is a table entry
  behind the last report. -/
  published : List (Option ρ)
  /-- The owner of `http_server_mutex`. -/
  mutex : Option Task
  badUnlock : Bool
  /-- The request that holds `p_http_async_sema`. -/
  httpReq : Option Request
  /-- `p_http_async_info->p_task`. -/
  pTask : Option Task
  /-- `gw_status_is_relaying_via_http_enabled()`. -/
  gwRelayingViaHttp : Bool
  creds : Creds
  headerLog : List HeaderEvent
  /-- `ADV_POST_SIG_DO_ASYNC_COMM` is pending. -/
  sigDoAsyncComm : Bool
  /-- The one-shot timer that sends it is running. -/
  timerDoAsyncComm : Bool

/-- How `http_post_advs` or `adv_post_statistics_do_send` ends, the assertion on the
semaphore apart. -/
inductive SendOutcome where
  /-- It fails before the request is sent. -/
  | failed
  /-- The first `esp_http_client_perform` fails, after these headers. -/
  | sendFailed (headers : List Header)
  /-- The request is in progress, after these headers. -/
  | inProgress (headers : List Header)
  deriving DecidableEq, Repr

/-- What a handler learns from its environment. -/
structure Env (ρ : Type) where
  timeIsSynchronized : Bool
  mqttConnected : Bool
  useHttpRuuvi : Bool
  useHttp : Bool
  /-- `gw_cfg_get_http_period()`. -/
  httpPeriod : Nat
  useHttpStat : Bool
  useMqtt : Bool
  ntpUse : Bool
  curTime : Nat
  /-- The allocations of `adv_post_do_retransmission` and of `gw_cfg_get_http_copy`. -/
  allocReportsOk : Bool
  cfgCopyOk : Bool
  /-- The allocation in `adv_post_on_gw_cfg_change_handle_scan_filter`. -/
  allocScanFilterOk : Bool
  /-- What `adv_table_read_retransmission_listK_and_clear` returns. -/
  snapshot : List ρ
  send : SendOutcome
  /-- The headers that `http_async_poll` receives, and whether the request is done. -/
  pollHeaders : List Header
  pollDone : Bool
  mqttPublishOk : Bool

variable {ρ : Type}

/-! ## Response headers -/

/-- `HMAC_SHA256_MAX_KEY_SIZE`. -/
def hmacSha256MaxKeySize : Nat := 64

/-- `ADV_POST_DEFAULT_INTERVAL_SECONDS`. -/
def advPostDefaultIntervalSeconds : Nat := 10

/-- `TIME_UNITS_MS_PER_SECOND`. -/
def msPerSecond : Nat := 1000

/-- `hmac_sha256_set_key_bin`: a key that is too long is refused. -/
def setKeyBin (stored key : String) : String :=
  if hmacSha256MaxKeySize ≤ key.utf8ByteSize then stored else key

/-- `adv_post_set_hmac_sha256_key`. -/
def setHmacSha256Key (action : Action) (key : String) (c : Creds) : Creds :=
  match action with
  | .none => c
  | .postAdvsToRuuvi => { c with keyRuuvi := setKeyBin c.keyRuuvi key }
  | .postAdvsToCustom => { c with keyCustom := setKeyBin c.keyCustom key }
  | .postStats => { c with keyStats := setKeyBin c.keyStats key }
  | .postAdvsToMqtt => c

/-- `adv_post_set_default_period`. -/
def setDefaultPeriod (action : Action) (periodMs : Nat) (c : Creds) : Creds :=
  match action with
  | .none => c
  | .postAdvsToRuuvi => { c with period1 := periodMs }
  | .postAdvsToCustom => { c with period2 := periodMs }
  | .postStats => c
  | .postAdvsToMqtt => c

/-- The period that `X-Ruuvi-Gateway-Rate` stands for: a value outside 1..3600
means the default. -/
def gatewayRatePeriodSeconds (periodSeconds : Nat) : Nat :=
  if periodSeconds = 0 ∨ 60 * 60 < periodSeconds then advPostDefaultIntervalSeconds
  else periodSeconds

/-- `http_post_event_handler_on_header`, on the credentials. -/
def onHeader (action : Action) (h : Header) (c : Creds) : Creds :=
  match h with
  | .ruuviHmacKey value => setHmacSha256Key action value c
  | .gatewayRate periodSeconds =>
      setDefaultPeriod action (gatewayRatePeriodSeconds periodSeconds * msPerSecond) c
  | .other => c

/-- A header of the response to a request to `target` arrives. -/
def recvHeader (target : Target) (s : State ρ) (h : Header) : State ρ :=
  let after := onHeader s.action h s.creds
  { s with
    creds := after
    headerLog := ⟨target, h, s.creds, after⟩ :: s.headerLog }

/-- Several headers of one response. -/
def recvHeaders (target : Target) (hs : List Header) (s : State ρ) : State ρ :=
  hs.foldl (recvHeader target) s

/-! ## The HTTP-server mutex and the timer -/

/-- `http_server_mutex_try_lock`, for a lock that is not recursive. -/
def httpServerMutexTryLock (task : Task) (s : State ρ) : Option (State ρ) :=
  if s.mutex = none then some { s with mutex := some task } else none

/-- `http_server_mutex_unlock`. -/
def httpServerMutexUnlock (task : Task) (s : State ρ) : State ρ :=
  { s with mutex := none, badUnlock := s.badUnlock || decide (s.mutex ≠ some task) }

/-- `adv_post_timers_start_timer_sig_do_async_comm`. -/
def startTimerSigDoAsyncComm (s : State ρ) : State ρ :=
  { s with timerDoAsyncComm := true }

/-- `adv_post_timers_stop_timer_sig_do_async_comm`. -/
def stopTimerSigDoAsyncComm (s : State ρ) : State ρ :=
  { s with timerDoAsyncComm := false }

/-- `adv_post_signals_send_sig(ADV_POST_SIG_DO_ASYNC_COMM)`. -/
def sendSigDoAsyncComm (s : State ρ) : State ρ :=
  { s with sigDoAsyncComm := true }

/-- Change `adv_post_state_t`. -/
def State.mapAdvPost (f : AdvPostState → AdvPostState) (s : State ρ) : State ρ :=
  { s with advPost := f s.advPost }

/-! ## Sending -/

/-- `adv_post_set_adv_post_http_action`, which `http_send_advs_internal` calls before it
sends; `http_send_statistics_internal` has no such call. -/
def setAdvPostHttpAction (target : Target) (s : State ρ) : State ρ :=
  match target with
  | .advs1 => { s with action := .postAdvsToRuuvi }
  | .advs2 => { s with action := .postAdvsToCustom }
  | .stats => s

/-- `http_post_advs`, `http_post_stat` and the first half of `http_check_post_advs` and
`http_check_post_stat`: take the semaphore, which asserts that no other request is
being processed, and send.  `true` if the request is in progress. -/
def httpPost (task : Task) (target : Target) (outcome : SendOutcome) (s : State ρ) :
    Option (State ρ × Bool) :=
  if s.httpReq.isSome then none
  else
    let s := { s with pTask := some task }
    match outcome with
    | .failed => some (s, false)
    | .sendFailed hs => some (recvHeaders target hs (setAdvPostHttpAction target s), false)
    | .inProgress hs =>
        some
          ({ recvHeaders target hs (setAdvPostHttpAction target s) with
            httpReq := some ⟨target, task⟩ }, true)

/-- `adv_post_retransmit_advs`. -/
def retransmitAdvs (env : Env ρ) (target : Target) (s : State ρ) : Option (State ρ × Bool) :=
  if env.cfgCopyOk then httpPost .advPost target env.send s else some (s, false)

/-- `adv_post_do_retransmission`. -/
def doRetransmission (env : Env ρ) (action : Action) (s : State ρ) : Option (State ρ × Bool) :=
  if !env.allocReportsOk then some (s, false)
  else
    match action with
    | .none => none
    | .postAdvsToRuuvi => retransmitAdvs env .advs1 s
    | .postAdvsToCustom => retransmitAdvs env .advs2 s
    | .postStats => none
    | .postAdvsToMqtt =>
        some
          ({ s with
            reportsMqtt := some env.snapshot
            reportsMqttIdx := 0
            reportsMqttTimestamp := if env.ntpUse then env.curTime else 0 }, true)

/-- `adv_post_statistics_do_send`. -/
def statisticsDoSend (env : Env ρ) (s : State ρ) : Option (State ρ × Bool) :=
  if env.cfgCopyOk then httpPost .advPost .stats env.send s else some (s, false)

/-- The common part of the three functions that start an HTTP post: lock, send, and
unlock again if sending failed.  `send` is the sending, `clear` takes the request
flag back and `next` is what is done to the nonce. -/
def startHttp (action : Action) (send : State ρ → Option (State ρ × Bool))
    (clear : AdvPostState → AdvPostState) (next : UInt32 → UInt32) (s : State ρ) :
    Option (State ρ) :=
  match httpServerMutexTryLock .advPost s with
  | none => some s
  | some s =>
      match send { s with action := action } with
      | none => none
      | some (s, false) =>
          some (httpServerMutexUnlock .advPost ({ s with action := .none }.mapAdvPost clear))
      | some (s, true) =>
          some ({ s with nonce := next s.nonce }.mapAdvPost fun p =>
            { clear p with flagAsyncCommInProgress := true })

/-- The checks before advertisements are sent: the network is up and the time is
known if it is used. -/
def readyToSend (env : Env ρ) (s : State ρ) : Bool :=
  s.advPost.flagNetworkConnected && !(s.advPost.flagUseTimestamps && !env.timeIsSynchronized)

/-- `adv_post_do_async_comm_send_advs1`. -/
def sendAdvs1 (env : Env ρ) (s : State ρ) : Option (State ρ) :=
  if !readyToSend env s then some s
  else
    startHttp .postAdvsToRuuvi (doRetransmission env .postAdvsToRuuvi)
      (fun p => { p with flagNeedToSendAdvs1 := false }) (· + 1) s

/-- `adv_post_do_async_comm_send_advs2`. -/
def sendAdvs2 (env : Env ρ) (s : State ρ) : Option (State ρ) :=
  if !readyToSend env s then some s
  else
    startHttp .postAdvsToCustom (doRetransmission env .postAdvsToCustom)
      (fun p => { p with flagNeedToSendAdvs2 := false }) (· + 1) s

/-- `adv_post_do_async_comm_send_statistics`. -/
def sendStatistics (env : Env ρ) (s : State ρ) : Option (State ρ) :=
  if !env.useHttpStat then
    some (s.mapAdvPost fun p => { p with flagNeedToSendStatistics := false })
  else if !readyToSend env s then some s
  else
    startHttp .postStats (statisticsDoSend env)
      (fun p => { p with flagNeedToSendStatistics := false }) id s

/-- `adv_post_do_async_comm_start_sending_periodic_mqtt`. -/
def startSendingPeriodicMqtt (env : Env ρ) (s : State ρ) : Option (State ρ) :=
  let clear : State ρ → State ρ :=
    fun s => s.mapAdvPost fun p => { p with flagNeedToSendMqttPeriodic := false }
  if !env.useMqtt then some (clear s)
  else if !s.advPost.flagNetworkConnected then some (clear s)
  else if !env.mqttConnected then some (clear s)
  else if s.advPost.flagUseTimestamps && !env.timeIsSynchronized then some s
  else
    match doRetransmission env .postAdvsToMqtt { s with action := .postAdvsToMqtt } with
    | none => none
    | some (s, false) => some (clear { s with action := .none })
    | some (s, true) =>
        some (sendSigDoAsyncComm ((clear s).mapAdvPost fun p =>
          { p with flagAsyncCommInProgress := true }))

/-! ## Polling -/

/-- `http_async_poll`: `true` when the request is done, and then the semaphore is
released. -/
def httpAsyncPoll (env : Env ρ) (s : State ρ) : Option (State ρ × Bool) :=
  if s.pTask ≠ some .advPost then none
  else
    let s :=
      match s.httpReq with
      | some r => recvHeaders r.target env.pollHeaders s
      | none => s
    if env.pollDone then some ({ s with httpReq := none }, true) else some (s, false)

/-- `adv_post_do_async_comm_in_progress_mqtt`. -/
def inProgressMqtt (env : Env ρ) (s : State ρ) : Option (State ρ × Bool) :=
  match s.reportsMqtt with
  | none => none
  | some reports =>
      let s := { s with published := reports[s.reportsMqttIdx]? :: s.published }
      if !env.mqttPublishOk || decide (reports.length ≤ s.reportsMqttIdx + 1) then
        some ({ s with reportsMqtt := none, reportsMqttIdx := 0 }, true)
      else some ({ s with reportsMqttIdx := s.reportsMqttIdx + 1 }, false)

/-- The flag and the action after a completed HTTP post. -/
def clearCompleted (s : State ρ) : State ρ :=
  match s.action with
  | .postAdvsToRuuvi =>
      { s with action := .none }.mapAdvPost fun p => { p with flagNeedToSendAdvs1 := false }
  | .postAdvsToCustom =>
      { s with action := .none }.mapAdvPost fun p => { p with flagNeedToSendAdvs2 := false }
  | .postStats =>
      { s with action := .none }.mapAdvPost fun p => { p with flagNeedToSendStatistics := false }
  | _ => s

/-- `adv_post_do_async_comm_in_progress`: `true` when the action has ended. -/
def inProgress (env : Env ρ) (s : State ρ) : Option (State ρ × Bool) :=
  if s.action ≠ .postAdvsToMqtt then
    match httpAsyncPoll env s with
    | none => none
    | some (s, false) => some (startTimerSigDoAsyncComm s, false)
    | some (s, true) => some (httpServerMutexUnlock .advPost (clearCompleted s), true)
  else
    match inProgressMqtt env s with
    | none => none
    | some (s, false) => some (startTimerSigDoAsyncComm s, false)
    | some (s, true) => some (s, true)

/-- The second half of `adv_post_do_async_comm`: start what is requested. -/
def startRequested (env : Env ρ) (s : State ρ) : Option (State ρ) :=
  if !s.advPost.flagRelayingEnabled then some s
  else if s.advPost.flagNeedToSendAdvs1 then (sendAdvs1 env s).map startTimerSigDoAsyncComm
  else if s.advPost.flagNeedToSendAdvs2 then (sendAdvs2 env s).map startTimerSigDoAsyncComm
  else if s.advPost.flagNeedToSendStatistics then
    (sendStatistics env s).map startTimerSigDoAsyncComm
  else if s.advPost.flagNeedToSendMqttPeriodic then
    (startSendingPeriodicMqtt env s).map startTimerSigDoAsyncComm
  else some s

/-- `adv_post_do_async_comm`. -/
def doAsyncComm (env : Env ρ) (s : State ρ) : Option (State ρ) :=
  if s.advPost.flagAsyncCommInProgress then
    match inProgress env s with
    | none => none
    | some (s, false) => some s
    | some (s, true) =>
        startRequested env (s.mapAdvPost fun p => { p with flagAsyncCommInProgress := false })
  else startRequested env s

/-! ## The signal handlers -/

/-- The signals of `adv_post_handle_sig` that touch this state.  `other` stands for
those that do not: the watchdogs, the nRF52 and the green LED, `BLE_SCAN_CHANGED` and
`CFG_MODE_ACTIVATED`. -/
inductive Sig where
  | stop
  | networkDisconnected
  | networkConnected
  | timeSynchronized
  | retransmit
  | retransmit2
  | retransmitMqtt
  | sendStatistics
  | doAsyncComm
  | relayingModeChanged
  | gwCfgReady
  | gwCfgChangedRuuvi
  | cfgModeDeactivated
  | other
  deriving DecidableEq, Repr

/-- The common form of `adv_post_handle_sig_retransmit`, `_retransmit2`,
`_retransmit_mqtt` and `_send_statistics`. -/
def request (enabled : Bool) (set : AdvPostState → AdvPostState) (s : State ρ) : State ρ :=
  if s.advPost.flagRelayingEnabled && enabled then sendSigDoAsyncComm (s.mapAdvPost set) else s

/-- `http_abort_any_req_during_processing`. -/
def httpAbortAnyReqDuringProcessing (s : State ρ) : Option (State ρ) :=
  if s.httpReq.isSome && decide (s.pTask ≠ some .advPost) then none
  else some { s with httpReq := none }

/-- `adv_post_handle_sig_relaying_mode_changed`. -/
def handleRelayingModeChanged (s : State ρ) : Option (State ρ) :=
  let s := s.mapAdvPost fun p => { p with flagRelayingEnabled := s.gwRelayingViaHttp }
  if !s.advPost.flagRelayingEnabled && s.advPost.flagAsyncCommInProgress then
    (httpAbortAnyReqDuringProcessing (stopTimerSigDoAsyncComm s)).map fun s =>
      httpServerMutexUnlock .advPost
        (s.mapAdvPost fun p => { p with flagAsyncCommInProgress := false })
  else some s

/-- `adv_post_on_gw_cfg_change`, on this state. -/
def onGwCfgChange (env : Env ρ) (s : State ρ) : State ρ :=
  let s := s.mapAdvPost fun p => { p with flagUseTimestamps := env.ntpUse }
  if !env.allocScanFilterOk then s
  else
    let s := s.mapAdvPost fun p => { p with flagNeedToSendAdvs1 := env.useHttpRuuvi }
    let s := s.mapAdvPost fun p => { p with flagNeedToSendAdvs2 := env.useHttp }
    let s :=
      if env.useHttp then
        { s with creds := { s.creds with period2 := env.httpPeriod * msPerSecond } }
      else s
    let s := s.mapAdvPost fun p => { p with flagNeedToSendStatistics := env.useHttpStat }
    startTimerSigDoAsyncComm s

/-- `adv_post_handle_sig`. -/
def handleSig (env : Env ρ) : Sig → State ρ → Option (State ρ)
  | .stop, s => some (s.mapAdvPost fun p => { p with flagStop := true })
  | .networkDisconnected, s =>
      some (s.mapAdvPost fun p => { p with flagNetworkConnected := false })
  | .networkConnected, s => some (s.mapAdvPost fun p => { p with flagNetworkConnected := true })
  | .timeSynchronized, s =>
      some (s.mapAdvPost fun p => { p with flagPrimaryTimeSyncIsDone := true })
  | .retransmit, s =>
      some (request env.useHttpRuuvi (fun p => { p with flagNeedToSendAdvs1 := true }) s)
  | .retransmit2, s =>
      some (request env.useHttp (fun p => { p with flagNeedToSendAdvs2 := true }) s)
  | .retransmitMqtt, s =>
      some (request env.useMqtt (fun p => { p with flagNeedToSendMqttPeriodic := true }) s)
  | .sendStatistics, s =>
      some (request env.useHttpStat (fun p => { p with flagNeedToSendStatistics := true }) s)
  | .doAsyncComm, s => doAsyncComm env { s with sigDoAsyncComm := false }
  | .relayingModeChanged, s => handleRelayingModeChanged s
  | .gwCfgReady, s => some (onGwCfgChange env s)
  | .gwCfgChangedRuuvi, s => some (onGwCfgChange env s)
  | .cfgModeDeactivated, s => some (onGwCfgChange env s)
  | .other, s => some s

/-- The state when `adv_post_task` enters its loop. -/
def init (nonce : UInt32) (creds : Creds) : State ρ where
  advPost :=
    { flagPrimaryTimeSyncIsDone := false
      flagNetworkConnected := false
      flagAsyncCommInProgress := false
      flagNeedToSendAdvs1 := false
      flagNeedToSendAdvs2 := false
      flagNeedToSendStatistics := false
      flagNeedToSendMqttPeriodic := false
      flagRelayingEnabled := true
      flagUseTimestamps := false
      flagStop := false }
  nonce := nonce
  action := .none
  reportsMqtt := none
  reportsMqttIdx := 0
  reportsMqttTimestamp := 0
  published := []
  mutex := none
  badUnlock := false
  httpReq := none
  pTask := none
  gwRelayingViaHttp := true
  creds := creds
  headerLog := []
  sigDoAsyncComm := false
  timerDoAsyncComm := false

/-! ## The system -/

/-- The steps of the `adv_post` task and of what surrounds it. -/
inductive Act (ρ : Type) where
  /-- The task handles a signal. -/
  | handle (sig : Sig) (env : Env ρ)
  /-- The one-shot timer of `DO_ASYNC_COMM` fires. -/
  | timerFires
  /-- Another task suspends or resumes relaying via HTTP. -/
  | setRelayingViaHttp (enabled : Bool)
  /-- The HTTP server takes its mutex for an incoming connection. -/
  | serverLock
  | serverUnlock

/-- One step. -/
def step (s : State ρ) : Act ρ → Option (State ρ)
  | .handle sig env => handleSig env sig s
  | .timerFires =>
      if s.timerDoAsyncComm then some (sendSigDoAsyncComm { s with timerDoAsyncComm := false })
      else none
  | .setRelayingViaHttp enabled => some { s with gwRelayingViaHttp := enabled }
  | .serverLock => httpServerMutexTryLock .httpServer s
  | .serverUnlock =>
      if s.mutex = some .httpServer then some (httpServerMutexUnlock .httpServer s) else none

/-- The `adv_post` task from the start of its loop. -/
def system (ρ : Type) : TransitionSystem.System (State ρ) (Act ρ) where
  init s := ∃ nonce creds, s = init nonce creds
  step := step

end AsyncComm
end RuuviGateway
