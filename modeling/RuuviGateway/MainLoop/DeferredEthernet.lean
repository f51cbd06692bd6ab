import Mathlib.Logic.Function.Basic
import RuuviGateway.Lib.TransitionSystem

/-!
# The timer of the deferred activation of Ethernet

On the first boot after the configuration has been erased, Ethernet is started with a delay.
The timer for it is created before the network is initialised, started there if it is needed,
and stopped by two callbacks of the network: when Ethernet is disconnected by a command, and
when a client connects to the hotspot.  The main task stops and deletes the timer when it
handles `DEACTIVATE_CFG_MODE` for the first time, and sets the pointer to NULL.  The callbacks
do not look at the pointer, and they run in tasks of their own.

A call reads the pointer, and then the function is entered: these are two steps of a task, so
that the timer can be deleted in between.
-/

namespace RuuviGateway
namespace DeferredEthernet

open TransitionSystem

/-! ## The tasks -/

/-- The functions of `os_timer_sig.h` that are called with the timer. -/
inductive TimerFn where
  | start
  | stop
  | delete
  deriving DecidableEq

/-- The signals of the main task. -/
inductive Sig where
  | activateCfgMode
  | deactivateCfgMode
  | deferredEthernetActivation
  deriving DecidableEq

/-- Where the main task is: at the start of the timer in `network_subsystem_init`, in
`main_loop`, or in `main_task_handle_sig_deactivate_cfg_mode`. -/
inductive MainPc where
  | startRead
  | startCall (ptr : Bool)
  | idle
  | deactivate
  | stopRead
  | stopCall (ptr : Bool)
  | delete
  | clearPtr
  | finish
  deriving DecidableEq

/-- The callbacks of `network_subsystem.c` for commands and clients. -/
inductive Callback where
  | onConnectEthCmd
  | onDisconnectEthCmd
  | onDisconnectStaCmd
  | onApStaConnected
  deriving DecidableEq

/-- Where a task of the network is: the callback has begun, it reads the pointer for
`os_timer_sig_one_shot_stop`, it calls the function, or it has returned from it. -/
inductive CallbackPc where
  | idle
  | begun (cb : Callback)
  | stopRead (cb : Callback)
  | stopCall (cb : Callback) (ptr : Bool)
  | stopped (cb : Callback)
  deriving DecidableEq

/-- The pointer is about to be read. -/
def CallbackPc.reads : CallbackPc → Bool
  | .stopRead _ => true
  | _ => false

/-- The pointer has been read, and the function is about to be called. -/
def CallbackPc.calls : CallbackPc → Bool
  | .stopCall _ _ => true
  | _ => false

/-- The system, with the tasks of the network `ι`. -/
structure State (ι : Type) where
  /-- `g_p_timer_sig_deferred_ethernet_activation` is not NULL. -/
  ptr : Bool
  /-- The timer has not been deleted. -/
  live : Bool
  active : Bool
  /-- A function has been called with NULL, or with the timer after its deletion. -/
  badCall : Bool
  pc : MainPc
  callback : ι → CallbackPc
  sent : Sig → Bool
  cfgMode : Bool
  isWaitingAutoCfgByWps : Bool
  isWifiConnected : Bool
  isEthStarted : Bool

variable {ι : Type}

/-- What the handlers read of other modules. -/
structure Env where
  gwCfgIsEmpty : Bool
  useEth : Bool
  isStaConfigured : Bool
  isConnectedToEthernet : Bool

/-! ## The steps -/

/-- A function is called with the pointer that has been read. -/
def State.call (fn : TimerFn) (ptr : Bool) (s : State ι) : State ι :=
  if ptr && s.live then
    match fn with
    | .start => { s with active := true }
    | .stop => { s with active := false }
    | .delete => { s with active := false, live := false }
  else { s with badCall := true }

/-- The end of `main_task_handle_sig_deactivate_cfg_mode`. -/
def finishDeactivate (env : Env) (s : State ι) : State ι :=
  if !s.cfgMode then s
  else { s with
    cfgMode := env.gwCfgIsEmpty
    isWaitingAutoCfgByWps := false
    isEthStarted :=
      if env.gwCfgIsEmpty || env.useEth || !env.isStaConfigured then
        s.isEthStarted || !env.isConnectedToEthernet
      else s.isEthStarted }

/-- A step of the main task inside `network_subsystem_init` or the handler. -/
def mainStep (env : Env) (s : State ι) : Option (State ι) :=
  match s.pc with
  | .startRead => some { s with pc := .startCall s.ptr }
  | .startCall ptr => some { s.call .start ptr with pc := .idle }
  | .idle => none
  | .deactivate => some { s with pc := if s.ptr then .stopRead else .finish }
  | .stopRead => some { s with pc := .stopCall s.ptr }
  | .stopCall ptr => some { s.call .stop ptr with pc := .delete }
  | .delete => some { s.call .delete s.ptr with ptr := false, pc := .clearPtr }
  | .clearPtr => some { s with ptr := false, pc := .finish }
  | .finish => some { finishDeactivate env s with pc := .idle }

/-- `main_task_handle_sig`. -/
def handleSig (env : Env) (s : State ι) : Sig → State ι
  | .activateCfgMode =>
      if s.cfgMode then { s with isWaitingAutoCfgByWps := false } else { s with cfgMode := true }
  | .deactivateCfgMode => { s with pc := .deactivate }
  | .deferredEthernetActivation =>
      { s with isEthStarted := s.isEthStarted || !env.isConnectedToEthernet }

/-- A task of the network goes to another place. -/
def State.goto [DecidableEq ι] (i : ι) (pc : CallbackPc) (s : State ι) : State ι :=
  { s with callback := Function.update s.callback i pc }

/-- A step of a task of the network. -/
def callbackStep [DecidableEq ι] (i : ι) (s : State ι) : Option (State ι) :=
  match s.callback i with
  | .idle => none
  | .begun .onConnectEthCmd => some ({ s with isEthStarted := true }.goto i .idle)
  | .begun .onDisconnectStaCmd => some ({ s with isWifiConnected := false }.goto i .idle)
  | .begun cb => some ({ s with isEthStarted := false }.goto i (.stopRead cb))
  | .stopRead cb => some (s.goto i (.stopCall cb s.ptr))
  | .stopCall cb ptr => some ((s.call .stop ptr).goto i (.stopped cb))
  | .stopped .onApStaConnected => some ({ s with isWaitingAutoCfgByWps := false }.goto i .idle)
  | .stopped _ => some (s.goto i .idle)

/-- What can happen. -/
inductive Act (ι : Type) where
  | main (env : Env)
  /-- A signal is handled. -/
  | handle (sig : Sig) (env : Env)
  /-- Configuration mode is activated or deactivated, by a button, a request or a timer. -/
  | send (sig : Sig)
  | timerFires
  /-- The network calls a callback. -/
  | begin (i : ι) (cb : Callback)
  | callback (i : ι)

/-- One step. -/
def step [DecidableEq ι] (s : State ι) : Act ι → Option (State ι)
  | .main env => mainStep env s
  | .handle sig env =>
      if s.pc = .idle ∧ s.sent sig = true then
        some (handleSig env { s with sent := Function.update s.sent sig false } sig)
      else none
  | .send sig =>
      if sig ≠ .deferredEthernetActivation then
        some { s with sent := Function.update s.sent sig true }
      else none
  | .timerFires =>
      if s.live = true ∧ s.active = true then
        some { s with
          active := false
          sent := Function.update s.sent .deferredEthernetActivation true }
      else none
  | .begin i cb => if s.callback i = .idle then some (s.goto i (.begun cb)) else none
  | .callback i => callbackStep i s

/-- After the timer has been created: in `network_subsystem_init` it is either started or
not. -/
structure Init (s : State ι) : Prop where
  ptr : s.ptr = true
  live : s.live = true
  active : s.active = false
  badCall : s.badCall = false
  pc : s.pc = .startRead ∨ s.pc = .idle
  callback : ∀ i, s.callback i = .idle

/-- The system. -/
def system (ι : Type) [DecidableEq ι] : System (State ι) (Act ι) where
  init := Init
  step := step

/-! ## The invariant -/

/-- The main task is about to use the timer. -/
def MainPc.usesTimer : MainPc → Bool
  | .startRead => true
  | .startCall _ => true
  | .stopRead => true
  | .stopCall _ => true
  | .delete => true
  | _ => false

/-- The pointer that a task has read. -/
def MainPc.arg : MainPc → Option Bool
  | .startCall ptr => some ptr
  | .stopCall ptr => some ptr
  | _ => none

/-- Whoever is about to call a function with the timer has read the pointer to it, and it has
not been deleted. -/
structure Safe (s : State ι) : Prop where
  badCall : s.badCall = false
  ptr : s.ptr = s.live
  main : s.pc.usesTimer = true → s.live = true
  arg : ∀ p, s.pc.arg = some p → p = true
  clear : s.pc = .clearPtr → s.live = false
  callback : ∀ i cb p, s.callback i = .stopCall cb p → p = true ∧ s.live = true

/-- The step neither deletes the timer while a callback calls a function with it, nor reads the
pointer in a callback after the deletion. -/
def KeepsTimer (s : State ι) : Act ι → Prop
  | .main _ => s.pc = .delete → ∀ i, (s.callback i).calls = false
  | .callback i => (s.callback i).reads = true → s.ptr = true
  | _ => True

variable {s t : State ι}

/-! ## Calls -/

@[simp] theorem call_ptr (fn : TimerFn) (ptr : Bool) (s : State ι) :
    (s.call fn ptr).ptr = s.ptr := by
  unfold State.call
  split
  · cases fn <;> rfl
  · rfl

@[simp] theorem call_callback (fn : TimerFn) (ptr : Bool) (s : State ι) :
    (s.call fn ptr).callback = s.callback := by
  unfold State.call
  split
  · cases fn <;> rfl
  · rfl

@[simp] theorem call_pc (fn : TimerFn) (ptr : Bool) (s : State ι) :
    (s.call fn ptr).pc = s.pc := by
  unfold State.call
  split
  · cases fn <;> rfl
  · rfl

/-- A call is bad exactly if the pointer is NULL or the timer has been deleted. -/
theorem call_badCall (fn : TimerFn) (ptr : Bool) (s : State ι) :
    (s.call fn ptr).badCall = (s.badCall || !(ptr && s.live)) := by
  unfold State.call
  split
  · rename_i hok
    rw [hok, Bool.not_true, Bool.or_false]
    cases fn <;> rfl
  · rename_i hno
    rw [Bool.eq_false_iff.mpr hno, Bool.not_false, Bool.or_true]

theorem call_live {fn : TimerFn} (hfn : fn ≠ .delete) (ptr : Bool) (s : State ι) :
    (s.call fn ptr).live = s.live := by
  unfold State.call
  split
  · cases fn with
    | start => rfl
    | stop => rfl
    | delete => exact absurd rfl hfn
  · rfl

/-! ## The steps keep the timer -/

/-- A step that leaves the timer and the pointer alone. -/
theorem Safe.frame (h : Safe s) (hbad : t.badCall = s.badCall) (hptr : t.ptr = s.ptr)
    (hlive : t.live = s.live) (hmain : t.pc.usesTimer = true → s.pc.usesTimer = true)
    (harg : ∀ p, t.pc.arg = some p → p = true)
    (hclear : t.pc = .clearPtr → s.pc = .clearPtr)
    (hcallback : ∀ i cb p, t.callback i = .stopCall cb p → p = true ∧ s.live = true) :
    Safe t where
  badCall := hbad.trans h.badCall
  ptr := by rw [hptr, hlive, h.ptr]
  main hpc := hlive.trans (h.main (hmain hpc))
  arg := harg
  clear hpc := hlive.trans (h.clear (hclear hpc))
  callback i cb p hi := ⟨(hcallback i cb p hi).1, hlive.trans (hcallback i cb p hi).2⟩

/-- The main task goes to a place where it does not use the timer. -/
theorem Safe.quiet (h : Safe s) {pc : MainPc} (huses : pc.usesTimer = false)
    (harg : pc.arg = none) (hclear : pc ≠ .clearPtr) : Safe { s with pc := pc } := by
  refine h.frame rfl rfl rfl (fun hu => ?_) (fun p hp => ?_) (fun hc => absurd hc hclear)
    h.callback
  · exact absurd (huses.symm.trans hu) (by simp)
  · exact absurd (harg.symm.trans hp) (by simp)

/-- The pointer is NULL already. -/
theorem Safe.skip (h : Safe s) (hptr : s.ptr = false) :
    Safe { s with ptr := false, pc := .finish } :=
  h.frame rfl hptr.symm rfl (fun hu => absurd hu (by simp [MainPc.usesTimer]))
    (fun p hp => absurd hp (by simp [MainPc.arg])) (fun hc => absurd hc (by simp)) h.callback

/-- What no call depends on. -/
theorem Safe.flags (h : Safe s) (sent : Sig → Bool) (active cfgMode wps wifi eth : Bool) :
    Safe { s with
      sent := sent
      active := active
      cfgMode := cfgMode
      isWaitingAutoCfgByWps := wps
      isWifiConnected := wifi
      isEthStarted := eth } :=
  h.frame rfl rfl rfl id h.arg id h.callback

/-- A call of the main task with the pointer that it has read. -/
theorem Safe.mainCall (h : Safe s) {fn : TimerFn} (hfn : fn ≠ .delete) {ptr : Bool}
    (hpc : s.pc.arg = some ptr) (huses : s.pc.usesTimer = true) {pc : MainPc}
    (harg : pc.arg = none) (hclear : pc ≠ .clearPtr) : Safe { s.call fn ptr with pc := pc } := by
  have hlive := h.main huses
  have hbad : (s.call fn ptr).badCall = s.badCall := by
    rw [call_badCall, h.arg ptr hpc, hlive, h.badCall]
    rfl
  refine h.frame hbad (call_ptr ..) (call_live hfn ..) (fun _ => huses) (fun p hp => ?_)
    (fun hc => absurd hc hclear) fun i cb p hi => ?_
  · rw [harg] at hp
    exact absurd hp (by simp)
  · exact h.callback i cb p (by simpa using hi)

/-- The main task reads the pointer for a call. -/
theorem Safe.mainRead (h : Safe s) (huses : s.pc.usesTimer = true) {pc : MainPc}
    (harg : pc.arg = some s.ptr) (hclear : pc ≠ .clearPtr) : Safe { s with pc := pc } := by
  refine h.frame rfl rfl rfl (fun _ => huses) (fun p hp => ?_) (fun hc => absurd hc hclear)
    h.callback
  obtain rfl := Option.some.inj (harg.symm.trans hp)
  exact h.ptr.trans (h.main huses)

/-- The main task deletes the timer when no callback is in a call. -/
theorem Safe.mainDelete (h : Safe s) (hpc : s.pc = .delete)
    (hkeeps : ∀ i, (s.callback i).calls = false) :
    Safe { s.call .delete s.ptr with ptr := false, pc := .clearPtr } := by
  have hlive : s.live = true := h.main (by rw [hpc]; rfl)
  have hptr : s.ptr = true := h.ptr.trans hlive
  have hdead : (s.call .delete s.ptr).live = false := by
    simp only [State.call, hptr, hlive, Bool.and_self, if_true]
  refine {
    badCall := ?_
    ptr := hdead.symm
    main := fun hu => absurd hu (by simp [MainPc.usesTimer])
    arg := fun p hp => absurd hp (by simp [MainPc.arg])
    clear := fun _ => hdead
    callback := fun i cb p hi => ?_ }
  · change (s.call .delete s.ptr).badCall = false
    rw [call_badCall, hptr, hlive, h.badCall]
    rfl
  · have hcalls := hkeeps i
    rw [call_callback] at hi
    rw [hi] at hcalls
    exact absurd hcalls (by simp [CallbackPc.calls])

theorem Safe.finish (h : Safe s) (env : Env) :
    Safe { finishDeactivate env s with pc := .idle } := by
  unfold finishDeactivate
  split
  · exact h.quiet rfl rfl (by simp)
  · exact (h.flags ..).quiet rfl rfl (by simp)

theorem Safe.mainStep (h : Safe s) {env : Env}
    (hkeeps : s.pc = .delete → ∀ i, (s.callback i).calls = false)
    (hstep : mainStep env s = some t) : Safe t := by
  unfold DeferredEthernet.mainStep at hstep
  cases hpc : s.pc with
  | startRead =>
    rw [hpc] at hstep
    obtain rfl := Option.some.inj hstep
    exact h.mainRead (by rw [hpc]; rfl) rfl (by simp)
  | startCall ptr =>
    rw [hpc] at hstep
    obtain rfl := Option.some.inj hstep
    exact h.mainCall (by simp) (by rw [hpc]; rfl) (by rw [hpc]; rfl) rfl (by simp)
  | idle =>
    rw [hpc] at hstep
    exact absurd hstep (by simp)
  | deactivate =>
    rw [hpc] at hstep
    obtain rfl := Option.some.inj hstep
    cases hptr : s.ptr with
    | false => exact h.skip hptr
    | true =>
      -- the pointer is not NULL, so the timer is there
      have hlive : s.live = true := h.ptr.symm.trans hptr
      exact {
        badCall := h.badCall
        ptr := hlive.symm
        main := fun _ => hlive
        arg := fun p hp => absurd hp (by simp [MainPc.arg])
        clear := fun hc => absurd hc (by simp)
        callback := h.callback }
  | stopRead =>
    rw [hpc] at hstep
    obtain rfl := Option.some.inj hstep
    exact h.mainRead (by rw [hpc]; rfl) rfl (by simp)
  | stopCall ptr =>
    rw [hpc] at hstep
    obtain rfl := Option.some.inj hstep
    exact h.mainCall (by simp) (by rw [hpc]; rfl) (by rw [hpc]; rfl) rfl (by simp)
  | delete =>
    rw [hpc] at hstep
    obtain rfl := Option.some.inj hstep
    exact h.mainDelete hpc (hkeeps hpc)
  | clearPtr =>
    rw [hpc] at hstep
    obtain rfl := Option.some.inj hstep
    exact h.skip (h.ptr.trans (h.clear hpc))
  | finish =>
    rw [hpc] at hstep
    obtain rfl := Option.some.inj hstep
    exact h.finish env

theorem Safe.handleSig (h : Safe s) (env : Env) (sig : Sig) : Safe (handleSig env s sig) := by
  cases sig with
  | activateCfgMode =>
    simp only [DeferredEthernet.handleSig]
    split
    · exact h.flags ..
    · exact h.flags ..
  | deactivateCfgMode => exact h.quiet rfl rfl (by simp)
  | deferredEthernetActivation => exact h.flags ..

theorem safe_init (h : Init s) : Safe s where
  badCall := h.badCall
  ptr := h.ptr.trans h.live.symm
  main _ := h.live
  arg p hp := by
    rcases h.pc with hpc | hpc <;> exact absurd hp (by simp [hpc, MainPc.arg])
  clear hpc := by
    rcases h.pc with hpc' | hpc' <;> exact absurd (hpc.symm.trans hpc') (by simp)
  callback i cb p hi := absurd ((h.callback i).symm.trans hi) (by simp)

section callbacks

variable [DecidableEq ι]

theorem Safe.goto (h : Safe s) (i : ι) {pc : CallbackPc}
    (hpc : ∀ cb p, pc = .stopCall cb p → p = true ∧ s.live = true) : Safe (s.goto i pc) := by
  refine h.frame rfl rfl rfl id h.arg id fun j cb p hj => ?_
  by_cases hji : j = i
  · subst hji
    exact hpc cb p (by simpa [State.goto] using hj)
  · exact h.callback j cb p (by simpa [State.goto, Function.update_of_ne hji] using hj)

theorem Safe.callbackStep (h : Safe s) {i : ι}
    (hkeeps : (s.callback i).reads = true → s.ptr = true) (hstep : callbackStep i s = some t) :
    Safe t := by
  unfold DeferredEthernet.callbackStep at hstep
  cases hpc : s.callback i with
  | idle =>
    rw [hpc] at hstep
    exact absurd hstep (by simp)
  | begun cb =>
    rw [hpc] at hstep
    cases cb with
    | onConnectEthCmd =>
      obtain rfl := Option.some.inj hstep
      exact (h.flags ..).goto i (by simp)
    | onDisconnectStaCmd =>
      obtain rfl := Option.some.inj hstep
      exact (h.flags ..).goto i (by simp)
    | onDisconnectEthCmd =>
      obtain rfl := Option.some.inj hstep
      exact (h.flags ..).goto i (by simp)
    | onApStaConnected =>
      obtain rfl := Option.some.inj hstep
      exact (h.flags ..).goto i (by simp)
  | stopRead cb =>
    have hptr : s.ptr = true := hkeeps (by rw [hpc]; rfl)
    rw [hpc] at hstep
    obtain rfl := Option.some.inj hstep
    refine h.goto i fun cb' p hp => ?_
    obtain ⟨-, rfl⟩ := CallbackPc.stopCall.inj hp
    exact ⟨hptr, h.ptr.symm.trans hptr⟩
  | stopCall cb ptr =>
    obtain ⟨hptr, hlive⟩ := h.callback i cb ptr hpc
    rw [hpc] at hstep
    obtain rfl := Option.some.inj hstep
    have hcalled : Safe (s.call .stop ptr) := by
      refine h.frame ?_ (call_ptr ..) (call_live (by simp) ..) (by simp) (by simpa using h.arg)
        (by simp) (by simpa using h.callback)
      rw [call_badCall, hptr, hlive, h.badCall]
      rfl
    exact hcalled.goto i (by simp)
  | stopped cb =>
    rw [hpc] at hstep
    cases cb with
    | onApStaConnected =>
      obtain rfl := Option.some.inj hstep
      exact (h.flags ..).goto i (by simp)
    | onConnectEthCmd =>
      obtain rfl := Option.some.inj hstep
      exact h.goto i (by simp)
    | onDisconnectEthCmd =>
      obtain rfl := Option.some.inj hstep
      exact h.goto i (by simp)
    | onDisconnectStaCmd =>
      obtain rfl := Option.some.inj hstep
      exact h.goto i (by simp)

theorem Safe.step {a : Act ι} (h : Safe s) (hkeeps : KeepsTimer s a)
    (hstep : step s a = some t) : Safe t := by
  cases a with
  | main env => exact h.mainStep hkeeps hstep
  | handle sig env =>
    obtain ⟨-, rfl⟩ := Option.ite_some_none_eq_some.mp hstep
    exact (h.flags (Function.update s.sent sig false) ..).handleSig env sig
  | send sig =>
    obtain ⟨-, rfl⟩ := Option.ite_some_none_eq_some.mp hstep
    exact h.flags ..
  | timerFires =>
    obtain ⟨-, rfl⟩ := Option.ite_some_none_eq_some.mp hstep
    exact h.flags ..
  | begin i cb =>
    obtain ⟨-, rfl⟩ := Option.ite_some_none_eq_some.mp hstep
    exact h.goto i (by simp)
  | callback i => exact h.callbackStep hkeeps hstep

/-! ## What a step does that does not keep the timer -/

/-- A callback that calls a function with NULL, or after the deletion, makes a bad call. -/
theorem badCall_of_calls {i : ι} (cb : Callback) (p : Bool) (hi : s.callback i = .stopCall cb p)
    (hbad : p = false ∨ s.live = false) :
    ∃ u, step s (.callback i) = some u ∧ u.badCall = true := by
  refine ⟨_, by simp only [step, callbackStep, hi]; rfl, ?_⟩
  change (s.call .stop p).badCall = true
  rw [call_badCall]
  rcases hbad with h | h <;> simp [h]

/-- If a step does not keep the timer, a callback makes a bad call with its next step. -/
theorem exists_badCall {a : Act ι} (h : Safe s) (hno : ¬ KeepsTimer s a)
    (hstep : step s a = some t) :
    ∃ i u, step t (.callback i) = some u ∧ u.badCall = true := by
  cases a with
  | main env =>
    simp only [KeepsTimer, Classical.not_imp, not_forall, Bool.not_eq_false] at hno
    obtain ⟨hpc, i, hcalls⟩ := hno
    have hlive : s.live = true := h.main (by rw [hpc]; rfl)
    simp only [step, mainStep, hpc, Option.some.injEq] at hstep
    subst hstep
    cases hi : s.callback i with
    | stopCall cb p =>
      refine ⟨i, badCall_of_calls cb p ?_ (.inr ?_)⟩
      · change (s.call .delete s.ptr).callback i = .stopCall cb p
        rw [call_callback, hi]
      · change (s.call .delete s.ptr).live = false
        simp only [State.call, h.ptr, hlive, Bool.and_self, if_true]
    | idle => simp [hi, CallbackPc.calls] at hcalls
    | begun cb => simp [hi, CallbackPc.calls] at hcalls
    | stopRead cb => simp [hi, CallbackPc.calls] at hcalls
    | stopped cb => simp [hi, CallbackPc.calls] at hcalls
  | callback i =>
    simp only [KeepsTimer, Classical.not_imp, Bool.not_eq_true] at hno
    obtain ⟨hreads, hptr⟩ := hno
    cases hi : s.callback i with
    | stopRead cb =>
      simp only [step, callbackStep, hi, Option.some.injEq] at hstep
      subst hstep
      exact ⟨i, badCall_of_calls cb s.ptr (by simp [State.goto]) (.inl hptr)⟩
    | idle => simp [hi, CallbackPc.reads] at hreads
    | begun cb => simp [hi, CallbackPc.reads] at hreads
    | stopCall cb p => simp [hi, CallbackPc.reads] at hreads
    | stopped cb => simp [hi, CallbackPc.reads] at hreads
  | handle sig env => exact absurd trivial hno
  | send sig => exact absurd trivial hno
  | timerFires => exact absurd trivial hno
  | begin i cb => exact absurd trivial hno

/-- **While the steps keep the timer, no function is called with NULL or with the deleted
timer**; and the first step that does not is followed by such a call, if the callback goes on. -/
theorem noBadCall_of_keepsTimer (h : (system ι).ReachableVia KeepsTimer s) :
    s.badCall = false ∧ ∀ a t, (system ι).step s a = some t → ¬ KeepsTimer s a →
      ∃ i u, (system ι).step t (.callback i) = some u ∧ u.badCall = true := by
  have hsafe : Safe s :=
    h.invariant (fun _ => safe_init) fun _ _ _ _ hs hok hstep => hs.step hok hstep
  exact ⟨hsafe.badCall, fun _ _ hstep hno => exists_badCall hsafe hno hstep⟩

end callbacks

/-! ## Examples of runs -/

section examples

instance (s : State (Fin 1)) (a : Act (Fin 1)) : Decidable (KeepsTimer s a) :=
  match a with
  | .main _ => inferInstanceAs (Decidable (s.pc = .delete → ∀ i, (s.callback i).calls = false))
  | .callback i => inferInstanceAs (Decidable ((s.callback i).reads = true → s.ptr = true))
  | .handle _ _ => isTrue trivial
  | .send _ => isTrue trivial
  | .timerFires => isTrue trivial
  | .begin _ _ => isTrue trivial

/-- The first boot after the configuration has been erased. -/
def firstBoot : State (Fin 1) where
  ptr := true
  live := true
  active := false
  badCall := false
  pc := .startRead
  callback _ := .idle
  sent _ := false
  cfgMode := false
  isWaitingAutoCfgByWps := true
  isWifiConnected := false
  isEthStarted := false

theorem firstBoot_init : Init firstBoot := ⟨rfl, rfl, rfl, rfl, .inl rfl, fun _ => rfl⟩

/-- Wi-Fi has been configured. -/
def wifiConfigured : Env where
  gwCfgIsEmpty := false
  useEth := false
  isStaConfigured := true
  isConnectedToEthernet := false

/-- The timer is started, a client connects to the hotspot, and configuration mode ends. -/
def firstSession : List (Act (Fin 1)) :=
  [.main wifiConfigured, .main wifiConfigured, .send .activateCfgMode,
    .handle .activateCfgMode wifiConfigured, .begin 0 .onApStaConnected, .callback 0, .callback 0,
    .callback 0, .callback 0, .send .deactivateCfgMode,
    .handle .deactivateCfgMode wifiConfigured] ++ List.replicate 6 (.main wifiConfigured)

theorem noBadCall_of_firstSession :
    ∃ s : State (Fin 1), s.live = false ∧ s.pc = .idle ∧ s.badCall = false := by
  obtain ⟨s, hs, hp⟩ := System.exists_reachableVia_of_run (S := system (Fin 1)) (C := KeepsTimer)
    firstBoot_init firstSession (fun s => decide (s.live = false ∧ s.pc = .idle)) (by decide)
  obtain ⟨hlive, hpc⟩ := of_decide_eq_true hp
  exact ⟨s, hlive, hpc, (noBadCall_of_keepsTimer hs).1⟩

/-- **The timer is used after its deletion** when the hotspot is started again and a client
connects. -/
theorem badCall_in_secondSession :
    ¬ ∀ s, (system (Fin 1)).Reachable s → s.badCall = false := by
  intro hall
  obtain ⟨s, hs, hp⟩ := System.exists_reachable_of_run (S := system (Fin 1)) firstBoot_init
    (firstSession ++ [.send .activateCfgMode, .handle .activateCfgMode wifiConfigured,
      .begin 0 .onApStaConnected, .callback 0, .callback 0, .callback 0])
    (fun s => s.badCall) (by decide)
  exact absurd (hall s hs) (by simp [hp])

end examples

end DeferredEthernet
end RuuviGateway
