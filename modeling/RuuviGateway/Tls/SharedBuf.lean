import Mathlib.Logic.Function.Basic
import RuuviGateway.Lib.Exclusion
import RuuviGateway.Lib.TransitionSystem

/-!
# The shared TLS buffers

`tls_shared_buf.c` keeps one union: either the buffers for posting over HTTPS and, behind them,
those for MQTT, or the full-size buffers for a download, which overlap both.  There are two
mutexes.  The download locks both, one after the other, so other tasks can come between; if the
second cannot be locked the first is unlocked again.

A mutex that is locked already makes an assertion fail.  That ends in a reset of the gateway;
the model lets the other tasks go on as long as they like.
-/

namespace RuuviGateway
namespace Tls

open TransitionSystem Exclusion

/-! ## The union -/

/-- The buffers that are handed out. -/
inductive Buffer where
  | httpsPost
  | mqtts
  | httpsDownload
  deriving DecidableEq, Repr

/-- What Mbed TLS and its configuration say about lengths. -/
structure Lengths where
  /-- `MBEDTLS_SSL_IN_BUFFER_LEN_CALC`. -/
  inBufferLenCalc : Nat → Nat
  /-- `MBEDTLS_SSL_OUT_BUFFER_LEN_CALC`. -/
  outBufferLenCalc : Nat → Nat
  sslInContentLen : Nat
  sslOutContentLen : Nat

/-- `RUUVI_HTTPS_POST_TLS_IN_CONTENT_LEN`. -/
def httpsPostTlsInContentLen : Nat := 8192

/-- `RUUVI_HTTPS_POST_TLS_OUT_CONTENT_LEN`. -/
def httpsPostTlsOutContentLen : Nat := 4096

/-- `RUUVI_MQTT_TLS_IN_CONTENT_LEN`. -/
def mqttTlsInContentLen : Nat := 8192

/-- `RUUVI_MQTT_TLS_OUT_CONTENT_LEN`. -/
def mqttTlsOutContentLen : Nat := 4096

/-- The `sizeof` of a buffer, its `in_buf` and its `out_buf`. -/
def Buffer.size (l : Lengths) : Buffer → Nat
  | .httpsPost =>
    l.inBufferLenCalc httpsPostTlsInContentLen + l.outBufferLenCalc httpsPostTlsOutContentLen
  | .mqtts => l.inBufferLenCalc mqttTlsInContentLen + l.outBufferLenCalc mqttTlsOutContentLen
  | .httpsDownload =>
    l.inBufferLenCalc l.sslInContentLen + l.outBufferLenCalc l.sslOutContentLen

/-- Where a buffer begins in `tls_shared_buf_t`.  All members are bytes, so nothing is padded. -/
def Buffer.offset (l : Lengths) : Buffer → Nat
  | .httpsPost => 0
  | .mqtts => Buffer.httpsPost.size l
  | .httpsDownload => 0

/-- The buffer has the byte of the union. -/
def Buffer.Covers (l : Lengths) (b : Buffer) (i : Nat) : Prop :=
  b.offset l ≤ i ∧ i < b.offset l + b.size l

/-- The buffers have a byte in common. -/
def Buffer.Overlap (l : Lengths) (b c : Buffer) : Prop := ∃ i, b.Covers l i ∧ c.Covers l i

/-! ## The mutexes -/

/-- `g_p_tls_shared_buf_mutex_https_post` and `g_p_tls_shared_buf_mutex_mqtts`. -/
inductive Mutex where
  | httpsPost
  | mqtts
  deriving DecidableEq, Repr

/-- What a task has. -/
inductive Holding where
  /-- A buffer is handed out to it. -/
  | buffer (b : Buffer)
  /-- It is in `tls_shared_buf_get_https_download`, with the first mutex. -/
  | gettingHttpsDownload
  /-- It is in `tls_shared_buf_unlock_https_download`, with one mutex left. -/
  | unlockingHttpsDownload
  deriving DecidableEq, Repr

/-- The mutexes that are locked for it. -/
def Holding.Uses : Holding → Mutex → Prop
  | .buffer .httpsPost, m => m = .httpsPost
  | .buffer .mqtts, m => m = .mqtts
  | .buffer .httpsDownload, _ => True
  | .gettingHttpsDownload, m => m = .httpsPost
  | .unlockingHttpsDownload, m => m = .httpsPost

variable (Task : Type)

/-- The mutexes, and what the tasks have. -/
structure State where
  locked : Mutex → Bool
  holdings : List (Task × Holding)

variable {Task}

/-- The state after `tls_shared_buf_init`. -/
def State.init : State Task := ⟨fun _ => false, []⟩

/-- `os_mutex_try_lock`, when it succeeds, and `os_mutex_unlock`. -/
def State.setLocked (s : State Task) (m : Mutex) (b : Bool) : State Task :=
  { s with locked := Function.update s.locked m b }

/-- A task gets what it did not have. -/
def State.give (s : State Task) (t : Task) (h : Holding) : State Task :=
  { s with holdings := (t, h) :: s.holdings }

/-- The buffers that are handed out. -/
def State.handedOut (s : State Task) : List (Task × Buffer) :=
  s.holdings.filterMap fun
    | (t, .buffer b) => some (t, b)
    | _ => none

/-! ## The invariant -/

/-- The mutexes of the holding of a task. -/
def uses (h : Task × Holding) : Mutex → Prop := h.2.Uses

/-- The mutexes that are locked are those of the holdings, each locked for one of them. -/
def State.Inv (s : State Task) : Prop :=
  Exclusive uses (fun m => s.locked m = true) s.holdings

theorem inv_init : (State.init : State Task).Inv :=
  Exclusive.nil fun _ => Bool.false_ne_true

@[simp] theorem setLocked_locked (s : State Task) (m n : Mutex) (b : Bool) :
    (s.setLocked m b).locked n = if n = m then b else s.locked n := by
  unfold State.setLocked
  exact Function.update_apply ..

/-- A buffer behind one mutex is handed out, or a mutex is locked. -/
theorem State.Inv.lock {s : State Task} (hs : s.Inv) {m : Mutex} (hfree : ¬ s.locked m = true)
    (t : Task) {h : Holding} (huses : ∀ n, h.Uses n ↔ n = m) :
    ((s.setLocked m true).give t h).Inv := by
  refine hs.take (a := (t, h)) (fun n hn => ?_) fun n => ?_
  · rw [(huses n).mp hn]
    exact hfree
  · show (s.setLocked m true).locked n = true ↔ h.Uses n ∨ _
    rw [setLocked_locked, huses n]
    split <;> simp_all

variable [DecidableEq Task]

/-- A task has no longer what it had. -/
def State.takeBack (s : State Task) (t : Task) (h : Holding) : State Task :=
  { s with holdings := s.holdings.erase (t, h) }

/-- What is behind one mutex is given back. -/
theorem State.Inv.unlock {s : State Task} (hs : s.Inv) {m : Mutex} {t : Task} {h : Holding}
    (hmem : (t, h) ∈ s.holdings) (huses : ∀ n, h.Uses n ↔ n = m) :
    ((s.setLocked m false).takeBack t h).Inv := by
  refine hs.drop hmem fun n => ?_
  show (s.setLocked m false).locked n = true ↔ _ ∧ ¬ h.Uses n
  rw [setLocked_locked, huses n]
  split <;> simp_all

/-! ## The steps -/

variable (Task) in
/-- The calls, and the parts of those that lock or unlock two mutexes. -/
inductive Step where
  | getHttpsPost (t : Task)
  | getMqtts (t : Task)
  /-- The first half of `tls_shared_buf_get_https_download`. -/
  | getHttpsDownload (t : Task)
  /-- The second. -/
  | getHttpsDownloadMqtts (t : Task)
  | unlockHttpsPost (t : Task)
  | unlockMqtts (t : Task)
  /-- The first half of `tls_shared_buf_unlock_https_download`. -/
  | unlockHttpsDownload (t : Task)
  /-- The second. -/
  | unlockHttpsDownloadPost (t : Task)

/-- A step.  A task unlocks only what it has. -/
def step (s : State Task) : Step Task → Option (State Task)
  | .getHttpsPost t =>
    if s.locked .httpsPost then some s
    else some ((s.setLocked .httpsPost true).give t (.buffer .httpsPost))
  | .getMqtts t =>
    if s.locked .mqtts then some s
    else some ((s.setLocked .mqtts true).give t (.buffer .mqtts))
  | .getHttpsDownload t =>
    if s.locked .httpsPost then some s
    else some ((s.setLocked .httpsPost true).give t .gettingHttpsDownload)
  | .getHttpsDownloadMqtts t =>
    if (t, .gettingHttpsDownload) ∈ s.holdings then
      if s.locked .mqtts then
        some ((s.setLocked .httpsPost false).takeBack t .gettingHttpsDownload)
      else
        some (((s.setLocked .mqtts true).takeBack t .gettingHttpsDownload).give t
          (.buffer .httpsDownload))
    else none
  | .unlockHttpsPost t =>
    if (t, .buffer .httpsPost) ∈ s.holdings then
      some ((s.setLocked .httpsPost false).takeBack t (.buffer .httpsPost))
    else none
  | .unlockMqtts t =>
    if (t, .buffer .mqtts) ∈ s.holdings then
      some ((s.setLocked .mqtts false).takeBack t (.buffer .mqtts))
    else none
  | .unlockHttpsDownload t =>
    if (t, .buffer .httpsDownload) ∈ s.holdings then
      some (((s.setLocked .mqtts false).takeBack t (.buffer .httpsDownload)).give t
        .unlockingHttpsDownload)
    else none
  | .unlockHttpsDownloadPost t =>
    if (t, .unlockingHttpsDownload) ∈ s.holdings then
      some ((s.setLocked .httpsPost false).takeBack t .unlockingHttpsDownload)
    else none

variable (Task) in
/-- The calls of any tasks, in any order. -/
def system : System (State Task) (Step Task) where
  init s := s = State.init
  step := step

theorem inv_step {a : Step Task} {s s' : State Task} (hs : s.Inv) (hstep : step s a = some s') :
    s'.Inv := by
  cases a with
  | getHttpsPost t =>
    simp only [step] at hstep
    split at hstep <;> obtain rfl := Option.some.inj hstep
    · exact hs
    · exact hs.lock ‹_› t fun _ => Iff.rfl
  | getMqtts t =>
    simp only [step] at hstep
    split at hstep <;> obtain rfl := Option.some.inj hstep
    · exact hs
    · exact hs.lock ‹_› t fun _ => Iff.rfl
  | getHttpsDownload t =>
    simp only [step] at hstep
    split at hstep <;> obtain rfl := Option.some.inj hstep
    · exact hs
    · exact hs.lock ‹_› t fun _ => Iff.rfl
  | getHttpsDownloadMqtts t =>
    obtain ⟨hmem, hstep⟩ := Option.ite_none_right_eq_some.mp hstep
    split at hstep <;> obtain rfl := Option.some.inj hstep
    · exact hs.unlock hmem fun _ => Iff.rfl
    · refine hs.replace (b := (t, .buffer .httpsDownload)) hmem (fun n _ hn => ?_) fun n => ?_
      · cases n with
        | httpsPost => exact absurd rfl hn
        | mqtts => exact ‹¬ s.locked .mqtts = true›
      · -- the first mutex stays locked, the second is locked now
        show (s.setLocked .mqtts true).locked n = true ↔ True ∨ _
        cases n with
        | httpsPost =>
          have hpost : s.locked .httpsPost = true := (hs.locked_iff .httpsPost).mpr ⟨_, hmem, rfl⟩
          simp [hpost]
        | mqtts => simp
  | unlockHttpsPost t =>
    obtain ⟨hmem, rfl⟩ := Option.ite_some_none_eq_some.mp hstep
    exact hs.unlock hmem fun _ => Iff.rfl
  | unlockMqtts t =>
    obtain ⟨hmem, rfl⟩ := Option.ite_some_none_eq_some.mp hstep
    exact hs.unlock hmem fun _ => Iff.rfl
  | unlockHttpsDownload t =>
    obtain ⟨hmem, rfl⟩ := Option.ite_some_none_eq_some.mp hstep
    refine hs.replace (b := (t, .unlockingHttpsDownload)) hmem
      (fun n _ hn => absurd trivial hn) fun n => ?_
    have hpost : s.locked .httpsPost = true := (hs.locked_iff .httpsPost).mpr ⟨_, hmem, trivial⟩
    show (s.setLocked .mqtts false).locked n = true ↔ n = .httpsPost ∨ (_ ∧ ¬ True)
    cases n <;> simp [hpost]
  | unlockHttpsDownloadPost t =>
    obtain ⟨hmem, rfl⟩ := Option.ite_some_none_eq_some.mp hstep
    exact hs.unlock hmem fun _ => Iff.rfl

/-- The invariant holds in every run. -/
theorem inv_of_reachable {s : State Task} (h : (system Task).Reachable s) : s.Inv :=
  h.invariant (P := State.Inv) (fun _ hinit => hinit ▸ inv_init)
    fun _ _ _ _ hs _ hstep => inv_step hs hstep

/-! ## The buffers -/

/-- Buffers that overlap have a mutex in common. -/
theorem not_overlap_of_apart (l : Lengths) {a b : Buffer}
    (h : ∀ m, (Holding.buffer a).Uses m → ¬ (Holding.buffer b).Uses m) : ¬ a.Overlap l b := by
  rintro ⟨i, ⟨ha, ha'⟩, ⟨hb, hb'⟩⟩
  cases a <;> cases b <;> simp only [Buffer.offset] at ha ha' hb hb'
  case httpsPost.mqtts => omega
  case mqtts.httpsPost => omega
  case mqtts.mqtts => exact h .mqtts rfl rfl
  case mqtts.httpsDownload => exact h .mqtts rfl trivial
  case httpsDownload.mqtts => exact h .mqtts trivial rfl
  all_goals exact h .httpsPost (by trivial) (by trivial)

/-- **Shared TLS buffers never alias.**  Whatever tasks get and unlock buffers, no two buffers
that are handed out have a byte of the union in common. -/
theorem not_overlap_handedOut (l : Lengths) {s : State Task} (h : (system Task).Reachable s) :
    s.handedOut.Pairwise fun a b => ¬ a.2.Overlap l b.2 := by
  refine List.pairwise_filterMap.mpr ((inv_of_reachable h).pairwise.imp ?_)
  rintro ⟨t, g⟩ ⟨u, g'⟩ hapart ⟨_, b⟩ hb ⟨_, b'⟩ hb'
  cases g <;> cases g' <;> simp at hb hb'
  obtain ⟨-, rfl⟩ := hb
  obtain ⟨-, rfl⟩ := hb'
  exact not_overlap_of_apart l hapart

/-- The lengths of the project's `sdkconfig`. -/
def sdkconfigLengths : Lengths where
  inBufferLenCalc len := len + 333
  outBufferLenCalc len := len + 333
  sslInContentLen := 16384
  sslOutContentLen := 4096

/-- The buffers for posting and for MQTT are handed out to two tasks, after a download has failed
to lock the second mutex. -/
theorem not_overlap_handedOut_both :
    ∃ s, (system Bool).Reachable s ∧ s.handedOut = [(false, .httpsPost), (true, .mqtts)] ∧
      s.handedOut.Pairwise fun a b => ¬ a.2.Overlap sdkconfigLengths b.2 := by
  obtain ⟨s, hs, hout⟩ := (system Bool).exists_reachable_of_run (s := State.init) rfl
    [.getMqtts true, .getHttpsDownload false, .getHttpsDownloadMqtts false, .getHttpsPost false]
    (fun s => decide (s.handedOut = [(false, .httpsPost), (true, .mqtts)])) (by decide)
  exact ⟨s, hs, of_decide_eq_true hout, not_overlap_handedOut sdkconfigLengths hs⟩

end Tls
end RuuviGateway
