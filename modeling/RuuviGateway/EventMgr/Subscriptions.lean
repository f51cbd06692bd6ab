import Mathlib.Data.List.Nodup
import Mathlib.Logic.Function.Basic
import RuuviGateway.Lib.TransitionSystem

/-!
# The event manager

`event_mgr.c`.  For each event there is a list of subscribers, which are sent their signals when
the event is notified.  The element of a subscriber is a block of the heap, or static memory that
the caller gives.  Every function changes the lists under a mutex, so a run is a sequence of whole
calls.

The lists are those of `sys/queue.h`: insertion at the tail, removal of an element, and a traversal
from the head, whose variable is NULL after the last element.  Both functions that unsubscribe
write to the element that they have looked for also when there is none, so a run goes on as it
should only as long as what is unsubscribed is subscribed (`keepsLive_of_reachableVia`).
-/

namespace RuuviGateway
namespace EventMgr

open TransitionSystem Function

/-! ## The state -/

/-- `event_mgr_ev_e`. -/
inductive Ev where
  | none | reboot | wifiApStarted | wifiApStopped | wpsActivated | wpsDeactivated
  | wifiApStaConnected | wifiApStaDisconnected | wifiConnected | wifiDisconnected | ethConnected
  | ethDisconnected | timeSynchronized | gwCfgReady | gwCfgChangedRuuvi | gwCfgChangedEth
  | gwCfgChangedWifi | gwCfgChangedRuuviNtpUse | gwCfgChangedRuuviNtpUseDhcp
  | relayingModeChanged | cfgModeActivated | cfgModeDeactivated | cfgBleScanChanged | recvAdv
  | recvAdvTimeout | greenLedStateChanged | mqttConnected | nrf52Rebooted | nrf52Configured | last
  deriving DecidableEq

/-- `(event > EVENT_MGR_EV_NONE) && (event < EVENT_MGR_EV_LAST)`. -/
def Ev.InRange (ev : Ev) : Prop := ev ≠ .none ∧ ev ≠ .last

instance decidableInRange (ev : Ev) : Decidable ev.InRange := inferInstanceAs (Decidable (_ ∧ _))

/-- The address of an element. -/
inductive Elem where
  /-- A block that `os_calloc` has returned. -/
  | heap (block : Nat)
  | static (mem : Nat)
  deriving DecidableEq

/-- The static memory of an element. -/
def Elem.mem : Elem → Option Nat
  | .heap _ => none
  | .static mem => some mem

/-- `event_mgr_ev_info_t` but for its links; `signal` is a pointer. -/
structure EvInfo where
  signal : Option Nat
  sigNum : Nat
  isStatic : Bool
  deriving DecidableEq

/-- `OS_SIGNAL_NUM_NONE`. -/
def osSignalNumNone : Nat := 0

/-- `g_event_mgr`, and the memory of the elements. -/
structure State where
  events : Ev → List Elem
  infos : Elem → EvInfo
  /-- The blocks that are allocated. -/
  blocks : List Nat
  /-- A member of NULL has been written. -/
  fault : Bool

/-- `event_mgr_init`. -/
def State.start : State where
  events := fun _ => []
  infos := fun _ => ⟨none, osSignalNumNone, false⟩
  blocks := []
  fault := false

/-- An element is filled in and inserted at the tail. -/
def State.insertTail (s : State) (event : Ev) (elem : Elem) (info : EvInfo) : State :=
  { s with
    infos := update s.infos elem info
    events := update s.events event (s.events event ++ [elem]) }

/-- An element is removed, and its signal cleared. -/
def State.remove (s : State) (event : Ev) (elem : Elem) : State :=
  { s with
    infos := update s.infos elem
      { s.infos elem with signal := none, sigNum := osSignalNumNone }
    events := update s.events event ((s.events event).erase elem) }

/-- `os_free`. -/
def State.osFree (s : State) : Elem → State
  | .heap block => { s with blocks := s.blocks.erase block }
  | .static _ => s

/-! ## The functions -/

/-- `event_mgr_subscribe_sig`, where `os_calloc` returns `block`.  There is no result if an
assertion fails. -/
def eventMgrSubscribeSig (s : State) (event : Ev) (signal : Option Nat) (sigNum : Nat)
    (block : Option Nat) : Option (State × Bool) :=
  if ¬ event.InRange then none
  else
    match block with
    | none => some (s, false)
    | some block =>
        let s := { s with blocks := block :: s.blocks }
        some (s.insertTail event (.heap block) ⟨signal, sigNum, false⟩, true)

/-- `event_mgr_subscribe_sig_static`. -/
def eventMgrSubscribeSigStatic (s : State) (mem : Nat) (event : Ev) (signal : Option Nat)
    (sigNum : Nat) : Option State :=
  if ¬ event.InRange then none
  else some (s.insertTail event (.static mem) ⟨signal, sigNum, true⟩)

/-- The test of `event_mgr_unsubscribe_sig`. -/
def EvInfo.isFor (info : EvInfo) (signal : Option Nat) (sigNum : Nat) : Bool :=
  info.signal == signal && info.sigNum == sigNum

/-- `event_mgr_unsubscribe_sig`. -/
def eventMgrUnsubscribeSig (s : State) (event : Ev) (signal : Option Nat) (sigNum : Nat) :
    Option State :=
  if ¬ event.InRange then none
  else
    match (s.events event).find? fun elem => (s.infos elem).isFor signal sigNum with
    -- nothing is removed, and the members of NULL are written
    | none => some { s with fault := true }
    | some elem =>
        let s := s.remove event elem
        if (s.infos elem).isStatic then some s else some (s.osFree elem)

/-- `event_mgr_unsubscribe_sig_static`. -/
def eventMgrUnsubscribeSigStatic (s : State) (mem : Nat) (event : Ev) : Option State :=
  if ¬ event.InRange then none
  else
    match (s.events event).find? fun elem => elem == .static mem with
    | none => some { s with fault := true }
    | some elem => some (s.remove event elem)

/-- `event_mgr_notify`: what `os_signal_send` is called with. -/
def eventMgrNotify (s : State) (event : Ev) : List (Option Nat × Nat) :=
  if ¬ event.InRange then []
  else (s.events event).map fun elem => ((s.infos elem).signal, (s.infos elem).sigNum)

/-! ## Live subscriptions -/

/-- A subscription: its static memory, if it has any, and its signal. -/
structure Sub where
  mem : Option Nat
  signal : Option Nat
  sigNum : Nat
  deriving DecidableEq

/-- A call. -/
inductive Op where
  | subscribeSig (event : Ev) (signal : Option Nat) (sigNum : Nat) (block : Option Nat)
  | subscribeSigStatic (mem : Nat) (event : Ev) (signal : Option Nat) (sigNum : Nat)
  | unsubscribeSig (event : Ev) (signal : Option Nat) (sigNum : Nat)
  | unsubscribeSigStatic (mem : Nat) (event : Ev)
  | notify (event : Ev)

/-- The subscriptions to each event, in the order of their making. -/
abbrev Live := Ev → List Sub

/-- What a call adds to the subscriptions, and what it removes: of several that are alike the
first. -/
def Live.next (live : Live) : Op → Live
  | .subscribeSig _ _ _ none => live
  | .subscribeSig event signal sigNum (some _) =>
      update live event (live event ++ [⟨none, signal, sigNum⟩])
  | .subscribeSigStatic mem event signal sigNum =>
      update live event (live event ++ [⟨some mem, signal, sigNum⟩])
  | .unsubscribeSig event signal sigNum =>
      update live event ((live event).eraseP fun sub =>
        sub.signal == signal && sub.sigNum == sigNum)
  | .unsubscribeSigStatic mem event =>
      update live event ((live event).eraseP fun sub => sub.mem == some mem)
  | .notify _ => live

/-- A call; `os_calloc` returns a block that is not allocated. -/
def State.next (s : State) : Op → Option State
  | .subscribeSig event signal sigNum block =>
      if ∃ b ∈ block, b ∈ s.blocks then none
      else (eventMgrSubscribeSig s event signal sigNum block).map Prod.fst
  | .subscribeSigStatic mem event signal sigNum =>
      eventMgrSubscribeSigStatic s mem event signal sigNum
  | .unsubscribeSig event signal sigNum => eventMgrUnsubscribeSig s event signal sigNum
  | .unsubscribeSigStatic mem event => eventMgrUnsubscribeSigStatic s mem event
  | .notify _ => some s

/-- The event manager, with the subscriptions that are live.  There is no call after a fault. -/
def system : System (State × Live) Op where
  init st := st = (State.start, fun _ => [])
  step st op := if st.1.fault then none else (st.1.next op).map fun s => (s, st.2.next op)

/-- Static memory is not subscribed twice. -/
def NotTwice (live : Live) : Op → Prop
  | .subscribeSigStatic mem _ _ _ => ∀ event, ∀ sub ∈ live event, sub.mem ≠ some mem
  | _ => True

/-- What is unsubscribed is subscribed. -/
def Subscribed (live : Live) : Op → Prop
  | .unsubscribeSig event signal sigNum =>
      ∃ sub ∈ live event, sub.signal = signal ∧ sub.sigNum = sigNum
  | .unsubscribeSigStatic mem event => ∃ sub ∈ live event, sub.mem = some mem
  | _ => True

/-- No member of NULL has been written, and every event signals its live subscriptions, each of
them once. -/
structure KeepsLive (s : State) (live : Live) : Prop where
  noFault : s.fault = false
  notify : ∀ event : Ev, event.InRange →
    eventMgrNotify s event = (live event).map fun sub => (sub.signal, sub.sigNum)

/-! ## The invariant -/

/-- The subscription of an element. -/
def State.sub (s : State) (elem : Elem) : Sub :=
  ⟨elem.mem, (s.infos elem).signal, (s.infos elem).sigNum⟩

/-- The elements of the lists are the live subscriptions; each element is in one list, once, and
its memory is in use. -/
structure Inv (s : State) (live : Live) : Prop where
  noFault : s.fault = false
  live : ∀ event, (s.events event).map s.sub = live event
  nodup : ∀ event, (s.events event).Nodup
  disjoint : ∀ event event' elem, elem ∈ s.events event → elem ∈ s.events event' → event = event'
  allocated : ∀ event block, .heap block ∈ s.events event → block ∈ s.blocks
  isStatic : ∀ event elem, elem ∈ s.events event → (s.infos elem).isStatic = elem.mem.isSome

variable {s : State} {live : Live} {event : Ev} {elem : Elem}

theorem Inv.keepsLive (h : Inv s live) : KeepsLive s live := by
  refine ⟨h.noFault, fun event hevent => ?_⟩
  rw [eventMgrNotify, if_neg (not_not.mpr hevent), ← h.live event, List.map_map]
  rfl

theorem inv_start : Inv State.start fun _ => [] where
  noFault := rfl
  live := fun _ => rfl
  nodup := fun _ => List.nodup_nil
  disjoint := fun _ _ _ h => absurd h List.not_mem_nil
  allocated := fun _ _ h => absurd h List.not_mem_nil
  isStatic := fun _ _ h => absurd h List.not_mem_nil

/-! ## Insertion -/

theorem mem_insertTail {info : EvInfo} {e : Elem} {ev : Ev}
    (he : e ∈ (s.insertTail event elem info).events ev) :
    e ∈ s.events ev ∨ e = elem ∧ ev = event := by
  simp only [State.insertTail] at he
  by_cases hev : ev = event
  · subst hev
    rw [update_self, List.mem_append, List.mem_singleton] at he
    exact he.imp_right fun heq => ⟨heq, rfl⟩
  · rw [update_of_ne hev] at he
    exact .inl he

/-- An element that is in no list is inserted. -/
theorem Inv.insertTail (h : Inv s live) (elem : Elem) {info : EvInfo}
    (hnew : ∀ event, elem ∉ s.events event) (hstatic : info.isStatic = elem.mem.isSome)
    {blocks : List Nat} (hblocks : s.blocks ⊆ blocks)
    (hblock : ∀ block, elem = .heap block → block ∈ blocks) :
    Inv ({ s with blocks := blocks }.insertTail event elem info)
      (update live event (live event ++ [⟨elem.mem, info.signal, info.sigNum⟩])) := by
  have hother : ∀ {e ev}, e ∈ s.events ev → e ≠ elem := by
    rintro e ev he rfl
    exact hnew ev he
  refine ⟨h.noFault, fun ev => ?_, fun ev => ?_, ?_, ?_, ?_⟩
  · have hold : (s.events ev).map ({ s with blocks := blocks }.insertTail event elem info).sub =
        live ev := by
      rw [← h.live ev]
      refine List.map_congr_left fun e he => ?_
      simp only [State.sub, State.insertTail, update_of_ne (hother he)]
    have hlast : ({ s with blocks := blocks }.insertTail event elem info).sub elem =
        ⟨elem.mem, info.signal, info.sigNum⟩ := by
      simp only [State.sub, State.insertTail, update_self]
    by_cases hev : ev = event
    · subst hev
      simp only [State.insertTail, update_self, List.map_append, List.map_singleton] at hold hlast ⊢
      rw [hold, hlast]
    · simp only [State.insertTail, update_of_ne hev] at hold ⊢
      exact hold
  · by_cases hev : ev = event
    · subst hev
      simp only [State.insertTail, update_self]
      rw [List.nodup_append]
      refine ⟨h.nodup ev, List.nodup_singleton elem, fun e he e' he' => ?_⟩
      rw [List.mem_singleton.mp he']
      exact hother he
    · simp only [State.insertTail, update_of_ne hev]
      exact h.nodup ev
  · intro ev ev' e he he'
    rcases mem_insertTail he with hold | ⟨rfl, rfl⟩
    · rcases mem_insertTail he' with hold' | ⟨rfl, -⟩
      · exact h.disjoint ev ev' e hold hold'
      · exact absurd hold (hnew ev)
    · rcases mem_insertTail he' with hold' | ⟨-, rfl⟩
      · exact absurd hold' (hnew ev')
      · rfl
  · intro ev block he
    rcases mem_insertTail he with hold | ⟨heq, -⟩
    · exact hblocks (h.allocated ev block hold)
    · exact hblock block heq.symm
  · intro ev e he
    rcases mem_insertTail he with hold | ⟨rfl, -⟩
    · simp only [State.insertTail, update_of_ne (hother hold)]
      exact h.isStatic ev e hold
    · simp only [State.insertTail, update_self]
      exact hstatic

/-! ## Removal -/

/-- The first element that passes a test is erased. -/
theorem erase_eq_eraseP {α : Type*} [DecidableEq α] {l : List α} {p : α → Bool} {a : α}
    (h : l.find? p = some a) : l.erase a = l.eraseP p := by
  induction l with
  | nil => exact absurd h (by simp)
  | cons b l ih =>
    rw [List.find?_cons] at h
    split at h
    · rename_i hb
      obtain rfl := Option.some.inj h
      rw [List.erase_cons_head, List.eraseP_cons_of_pos hb]
    · rename_i hb
      have hne : b ≠ a := by
        rintro rfl
        rw [List.find?_some h] at hb
        exact absurd hb (by simp)
      rw [List.erase_cons_tail (by simpa using hne), List.eraseP_cons_of_neg (by simp [hb]), ih h]

theorem Inv.mem_remove (h : Inv s live) (hin : elem ∈ s.events event) {e : Elem} {ev : Ev}
    (he : e ∈ (s.remove event elem).events ev) : e ∈ s.events ev ∧ e ≠ elem := by
  simp only [State.remove] at he
  by_cases hev : ev = event
  · subst hev
    rw [update_self, (h.nodup ev).mem_erase_iff] at he
    exact ⟨he.2, he.1⟩
  · rw [update_of_ne hev] at he
    refine ⟨he, ?_⟩
    rintro rfl
    exact hev (h.disjoint ev event e he hin)

/-- The first element whose subscription passes a test is removed; its block may be freed. -/
theorem Inv.remove (h : Inv s live) {q : Sub → Bool}
    (hfind : (s.events event).find? (fun e => q (s.sub e)) = some elem) {blocks : List Nat}
    (hblocks : ∀ block ∈ s.blocks, elem ≠ .heap block → block ∈ blocks) :
    Inv { s.remove event elem with blocks := blocks }
      (update live event ((live event).eraseP q)) := by
  have hin : elem ∈ s.events event := List.mem_of_find?_eq_some hfind
  refine ⟨h.noFault, fun ev => ?_, fun ev => ?_, ?_, ?_, ?_⟩
  · have hkept : (update s.events event ((s.events event).erase elem) ev).map
        ({ s.remove event elem with blocks := blocks } : State).sub =
          (update s.events event ((s.events event).erase elem) ev).map s.sub := by
      refine List.map_congr_left fun e he => ?_
      simp only [State.sub, State.remove, update_of_ne (h.mem_remove hin he).2]
    refine hkept.trans ?_
    by_cases hev : ev = event
    · subst hev
      rw [update_self, update_self, erase_eq_eraseP hfind, ← h.live ev, List.eraseP_map]
      rfl
    · rw [update_of_ne hev, update_of_ne hev]
      exact h.live ev
  · by_cases hev : ev = event
    · subst hev
      simp only [State.remove, update_self]
      exact (h.nodup ev).erase elem
    · simp only [State.remove, update_of_ne hev]
      exact h.nodup ev
  · intro ev ev' e he he'
    exact h.disjoint ev ev' e (h.mem_remove hin he).1 (h.mem_remove hin he').1
  · intro ev block he
    exact hblocks block (h.allocated ev block (h.mem_remove hin he).1) (h.mem_remove hin he).2.symm
  · intro ev e he
    have hold := h.mem_remove hin he
    simp only [State.remove, update_of_ne hold.2]
    exact h.isStatic ev e hold.1

/-! ## One call -/

variable {s' : State}

theorem Inv.subscribeSig (h : Inv s live) {signal : Option Nat} {sigNum : Nat}
    {block : Option Nat}
    (hnext : s.next (.subscribeSig event signal sigNum block) = some s') :
    Inv s' (live.next (.subscribeSig event signal sigNum block)) := by
  obtain ⟨hfree, hnext⟩ := Option.ite_none_left_eq_some.mp hnext
  obtain ⟨r, hsub, rfl⟩ := Option.map_eq_some_iff.mp hnext
  obtain ⟨-, hsub⟩ := Option.ite_none_left_eq_some.mp hsub
  cases block with
  | none =>
    obtain rfl := Option.some.inj hsub
    exact h
  | some block =>
    obtain rfl := Option.some.inj hsub
    have hfree : block ∉ s.blocks := fun hb => hfree ⟨block, rfl, hb⟩
    refine h.insertTail (.heap block) (fun ev hev => hfree (h.allocated ev block hev)) rfl
      (List.subset_cons_self block s.blocks) fun b hb => ?_
    obtain rfl := Elem.heap.inj hb
    exact List.mem_cons_self

/-- An element is in a list if its subscription is live. -/
theorem Inv.exists_elem (h : Inv s live) {q : Sub → Bool}
    (hlive : ∃ sub ∈ live event, q sub = true) :
    ∃ elem, (s.events event).find? (fun e => q (s.sub e)) = some elem := by
  obtain ⟨sub, hsub, hq⟩ := hlive
  rw [← h.live event, List.mem_map] at hsub
  obtain ⟨elem, helem, rfl⟩ := hsub
  rw [← Option.isSome_iff_exists, List.find?_isSome]
  exact ⟨elem, helem, hq⟩

theorem Inv.subscribeSigStatic (h : Inv s live) {mem : Nat} {signal : Option Nat} {sigNum : Nat}
    (hnew : NotTwice live (.subscribeSigStatic mem event signal sigNum))
    (hnext : s.next (.subscribeSigStatic mem event signal sigNum) = some s') :
    Inv s' (live.next (.subscribeSigStatic mem event signal sigNum)) := by
  obtain ⟨-, hsub⟩ := Option.ite_none_left_eq_some.mp hnext
  obtain rfl := Option.some.inj hsub
  refine h.insertTail (.static mem) (fun ev hev => ?_) rfl (List.Subset.refl s.blocks)
    fun b hb => absurd hb (by simp)
  refine hnew ev (s.sub (.static mem)) ?_ rfl
  rw [← h.live ev]
  exact List.mem_map_of_mem hev

theorem Inv.unsubscribeSig (h : Inv s live) {signal : Option Nat} {sigNum : Nat}
    (hlive : Subscribed live (.unsubscribeSig event signal sigNum))
    (hnext : s.next (.unsubscribeSig event signal sigNum) = some s') :
    Inv s' (live.next (.unsubscribeSig event signal sigNum)) := by
  obtain ⟨sub, hsub, hsignal, hsigNum⟩ := hlive
  obtain ⟨elem, hfind⟩ := h.exists_elem
    (q := fun sub => sub.signal == signal && sub.sigNum == sigNum)
    ⟨sub, hsub, by simp [hsignal, hsigNum]⟩
  have hin : elem ∈ s.events event := List.mem_of_find?_eq_some hfind
  have hstatic : ((s.remove event elem).infos elem).isStatic = elem.mem.isSome := by
    rw [← h.isStatic event elem hin]
    simp only [State.remove, update_self]
  have hfind' : (s.events event).find? (fun e => (s.infos e).isFor signal sigNum) = some elem :=
    hfind
  obtain ⟨-, hnext⟩ := Option.ite_none_left_eq_some.mp hnext
  rw [hfind'] at hnext
  simp only [hstatic] at hnext
  cases elem with
  | heap block =>
    obtain rfl := Option.some.inj hnext
    refine h.remove hfind fun b hb hne => ?_
    have hne : b ≠ block := fun heq => hne (congrArg Elem.heap heq.symm)
    exact (List.mem_erase_of_ne hne).mpr hb
  | static mem =>
    obtain rfl := Option.some.inj hnext
    exact h.remove hfind fun b hb _ => hb

theorem Inv.unsubscribeSigStatic (h : Inv s live) {mem : Nat}
    (hlive : Subscribed live (.unsubscribeSigStatic mem event))
    (hnext : s.next (.unsubscribeSigStatic mem event) = some s') :
    Inv s' (live.next (.unsubscribeSigStatic mem event)) := by
  obtain ⟨sub, hsub, hmem⟩ := hlive
  obtain ⟨elem, hfind⟩ := h.exists_elem (q := fun sub => sub.mem == some mem)
    ⟨sub, hsub, by simp [hmem]⟩
  have htest : (fun e => e == Elem.static mem) = fun e => (s.sub e).mem == some mem := by
    funext e
    cases e with
    | heap block => rfl
    | static mem' =>
      rw [Bool.eq_iff_iff, beq_iff_eq, beq_iff_eq]
      exact ⟨fun heq => congrArg Elem.mem heq,
        fun heq => congrArg Elem.static (Option.some.inj heq)⟩
  obtain ⟨-, hnext⟩ := Option.ite_none_left_eq_some.mp hnext
  rw [htest, hfind] at hnext
  obtain rfl := Option.some.inj hnext
  exact h.remove hfind fun b hb _ => hb

/-- **One call** keeps the invariant, if it is not one that unsubscribes what is not subscribed. -/
theorem Inv.next (h : Inv s live) {op : Op} (hnew : NotTwice live op)
    (hlive : Subscribed live op) (hnext : s.next op = some s') : Inv s' (live.next op) := by
  cases op with
  | subscribeSig event signal sigNum block => exact h.subscribeSig hnext
  | subscribeSigStatic mem event signal sigNum => exact h.subscribeSigStatic hnew hnext
  | unsubscribeSig event signal sigNum => exact h.unsubscribeSig hlive hnext
  | unsubscribeSigStatic mem event => exact h.unsubscribeSigStatic hlive hnext
  | notify event =>
    obtain rfl := Option.some.inj hnext
    exact h

/-! ## Whole runs -/

/-- **The event manager keeps exactly the live subscriptions** in every run in which only what is
subscribed is unsubscribed. -/
theorem keepsLive_of_reachableVia {st : State × Live}
    (h : system.ReachableVia (fun st op => NotTwice st.2 op ∧ Subscribed st.2 op) st) :
    KeepsLive st.1 st.2 := by
  suffices hinv : Inv st.1 st.2 from hinv.keepsLive
  refine System.ReachableVia.invariant (P := fun st => Inv st.1 st.2) ?_ ?_ h
  · rintro st rfl
    exact inv_start
  · intro st op st' _ hst hop hstep
    obtain ⟨-, hstep⟩ := Option.ite_none_left_eq_some.mp hstep
    obtain ⟨s', hnext, rfl⟩ := Option.map_eq_some_iff.mp hstep
    exact hst.next hop.1 hop.2 hnext

/-! ## An absent subscription -/

/-- What is subscribed, with a block of the heap, is unsubscribed again. -/
theorem keepsLive_subscribe_unsubscribe :
    ∃ st, system.run (State.start, fun _ => []) [.subscribeSig .reboot (some 1) 1 (some 0),
        .unsubscribeSig .reboot (some 1) 1] = some st ∧ KeepsLive st.1 st.2 := by
  refine ⟨_, rfl, keepsLive_of_reachableVia
    (.step (a := .unsubscribeSig .reboot (some 1) 1)
      (.step (a := .subscribeSig .reboot (some 1) 1 (some 0)) (.init rfl) ⟨trivial, trivial⟩ rfl)
      ⟨trivial, ⟨none, some 1, 1⟩, ?_, rfl, rfl⟩ rfl)⟩
  exact List.mem_singleton_self _

/-- Where nothing is subscribed, `event_mgr_unsubscribe_sig` writes to a member of NULL. -/
theorem not_keepsLive_unsubscribe :
    ¬ ∀ st, system.ReachableVia (fun st op => NotTwice st.2 op) st → KeepsLive st.1 st.2 := by
  intro h
  have hreach : system.ReachableVia (fun st op => NotTwice st.2 op)
      ({ State.start with fault := true },
        Live.next (fun _ => []) (.unsubscribeSig .reboot (some 1) 1)) :=
    .step (a := .unsubscribeSig .reboot (some 1) 1) (.init rfl) trivial rfl
  exact absurd (h _ hreach).noFault (by decide)

end EventMgr
end RuuviGateway
