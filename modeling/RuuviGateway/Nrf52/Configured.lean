import RuuviGateway.Nrf52.Handlers

/-!
# What `flag_nrf52_configured` says about the radio

`NRF52_ACK_CFG` carries no information about the `SET_ALL` that was acknowledged.
Its handler sets `flag_nrf52_configured` and clears `flag_cfg_required` whatever
that command contained.  When a new configuration was cached after the command
was sent, or the radio was rebooted since, nothing sends the settings again:
`stale_ack_leaves_old_settings` is such a run.

## When the flag can be believed

`FreshAck` is the condition on one step: an `NRF52_ACK_CFG` that is handled while
neither `NRF52_CFG_UPDATE` nor `NRF52_REBOOTED` is pending answers a `SET_ALL`
sent after the last `adv_post_nrf52_cfg_update` and the last reboot of the radio.
With one of the two signals pending a stale ACK does no harm, since the handler
of that signal takes the flag back.

The invariant has two halves.  `LinkInv` is about the UART: the queues carry
epochs in order, a command of the current epoch carries the cached settings, and
once an ACK of the current epoch exists the radio has the cached settings and
nothing else is on its way to it (`Settled`).  `FlagInv` is about the flags: a
`SET_ALL` is only ever sent when a configuration is ready and the reset mode is
not manual, so the handler of `NRF52_REBOOTED` always asks for a new `SET_ALL`
when the radio was configured before.
-/

namespace RuuviGateway
namespace AdvPostNrf52

open TransitionSystem

variable {s t : State}

/-- The radio holds the cached settings, and so does every `SET_ALL` on its way. -/
def Settled (s : State) : Prop :=
  s.radio = some s.cached ∧ ∀ m ∈ s.uartTx, ∀ c, m.msg = .setAll c → c = s.cached

/-- A `SET_ALL` can be sent: the configuration is ready and resets are automatic. -/
def Armed (s : State) : Prop :=
  s.flagCfgReady = true ∧ s.manualResetMode = false

/-! ## The UART -/

/-- What holds of the two queues, the radio and the epochs. -/
structure LinkInv (s : State) : Prop where
  tx_le : ∀ m ∈ s.uartTx, m.epoch ≤ s.epoch
  tx_sorted : s.uartTx.Pairwise fun m n => m.epoch ≤ n.epoch
  tx_fresh : ∀ m ∈ s.uartTx, m.epoch = s.epoch → ∀ c, m.msg = .setAll c → c = s.cached
  rx_le : ∀ a ∈ s.uartRx, a.epoch ≤ s.epoch
  ack_le : s.ackCfgEpoch ≤ s.epoch
  rx_settled : ∀ a ∈ s.uartRx, a.cmd = .setAll → a.epoch = s.epoch → Settled s
  ack_settled : s.ackCfgEpoch = s.epoch → Settled s

theorem Sent.epoch_eq {P : Prop} {l : List TxMsg} (h : Sent s P l) :
    ∀ m ∈ l, m.epoch = s.epoch := by
  cases h <;> simp

theorem Sent.setAll_eq {P : Prop} {l : List TxMsg} (h : Sent s P l) :
    ∀ m ∈ l, ∀ c, m.msg = .setAll c → c = s.cached := by
  cases h with
  | nothing => simp
  | led ms => simp
  | cfg _ _ =>
    intro m hm c hc
    rw [List.mem_singleton.mp hm] at hc
    exact (UartMsg.setAll.inj hc).symm

theorem Sent.pairwise {P : Prop} {l : List TxMsg} (h : Sent s P l) :
    l.Pairwise fun m n => m.epoch ≤ n.epoch := by
  cases h <;> simp

/-- Handling a signal keeps the radio settled: a new `SET_ALL` carries the cached
settings again. -/
theorem Settled.handled {sig : Sig} (h : Settled s) (hh : Handled sig s t) : Settled t := by
  obtain ⟨l, htx, hl⟩ := hh.sent
  refine ⟨by rw [hh.link.radio, hh.link.cached]; exact h.1, fun m hm c hc => ?_⟩
  rw [htx, List.mem_append] at hm
  rw [hh.link.cached]
  rcases hm with hm | hm
  · exact h.2 m hm c hc
  · exact hl.setAll_eq m hm c hc

theorem LinkInv.handled {sig : Sig} (h : LinkInv s) (hh : Handled sig s t) : LinkInv t := by
  obtain ⟨l, htx, hl⟩ := hh.sent
  have hepoch := hh.link.epoch
  constructor
  · intro m hm
    rw [htx, List.mem_append] at hm
    rcases hm with hm | hm
    · exact hepoch ▸ h.tx_le m hm
    · exact (hl.epoch_eq m hm).trans hepoch.symm |>.le
  · rw [htx, List.pairwise_append]
    refine ⟨h.tx_sorted, hl.pairwise, fun m hm n hn => ?_⟩
    exact (h.tx_le m hm).trans (hl.epoch_eq n hn).ge
  · intro m hm he c hc
    rw [htx, List.mem_append] at hm
    rw [hh.link.cached]
    rcases hm with hm | hm
    · exact h.tx_fresh m hm (he.trans hepoch) c hc
    · exact hl.setAll_eq m hm c hc
  · rw [hh.link.uartRx, hepoch]
    exact h.rx_le
  · rw [hh.link.ackCfgEpoch, hepoch]
    exact h.ack_le
  · rw [hh.link.uartRx, hepoch]
    exact fun a ha hc he => (h.rx_settled a ha hc he).handled hh
  · rw [hh.link.ackCfgEpoch, hepoch]
    exact fun he => (h.ack_settled he).handled hh

/-- The pending signals are not part of the link. -/
theorem LinkInv.withPending (h : LinkInv s) (p : Finset Sig) :
    LinkInv { s with pending := p } :=
  ⟨h.tx_le, h.tx_sorted, h.tx_fresh, h.rx_le, h.ack_le, h.rx_settled, h.ack_settled⟩

/-- A new epoch makes every queued command and every ACK an old one. -/
theorem LinkInv.newEpoch (h : LinkInv s) (htx : t.uartTx = s.uartTx) (hrx : t.uartRx = s.uartRx)
    (hepoch : t.epoch = s.epoch + 1) (hack : t.ackCfgEpoch = s.ackCfgEpoch) : LinkInv t := by
  have htx_lt : ∀ m ∈ t.uartTx, m.epoch < t.epoch := by
    rw [htx, hepoch]
    exact fun m hm => Nat.lt_succ_of_le (h.tx_le m hm)
  have hrx_lt : ∀ a ∈ t.uartRx, a.epoch < t.epoch := by
    rw [hrx, hepoch]
    exact fun a ha => Nat.lt_succ_of_le (h.rx_le a ha)
  have hack_lt : t.ackCfgEpoch < t.epoch := by
    rw [hack, hepoch]
    exact Nat.lt_succ_of_le h.ack_le
  exact ⟨fun m hm => (htx_lt m hm).le, htx ▸ h.tx_sorted,
    fun m hm he => absurd he (htx_lt m hm).ne, fun a ha => (hrx_lt a ha).le, hack_lt.le,
    fun a ha _ he => absurd he (hrx_lt a ha).ne, fun he => absurd he hack_lt.ne⟩

/-- Losing the first command. -/
theorem LinkInv.loseCmd {m : TxMsg} {rest : List TxMsg} (h : LinkInv s)
    (htx : s.uartTx = m :: rest) : LinkInv { s with uartTx := rest } := by
  have hmem : ∀ n ∈ rest, n ∈ s.uartTx := fun n hn => htx ▸ List.mem_cons_of_mem m hn
  have hsettled : Settled s → Settled { s with uartTx := rest } :=
    fun hs => ⟨hs.1, fun n hn => hs.2 n (hmem n hn)⟩
  exact ⟨fun n hn => h.tx_le n (hmem n hn), (List.pairwise_cons.mp (htx ▸ h.tx_sorted)).2,
    fun n hn => h.tx_fresh n (hmem n hn), h.rx_le, h.ack_le,
    fun a ha hc he => hsettled (h.rx_settled a ha hc he), fun he => hsettled (h.ack_settled he)⟩

/-- Losing the first ACK. -/
theorem LinkInv.loseAck {a : RxAck} {rest : List RxAck} (h : LinkInv s)
    (hrx : s.uartRx = a :: rest) : LinkInv { s with uartRx := rest } := by
  have hmem : ∀ b ∈ rest, b ∈ s.uartRx := fun b hb => hrx ▸ List.mem_cons_of_mem a hb
  exact ⟨h.tx_le, h.tx_sorted, h.tx_fresh, fun b hb => h.rx_le b (hmem b hb), h.ack_le,
    fun b hb => h.rx_settled b (hmem b hb), h.ack_settled⟩

/-- The radio applies the settings of a `SET_ALL`; a `LED_CTRL` leaves them alone. -/
theorem radioReceive_eq_some {ackState : Nat} (h : radioReceive ackState s = some t) :
    ∃ m rest, s.uartTx = m :: rest ∧
      t = { s with
        radio := match m.msg with
          | .setAll settings => some settings
          | .ledCtrl _ => s.radio
        uartTx := rest
        uartRx := s.uartRx ++ [⟨m.msg.cmd, ackState, m.epoch⟩] } := by
  unfold radioReceive at h
  cases htx : s.uartTx with
  | nil =>
    rw [htx] at h
    exact absurd h (by simp)
  | cons m rest =>
    rw [htx] at h
    simp only at h
    split at h
    · exact absurd h (by simp)
    · refine ⟨m, rest, rfl, ?_⟩
      rw [← Option.some.inj h]
      obtain ⟨msg, e⟩ := m
      cases msg <;> rfl

/-- A settled radio stays settled when it receives the next command. -/
theorem Settled.radioReceive {ackState : Nat} (h : Settled s)
    (hstep : radioReceive ackState s = some t) : Settled t := by
  obtain ⟨m, rest, htx, rfl⟩ := radioReceive_eq_some hstep
  have hrest : ∀ n ∈ rest, ∀ c, n.msg = .setAll c → c = s.cached :=
    fun n hn => h.2 n (htx ▸ List.mem_cons_of_mem m hn)
  refine ⟨?_, hrest⟩
  cases hm : m.msg with
  | setAll c =>
    have hc : c = s.cached := h.2 m (htx ▸ List.mem_cons_self) c hm
    exact congrArg some hc
  | ledCtrl ms => exact h.1

/-- **Receiving a command of the current epoch settles the radio.**  The commands
behind it were sent later, so they are of the current epoch too. -/
theorem LinkInv.settled_of_receive {ackState : Nat} (h : LinkInv s) (m : TxMsg)
    (rest : List TxMsg) (htx : s.uartTx = m :: rest) (hm : m.msg.cmd = .setAll)
    (he : m.epoch = s.epoch) (hstep : radioReceive ackState s = some t) : Settled t := by
  obtain ⟨m', rest', htx', rfl⟩ := radioReceive_eq_some hstep
  obtain ⟨rfl, rfl⟩ := List.cons_eq_cons.mp (htx.symm.trans htx')
  have hmem : ∀ n ∈ rest, n ∈ s.uartTx := fun n hn => htx ▸ List.mem_cons_of_mem m hn
  have hlater : ∀ n ∈ rest, n.epoch = s.epoch := by
    intro n hn
    have hle := (List.pairwise_cons.mp (htx ▸ h.tx_sorted)).1 n hn
    exact le_antisymm (h.tx_le n (hmem n hn)) (he ▸ hle)
  refine ⟨?_, fun n hn c hc => h.tx_fresh n (hmem n hn) (hlater n hn) c hc⟩
  cases hmsg : m.msg with
  | setAll c =>
    have hc : c = s.cached := h.tx_fresh m (htx ▸ List.mem_cons_self) he c hmsg
    exact congrArg some hc
  | ledCtrl ms =>
    rw [hmsg] at hm
    exact absurd hm (by simp [UartMsg.cmd])

theorem LinkInv.radioReceive {ackState : Nat} (h : LinkInv s)
    (hstep : radioReceive ackState s = some t) : LinkInv t := by
  have hsettled : Settled s → Settled t := fun hs => hs.radioReceive hstep
  have hnew := fun m rest htx hm he => h.settled_of_receive m rest htx hm he hstep
  obtain ⟨m, rest, htx, rfl⟩ := radioReceive_eq_some hstep
  have hhead : m ∈ s.uartTx := htx ▸ List.mem_cons_self
  have hmem : ∀ n ∈ rest, n ∈ s.uartTx := fun n hn => htx ▸ List.mem_cons_of_mem m hn
  constructor
  · exact fun n hn => h.tx_le n (hmem n hn)
  · exact (List.pairwise_cons.mp (htx ▸ h.tx_sorted)).2
  · exact fun n hn => h.tx_fresh n (hmem n hn)
  · intro a ha
    rcases List.mem_append.mp ha with ha | ha
    · exact h.rx_le a ha
    · rw [List.mem_singleton.mp ha]
      exact h.tx_le m hhead
  · exact h.ack_le
  · intro a ha hc he
    rcases List.mem_append.mp ha with ha | ha
    · exact hsettled (h.rx_settled a ha hc he)
    · rw [List.mem_singleton.mp ha] at hc he
      exact hnew m rest htx hc he
  · exact fun he => hsettled (h.ack_settled he)

/-- What receiving an ACK does: it may raise one of two signals, and it notes which
`SET_ALL` was acknowledged. -/
theorem onAsyncAck_cases (ack : RxAck) (s : State) :
    (∃ p, onAsyncAck ack s = { s with lastCmd := .zero, pending := p } ∧
      (p = s.pending ∨ p = insert .nrf52AckLedCtrl s.pending)) ∨
    (ack.cmd = .setAll ∧ onAsyncAck ack s =
      { s with
        lastCmd := .zero
        ackCfgEpoch := ack.epoch
        pending := insert .nrf52AckCfg s.pending }) := by
  unfold onAsyncAck sendSig
  simp only
  split
  · exact Or.inl ⟨_, rfl, Or.inl rfl⟩
  · cases hcmd : ack.cmd with
    | ledCtrl =>
      simp only
      split
      · exact Or.inl ⟨_, rfl, Or.inr rfl⟩
      · exact Or.inl ⟨_, rfl, Or.inl rfl⟩
    | setAll =>
      simp only
      split
      · exact Or.inr ⟨trivial, rfl⟩
      · exact Or.inl ⟨_, rfl, Or.inl rfl⟩
    | zero => exact Or.inl ⟨_, rfl, Or.inl rfl⟩
    | other c => exact Or.inl ⟨_, rfl, Or.inl rfl⟩

theorem LinkInv.recvAck {a : RxAck} {rest : List RxAck} (h : LinkInv s)
    (hrx : s.uartRx = a :: rest) : LinkInv (onAsyncAck a { s with uartRx := rest }) := by
  have hrest := h.loseAck hrx
  have hhead : a ∈ s.uartRx := hrx ▸ List.mem_cons_self
  rcases onAsyncAck_cases a { s with uartRx := rest } with ⟨p, heq, -⟩ | ⟨hcmd, heq⟩
  · rw [heq]
    exact ⟨hrest.tx_le, hrest.tx_sorted, hrest.tx_fresh, hrest.rx_le, hrest.ack_le,
      hrest.rx_settled, hrest.ack_settled⟩
  · rw [heq]
    exact ⟨hrest.tx_le, hrest.tx_sorted, hrest.tx_fresh, hrest.rx_le, h.rx_le a hhead,
      hrest.rx_settled, fun he => h.rx_settled a hhead hcmd he⟩

/-! ## The flags -/

/-- What the flags promise. -/
structure FlagInv (s : State) : Prop where
  required_unconfigured : s.flagCfgRequired = true → s.flagNrf52Configured = false
  required_ready : s.flagCfgRequired = true → s.flagCfgReady = true
  update_ready : .nrf52CfgUpdate ∈ s.pending → s.flagCfgReady = true
  tx_armed : ∀ m ∈ s.uartTx, m.msg.cmd = .setAll → Armed s
  rx_armed : ∀ a ∈ s.uartRx, a.cmd = .setAll → Armed s
  ack_armed : .nrf52AckCfg ∈ s.pending → Armed s
  configured_armed : s.flagNrf52Configured = true → Armed s

/-- **The property**: a configured radio holds the cached settings, unless a signal
that takes the flag back is pending. -/
def ConfiguredHolds (s : State) : Prop :=
  s.flagNrf52Configured = true → .nrf52CfgUpdate ∉ s.pending → .nrf52Rebooted ∉ s.pending →
    s.radio = some s.cached

/-- The inductive form of the property. -/
def ConfiguredSettled (s : State) : Prop :=
  s.flagNrf52Configured = true → .nrf52CfgUpdate ∉ s.pending → .nrf52Rebooted ∉ s.pending →
    Settled s

/-- **The condition.**  An `NRF52_ACK_CFG` that is handled with neither
`NRF52_CFG_UPDATE` nor `NRF52_REBOOTED` pending answers a `SET_ALL` sent after the
last configuration update and the last reboot of the radio. -/
def FreshAck (s : State) (a : Act) : Prop :=
  a = .handle .nrf52AckCfg →
    .nrf52CfgUpdate ∈ s.pending ∨ .nrf52Rebooted ∈ s.pending ∨ s.ackCfgEpoch = s.epoch

instance (s : State) (a : Act) : Decidable (FreshAck s a) :=
  inferInstanceAs (Decidable (_ → _))

instance (s : State) : Decidable (ConfiguredHolds s) :=
  inferInstanceAs (Decidable (_ → _ → _ → _))

/-- Only a `SET_ALL` carries the command code of one. -/
theorem Sent.armed {P : Prop} {l : List TxMsg} (h : Sent s P l) :
    ∀ m ∈ l, m.msg.cmd = .setAll → P ∧ s.manualResetMode = false := by
  cases h with
  | nothing => simp
  | led ms => simp [UartMsg.cmd]
  | cfg hP hmanual => exact fun _ _ _ => ⟨hP, hmanual⟩

/-- Handling a pending signal keeps the promises of the flags. -/
theorem FlagInv.handled {sig : Sig} (h : FlagInv s) (hsig : sig ∈ s.pending)
    (hh : Handled sig { s with pending := s.pending.erase sig } t) : FlagInv t := by
  obtain ⟨l, htx, hl⟩ := hh.sent
  have harmed : Armed s → Armed t := fun ha => ⟨hh.link.ready.trans ha.1, hh.link.manual.trans ha.2⟩
  have hready : s.flagCfgRequired = true ∨ sig = .nrf52CfgUpdate → s.flagCfgReady = true := by
    rintro (hreq | rfl)
    · exact h.required_ready hreq
    · exact h.update_ready hsig
  have hpend : ∀ x, x ∈ t.pending →
      x ∈ s.pending ∨ x = .nrf52CfgUpdate ∧ s.flagCfgReady = true := by
    intro x hx
    rcases hh.pending with hp | ⟨hr, hp⟩
    · rw [hp] at hx
      exact Or.inl (Finset.mem_of_mem_erase hx)
    · rw [hp, Finset.mem_insert] at hx
      rcases hx with rfl | hx
      · exact Or.inr ⟨rfl, hr⟩
      · exact Or.inl (Finset.mem_of_mem_erase hx)
  constructor
  · intro hreq
    rw [← Bool.not_eq_true]
    intro hconf
    rcases hh.configured hconf with ⟨-, hnot⟩ | ⟨hne, hs⟩
    · exact absurd (hreq.symm.trans hnot) (by decide)
    · rcases hh.required hreq with hr | rfl
      · exact absurd (hs.symm.trans (h.required_unconfigured hr)) (by decide)
      · exact hne rfl
  · exact fun hreq => hh.link.ready.trans (hready (hh.required hreq))
  · intro hx
    rcases hpend _ hx with hx | ⟨-, hr⟩
    · exact hh.link.ready.trans (h.update_ready hx)
    · exact hh.link.ready.trans hr
  · intro m hm hc
    rw [htx, List.mem_append] at hm
    rcases hm with hm | hm
    · exact harmed (h.tx_armed m hm hc)
    · obtain ⟨hP, hmanual⟩ := hl.armed m hm hc
      exact harmed ⟨hready hP, hmanual⟩
  · rw [hh.link.uartRx]
    exact fun a ha hc => harmed (h.rx_armed a ha hc)
  · intro hx
    rcases hpend _ hx with hx | ⟨hx, -⟩
    · exact harmed (h.ack_armed hx)
    · exact absurd hx (by decide)
  · intro hconf
    rcases hh.configured hconf with ⟨rfl, -⟩ | ⟨-, hs⟩
    · exact harmed (h.ack_armed hsig)
    · exact harmed (h.configured_armed hs)

/-- Handling a pending signal keeps the property, if a stale ACK is harmless. -/
theorem ConfiguredSettled.handled {sig : Sig} (h : ConfiguredSettled s) (hlink : LinkInv s)
    (hflag : FlagInv s) (hok : FreshAck s (.handle sig))
    (hh : Handled sig { s with pending := s.pending.erase sig } t) : ConfiguredSettled t := by
  intro hconf hupdate hrebooted
  have hkeep : ∀ x, x ≠ sig → x ∉ t.pending → x ∉ s.pending := by
    intro x hx hxt hxs
    refine hxt ?_
    have hx' : x ∈ s.pending.erase sig := Finset.mem_erase.mpr ⟨hx, hxs⟩
    rcases hh.pending with hp | ⟨-, hp⟩
    · exact hp ▸ hx'
    · exact hp ▸ Finset.mem_insert_of_mem hx'
  have hsettled : Settled s := by
    rcases hh.configured hconf with ⟨rfl, -⟩ | ⟨hne, hs⟩
    · -- the acknowledged command is of the current epoch
      rcases hok rfl with hp | hp | he
      · exact absurd hp (hkeep _ (by decide) hupdate)
      · exact absurd hp (hkeep _ (by decide) hrebooted)
      · exact hlink.ack_settled he
    · by_cases hsig : sig = .nrf52Rebooted
      · have harmed := hflag.configured_armed hs
        exact absurd (hh.rebooted hsig harmed.1 harmed.2) hupdate
      · exact h hs (hkeep _ (Ne.symm hne) hupdate) (hkeep _ (Ne.symm hsig) hrebooted)
  exact Settled.handled (s := { s with pending := s.pending.erase sig }) hsettled hh

/-! ## One step -/

/-- The invariant of a run whose ACKs are fresh. -/
structure Inv (s : State) : Prop where
  link : LinkInv s
  flag : FlagInv s
  settled : ConfiguredSettled s

theorem Inv.init (scan : GwCfgScan) (filter : GwCfgFilter) (manualResetMode : Bool)
    (radio : Option SetAll) : Inv (init scan filter manualResetMode radio) where
  link := ⟨by simp [AdvPostNrf52.init, reset], by simp [AdvPostNrf52.init, reset],
    by simp [AdvPostNrf52.init, reset], by simp [AdvPostNrf52.init, reset],
    by simp [AdvPostNrf52.init, reset], by simp [AdvPostNrf52.init, reset],
    by simp [AdvPostNrf52.init, reset]⟩
  flag := ⟨by simp [AdvPostNrf52.init, reset], by simp [AdvPostNrf52.init, reset],
    by simp [AdvPostNrf52.init, reset], by simp [AdvPostNrf52.init, reset],
    by simp [AdvPostNrf52.init, reset], by simp [AdvPostNrf52.init, reset],
    by simp [AdvPostNrf52.init, reset]⟩
  settled := fun h => absurd h Bool.false_ne_true

/-- A step that leaves the UART, the radio and the flags alone and raises at most a
signal that promises nothing. -/
theorem Inv.raise (sig : Sig) (h : Inv s) (hupdate : sig ≠ .nrf52CfgUpdate)
    (hack : sig ≠ .nrf52AckCfg) : Inv (sendSig sig s) where
  link := h.link.withPending _
  flag :=
    { required_unconfigured := h.flag.required_unconfigured
      required_ready := h.flag.required_ready
      update_ready := fun hx =>
        h.flag.update_ready (Finset.mem_of_mem_insert_of_ne hx (Ne.symm hupdate))
      tx_armed := h.flag.tx_armed
      rx_armed := h.flag.rx_armed
      ack_armed := fun hx => h.flag.ack_armed (Finset.mem_of_mem_insert_of_ne hx (Ne.symm hack))
      configured_armed := h.flag.configured_armed }
  settled := fun hconf hx hy =>
    h.settled hconf (fun hx' => hx (Finset.mem_insert_of_mem hx'))
      (fun hy' => hy (Finset.mem_insert_of_mem hy'))

/-- Updating the configuration opens a new epoch, and the flag is taken back. -/
theorem Inv.cfgUpdate (h : Inv s) (scan : GwCfgScan) (filter : GwCfgFilter) :
    Inv (cfgUpdate scan filter s) where
  link := h.link.newEpoch rfl rfl rfl rfl
  flag :=
    { required_unconfigured := fun _ => rfl
      required_ready := fun _ => rfl
      update_ready := fun _ => rfl
      tx_armed := fun m hm hc => ⟨rfl, (h.flag.tx_armed m hm hc).2⟩
      rx_armed := fun a ha hc => ⟨rfl, (h.flag.rx_armed a ha hc).2⟩
      ack_armed := fun hx =>
        ⟨rfl, (h.flag.ack_armed (Finset.mem_of_mem_insert_of_ne hx (by decide))).2⟩
      configured_armed := fun hconf => absurd hconf Bool.false_ne_true }
  settled := fun hconf => absurd hconf Bool.false_ne_true

/-- A reboot of the radio opens a new epoch and raises `NRF52_REBOOTED`. -/
theorem Inv.radioReboot (h : Inv s) : Inv (radioReboot s) where
  link := h.link.newEpoch rfl rfl rfl rfl
  flag :=
    { required_unconfigured := h.flag.required_unconfigured
      required_ready := h.flag.required_ready
      update_ready := fun hx =>
        h.flag.update_ready (Finset.mem_of_mem_insert_of_ne hx (by decide))
      tx_armed := h.flag.tx_armed
      rx_armed := h.flag.rx_armed
      ack_armed := fun hx =>
        h.flag.ack_armed (Finset.mem_of_mem_insert_of_ne hx (by decide))
      configured_armed := h.flag.configured_armed }
  settled := fun _ _ hx => absurd (Finset.mem_insert_self _ _) hx

/-- Taking `NRF52_HW_RESET_OFF` out of the pending signals loses nothing. -/
theorem Inv.eraseHwResetOff (h : Inv s) :
    Inv { s with pending := s.pending.erase .nrf52HwResetOff } where
  link := h.link.withPending _
  flag :=
    { required_unconfigured := h.flag.required_unconfigured
      required_ready := h.flag.required_ready
      update_ready := fun hx => h.flag.update_ready (Finset.mem_of_mem_erase hx)
      tx_armed := h.flag.tx_armed
      rx_armed := h.flag.rx_armed
      ack_armed := fun hx => h.flag.ack_armed (Finset.mem_of_mem_erase hx)
      configured_armed := h.flag.configured_armed }
  settled := fun hconf hx hy =>
    h.settled hconf (fun hx' => hx (Finset.mem_erase.mpr ⟨by decide, hx'⟩))
      (fun hy' => hy (Finset.mem_erase.mpr ⟨by decide, hy'⟩))

/-- The invariant reads neither the timers, nor the LED interval, nor the flags of
the ACK and of the reset line. -/
theorem Inv.frame (h : Inv s) (hlink : SameLink s t) (htx : t.uartTx = s.uartTx)
    (hpend : t.pending = s.pending) (hreq : t.flagCfgRequired = s.flagCfgRequired)
    (hconf : t.flagNrf52Configured = s.flagNrf52Configured) : Inv t := by
  obtain ⟨hscan, hfilter, hready, hmanual, hrx, hradio, hepoch, hack⟩ := hlink
  obtain ⟨scan, filter, ready, conf, inReset, last, waiting, req, cnt, led, ta, tr, tc, manual,
    pend, tx, rx, radio, hwReset, epoch, ack⟩ := t
  subst hscan hfilter hready hmanual hrx hradio hepoch hack htx hpend hreq hconf
  exact
    { link := ⟨h.link.tx_le, h.link.tx_sorted, h.link.tx_fresh, h.link.rx_le, h.link.ack_le,
        h.link.rx_settled, h.link.ack_settled⟩
      flag := ⟨h.flag.required_unconfigured, h.flag.required_ready, h.flag.update_ready,
        h.flag.tx_armed, h.flag.rx_armed, h.flag.ack_armed, h.flag.configured_armed⟩
      settled := h.settled }

theorem Inv.radioReceive {ackState : Nat} (h : Inv s)
    (hstep : radioReceive ackState s = some t) : Inv t := by
  have hlink := h.link.radioReceive hstep
  have hsettled : Settled s → Settled t := fun hs => hs.radioReceive hstep
  obtain ⟨m, rest, htx, rfl⟩ := radioReceive_eq_some hstep
  refine ⟨hlink, ⟨h.flag.required_unconfigured, h.flag.required_ready, h.flag.update_ready,
    fun n hn => h.flag.tx_armed n (htx ▸ List.mem_cons_of_mem m hn), fun a ha hc => ?_,
    h.flag.ack_armed, h.flag.configured_armed⟩, fun hconf hx hy => hsettled (h.settled hconf hx hy)⟩
  rcases List.mem_append.mp ha with ha | ha
  · exact h.flag.rx_armed a ha hc
  · rw [List.mem_singleton.mp ha] at hc
    exact h.flag.tx_armed m (htx ▸ List.mem_cons_self) hc

theorem Inv.loseCmd {m : TxMsg} {rest : List TxMsg} (h : Inv s) (htx : s.uartTx = m :: rest) :
    Inv { s with uartTx := rest } where
  link := h.link.loseCmd htx
  flag := ⟨h.flag.required_unconfigured, h.flag.required_ready, h.flag.update_ready,
    fun n hn => h.flag.tx_armed n (htx ▸ List.mem_cons_of_mem m hn), h.flag.rx_armed,
    h.flag.ack_armed, h.flag.configured_armed⟩
  settled := fun hconf hx hy =>
    have hs := h.settled hconf hx hy
    ⟨hs.1, fun n hn => hs.2 n (htx ▸ List.mem_cons_of_mem m hn)⟩

theorem Inv.loseAck {a : RxAck} {rest : List RxAck} (h : Inv s) (hrx : s.uartRx = a :: rest) :
    Inv { s with uartRx := rest } where
  link := h.link.loseAck hrx
  flag := ⟨h.flag.required_unconfigured, h.flag.required_ready, h.flag.update_ready,
    h.flag.tx_armed, fun b hb => h.flag.rx_armed b (hrx ▸ List.mem_cons_of_mem a hb),
    h.flag.ack_armed, h.flag.configured_armed⟩
  settled := h.settled

theorem Inv.recvAck {a : RxAck} {rest : List RxAck} (h : Inv s) (hrx : s.uartRx = a :: rest) :
    Inv (onAsyncAck a { s with uartRx := rest }) := by
  have hlink := h.link.recvAck hrx
  have hrest := h.loseAck hrx
  rcases onAsyncAck_cases a { s with uartRx := rest } with ⟨p, heq, rfl | rfl⟩ | ⟨hcmd, heq⟩
  · rw [heq]
    exact hrest.frame ⟨rfl, rfl, rfl, rfl, rfl, rfl, rfl, rfl⟩ rfl rfl rfl rfl
  · rw [heq]
    exact (hrest.raise .nrf52AckLedCtrl (by decide) (by decide)).frame
      ⟨rfl, rfl, rfl, rfl, rfl, rfl, rfl, rfl⟩ rfl rfl rfl rfl
  · rw [heq] at hlink ⊢
    have harmed := h.flag.rx_armed a (hrx ▸ List.mem_cons_self) hcmd
    refine ⟨hlink, ⟨hrest.flag.required_unconfigured, hrest.flag.required_ready, fun hx => ?_,
      hrest.flag.tx_armed, hrest.flag.rx_armed, fun _ => harmed, hrest.flag.configured_armed⟩,
      fun hconf hx hy => ?_⟩
    · exact hrest.flag.update_ready (Finset.mem_of_mem_insert_of_ne hx (by decide))
    · exact hrest.settled hconf (fun hx' => hx (Finset.mem_insert_of_mem hx'))
        (fun hy' => hy (Finset.mem_insert_of_mem hy'))

/-- Sending a `LED_CTRL` command, seen as the work of a handler that does nothing else. -/
theorem handled_sendCmdLedCtrl (h : sendCmdLedCtrlInternal s = some t) :
    Handled .nrf52Configured s t :=
  (Handled.of_quiet (t := s) ⟨rfl, rfl, rfl, rfl, rfl, rfl, rfl, rfl⟩ rfl rfl Or.inl
    (fun h => Or.inr ⟨by decide, h⟩) (by decide)).sendLed rfl h

theorem Inv.sendCmdLedCtrl (h : Inv s) (hstep : sendCmdLedCtrlInternal s = some t) : Inv t := by
  have hh := handled_sendCmdLedCtrl hstep
  have hlink := h.link.handled hh
  rw [sendCmdLedCtrlInternal_eq_some hstep] at hlink hh ⊢
  refine ⟨hlink, ⟨h.flag.required_unconfigured, h.flag.required_ready, h.flag.update_ready,
    fun m hm hc => ?_, h.flag.rx_armed, h.flag.ack_armed, h.flag.configured_armed⟩,
    fun hconf hx hy => (h.settled hconf hx hy).handled hh⟩
  rcases List.mem_append.mp hm with hm | hm
  · exact h.flag.tx_armed m hm hc
  · rw [List.mem_singleton.mp hm] at hc
    exact absurd hc (by simp [UartMsg.cmd])

theorem Inv.sendLedCtrl {timeIntervalMs : UInt16} (h : Inv s)
    (hstep : sendLedCtrl timeIntervalMs s = some t) : Inv t := by
  have hset : Inv { s with ledCtrlTimeIntervalMs := timeIntervalMs } :=
    h.frame ⟨rfl, rfl, rfl, rfl, rfl, rfl, rfl, rfl⟩ rfl rfl rfl rfl
  simp only [AdvPostNrf52.sendLedCtrl] at hstep
  split at hstep
  · exact hset.sendCmdLedCtrl hstep
  · exact Option.some.inj hstep ▸ hset

/-- Handling a pending signal. -/
theorem Inv.handle {sig : Sig} (h : Inv s) (hsig : sig ∈ s.pending)
    (hok : FreshAck s (.handle sig))
    (hstep : handleSig sig { s with pending := s.pending.erase sig } = some t) : Inv t := by
  by_cases hoff : sig = .nrf52HwResetOff
  · subst hoff
    rw [← Option.some.inj hstep]
    exact (h.eraseHwResetOff.radioReboot).frame ⟨rfl, rfl, rfl, rfl, rfl, rfl, rfl, rfl⟩
      rfl rfl rfl rfl
  · have hh := handled_of_handleSig hoff hstep
    exact ⟨(h.link.withPending _).handled hh, h.flag.handled hsig hh,
      h.settled.handled h.link h.flag hok hh⟩

/-- **One step keeps the invariant**, provided that a handled ACK is fresh. -/
theorem Inv.step {a : Act} (h : Inv s) (hok : FreshAck s a) (hstep : step s a = some t) :
    Inv t := by
  cases a with
  | cfgUpdate scan filter =>
    exact Option.some.inj hstep ▸ h.cfgUpdate scan filter
  | sendLedCtrl ms => exact h.sendLedCtrl hstep
  | handle sig =>
    simp only [AdvPostNrf52.step] at hstep
    split at hstep
    · rename_i hsig
      exact h.handle hsig hok hstep
    · exact absurd hstep (by simp)
  | ackTimerFires =>
    obtain ⟨-, rfl⟩ := Option.ite_some_none_eq_some.mp hstep
    exact (h.raise .nrf52AckTimeout (by decide) (by decide)).frame
      ⟨rfl, rfl, rfl, rfl, rfl, rfl, rfl, rfl⟩ rfl rfl rfl rfl
  | resetTimerFires =>
    obtain ⟨-, rfl⟩ := Option.ite_some_none_eq_some.mp hstep
    exact (h.raise .nrf52HwResetOff (by decide) (by decide)).frame
      ⟨rfl, rfl, rfl, rfl, rfl, rfl, rfl, rfl⟩ rfl rfl rfl rfl
  | cfgReqTimerFires =>
    obtain ⟨-, rfl⟩ := Option.ite_some_none_eq_some.mp hstep
    exact (h.raise .nrf52CfgReqTimeout (by decide) (by decide)).frame
      ⟨rfl, rfl, rfl, rfl, rfl, rfl, rfl, rfl⟩ rfl rfl rfl rfl
  | radioReceive ackState => exact h.radioReceive hstep
  | loseCmd =>
    cases htx : s.uartTx with
    | nil =>
      simp only [AdvPostNrf52.step, htx] at hstep
      exact absurd hstep (by simp)
    | cons m rest =>
      simp only [AdvPostNrf52.step, htx] at hstep
      exact Option.some.inj hstep ▸ h.loseCmd htx
  | recvAck =>
    cases hrx : s.uartRx with
    | nil =>
      simp only [AdvPostNrf52.step, hrx] at hstep
      exact absurd hstep (by simp)
    | cons a rest =>
      simp only [AdvPostNrf52.step, hrx] at hstep
      exact Option.some.inj hstep ▸ h.recvAck hrx
  | loseAck =>
    cases hrx : s.uartRx with
    | nil =>
      simp only [AdvPostNrf52.step, hrx] at hstep
      exact absurd hstep (by simp)
    | cons a rest =>
      simp only [AdvPostNrf52.step, hrx] at hstep
      exact Option.some.inj hstep ▸ h.loseAck hrx
  | radioReboot => exact Option.some.inj hstep ▸ h.radioReboot

/-! ## Runs -/

/-- **While every handled ACK is fresh, `flag_nrf52_configured` tells the truth**: in
every state reached, a configured radio holds the cached settings unless a signal
that takes the flag back is pending. -/
theorem configured_holds_of_freshAcks {s : State} (h : system.ReachableVia FreshAck s) :
    ConfiguredHolds s := by
  have hinv : Inv s := by
    refine h.invariant (P := Inv) ?_ fun u a v _ hu hok hstep => hu.step hok hstep
    rintro u ⟨scan, filter, manual, radio, rfl⟩
    exact Inv.init scan filter manual radio
  exact fun hconf hx hy => (hinv.settled hconf hx hy).1

/-- Bring the radio up and configure it: release the reset line, let it ask for a
configuration, send the settings and handle the ACK. -/
def configureRun (scan : GwCfgScan) (filter : GwCfgFilter) : List Act :=
  [.resetTimerFires, .handle .nrf52HwResetOff, .handle .nrf52Rebooted, .cfgUpdate scan filter,
    .handle .nrf52CfgUpdate, .radioReceive 0, .recvAck, .handle .nrf52AckCfg]

theorem configured_holds_of_configureRun :
    ∃ s, (s.flagNrf52Configured && decide (s.pending = ∅)) = true ∧ ConfiguredHolds s := by
  obtain ⟨s, hs, hp⟩ := System.exists_reachableVia_of_run (S := system) (C := FreshAck)
    ⟨⟨false, true, false, true, true, true, false⟩, ⟨0x499, true⟩, false, none, rfl⟩
    (configureRun ⟨true, true, false, true, true, true, false⟩ ⟨0x499, false⟩)
    (fun s => s.flagNrf52Configured && decide (s.pending = ∅)) (by decide)
  exact ⟨s, hp, configured_holds_of_freshAcks hs⟩

/-- A new filter is cached while the `SET_ALL` of the old one is unacknowledged.  The
handler of `NRF52_CFG_UPDATE` leaves the sending to the ACK's handler, which takes the
ACK of the old settings for one of the new. -/
def staleAckRun (scan : GwCfgScan) (filter filter' : GwCfgFilter) : List Act :=
  [.resetTimerFires, .handle .nrf52HwResetOff, .handle .nrf52Rebooted, .cfgUpdate scan filter,
    .handle .nrf52CfgUpdate, .radioReceive 0, .cfgUpdate scan filter', .handle .nrf52CfgUpdate,
    .recvAck, .handle .nrf52AckCfg]

/-- **A configuration can be lost.** -/
theorem stale_ack_leaves_old_settings : ¬ ∀ s, system.Reachable s → ConfiguredHolds s := by
  intro hall
  obtain ⟨s, hs, hp⟩ := System.exists_reachable_of_run (S := system)
    ⟨⟨false, true, false, true, true, true, false⟩, ⟨0x499, true⟩, false, none, rfl⟩
    (staleAckRun ⟨true, true, false, true, true, true, false⟩ ⟨0x499, true⟩ ⟨0x499, false⟩)
    (fun s => !decide (ConfiguredHolds s)) (by decide)
  simp only [Bool.not_eq_true', decide_eq_false_iff_not] at hp
  exact hp (hall s hs)

end AdvPostNrf52
end RuuviGateway
