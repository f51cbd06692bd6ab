import RuuviGateway.TimeTask.Settings

/-!
# When the SNTP client runs

A disconnection and a connection that the task finds together are handled the other way round, and
then the client stands still until the next connection.  And an answer that comes between the two
statements with which the task stops the client leaves the time synchronized.

In runs without the one the client runs while the network is up, and in runs without the other the
time is synchronized only while the client runs.
-/

namespace RuuviGateway
namespace TimeTask

open SignalBits TransitionSystem

variable {s t : State} {l : Label}

/-! ## When the client runs -/

/-- The steps of a gateway that uses the interface `i`, in which a connection is reported when the
disconnection before it has been handled. -/
def Orderly (i : Iface) (s : State) : Label → Prop
  | .connected j => j = i ∧ ¬s.bits.Outstanding (.disconnected i)
  | .disconnected j => j = i
  | _ => True

instance (i : Iface) (s : State) : (l : Label) → Decidable (Orderly i s l)
  | .connected j => inferInstanceAs (Decidable (j = i ∧ ¬s.bits.Outstanding (.disconnected i)))
  | .disconnected j => inferInstanceAs (Decidable (j = i))
  | .gwCfgChangedRuuvi _ | .answer _ | .dhcp _ | .wait | .next | .stmt => isTrue trivial

/-- What is left to do does not end with the client stopped for good. -/
structure Restarts (s : State) : Prop where
  stop : Stmt.sntpStop ∈ s.todo → Stmt.reconfigure ∈ s.todo
  done : s.todo = [] → s.saved.ntpUse = true →
    s.sntp.running = true ∨ s.reconnecting = true

/-- What holds of the interface `i` and the client in orderly runs. -/
structure Serves (i : Iface) (s : State) : Prop where
  /-- No disconnection is to be handled while the interface is up. -/
  disconnected : ∀ j, s.bits.Outstanding (.disconnected j) → j = i ∧ s.up i = false
  up : s.up i = true → s.bits.Outstanding (.connected i) ∨ Restarts s

variable {i : Iface}

theorem serves_init (cfg : GwCfgJson.Ntp) (dhcpDefault : Bool) :
    Serves i (init cfg dhcpDefault) where
  disconnected _ h := absurd h not_outstanding_none
  up h := Bool.noConfusion h

/-- New settings: the network is reconnected, or the client is started if it is used. -/
theorem restarts_reconfigure (htodo : s.todo = []) : Restarts (s.exec .reconfigure) := by
  have hexec : (s.exec .reconfigure).todo =
      (if s.saved.ntpUse ≠ (saveSettings s.cfg).ntpUse ∨
          s.saved.ntpUseDhcp ≠ (saveSettings s.cfg).ntpUseDhcp then [.sendSigReconnectNetwork]
        else if (saveSettings s.cfg).ntpUse then sntpStart else []) ++ s.todo := rfl
  rw [htodo, List.append_nil] at hexec
  refine ⟨fun hmem => ?_, fun hnil huse => ?_⟩
  · rw [hexec] at hmem
    split at hmem
    · simp at hmem
    · split at hmem
      · simp [sntpStart] at hmem
      · simp at hmem
  · have huse' : (saveSettings s.cfg).ntpUse = true := huse
    rw [hexec, if_pos huse'] at hnil
    split at hnil
    · simp at hnil
    · simp [sntpStart] at hnil

/-- A statement does not stop the client for good, if the handler does not. -/
theorem Restarts.stmt (hscript : Script s.saved.ntpUse s.sntp.running s.todo) (h : Restarts s)
    (hstep : step s .stmt = some t) : Restarts t := by
  obtain ⟨stmt, todo, htodo, rfl⟩ := step_stmt_cases hstep
  have hstop := h.stop
  rw [htodo] at hscript hstop
  cases hscript with
  | start huse =>
    exact ⟨by simp [State.exec], by simp [State.exec]⟩
  | init huse =>
    exact ⟨by simp [State.exec], fun _ _ => .inl rfl⟩
  | clearStop => exact absurd (hstop (by simp)) (by simp)
  | stop => exact absurd (hstop (by simp)) (by simp)
  | clearConfigure =>
    exact ⟨by simp [State.exec], by simp [State.exec]⟩
  | stopConfigure =>
    exact ⟨by simp [State.exec], by simp [State.exec]⟩
  | reconfigure hrun =>
    exact restarts_reconfigure (s := { s with todo := [] }) rfl
  | send hrun =>
    exact ⟨by simp [State.exec], fun _ _ => .inr rfl⟩

/-- A signal is taken, and a disconnection only while the interface is down. -/
theorem Serves.next {sig : Sig} {b : Bits Sig} (h : Serves i s)
    (hnext : s.bits.next Sig.order = some (sig, b)) :
    Serves i { s with bits := b, todo := handleSig s.saved sig } := by
  refine ⟨fun j hj => h.disconnected j (outstanding_of_next hnext hj), fun hup => ?_⟩
  obtain ⟨htaken, -⟩ := outstanding_next hnext
  cases sig with
  | connected j =>
    -- The client is started if it is used.
    refine .inr ⟨fun hmem => ?_, fun hnil huse => ?_⟩
    · simp only [handleSig] at hmem
      split at hmem
      · simp [sntpStart] at hmem
      · simp at hmem
    · have huse' : s.saved.ntpUse = true := huse
      simp [handleSig, huse', sntpStart] at hnil
  | disconnected j =>
    have hdown := (h.disconnected j htaken).2
    exact absurd (hdown.symm.trans hup) Bool.false_ne_true
  | gwCfgChangedRuuvi =>
    exact .inr ⟨fun _ => by simp [handleSig], fun hnil => by simp [handleSig, sntpStop] at hnil⟩

/-- One orderly step. -/
theorem Serves.step (hc : Consistent s) (h : Serves i s) (hok : Orderly i s l)
    (hstep : step s l = some t) : Serves i t := by
  cases l with
  | connected j =>
    obtain ⟨rfl, hnot⟩ := hok
    obtain rfl := Option.some.inj hstep
    refine ⟨fun k hk => ?_, fun _ => .inl (outstanding_raise.mpr (.inl rfl))⟩
    have hk' := (outstanding_raise.mp hk).resolve_left Sig.noConfusion
    obtain ⟨rfl, -⟩ := h.disconnected k hk'
    exact absurd hk' hnot
  | disconnected j =>
    have hj : j = i := hok
    subst hj
    obtain rfl := Option.some.inj hstep
    have hdown : Function.update s.up j false j = false := Function.update_self ..
    refine ⟨fun k hk => ⟨?_, hdown⟩, fun hup => absurd (hdown.symm.trans hup) Bool.false_ne_true⟩
    rcases outstanding_raise.mp hk with heq | hk
    · exact Sig.disconnected.inj heq
    · exact (h.disconnected k hk).1
  | gwCfgChangedRuuvi cfg =>
    obtain rfl := Option.some.inj hstep
    refine ⟨fun k hk => h.disconnected k ((outstanding_raise.mp hk).resolve_left Sig.noConfusion),
      fun hup => ?_⟩
    exact (h.up hup).imp (fun hb => outstanding_raise.mpr (.inr hb)) fun hr => ⟨hr.stop, hr.done⟩
  | answer sec =>
    obtain ⟨-, hstep⟩ := Option.ite_none_right_eq_some.mp hstep
    obtain rfl := Option.some.inj hstep
    rw [cbNotificationOnSync]
    split
    · exact ⟨h.disconnected, fun hup => (h.up hup).imp_right fun hr => ⟨hr.stop, hr.done⟩⟩
    · exact ⟨h.disconnected, fun hup => (h.up hup).imp_right fun hr => ⟨hr.stop, hr.done⟩⟩
  | dhcp servers =>
    obtain ⟨-, hstep⟩ := Option.ite_none_right_eq_some.mp hstep
    obtain rfl := Option.some.inj hstep
    exact ⟨h.disconnected, fun hup => (h.up hup).imp_right fun hr => ⟨hr.stop, hr.done⟩⟩
  | wait =>
    obtain ⟨-, hstep⟩ := Option.ite_none_right_eq_some.mp hstep
    obtain ⟨b, hb, rfl⟩ := Option.map_eq_some_iff.mp hstep
    refine ⟨fun k hk => h.disconnected k ((outstanding_take Sig.mem_order hb).mp hk), fun hup => ?_⟩
    exact (h.up hup).imp (outstanding_take Sig.mem_order hb).mpr fun hr => ⟨hr.stop, hr.done⟩
  | next =>
    obtain ⟨-, hstep⟩ := Option.ite_none_right_eq_some.mp hstep
    obtain ⟨⟨sig, b⟩, hb, rfl⟩ := Option.map_eq_some_iff.mp hstep
    exact h.next hb
  | stmt =>
    have hrestarts := fun hr : Restarts s => hr.stmt hc.script hstep
    obtain ⟨stmt, todo, -, rfl⟩ := step_stmt_cases hstep
    obtain ⟨-, hbits, hupEq⟩ := exec_frame { s with todo := todo } stmt
    refine ⟨fun k hk => ?_, fun hup => ?_⟩
    · rw [hupEq]
      exact h.disconnected k (hbits ▸ hk)
    · rw [hupEq] at hup
      rw [hbits]
      exact (h.up hup).imp_right hrestarts

/-- Every orderly run. -/
theorem serves_of_reachable (h : timeSystem.ReachableVia (Orderly i) s) : Serves i s :=
  h.invariant (fun _ ⟨cfg, dhcpDefault, hinit⟩ => hinit ▸ serves_init cfg dhcpDefault)
    fun _ _ _ hreach hs hok hstep => hs.step (consistent_of_reachable hreach) hok hstep

/-- **The client runs while the network is up**, in orderly runs and whenever the task has handled
everything: if NTP is used, then it runs or the network is about to be connected again. -/
theorem running_of_idle (h : timeSystem.ReachableVia (Orderly i) s) (hidle : s.Idle)
    (hup : s.up i = true) (huse : s.cfg.ntpUse = true) :
    s.sntp.running = true ∨ s.reconnecting = true := by
  have hsaved := (consistent_of_reachable h).saved_of_idle hidle
  have huse' : s.saved.ntpUse = true := (congrArg Saved.ntpUse hsaved).trans huse
  have hrestarts := ((serves_of_reachable h).up hup).resolve_left (hidle.2 _)
  exact hrestarts.done hidle.1 huse'

/-- After the network has been lost and found again. -/
theorem running_after_reconnection :
    ∃ s, timeSystem.ReachableVia (Orderly .eth) s ∧ s.Idle ∧ s.up .eth = true ∧
      s.cfg.ntpUse = true ∧ (s.sntp.running = true ∨ s.reconnecting = true) := by
  obtain ⟨s, hs, hp⟩ := System.exists_reachableVia_of_run (S := timeSystem) (C := Orderly .eth)
    ⟨staticNtp serverA, false, rfl⟩
    [.connected .eth, .wait, .next, .stmt, .stmt, .disconnected .eth, .wait, .next, .stmt,
      .stmt, .connected .eth, .wait, .next, .stmt, .stmt]
    (fun s => decide (s.Idle ∧ s.up .eth = true ∧ s.cfg.ntpUse = true)) (by decide)
  obtain ⟨hidle, hup, huse⟩ := of_decide_eq_true hp
  exact ⟨s, hs, hidle, hup, huse, running_of_idle hs hidle hup huse⟩

/-- A disconnection and a connection that the task finds together leave the client stopped. -/
theorem stopped_of_overtaken :
    ∃ s, timeSystem.Reachable s ∧ s.Idle ∧ s.up .eth = true ∧ s.cfg.ntpUse = true ∧
      s.sntp.running = false ∧ s.reconnecting = false := by
  obtain ⟨s, hs, hp⟩ := System.exists_reachable_of_run (S := timeSystem)
    ⟨staticNtp serverA, false, rfl⟩
    [.connected .eth, .wait, .next, .stmt, .stmt, .disconnected .eth, .connected .eth, .wait,
      .next, .stmt, .stmt, .next, .stmt, .stmt]
    (fun s => decide (s.Idle ∧ s.up .eth = true ∧ s.cfg.ntpUse = true ∧
      s.sntp.running = false ∧ s.reconnecting = false)) (by decide)
  exact ⟨s, hs, of_decide_eq_true hp⟩

/-! ## When the time is synchronized -/

/-- No server answers while the task is about to stop or start the client. -/
def Undisturbed (s : State) : Label → Prop
  | .answer _ => s.todo = []
  | _ => True

instance (s : State) : (l : Label) → Decidable (Undisturbed s l)
  | .answer _ => inferInstanceAs (Decidable (s.todo = []))
  | .connected _ | .disconnected _ | .gwCfgChangedRuuvi _ | .dhcp _ | .wait | .next | .stmt =>
      isTrue trivial

/-- While the time is synchronized the client runs, and no handler is begun that does not say
otherwise first. -/
def Synchronous (s : State) : Prop :=
  s.isSynchronized = true →
    s.sntp.running = true ∧ (s.todo = [] ∨ ∃ todo, s.todo = .clearSynchronized :: todo)

/-- In a handler the time is not synchronized after its first statement. -/
theorem Synchronous.stmt (h : Synchronous s) (hstep : step s .stmt = some t) :
    t.isSynchronized = false := by
  obtain ⟨stmt, todo, htodo, rfl⟩ := step_stmt_cases hstep
  by_cases hclear : stmt = .clearSynchronized
  · rw [hclear]
    rfl
  · have hbefore : s.isSynchronized = false := by
      by_contra hsync
      obtain ⟨-, hnil | ⟨tail, htail⟩⟩ := h (Bool.of_not_eq_false hsync)
      · exact absurd (htodo.symm.trans hnil) (List.cons_ne_nil _ _)
      · exact hclear (List.cons.inj (htodo.symm.trans htail)).1
    cases stmt with
    | clearSynchronized => rfl
    | _ => exact hbefore

/-- One undisturbed step. -/
theorem Synchronous.step (h : Synchronous s) (hok : Undisturbed s l) (hstep : step s l = some t) :
    Synchronous t := by
  cases l with
  | connected i | disconnected i | gwCfgChangedRuuvi cfg =>
    obtain rfl := Option.some.inj hstep
    exact h
  | answer sec =>
    obtain ⟨hrun, hstep⟩ := Option.ite_none_right_eq_some.mp hstep
    obtain rfl := Option.some.inj hstep
    rw [cbNotificationOnSync]
    split
    · exact fun hsync => absurd hsync Bool.false_ne_true
    · exact fun _ => ⟨hrun, .inl hok⟩
  | dhcp servers =>
    obtain ⟨-, hstep⟩ := Option.ite_none_right_eq_some.mp hstep
    obtain rfl := Option.some.inj hstep
    exact h
  | wait =>
    obtain ⟨-, hstep⟩ := Option.ite_none_right_eq_some.mp hstep
    obtain ⟨b, hb, rfl⟩ := Option.map_eq_some_iff.mp hstep
    exact h
  | next =>
    obtain ⟨-, hstep⟩ := Option.ite_none_right_eq_some.mp hstep
    obtain ⟨⟨sig, b⟩, hb, rfl⟩ := Option.map_eq_some_iff.mp hstep
    refine fun hsync => ⟨(h hsync).1, ?_⟩
    cases sig with
    | connected i =>
      by_cases huse : s.saved.ntpUse = true
      · exact .inr ⟨_, if_pos huse⟩
      · exact .inl (if_neg huse)
    | disconnected i => exact .inr ⟨_, rfl⟩
    | gwCfgChangedRuuvi => exact .inr ⟨_, rfl⟩
  | stmt => exact fun hsync => absurd ((h.stmt hstep).symm.trans hsync) Bool.false_ne_true

/-- **The time is synchronized only while the client runs**, NTP is used and the clock is not
before the first valid time, in runs in which no answer comes between two statements. -/
theorem running_of_synchronized (h : timeSystem.ReachableVia Undisturbed s) {now : Int}
    (hsync : timeIsSynchronized s now = true) :
    s.sntp.running = true ∧ s.saved.ntpUse = true ∧ timeMinValid ≤ now := by
  have hinv : Synchronous s :=
    h.invariant (fun _ ⟨_, _, hinit⟩ => hinit ▸ fun hs => absurd hs Bool.false_ne_true)
      fun _ _ _ _ hs hok hstep => hs.step hok hstep
  have hboth := Bool.and_eq_true_iff.mp hsync
  have hrun := (hinv hboth.1).1
  refine ⟨hrun, (consistent_of_reachable h).running hrun, ?_⟩
  simpa using hboth.2

/-- After the answer of a server. -/
theorem running_after_answer :
    ∃ s, timeSystem.ReachableVia Undisturbed s ∧ timeIsSynchronized s 1800000000 = true ∧
      s.sntp.running = true ∧ s.saved.ntpUse = true := by
  obtain ⟨s, hs, hp⟩ := System.exists_reachableVia_of_run (S := timeSystem) (C := Undisturbed)
    ⟨staticNtp serverA, false, rfl⟩
    [.connected .wifi, .wait, .next, .stmt, .stmt, .answer 1800000000]
    (fun s => timeIsSynchronized s 1800000000) (by decide)
  obtain ⟨hrun, huse, -⟩ := running_of_synchronized hs hp
  exact ⟨s, hs, hp, hrun, huse⟩

/-- An answer while the task stops the client leaves the time synchronized. -/
theorem synchronized_of_answer_between :
    ∃ s, timeSystem.Reachable s ∧ s.Idle ∧ timeIsSynchronized s 1800000000 = true ∧
      s.sntp.running = false := by
  obtain ⟨s, hs, hp⟩ := System.exists_reachable_of_run (S := timeSystem)
    ⟨staticNtp serverA, false, rfl⟩
    [.connected .wifi, .wait, .next, .stmt, .stmt, .disconnected .wifi, .wait, .next, .stmt,
      .answer 1800000000, .stmt]
    (fun s => decide (s.Idle ∧ timeIsSynchronized s 1800000000 = true ∧
      s.sntp.running = false)) (by decide)
  exact ⟨s, hs, of_decide_eq_true hp⟩

end TimeTask
end RuuviGateway
