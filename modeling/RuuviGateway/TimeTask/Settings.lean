import RuuviGateway.TimeTask.Model

/-!
# The settings of the SNTP client

Whatever happens, the client does not run with NTP switched off.  If nothing else happens, the task
comes to rest, and then the client is configured by the settings of the gateway.
-/

namespace RuuviGateway
namespace TimeTask

open SignalBits TransitionSystem

/-! ## The settings -/

/-- What is left of a handler. -/
inductive Script (ntpUse running : Bool) : List Stmt → Prop
  | done : Script ntpUse running []
  | start (h : ntpUse = true) : Script ntpUse running [.clearSynchronized, .sntpInit]
  | init (h : ntpUse = true) : Script ntpUse running [.sntpInit]
  | clearStop : Script ntpUse running [.clearSynchronized, .sntpStop]
  | stop : Script ntpUse running [.sntpStop]
  | clearConfigure :
      Script ntpUse running [.clearSynchronized, .sntpStop, .reconfigure]
  | stopConfigure : Script ntpUse running [.sntpStop, .reconfigure]
  | reconfigure (h : running = false) : Script ntpUse running [.reconfigure]
  | send (h : running = false) : Script ntpUse running [.sendSigReconnectNetwork]

/-- The servers that the settings name. -/
def serversOf (saved : Saved) (i : Nat) : Option (List Char) :=
  if i < numOfTimeServers then saved.timeServers[i]? else none

/-- There are no more than `numOfTimeServers`. -/
theorem serversOf_saveSettings (cfg : GwCfgJson.Ntp) (i : Nat) :
    serversOf (saveSettings cfg) i = (addNtpServers cfg)[i]? := by
  rw [serversOf]
  split
  · rfl
  · rename_i hi
    have hlen : (addNtpServers cfg).length ≤ numOfTimeServers :=
      List.length_filter_le _ _
    exact (List.getElem?_eq_none (hlen.trans (not_lt.mp hi))).symm

/-- What holds of the settings in every run. -/
structure Consistent (s : State) : Prop where
  script : Script s.saved.ntpUse s.sntp.running s.todo
  running : s.sntp.running = true → s.saved.ntpUse = true
  /-- The settings that are saved are those of the gateway, or will be. -/
  saved : s.saved = saveSettings s.cfg ∨ s.bits.Outstanding .gwCfgChangedRuuvi ∨
    Stmt.reconfigure ∈ s.todo
  servermodeDhcp : s.saved.ntpUse = true → s.sntp.servermodeDhcp = s.saved.ntpUseDhcp
  servers : s.saved.ntpUse = true → s.saved.ntpUseDhcp = false →
    s.sntp.servers = serversOf s.saved

theorem consistent_init (cfg : GwCfgJson.Ntp) (dhcpDefault : Bool) :
    Consistent (init cfg dhcpDefault) where
  script := .done
  running h := Bool.noConfusion h
  saved := .inl rfl
  servermodeDhcp h := if_pos h
  servers huse hdhcp := by
    funext i
    have huse' : (saveSettings cfg).ntpUse = true := huse
    have hdhcp' : (saveSettings cfg).ntpUseDhcp = false := hdhcp
    simp [init, configureNtpSources, serversOf, huse', hdhcp']

variable {s t : State} {l : Label}

/-- The step that executes a statement. -/
theorem step_stmt_cases (hstep : step s .stmt = some t) :
    ∃ stmt todo, s.todo = stmt :: todo ∧ t = State.exec { s with todo := todo } stmt := by
  simp only [step] at hstep
  split at hstep
  · exact absurd hstep (Option.some_ne_none t).symm
  · rename_i stmt todo htodo
    exact ⟨stmt, todo, htodo, (Option.some.inj hstep).symm⟩

/-- Statements leave the settings, the signals and the interfaces alone. -/
theorem exec_frame (s : State) (stmt : Stmt) :
    (s.exec stmt).cfg = s.cfg ∧ (s.exec stmt).bits = s.bits ∧ (s.exec stmt).up = s.up := by
  cases stmt <;> exact ⟨rfl, rfl, rfl⟩

/-- A handler is begun. -/
theorem script_handleSig (saved : Saved) (running : Bool) (sig : Sig) :
    Script saved.ntpUse running (handleSig saved sig) := by
  cases sig with
  | connected i =>
    rw [handleSig]
    split
    · rename_i h
      exact .start h
    · exact .done
  | disconnected i => exact .clearStop
  | gwCfgChangedRuuvi => exact .clearConfigure

/-- The statement that reads the settings. -/
theorem consistent_reconfigure (hrun : s.sntp.running = false) (htodo : s.todo = []) :
    Consistent (s.exec .reconfigure) := by
  have hcfg : (s.exec .reconfigure).saved = saveSettings s.cfg := rfl
  have hrun' : (s.exec .reconfigure).sntp.running = false := hrun
  refine ⟨?_, fun hr => absurd (hrun'.symm.trans hr) Bool.false_ne_true, .inl hcfg,
    fun huse => if_pos huse, fun huse hdhcp => ?_⟩
  · rw [hrun']
    show Script (saveSettings s.cfg).ntpUse false ((if _ then _ else if _ then _ else _) ++ s.todo)
    rw [htodo, List.append_nil]
    split
    · exact .send rfl
    · split
      · rename_i huse
        exact .start huse
      · exact .done
  · have huse' : (saveSettings s.cfg).ntpUse = true := huse
    have hdhcp' : (saveSettings s.cfg).ntpUseDhcp = false := hdhcp
    funext i
    rw [hcfg]
    simp [State.exec, configureNtpSources, serversOf, huse', hdhcp']

/-- A statement that leaves the settings alone. -/
theorem Consistent.exec_of_ne {todo : List Stmt} {stmt : Stmt} (h : Consistent s)
    (htodo : s.todo = stmt :: todo) (hne : stmt ≠ .reconfigure)
    (hscript : Script s.saved.ntpUse ({ s with todo := todo }.exec stmt).sntp.running todo)
    (hrun : ({ s with todo := todo }.exec stmt).sntp.running = true → s.saved.ntpUse = true) :
    Consistent ({ s with todo := todo }.exec stmt) := by
  have hsaved : s.saved = saveSettings s.cfg ∨ s.bits.Outstanding .gwCfgChangedRuuvi ∨
      Stmt.reconfigure ∈ todo := by
    refine h.saved.imp_right fun hs => hs.imp_right fun hmem => ?_
    rw [htodo] at hmem
    exact (List.mem_cons.mp hmem).resolve_left hne.symm
  cases stmt with
  | reconfigure => exact absurd rfl hne
  | _ => exact ⟨hscript, hrun, hsaved, h.servermodeDhcp, h.servers⟩

/-- The next statement, by what is left of the handler. -/
theorem Consistent.stmt (h : Consistent s) (hstep : step s .stmt = some t) : Consistent t := by
  obtain ⟨stmt, todo, htodo, rfl⟩ := step_stmt_cases hstep
  have hscript := h.script
  rw [htodo] at hscript
  cases hscript with
  | start huse =>
    exact h.exec_of_ne htodo (by decide) (.init huse) fun _ => huse
  | init huse =>
    exact h.exec_of_ne htodo (by decide) .done fun _ => huse
  | clearStop =>
    exact h.exec_of_ne htodo (by decide) .stop h.running
  | stop =>
    exact h.exec_of_ne htodo (by decide) .done fun hr => absurd hr Bool.false_ne_true
  | clearConfigure =>
    exact h.exec_of_ne htodo (by decide) .stopConfigure h.running
  | stopConfigure =>
    exact h.exec_of_ne htodo (by decide) (.reconfigure rfl) fun hr => absurd hr Bool.false_ne_true
  | reconfigure hrun =>
    exact consistent_reconfigure (s := { s with todo := [] }) hrun rfl
  | send hrun =>
    exact h.exec_of_ne htodo (by decide) .done h.running

/-- A signal is taken: its handler is what is left to do. -/
theorem Consistent.next {sig : Sig} {b : Bits Sig} (h : Consistent s) (htodo : s.todo = [])
    (hnext : s.bits.next Sig.order = some (sig, b)) :
    Consistent { s with bits := b, todo := handleSig s.saved sig } := by
  refine ⟨script_handleSig s.saved s.sntp.running sig, h.running, ?_, h.servermodeDhcp, h.servers⟩
  by_cases hsig : sig = .gwCfgChangedRuuvi
  · subst hsig
    exact .inr (.inr (by simp [handleSig]))
  · refine h.saved.imp_right fun hs => .inl ?_
    have hb := hs.resolve_right fun hmem => by simp [htodo] at hmem
    exact ((outstanding_next hnext).2 _ (Ne.symm hsig)).mpr hb

/-- One step. -/
theorem Consistent.step (h : Consistent s) (hstep : step s l = some t) : Consistent t := by
  cases l with
  | connected i =>
    obtain rfl := Option.some.inj hstep
    exact ⟨h.script, h.running,
      h.saved.imp_right (Or.imp_left fun hb => outstanding_raise.mpr (.inr hb)),
      h.servermodeDhcp, h.servers⟩
  | disconnected i =>
    obtain rfl := Option.some.inj hstep
    exact ⟨h.script, h.running,
      h.saved.imp_right (Or.imp_left fun hb => outstanding_raise.mpr (.inr hb)),
      h.servermodeDhcp, h.servers⟩
  | gwCfgChangedRuuvi cfg =>
    obtain rfl := Option.some.inj hstep
    exact ⟨h.script, h.running, .inr (.inl (outstanding_raise.mpr (.inl rfl))),
      h.servermodeDhcp, h.servers⟩
  | answer sec =>
    obtain ⟨-, hstep⟩ := Option.ite_none_right_eq_some.mp hstep
    obtain rfl := Option.some.inj hstep
    rw [cbNotificationOnSync]
    split
    · exact ⟨h.script, h.running, h.saved, h.servermodeDhcp, h.servers⟩
    · exact ⟨h.script, h.running, h.saved, h.servermodeDhcp, h.servers⟩
  | dhcp servers =>
    obtain ⟨hmode, hstep⟩ := Option.ite_none_right_eq_some.mp hstep
    obtain rfl := Option.some.inj hstep
    refine ⟨h.script, h.running, h.saved, h.servermodeDhcp, fun huse hdhcp => ?_⟩
    -- The client listens to DHCP only if the settings say so.
    have hmode' : s.sntp.servermodeDhcp = false := (h.servermodeDhcp huse).trans hdhcp
    exact absurd (hmode'.symm.trans hmode) Bool.false_ne_true
  | wait =>
    obtain ⟨-, hstep⟩ := Option.ite_none_right_eq_some.mp hstep
    obtain ⟨b, hb, rfl⟩ := Option.map_eq_some_iff.mp hstep
    exact ⟨h.script, h.running,
      h.saved.imp_right (Or.imp_left (outstanding_take Sig.mem_order hb).mpr),
      h.servermodeDhcp, h.servers⟩
  | next =>
    obtain ⟨htodo, hstep⟩ := Option.ite_none_right_eq_some.mp hstep
    obtain ⟨⟨sig, b⟩, hb, rfl⟩ := Option.map_eq_some_iff.mp hstep
    exact h.next htodo hb
  | stmt => exact h.stmt hstep

/-- Every run. -/
theorem consistent_of_reachable {C : State → Label → Prop} (h : timeSystem.ReachableVia C s) :
    Consistent s :=
  h.invariant (fun _ ⟨cfg, dhcpDefault, hinit⟩ => hinit ▸ consistent_init cfg dhcpDefault)
    fun _ _ _ _ hs _ hstep => hs.step hstep

/-- The task has handled everything. -/
def State.Idle (s : State) : Prop := s.todo = [] ∧ ∀ sig, ¬s.bits.Outstanding sig

instance (s : State) : Decidable s.Idle :=
  decidable_of_iff
    (s.todo = [] ∧ (Sig.order.all fun sig => !decide (s.bits.Outstanding sig)) = true) <| by
      refine and_congr_right fun _ => ?_
      rw [List.all_eq_true]
      refine ⟨fun h sig => ?_, fun h sig _ => ?_⟩
      · simpa using h sig sig.mem_order
      · simpa using h sig

/-- The last settings have been saved. -/
theorem Consistent.saved_of_idle (h : Consistent s) (hidle : s.Idle) :
    s.saved = saveSettings s.cfg :=
  h.saved.resolve_right fun hs => hs.elim (hidle.2 _) fun hmem => by simp [hidle.1] at hmem

/-- The client is configured by the settings of the gateway. -/
structure State.Configured (s : State) : Prop where
  saved : s.saved = saveSettings s.cfg
  running : s.sntp.running = true → s.cfg.ntpUse = true
  servermodeDhcp : s.cfg.ntpUse = true → s.sntp.servermodeDhcp = s.cfg.ntpUseDhcp
  servers : s.cfg.ntpUse = true → s.cfg.ntpUseDhcp = false →
    ∀ i, s.sntp.servers i = (addNtpServers s.cfg)[i]?

theorem configured_of_idle (h : timeSystem.Reachable s) (hidle : s.Idle) : s.Configured := by
  have hc := consistent_of_reachable h
  have hsaved := hc.saved_of_idle hidle
  have huse : s.saved.ntpUse = s.cfg.ntpUse := congrArg Saved.ntpUse hsaved
  have hdhcp : s.saved.ntpUseDhcp = s.cfg.ntpUseDhcp := congrArg Saved.ntpUseDhcp hsaved
  refine ⟨hsaved, fun hrun => huse ▸ hc.running hrun,
    fun hcfg => hdhcp ▸ hc.servermodeDhcp (huse.trans hcfg), fun hcfg hstatic i => ?_⟩
  rw [hc.servers (huse.trans hcfg) (hdhcp.trans hstatic), hsaved]
  exact serversOf_saveSettings s.cfg i

/-! ## The task comes to rest -/

/-- A step of the task. -/
inductive Label.Own : Label → Prop where
  | wait : Label.Own .wait
  | next : Label.Own .next
  | stmt : Label.Own .stmt

/-- A statement, and those that it puts before what is left. -/
def Stmt.work : Stmt → Nat
  | .reconfigure => 3
  | _ => 1

/-- How much the task has to do.  No handler has work for more than five. -/
def State.work (s : State) : Nat := 10 * s.bits.load Sig.order + (s.todo.map Stmt.work).sum

theorem work_handleSig (saved : Saved) (sig : Sig) :
    ((handleSig saved sig).map Stmt.work).sum ≤ 5 := by
  cases sig with
  | connected i =>
    rw [handleSig]
    split
    · exact (by decide : 2 ≤ 5)
    · exact Nat.zero_le 5
  | disconnected i => exact (by decide : 2 ≤ 5)
  | gwCfgChangedRuuvi => exact le_refl 5

/-- New settings put at most two statements before what is left. -/
theorem exec_reconfigure_todo (s : State) :
    ∃ added, (s.exec .reconfigure).todo = added ++ s.todo ∧ (added.map Stmt.work).sum ≤ 2 := by
  refine ⟨_, rfl, ?_⟩
  split
  · decide
  · split
    · decide
    · decide

/-- Every step of the task is progress. -/
theorem work_step_lt (hl : l.Own) (hstep : step s l = some t) : t.work < s.work := by
  cases hl with
  | wait =>
    obtain ⟨-, hstep⟩ := Option.ite_none_right_eq_some.mp hstep
    obtain ⟨b, hb, rfl⟩ := Option.map_eq_some_iff.mp hstep
    have hload := load_take_lt hb
    simp only [State.work]
    omega
  | next =>
    obtain ⟨htodo, hstep⟩ := Option.ite_none_right_eq_some.mp hstep
    obtain ⟨⟨sig, b⟩, hb, rfl⟩ := Option.map_eq_some_iff.mp hstep
    have hload := load_next_lt hb
    have hwork := work_handleSig s.saved sig
    simp only [State.work]
    omega
  | stmt =>
    obtain ⟨stmt, todo, htodo, rfl⟩ := step_stmt_cases hstep
    cases stmt with
    | reconfigure =>
      obtain ⟨added, hadded, hwork⟩ := exec_reconfigure_todo { s with todo := todo }
      have hbits : (State.exec { s with todo := todo } .reconfigure).bits = s.bits := rfl
      simp only [State.work, hadded, hbits, htodo, List.map_append, List.sum_append,
        List.map_cons, List.sum_cons, Stmt.work]
      omega
    | _ => simp [State.work, State.exec, htodo, Stmt.work]

/-- A step of the task leaves the settings and the interfaces alone. -/
theorem step_own_frame (hl : l.Own) (hstep : step s l = some t) : t.cfg = s.cfg ∧ t.up = s.up := by
  cases hl with
  | wait =>
    obtain ⟨-, hstep⟩ := Option.ite_none_right_eq_some.mp hstep
    obtain ⟨b, -, rfl⟩ := Option.map_eq_some_iff.mp hstep
    exact ⟨rfl, rfl⟩
  | next =>
    obtain ⟨-, hstep⟩ := Option.ite_none_right_eq_some.mp hstep
    obtain ⟨⟨sig, b⟩, -, rfl⟩ := Option.map_eq_some_iff.mp hstep
    exact ⟨rfl, rfl⟩
  | stmt =>
    obtain ⟨stmt, todo, -, rfl⟩ := step_stmt_cases hstep
    obtain ⟨hcfg, -, hup⟩ := exec_frame { s with todo := todo } stmt
    exact ⟨hcfg, hup⟩

/-- A task that has not handled everything can do a step. -/
theorem idle_or_own_step (s : State) : s.Idle ∨ ∃ l t, l.Own ∧ step s l = some t := by
  cases htodo : s.todo with
  | cons stmt todo =>
    exact .inr ⟨.stmt, State.exec { s with todo := todo } stmt, .stmt, by simp only [step, htodo]⟩
  | nil =>
    cases hnext : s.bits.next Sig.order with
    | some next =>
      exact .inr ⟨.next, _, .next, by rw [step, if_pos htodo, hnext, Option.map_some]⟩
    | none =>
      cases htake : s.bits.take Sig.order with
      | some b =>
        exact .inr ⟨.wait, _, .wait, by rw [step, if_pos htodo, htake, Option.map_some]⟩
      | none => exact .inl ⟨htodo, not_outstanding_of_stuck Sig.mem_order hnext htake⟩

/-- If nothing else happens, the task handles everything. -/
theorem exists_run_to_idle (s : State) :
    ∃ l t, (∀ x ∈ l, Label.Own x) ∧ timeSystem.run s l = some t ∧
      (t.cfg = s.cfg ∧ t.up = s.up) ∧ t.Idle := by
  refine System.exists_run_of_measure State.work (fun u hu => ?_) ⟨rfl, rfl⟩
  refine (idle_or_own_step u).imp_right fun ⟨l, t, hl, hstep⟩ => ?_
  obtain ⟨hcfg, hup⟩ := step_own_frame hl hstep
  exact ⟨l, t, hl, hstep, ⟨hcfg.trans hu.1, hup.trans hu.2⟩, work_step_lt hl hstep⟩

/-- **The client follows the settings.**  In every run it is configured by them whenever the task
has handled everything; and wherever a run stands, the task comes to that if nothing else
happens. -/
theorem configured_and_settles (h : timeSystem.Reachable s) :
    (s.Idle → s.Configured) ∧
      ∃ l t, (∀ x ∈ l, Label.Own x) ∧ timeSystem.run s l = some t ∧ t.cfg = s.cfg ∧
        t.up = s.up ∧ t.Idle ∧ t.Configured := by
  refine ⟨configured_of_idle h, ?_⟩
  obtain ⟨l, t, hown, hrun, ⟨hcfg, hup⟩, hidle⟩ := exists_run_to_idle s
  exact ⟨l, t, hown, hrun, hcfg, hup, hidle, configured_of_idle (h.run l hrun) hidle⟩

/-- NTP with one server and without DHCP. -/
def staticNtp (server : ServerAddr) : GwCfgJson.Ntp where
  ntpUse := true
  ntpUseDhcp := false
  ntpServer1 := server
  ntpServer2 := ⟨[], by decide, by decide⟩
  ntpServer3 := ⟨[], by decide, by decide⟩
  ntpServer4 := ⟨[], by decide, by decide⟩

/-- The name of a server. -/
def serverA : ServerAddr := ⟨['a'], by decide, by decide⟩

/-- The name of another server. -/
def serverB : ServerAddr := ⟨['b'], by decide, by decide⟩

/-- The name of the server is changed while a handler starts the client. -/
theorem settles_after_change :
    ∃ s, timeSystem.Reachable s ∧ s.cfg = staticNtp serverB ∧ s.sntp.servers 0 = some ['a'] ∧
      ∃ l t, (∀ x ∈ l, Label.Own x) ∧ timeSystem.run s l = some t ∧
        t.sntp.servers 0 = some ['b'] := by
  obtain ⟨s, hs, hp⟩ := System.exists_reachable_of_run (S := timeSystem)
    ⟨staticNtp serverA, false, rfl⟩
    [.connected .wifi, .wait, .next, .stmt, .gwCfgChangedRuuvi (staticNtp serverB)]
    (fun s => decide (s.cfg = staticNtp serverB ∧ s.sntp.servers 0 = some ['a'])) (by decide)
  obtain ⟨hcfg, hserver⟩ := of_decide_eq_true hp
  obtain ⟨-, l, t, hown, hrun, hcfg', -, -, hconfigured⟩ := configured_and_settles hs
  rw [hcfg] at hcfg'
  have hserver' := hconfigured.servers (by rw [hcfg']; rfl) (by rw [hcfg']; rfl) 0
  rw [hcfg'] at hserver'
  exact ⟨s, hs, hcfg, hserver, l, t, hown, hrun, hserver'⟩

end TimeTask
end RuuviGateway
