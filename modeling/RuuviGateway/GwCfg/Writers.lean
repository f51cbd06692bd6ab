import Mathlib.Logic.Function.Basic
import RuuviGateway.Lib.TransitionSystem

/-!
# The writers of the configuration

`gw_cfg.c` keeps one configuration of four sections and a flag that it is still empty,
under a recursive mutex.  The writers are requests to other modules: each takes the mutex
for a moment to copy what it needs, computes without it, and takes it again to write
sections back.  A step of the system is one such critical section of one writer, so every
interleaving of the tasks is a run.

What a request computes is a parameter (`Ops`): the parsers of the sections, which work
section by section, and the comparisons of `gw_cfg_cmp.c`.

A run records for every writer whether what it has read has been overwritten by another one
since (`stale`).  This is history: no writer looks at it.
-/

namespace RuuviGateway
namespace GwCfg

open TransitionSystem

/-- The parts of `gw_cfg.c` that a writer reads and writes: `ruuvi_cfg`, `eth_cfg`,
`wifi_cfg.ap`, `wifi_cfg.sta` and `g_gw_cfg_is_empty`. -/
inductive Loc where
  | ruuvi
  | eth
  | wifiAp
  | wifiSta
  | isEmpty
  deriving DecidableEq, Repr

variable {R E A S : Type}

/-- `gw_cfg_t`. -/
structure Cfg (R E A S : Type) where
  ruuvi : R
  eth : E
  wifiAp : A
  wifiSta : S
  deriving DecidableEq

/-- `g_gateway_config` and `g_gw_cfg_is_empty`. -/
structure Store (R E A S : Type) where
  cfg : Cfg R E A S
  isEmpty : Bool
  deriving DecidableEq

/-- What the writers compute. -/
structure Ops (R E A S Json Remote : Type) where
  /-- `gw_cfg_ruuvi_cmp`, `gw_cfg_eth_cmp`, `wifiman_config_ap_cmp`,
  `wifiman_config_sta_cmp`. -/
  ruuviCmp : R → R → Bool
  ethCmp : E → E → Bool
  apCmp : A → A → Bool
  staCmp : S → S → Bool
  /-- `gw_cfg_json_parse_cjson` for each section. -/
  parseRuuvi : Json → R → R
  parseEth : Json → E → E
  parseAp : Json → A → A
  parseSta : Json → S → S
  /-- The value of `use_eth`. -/
  getUseEth : Json → Option Bool
  /-- `gw_cfg_default_get`. -/
  default : Cfg R E A S
  setUseEth : Bool → E → E
  /-- `gw_cfg_eth_cmp` compares every field. -/
  eq_of_ethCmp : ∀ e e', ethCmp e e' = true → e = e'
  setUseEth_setUseEth : ∀ b b' e, setUseEth b (setUseEth b' e) = setUseEth b e
  setFwUpdateUrl : String → R → R
  /-- `ruuvi_cfg.remote`. -/
  remote : R → Remote
  setUseRemoteCfg : Bool → R → R
  useRemoteCfg : R → Bool
  /-- Whether a document sets `remote_cfg_use` does not depend on what it is parsed over, once
  the flag has been reset. -/
  useRemoteCfg_parse : ∀ j r r', useRemoteCfg (parseRuuvi j (setUseRemoteCfg false r)) =
    useRemoteCfg (parseRuuvi j (setUseRemoteCfg false r'))
  /-- `'\0' != ssid[0]`. -/
  hasSsid : S → Bool

variable {Json Remote : Type} (ops : Ops R E A S Json Remote)

/-! ## `gw_cfg_set` and its callers -/

/-- `gw_cfg_set_ruuvi` and its siblings: a section that compares equal is kept. -/
def setSection {α : Type} (cmp : α → α → Bool) (new : Option α) (dst : α) : α :=
  match new with
  | none => dst
  | some v => if !cmp dst v then v else dst

/-- `gw_cfg_set`. -/
def gwCfgSet (ruuvi : Option R) (eth : Option E) (ap : Option A) (sta : Option S)
    (s : Store R E A S) : Store R E A S where
  cfg :=
    { ruuvi := setSection ops.ruuviCmp ruuvi s.cfg.ruuvi
      eth := setSection ops.ethCmp eth s.cfg.eth
      wifiAp := setSection ops.apCmp ap s.cfg.wifiAp
      wifiSta := setSection ops.staCmp sta s.cfg.wifiSta }
  isEmpty := ruuvi.isNone && eth.isNone && ap.isNone && sta.isNone

/-- `gw_cfg_update_ruuvi_cfg`. -/
def gwCfgUpdateRuuviCfg (r : R) (s : Store R E A S) : Store R E A S :=
  gwCfgSet ops (some r) none none none s

/-- `gw_cfg_update_eth_cfg`. -/
def gwCfgUpdateEthCfg (e : E) (s : Store R E A S) : Store R E A S :=
  gwCfgSet ops none (some e) none none s

/-- `gw_cfg_update_wifi_ap_config`. -/
def gwCfgUpdateWifiApConfig (a : A) (s : Store R E A S) : Store R E A S :=
  gwCfgSet ops none none (some a) none s

/-- `gw_cfg_update_wifi_sta_config`. -/
def gwCfgUpdateWifiStaConfig (w : S) (s : Store R E A S) : Store R E A S :=
  gwCfgSet ops none none none (some w) s

/-- `gw_cfg_update`. -/
def gwCfgUpdate (c : Cfg R E A S) (s : Store R E A S) : Store R E A S :=
  gwCfgSet ops (some c.ruuvi) (some c.eth) (some c.wifiAp) (some c.wifiSta) s

/-- `gw_cfg_set_eth_use_eth`. -/
def gwCfgSetEthUseEth (useEth : Bool) (s : Store R E A S) : Store R E A S :=
  { s with cfg := { s.cfg with eth := ops.setUseEth useEth s.cfg.eth } }

/-- `gw_cfg_update_fw_update_url`. -/
def gwCfgUpdateFwUpdateUrl (url : String) (s : Store R E A S) : Store R E A S :=
  { s with cfg := { s.cfg with ruuvi := ops.setFwUpdateUrl url s.cfg.ruuvi } }

/-! ## The writers -/

/-- A request to change the configuration. -/
inductive Req (S Json Remote : Type) where
  /-- `http_server_cb_on_post_ruuvi`; the body is `none` if it cannot be parsed or there is no
  memory. -/
  | postRuuvi (body : Option Json) (flagAccessFromLan : Bool)
  /-- `http_server_gw_cfg_download_and_update`: what the server found with these settings
  sends, `none` for any failure up to parsing it. -/
  | downloadAndUpdate (download : Remote → Option Json)
  /-- `cb_save_wifi_config`. -/
  | saveWifiConfig (sta : S)
  /-- `http_server_cb_on_post_fw_update_url`. -/
  | fwUpdateUrl (url : String)
  /-- `ethernet_connection_ok_cb`, and `main_task_handle_sig_set_default_config` if it has
  memory. -/
  | setDefaultConfig (allocated : Bool)

/-- Where a writer stands between two critical sections, with its local variables. -/
inductive Phase (R E A S Json Remote : Type) where
  | start
  /-- POST of the Ruuvi settings, with `*p_gw_cfg_tmp` still unparsed. -/
  | postRead (json : Json) (copy : Cfg R E A S)
  /-- POST of the network settings, with `*p_gw_cfg_tmp` still unparsed. -/
  | postNetworkRead (json : Json) (useEth : Bool) (copy : Cfg R E A S)
  /-- `gw_cfg_update_eth_cfg` is done, `gw_cfg_update_wifi_ap_config` is to come. -/
  | postEthWritten (json : Json) (useEth : Bool) (copy : Cfg R E A S)
  /-- The settings of the remote server have been copied, the document downloaded. -/
  | downloaded (remote : Remote) (json : Json)
  /-- The configuration has been copied. -/
  | downloadRead (json : Json) (copy : Cfg R E A S)
  /-- `gw_cfg_set_eth_use_eth(false)` is done. -/
  | useEthWritten
  /-- `SET_DEFAULT_CONFIG` is pending. -/
  | defaultSignalled
  | done

/-- The writer has finished. -/
def Phase.isDone : Phase R E A S Json Remote → Bool
  | .done => true
  | _ => false

/-- The writer has not begun or has finished. -/
def Phase.atRest : Phase R E A S Json Remote → Bool
  | .start => true
  | .done => true
  | _ => false

/-- The Ethernet section that a POST of network settings writes. -/
def postedEth (json : Json) (useEth : Bool) : E :=
  ops.parseEth json (ops.setUseEth useEth ops.default.eth)

/-- The access-point section that it writes: with `use_eth` the unchanged copy. -/
def postedAp (json : Json) (useEth : Bool) (copy : A) : A :=
  if useEth then copy else ops.parseAp json copy

/-- `*p_gw_cfg_tmp` of `http_server_gw_cfg_download_and_parse`. -/
def downloadedCfg (json : Json) (copy : Cfg R E A S) : Cfg R E A S where
  ruuvi := ops.parseRuuvi json (ops.setUseRemoteCfg false copy.ruuvi)
  eth := ops.parseEth json copy.eth
  wifiAp := ops.parseAp json copy.wifiAp
  wifiSta := ops.parseSta json copy.wifiSta

/-- The next critical section of a writer: the phase and the store after it, and what it
wrote. -/
def advance (req : Req S Json Remote) (p : Phase R E A S Json Remote) (s : Store R E A S) :
    Option (Phase R E A S Json Remote × Store R E A S × List Loc) :=
  match req, p with
  -- `gw_cfg_get_copy` and `json_ruuvi_parse_http_body`
  | .postRuuvi none _, .start => some (.done, s, [])
  | .postRuuvi (some json) flagAccessFromLan, .start =>
      match if flagAccessFromLan then none else ops.getUseEth json with
      | none => some (.postRead json s.cfg, s, [])
      | some useEth => some (.postNetworkRead json useEth s.cfg, s, [])
  | .postRuuvi .., .postRead json copy =>
      some (.done, gwCfgUpdateRuuviCfg ops (ops.parseRuuvi json copy.ruuvi) s,
        [.ruuvi, .isEmpty])
  | .postRuuvi .., .postNetworkRead json useEth copy =>
      some (.postEthWritten json useEth copy,
        gwCfgUpdateEthCfg ops (postedEth ops json useEth) s, [.eth, .isEmpty])
  | .postRuuvi .., .postEthWritten json useEth copy =>
      some (.done, gwCfgUpdateWifiApConfig ops (postedAp ops json useEth copy.wifiAp) s,
        [.wifiAp, .isEmpty])
  -- `gw_cfg_get_remote_cfg_copy`; nothing is written after a failed download or for a
  -- document that does not set `remote_cfg_use`
  | .downloadAndUpdate download, .start =>
      match download (ops.remote s.cfg.ruuvi) with
      | none => some (.done, s, [])
      | some json =>
          if ops.useRemoteCfg (downloadedCfg ops json s.cfg).ruuvi then
            some (.downloaded (ops.remote s.cfg.ruuvi) json, s, [])
          else some (.done, s, [])
  | .downloadAndUpdate _, .downloaded _ json => some (.downloadRead json s.cfg, s, [])
  | .downloadAndUpdate _, .downloadRead json copy =>
      some (.done, gwCfgUpdate ops (downloadedCfg ops json copy) s,
        [.ruuvi, .eth, .wifiAp, .wifiSta, .isEmpty])
  | .saveWifiConfig sta, .start =>
      if ops.hasSsid sta then some (.useEthWritten, gwCfgSetEthUseEth ops false s, [.eth])
      else some (.done, gwCfgUpdateWifiStaConfig ops sta s, [.wifiSta, .isEmpty])
  | .saveWifiConfig sta, .useEthWritten =>
      some (.done, gwCfgUpdateWifiStaConfig ops sta s, [.wifiSta, .isEmpty])
  | .fwUpdateUrl url, .start => some (.done, gwCfgUpdateFwUpdateUrl ops url s, [.ruuvi])
  -- `gw_cfg_is_empty` in one task, `gw_cfg_update` in another
  | .setDefaultConfig _, .start =>
      if s.isEmpty then some (.defaultSignalled, s, []) else some (.done, s, [])
  | .setDefaultConfig allocated, .defaultSignalled =>
      if allocated then
        some (.done, gwCfgUpdate ops ops.default s,
          [.ruuvi, .eth, .wifiAp, .wifiSta, .isEmpty])
      else some (.done, s, [])
  | _, _ => none

/-- The sections that a writer has read and will use. -/
def dependsOn : Phase R E A S Json Remote → List Loc
  | .start => []
  | .postRead .. => [.ruuvi]
  | .postNetworkRead .. => [.wifiAp]
  | .postEthWritten .. => [.wifiAp]
  | .downloaded .. => []
  | .downloadRead .. => [.ruuvi, .eth, .wifiAp, .wifiSta]
  | .useEthWritten => []
  | .defaultSignalled => [.isEmpty]
  | .done => []

/-- The remote settings that a writer has read.  Of the Ruuvi section it has used nothing
else. -/
def Phase.readsRemote : Phase R E A S Json Remote → Option Remote
  | .downloaded remote _ => some remote
  | _ => none

/-- `cb_save_wifi_config` is between its two writes. -/
def Phase.savesWifi : Phase R E A S Json Remote → Bool
  | .useEthWritten => true
  | _ => false

variable [DecidableEq Remote]

/-- What another writer writes, leaving the store `t'`, gets in the way of a writer: it is a
section that the writer has read and will use, or the remote settings are no longer those
that the writer has read, or it comes between the two writes of `cb_save_wifi_config` and
touches both of their sections. -/
def overlaps (p : Phase R E A S Json Remote) (t' : Store R E A S) (ws : List Loc) : Bool :=
  ws.any (fun l => decide (l ∈ dependsOn p)) ||
    p.readsRemote.any (fun remote => decide (ops.remote t'.cfg.ruuvi ≠ remote)) ||
    (p.savesWifi && decide (Loc.eth ∈ ws) && decide (Loc.wifiSta ∈ ws))

/-! ## Runs -/

/-- A state: the store, the phase of each writer, and the history. -/
structure State (R E A S Json Remote : Type) where
  store : Store R E A S
  phase : Nat → Phase R E A S Json Remote
  /-- What another writer has written gets in the way of the writer. -/
  stale : Nat → Bool
  /-- `SET_DEFAULT_CONFIG` has overwritten a configuration that was not empty. -/
  defaultOverwrote : Bool

variable (reqs : Nat → Req S Json Remote) (initial : Store R E A S)

/-- The next critical section overwrites the configuration with the default one. -/
def appliesDefault : Req S Json Remote → Phase R E A S Json Remote → Bool
  | .setDefaultConfig allocated, .defaultSignalled => allocated
  | _, _ => false

/-- The state after a critical section of the writer `w`. -/
def after (s : State R E A S Json Remote) (w : Nat)
    (r : Phase R E A S Json Remote × Store R E A S × List Loc) : State R E A S Json Remote where
  store := r.2.1
  phase := Function.update s.phase w r.1
  stale := fun v => s.stale v || (decide (v ≠ w) && overlaps ops (s.phase v) r.2.1 r.2.2)
  defaultOverwrote :=
    s.defaultOverwrote || (appliesDefault (reqs w) (s.phase w) && !s.store.isEmpty)

/-- The next critical section of the writer `w`. -/
def step (s : State R E A S Json Remote) (w : Nat) : Option (State R E A S Json Remote) :=
  (advance ops (reqs w) (s.phase w) s.store).map (after ops reqs s w)

/-- All interleavings of the writers. -/
def sys : System (State R E A S Json Remote) Nat where
  init s := s = ⟨initial, fun _ => .start, fun _ => false, false⟩
  step := step ops reqs

/-- The writer has something to write in its next critical section. -/
def writes (s : State R E A S Json Remote) (w : Nat) : Bool :=
  (advance ops (reqs w) (s.phase w) s.store).any fun r => !r.2.2.isEmpty

/-- The condition on a step: a writer that writes is not stale. -/
def FreshWrite (s : State R E A S Json Remote) (w : Nat) : Prop :=
  writes ops reqs s w = true → s.stale w = false

instance (s : State R E A S Json Remote) (w : Nat) : Decidable (FreshWrite ops reqs s w) :=
  inferInstanceAs (Decidable (_ → _))

/-! ## One writer after the other -/

/-- A writer runs from a phase to its end with nothing in between; no writer has more than
three critical sections. -/
def runFrom (req : Req S Json Remote) :
    Nat → Phase R E A S Json Remote → Store R E A S → Store R E A S
  | 0, _, s => s
  | n + 1, p, s =>
      match advance ops req p s with
      | none => s
      | some r => runFrom req n r.1 r.2.1

/-- The result of a request when nothing runs in between. -/
def solo (req : Req S Json Remote) (s : Store R E A S) : Store R E A S :=
  runFrom ops req 3 .start s

/-- The result of some writers one after the other. -/
def serial (order : List Nat) (s : Store R E A S) : Store R E A S :=
  order.foldl (fun s w => solo ops (reqs w) s) s

/-- No writer is at work. -/
def Final (s : State R E A S Json Remote) : Prop :=
  ∀ w, (s.phase w).atRest = true

/-- **No update is lost**: once no writer is at work, the store is what the writers that
have finished leave behind when they run one after the other, in some order. -/
def Serializable (s : State R E A S Json Remote) : Prop :=
  Final s → ∃ order : List Nat, order.Nodup ∧ (∀ w, w ∈ order ↔ (s.phase w).isDone = true) ∧
    s.store = serial ops reqs order initial

end GwCfg
end RuuviGateway
