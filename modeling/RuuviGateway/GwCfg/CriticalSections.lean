import RuuviGateway.GwCfg.Writers

/-!
# The critical sections of the writers

What a request does when nothing runs in between (`solo_...`), the critical sections as an
inductive relation (`Advances`), and what a writer knows between two of them (`WriterOk`):
as long as it is not stale, what it has read is as it was.
-/

namespace RuuviGateway
namespace GwCfg

open TransitionSystem

variable {R E A S Json Remote : Type} {ops : Ops R E A S Json Remote}
variable {reqs : Nat → Req S Json Remote} {initial : Store R E A S}
variable {s s' : State R E A S Json Remote} {w v : Nat}

/-! ## Requests alone -/

/-- `flag_network_cfg` and the value of `use_eth`. -/
def networkCfg (ops : Ops R E A S Json Remote) (lan : Bool) (json : Json) : Option Bool :=
  if lan then none else ops.getUseEth json

variable (ops) in
theorem advance_postRuuvi (json : Json) (lan : Bool) (s : Store R E A S) :
    advance ops (.postRuuvi (some json) lan) .start s = match networkCfg ops lan json with
      | none => some (.postRead json s.cfg, s, [])
      | some useEth => some (.postNetworkRead json useEth s.cfg, s, []) := rfl

variable (ops) in
theorem advance_download (download : Remote → Option Json) (s : Store R E A S) :
    advance ops (.downloadAndUpdate download) .start s =
      match download (ops.remote s.cfg.ruuvi) with
      | none => some (.done, s, [])
      | some json =>
          if ops.useRemoteCfg (downloadedCfg ops json s.cfg).ruuvi then
            some (.downloaded (ops.remote s.cfg.ruuvi) json, s, [])
          else some (.done, s, []) := rfl

theorem advance_saveWifi (sta : S) (s : Store R E A S) :
    advance ops (.saveWifiConfig sta) .start s =
      if ops.hasSsid sta then some (.useEthWritten, gwCfgSetEthUseEth ops false s, [.eth])
      else some (.done, gwCfgUpdateWifiStaConfig ops sta s, [.wifiSta, .isEmpty]) := rfl

theorem advance_setDefault (allocated : Bool) (s : Store R E A S) :
    advance ops (.setDefaultConfig allocated) .start s =
      if s.isEmpty then some (.defaultSignalled, s, []) else some (.done, s, []) := rfl

/-- A request alone goes on after its first critical section. -/
theorem solo_of_advance {req : Req S Json Remote} {s : Store R E A S}
    {r : Phase R E A S Json Remote × Store R E A S × List Loc}
    (h : advance ops req .start s = some r) : solo ops req s = runFrom ops req 2 r.1 r.2.1 := by
  rw [solo, runFrom, h]

variable (ops) in
theorem solo_postRuuvi_none (lan : Bool) (s : Store R E A S) :
    solo ops (.postRuuvi none lan) s = s := rfl

theorem solo_postRuuvi {json : Json} {lan : Bool} (h : networkCfg ops lan json = none)
    (s : Store R E A S) :
    solo ops (.postRuuvi (some json) lan) s =
      gwCfgUpdateRuuviCfg ops (ops.parseRuuvi json s.cfg.ruuvi) s := by
  have hadv := advance_postRuuvi ops json lan s
  rw [h] at hadv
  exact solo_of_advance hadv

theorem solo_postNetwork {json : Json} {lan useEth : Bool}
    (h : networkCfg ops lan json = some useEth) (s : Store R E A S) :
    solo ops (.postRuuvi (some json) lan) s =
      gwCfgUpdateWifiApConfig ops (postedAp ops json useEth s.cfg.wifiAp)
        (gwCfgUpdateEthCfg ops (postedEth ops json useEth) s) := by
  have hadv := advance_postRuuvi ops json lan s
  rw [h] at hadv
  exact solo_of_advance hadv

theorem solo_download_none {download : Remote → Option Json} {s : Store R E A S}
    (h : download (ops.remote s.cfg.ruuvi) = none) :
    solo ops (.downloadAndUpdate download) s = s := by
  have hadv := advance_download ops download s
  rw [h] at hadv
  exact solo_of_advance hadv

theorem solo_download_unset {download : Remote → Option Json} {s : Store R E A S} {json : Json}
    (h : download (ops.remote s.cfg.ruuvi) = some json)
    (hu : ops.useRemoteCfg (downloadedCfg ops json s.cfg).ruuvi = false) :
    solo ops (.downloadAndUpdate download) s = s := by
  have hadv := advance_download ops download s
  rw [h] at hadv
  exact solo_of_advance (hadv.trans (if_neg (Bool.eq_false_iff.mp hu)))

theorem solo_download {download : Remote → Option Json} {s : Store R E A S} {json : Json}
    (h : download (ops.remote s.cfg.ruuvi) = some json)
    (hu : ops.useRemoteCfg (downloadedCfg ops json s.cfg).ruuvi = true) :
    solo ops (.downloadAndUpdate download) s =
      gwCfgUpdate ops (downloadedCfg ops json s.cfg) s := by
  have hadv := advance_download ops download s
  rw [h] at hadv
  exact solo_of_advance (hadv.trans (if_pos hu))

theorem solo_saveWifi_ssid {sta : S} (h : ops.hasSsid sta = true) (s : Store R E A S) :
    solo ops (.saveWifiConfig sta) s =
      gwCfgUpdateWifiStaConfig ops sta (gwCfgSetEthUseEth ops false s) :=
  solo_of_advance ((advance_saveWifi sta s).trans (if_pos h))

theorem solo_saveWifi_noSsid {sta : S} (h : ops.hasSsid sta = false) (s : Store R E A S) :
    solo ops (.saveWifiConfig sta) s = gwCfgUpdateWifiStaConfig ops sta s :=
  solo_of_advance ((advance_saveWifi sta s).trans (if_neg (Bool.eq_false_iff.mp h)))

theorem solo_fwUpdateUrl (url : String) (s : Store R E A S) :
    solo ops (.fwUpdateUrl url) s = gwCfgUpdateFwUpdateUrl ops url s := rfl

theorem solo_setDefault_notEmpty {allocated : Bool} {s : Store R E A S}
    (h : s.isEmpty = false) : solo ops (.setDefaultConfig allocated) s = s :=
  solo_of_advance ((advance_setDefault allocated s).trans (if_neg (Bool.eq_false_iff.mp h)))

theorem solo_setDefault {s : Store R E A S} (h : s.isEmpty = true) :
    solo ops (.setDefaultConfig true) s = gwCfgUpdate ops ops.default s :=
  solo_of_advance ((advance_setDefault true s).trans (if_pos h))

theorem solo_setDefault_noMemory (s : Store R E A S) :
    solo ops (.setDefaultConfig false) s = s := by
  cases h : s.isEmpty with
  | false => exact solo_setDefault_notEmpty h
  | true => exact solo_of_advance ((advance_setDefault false s).trans (if_pos h))

theorem serial_append (order order' : List Nat) (s : Store R E A S) :
    serial ops reqs (order ++ order') s = serial ops reqs order' (serial ops reqs order s) := by
  simp [serial]

theorem serial_snoc (order : List Nat) (w : Nat) (s : Store R E A S) :
    serial ops reqs (order ++ [w]) s = solo ops (reqs w) (serial ops reqs order s) :=
  serial_append order [w] s

/-! ## The critical sections -/

/-- The critical sections of all writers, one constructor each: request, phase, store; the
next phase, the next store, and what is written. -/
inductive Advances (ops : Ops R E A S Json Remote) : Req S Json Remote →
    Phase R E A S Json Remote → Store R E A S →
    Phase R E A S Json Remote → Store R E A S → List Loc → Prop
  | unparsed (lan : Bool) (t : Store R E A S) :
      Advances ops (.postRuuvi none lan) .start t .done t []
  | postRead {json : Json} {lan : Bool} (h : networkCfg ops lan json = none) (t : Store R E A S) :
      Advances ops (.postRuuvi (some json) lan) .start t (.postRead json t.cfg) t []
  | postNetworkRead {json : Json} {lan useEth : Bool} (h : networkCfg ops lan json = some useEth)
      (t : Store R E A S) :
      Advances ops (.postRuuvi (some json) lan) .start t (.postNetworkRead json useEth t.cfg) t []
  | postWrite (body : Option Json) (lan : Bool) (json : Json) (copy : Cfg R E A S)
      (t : Store R E A S) :
      Advances ops (.postRuuvi body lan) (.postRead json copy) t .done
        (gwCfgUpdateRuuviCfg ops (ops.parseRuuvi json copy.ruuvi) t) [.ruuvi, .isEmpty]
  | postEthWrite (body : Option Json) (lan : Bool) (json : Json) (useEth : Bool)
      (copy : Cfg R E A S) (t : Store R E A S) :
      Advances ops (.postRuuvi body lan) (.postNetworkRead json useEth copy) t
        (.postEthWritten json useEth copy) (gwCfgUpdateEthCfg ops (postedEth ops json useEth) t)
        [.eth, .isEmpty]
  | postApWrite (body : Option Json) (lan : Bool) (json : Json) (useEth : Bool)
      (copy : Cfg R E A S) (t : Store R E A S) :
      Advances ops (.postRuuvi body lan) (.postEthWritten json useEth copy) t .done
        (gwCfgUpdateWifiApConfig ops (postedAp ops json useEth copy.wifiAp) t)
        [.wifiAp, .isEmpty]
  | downloadFailed {download : Remote → Option Json} {t : Store R E A S}
      (h : ∀ u : Store R E A S, u.cfg.ruuvi = t.cfg.ruuvi →
        solo ops (.downloadAndUpdate download) u = u) :
      Advances ops (.downloadAndUpdate download) .start t .done t []
  | downloaded {download : Remote → Option Json} {json : Json} {t : Store R E A S}
      (h : download (ops.remote t.cfg.ruuvi) = some json)
      (hu : ∀ c, ops.useRemoteCfg (downloadedCfg ops json c).ruuvi = true) :
      Advances ops (.downloadAndUpdate download) .start t
        (.downloaded (ops.remote t.cfg.ruuvi) json) t []
  | downloadRead (download : Remote → Option Json) (remote : Remote) (json : Json)
      (t : Store R E A S) :
      Advances ops (.downloadAndUpdate download) (.downloaded remote json) t
        (.downloadRead json t.cfg) t []
  | downloadWrite (download : Remote → Option Json) (json : Json) (copy : Cfg R E A S)
      (t : Store R E A S) :
      Advances ops (.downloadAndUpdate download) (.downloadRead json copy) t .done
        (gwCfgUpdate ops (downloadedCfg ops json copy) t)
        [.ruuvi, .eth, .wifiAp, .wifiSta, .isEmpty]
  | useEthWrite {sta : S} (h : ops.hasSsid sta = true) (t : Store R E A S) :
      Advances ops (.saveWifiConfig sta) .start t .useEthWritten
        (gwCfgSetEthUseEth ops false t) [.eth]
  | staOnlyWrite {sta : S} (h : ops.hasSsid sta = false) (t : Store R E A S) :
      Advances ops (.saveWifiConfig sta) .start t .done (gwCfgUpdateWifiStaConfig ops sta t)
        [.wifiSta, .isEmpty]
  | staWrite (sta : S) (t : Store R E A S) :
      Advances ops (.saveWifiConfig sta) .useEthWritten t .done
        (gwCfgUpdateWifiStaConfig ops sta t) [.wifiSta, .isEmpty]
  | urlWrite (url : String) (t : Store R E A S) :
      Advances ops (.fwUpdateUrl url) .start t .done (gwCfgUpdateFwUpdateUrl ops url t) [.ruuvi]
  | signalled (allocated : Bool) {t : Store R E A S} (h : t.isEmpty = true) :
      Advances ops (.setDefaultConfig allocated) .start t .defaultSignalled t []
  | declined (allocated : Bool) {t : Store R E A S} (h : t.isEmpty = false) :
      Advances ops (.setDefaultConfig allocated) .start t .done t []
  | defaultWrite (t : Store R E A S) :
      Advances ops (.setDefaultConfig true) .defaultSignalled t .done
        (gwCfgUpdate ops ops.default t) [.ruuvi, .eth, .wifiAp, .wifiSta, .isEmpty]
  | noMemory (t : Store R E A S) :
      Advances ops (.setDefaultConfig false) .defaultSignalled t .done t []

/-- Whether a document sets `remote_cfg_use` is the same over every configuration. -/
theorem useRemoteCfg_downloaded (json : Json) (c c' : Cfg R E A S) :
    ops.useRemoteCfg (downloadedCfg ops json c).ruuvi =
      ops.useRemoteCfg (downloadedCfg ops json c').ruuvi :=
  ops.useRemoteCfg_parse json c.ruuvi c'.ruuvi

theorem advances_of_advance {req : Req S Json Remote} {p p' : Phase R E A S Json Remote}
    {t t' : Store R E A S} {ws : List Loc} (h : advance ops req p t = some (p', t', ws)) :
    Advances ops req p t p' t' ws := by
  unfold advance at h
  split at h
  · cases h
    exact .unparsed _ _
  · split at h
    · rename_i hnet
      cases h
      exact .postRead hnet _
    · rename_i hnet
      cases h
      exact .postNetworkRead hnet _
  · cases h
    exact .postWrite ..
  · cases h
    exact .postEthWrite ..
  · cases h
    exact .postApWrite ..
  · split at h
    · rename_i hnone
      cases h
      exact .downloadFailed fun u hu => solo_download_none (by rw [hu, hnone])
    · rename_i json hsome
      split at h
      · rename_i huse
        cases h
        exact .downloaded hsome fun c => (useRemoteCfg_downloaded json c _).trans huse
      · rename_i huse
        cases h
        have hfalse := Bool.eq_false_iff.mpr huse
        exact .downloadFailed fun u hu => solo_download_unset (by rw [hu, hsome])
          ((useRemoteCfg_downloaded json _ _).trans hfalse)
  · cases h
    exact .downloadRead ..
  · cases h
    exact .downloadWrite ..
  · split at h
    · rename_i hssid
      cases h
      exact .useEthWrite hssid _
    · rename_i hssid
      cases h
      exact .staOnlyWrite (Bool.eq_false_iff.mpr hssid) _
  · cases h
    exact .staWrite ..
  · cases h
    exact .urlWrite ..
  · split at h
    · rename_i hempty
      cases h
      exact .signalled _ hempty
    · rename_i hempty
      cases h
      exact .declined _ (Bool.eq_false_iff.mpr hempty)
  · split at h
    · rename_i halloc
      subst halloc
      cases h
      exact .defaultWrite _
    · rename_i halloc
      have hfalse := Bool.eq_false_iff.mpr halloc
      subst hfalse
      cases h
      exact .noMemory _
  · exact absurd h (by simp)

/-- The two stores agree on one part. -/
def SameAt (s t : Store R E A S) : Loc → Prop
  | .ruuvi => t.cfg.ruuvi = s.cfg.ruuvi
  | .eth => t.cfg.eth = s.cfg.eth
  | .wifiAp => t.cfg.wifiAp = s.cfg.wifiAp
  | .wifiSta => t.cfg.wifiSta = s.cfg.wifiSta
  | .isEmpty => t.isEmpty = s.isEmpty

theorem SameAt.refl (s : Store R E A S) (l : Loc) : SameAt s s l := by
  cases l <;> rfl

/-- A critical section changes only what it says it writes. -/
theorem Advances.frame {req : Req S Json Remote} {p p' : Phase R E A S Json Remote}
    {t t' : Store R E A S} {ws : List Loc} (h : Advances ops req p t p' t' ws) {l : Loc}
    (hl : l ∉ ws) : SameAt t t' l := by
  cases h <;> first
    | exact .refl _ l
    | (cases l <;> first | rfl | exact absurd hl (by simp))

/-! ## What a writer knows -/

/-- What holds of a writer between two of its critical sections: as long as it is not
stale, what it depends on is as it was. -/
def WriterOk (ops : Ops R E A S Json Remote) (stale : Bool) (t : Store R E A S) :
    Req S Json Remote → Phase R E A S Json Remote → Prop
  | _, .start => True
  | _, .done => True
  | .postRuuvi body lan, .postRead json copy =>
      body = some json ∧ networkCfg ops lan json = none ∧
        (stale = false → t.cfg.ruuvi = copy.ruuvi)
  | .postRuuvi body lan, .postNetworkRead json useEth copy =>
      body = some json ∧ networkCfg ops lan json = some useEth ∧
        (stale = false → t.cfg.wifiAp = copy.wifiAp)
  | .postRuuvi body lan, .postEthWritten json useEth copy =>
      body = some json ∧ networkCfg ops lan json = some useEth ∧
        (stale = false → t.cfg.wifiAp = copy.wifiAp)
  | .downloadAndUpdate download, .downloaded remote json =>
      (∀ c, ops.useRemoteCfg (downloadedCfg ops json c).ruuvi = true) ∧
        download remote = some json ∧ (stale = false → ops.remote t.cfg.ruuvi = remote)
  | .downloadAndUpdate download, .downloadRead json copy =>
      (∀ c, ops.useRemoteCfg (downloadedCfg ops json c).ruuvi = true) ∧
        (stale = false → download (ops.remote t.cfg.ruuvi) = some json ∧ t.cfg = copy)
  | .saveWifiConfig sta, .useEthWritten => ops.hasSsid sta = true
  | .setDefaultConfig _, .defaultSignalled => stale = false → t.isEmpty = true
  | _, _ => False

/-- A writer keeps what it knows if nothing that it depends on changes. -/
theorem WriterOk.frame {req : Req S Json Remote} {p : Phase R E A S Json Remote}
    {stale stale' : Bool} {t t' : Store R E A S} (h : WriterOk ops stale t req p)
    (hsame : stale' = false → stale = false ∧ (∀ l ∈ dependsOn p, SameAt t t' l) ∧
      ∀ remote, p.readsRemote = some remote → ops.remote t.cfg.ruuvi = remote →
        ops.remote t'.cfg.ruuvi = remote) :
    WriterOk ops stale' t' req p := by
  cases p with
  | start => exact trivial
  | done => exact trivial
  | postRead json copy =>
    cases req with
    | postRuuvi body lan =>
      obtain ⟨hbody, hnet, hcopy⟩ := h
      refine ⟨hbody, hnet, fun hst => ?_⟩
      obtain ⟨hs, hl, -⟩ := hsame hst
      exact (hl .ruuvi (by simp [dependsOn])).trans (hcopy hs)
    | _ => exact h.elim
  | postNetworkRead json useEth copy =>
    cases req with
    | postRuuvi body lan =>
      obtain ⟨hbody, hnet, hcopy⟩ := h
      refine ⟨hbody, hnet, fun hst => ?_⟩
      obtain ⟨hs, hl, -⟩ := hsame hst
      exact (hl .wifiAp (by simp [dependsOn])).trans (hcopy hs)
    | _ => exact h.elim
  | postEthWritten json useEth copy =>
    cases req with
    | postRuuvi body lan =>
      obtain ⟨hbody, hnet, hcopy⟩ := h
      refine ⟨hbody, hnet, fun hst => ?_⟩
      obtain ⟨hs, hl, -⟩ := hsame hst
      exact (hl .wifiAp (by simp [dependsOn])).trans (hcopy hs)
    | _ => exact h.elim
  | downloaded remote json =>
    cases req with
    | downloadAndUpdate download =>
      obtain ⟨huse, hdown, hcopy⟩ := h
      refine ⟨huse, hdown, fun hst => ?_⟩
      obtain ⟨hs, -, hremote⟩ := hsame hst
      exact hremote remote rfl (hcopy hs)
    | _ => exact h.elim
  | downloadRead json copy =>
    cases req with
    | downloadAndUpdate download =>
      obtain ⟨huse, hcopy⟩ := h
      refine ⟨huse, fun hst => ?_⟩
      obtain ⟨hs, hl, -⟩ := hsame hst
      obtain ⟨hdown, hcfg⟩ := hcopy hs
      have hr : t'.cfg.ruuvi = t.cfg.ruuvi := hl .ruuvi (by simp [dependsOn])
      have he : t'.cfg.eth = t.cfg.eth := hl .eth (by simp [dependsOn])
      have ha : t'.cfg.wifiAp = t.cfg.wifiAp := hl .wifiAp (by simp [dependsOn])
      have hw : t'.cfg.wifiSta = t.cfg.wifiSta := hl .wifiSta (by simp [dependsOn])
      refine ⟨by rw [hr, hdown], ?_⟩
      rw [← hcfg]
      cases hc : t'.cfg
      cases hc' : t.cfg
      simp_all
    | _ => exact h.elim
  | useEthWritten => cases req <;> exact h
  | defaultSignalled =>
    cases req with
    | setDefaultConfig allocated =>
      intro hst
      obtain ⟨hs, hl, -⟩ := hsame hst
      exact (hl .isEmpty (by simp [dependsOn])).trans (h hs)
    | _ => exact h.elim

/-- A writer knows what it has just read. -/
theorem Advances.writerOk {req : Req S Json Remote} {p p' : Phase R E A S Json Remote}
    {t t' : Store R E A S} {ws : List Loc} {stale : Bool} (h : Advances ops req p t p' t' ws)
    (hok : WriterOk ops stale t req p) (hfresh : ws ≠ [] → stale = false) :
    WriterOk ops stale t' req p' := by
  cases h with
  | postRead hnet => exact ⟨rfl, hnet, fun _ => rfl⟩
  | postNetworkRead hnet => exact ⟨rfl, hnet, fun _ => rfl⟩
  | postEthWrite => exact hok
  | downloaded hdown huse => exact ⟨huse, hdown, fun _ => rfl⟩
  | downloadRead download remote json t =>
    obtain ⟨huse, hdown, hremote⟩ := hok
    exact ⟨huse, fun hs => ⟨by rw [hremote hs, hdown], rfl⟩⟩
  | useEthWrite hssid => exact hssid
  | signalled _ hempty => exact fun _ => hempty
  | _ => exact trivial

end GwCfg
end RuuviGateway
