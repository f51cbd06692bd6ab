import Mathlib.Data.List.Nodup
import Mathlib.Data.List.Permutation
import RuuviGateway.GwCfg.CriticalSections

/-!
# When no update is lost

In a run whose writes are all fresh, a writer that only reads and then writes once acts
as if it had read at the moment of writing.  Two writers write twice: the POST of network
settings and the saving of Wi-Fi credentials.  Between its two writes such a writer is
*pending*.  A write of the whole configuration makes every pending writer stale; a stale
pending writer never writes again, and the run never comes to rest (`Doomed`).

So the writes of the whole configuration cut a run into epochs.  Within an epoch there are
two groups of writers, `posts` and `saves`, which share only the flag `use_eth`: the POSTs
overwrite the Ethernet section, the savings of credentials reset the flag.  The order in
which this happened last decides which group comes first (`merged`, `serial_order`).
-/

namespace RuuviGateway
namespace GwCfg

open TransitionSystem

variable {R E A S Json Remote : Type} {ops : Ops R E A S Json Remote}
variable {reqs : Nat → Req S Json Remote} {initial : Store R E A S}
variable {s s' : State R E A S Json Remote} {w v : Nat}

/-! ## Pending writers -/

/-- The Ethernet section that a POST of network settings has written, while the access-point
section is to come. -/
def pendingEth (ops : Ops R E A S Json Remote) : Phase R E A S Json Remote → Option E
  | .postEthWritten json useEth _ => some (postedEth ops json useEth)
  | _ => none

/-- The writer has written once and will write again. -/
def Phase.isPending (p : Phase R E A S Json Remote) : Prop :=
  p.savesWifi = true ∨ ∃ json useEth copy, p = .postEthWritten json useEth copy

theorem isPending_of_pendingEth {p : Phase R E A S Json Remote} {e : E}
    (h : pendingEth ops p = some e) : p.isPending := by
  cases p with
  | postEthWritten json useEth copy => exact Or.inr ⟨_, _, _, rfl⟩
  | _ => exact absurd h (by simp [pendingEth])

/-- A pending writer writes in its next critical section. -/
theorem Advances.writes_of_pending {req : Req S Json Remote} {p p' : Phase R E A S Json Remote}
    {t t' : Store R E A S} {ws : List Loc} (h : Advances ops req p t p' t' ws)
    (hp : p.isPending) : ws ≠ [] := by
  cases h <;>
    first
    | exact List.cons_ne_nil _ _
    | exact absurd hp (by simp [Phase.isPending, Phase.savesWifi])

/-- The next critical section of a POST that is pending writes the access-point section. -/
theorem Advances.wifiAp_mem {req : Req S Json Remote} {p p' : Phase R E A S Json Remote}
    {t t' : Store R E A S} {ws : List Loc} (h : Advances ops req p t p' t' ws) {e : E}
    (hp : pendingEth ops p = some e) : Loc.wifiAp ∈ ws := by
  cases h with
  | postApWrite => exact List.mem_cons_self ..
  | _ => exact absurd hp (by simp [pendingEth])

/-- A pending writer is stale, or two POSTs are pending, of which one will be: the run never
comes to rest. -/
def Doomed (ops : Ops R E A S Json Remote) (s : State R E A S Json Remote) : Prop :=
  (∃ w, (s.phase w).isPending ∧ s.stale w = true) ∨
    ∃ x y, x ≠ y ∧ (pendingEth ops (s.phase x)).isSome = true ∧
      (pendingEth ops (s.phase y)).isSome = true

theorem Doomed.exists_pending (h : Doomed ops s) : ∃ w, (s.phase w).isPending := by
  rcases h with ⟨w, hw, -⟩ | ⟨x, y, -, hx, -⟩
  · exact ⟨w, hw⟩
  · obtain ⟨e, he⟩ := Option.isSome_iff_exists.mp hx
    exact ⟨x, isPending_of_pendingEth he⟩

section step

variable [DecidableEq Remote]
variable {p' : Phase R E A S Json Remote} {t' : Store R E A S} {ws : List Loc}

/-- A write of a section gets in the way of every writer that depends on it. -/
theorem overlaps_of_mem {p : Phase R E A S Json Remote} {l : Loc} (hmem : l ∈ ws)
    (hl : l ∈ dependsOn p) : overlaps ops p t' ws = true := by
  simp only [overlaps, Bool.or_eq_true, List.any_eq_true]
  exact Or.inl (Or.inl ⟨l, hmem, decide_eq_true hl⟩)

/-- A write of the whole configuration gets in the way of every pending writer. -/
theorem overlaps_of_whole {p : Phase R E A S Json Remote} (hp : p.isPending)
    (heth : Loc.eth ∈ ws) (hap : Loc.wifiAp ∈ ws) (hsta : Loc.wifiSta ∈ ws) :
    overlaps ops p t' ws = true := by
  rcases hp with hsave | ⟨json, useEth, copy, rfl⟩
  · simp [overlaps, hsave, heth, hsta]
  · exact overlaps_of_mem hap (by simp [dependsOn])

@[simp] theorem after_store (r : Phase R E A S Json Remote × Store R E A S × List Loc) :
    (after ops reqs s w r).store = r.2.1 := rfl

theorem after_phase_self : (after ops reqs s w (p', t', ws)).phase w = p' :=
  Function.update_self ..

theorem after_phase_of_ne (h : v ≠ w) : (after ops reqs s w (p', t', ws)).phase v = s.phase v :=
  Function.update_of_ne h ..

theorem after_stale_of_stale (h : s.stale v = true) :
    (after ops reqs s w (p', t', ws)).stale v = true := by
  show (s.stale v || _) = true
  rw [h, Bool.true_or]

theorem after_stale_of_overlaps (hne : v ≠ w) (h : overlaps ops (s.phase v) t' ws = true) :
    (after ops reqs s w (p', t', ws)).stale v = true := by
  show (s.stale v || (decide (v ≠ w) && overlaps ops (s.phase v) t' ws)) = true
  rw [h, decide_eq_true hne, Bool.and_self, Bool.or_true]

/-- A writer becomes stale while it is pending. -/
theorem doomed_of_overlaps {x : Nat} (hx : (s.phase x).isPending) (hne : x ≠ w)
    (h : overlaps ops (s.phase x) t' ws = true) : Doomed ops (after ops reqs s w (p', t', ws)) := by
  refine Or.inl ⟨x, ?_, after_stale_of_overlaps hne h⟩
  rw [after_phase_of_ne hne]
  exact hx

/-- A doomed state stays doomed: a stale writer never writes again, and of two pending POSTs
the one that writes first makes the other one stale. -/
theorem Doomed.after (h : Doomed ops s) (ha : Advances ops (reqs w) (s.phase w) s.store p' t' ws)
    (hfresh : ws ≠ [] → s.stale w = false) : Doomed ops (after ops reqs s w (p', t', ws)) := by
  rcases h with ⟨x, hx, hst⟩ | ⟨x, y, hxy, hx, hy⟩
  · have hne : x ≠ w := by
      rintro rfl
      rw [hfresh (ha.writes_of_pending hx)] at hst
      exact absurd hst (by simp)
    refine Or.inl ⟨x, ?_, after_stale_of_stale hst⟩
    rw [after_phase_of_ne hne]
    exact hx
  · have key : ∀ x y, x ≠ y → x = w → (pendingEth ops (s.phase x)).isSome = true →
        (pendingEth ops (s.phase y)).isSome = true →
        Doomed ops (GwCfg.after ops reqs s w (p', t', ws)) := by
      rintro x y hxy rfl hx hy
      obtain ⟨e, he⟩ := Option.isSome_iff_exists.mp hx
      obtain ⟨e', he'⟩ := Option.isSome_iff_exists.mp hy
      have hpend := isPending_of_pendingEth he'
      refine doomed_of_overlaps hpend hxy.symm ?_
      have hmem := ha.wifiAp_mem he
      cases hp : s.phase y with
      | postEthWritten json useEth copy =>
        exact overlaps_of_mem hmem (by simp [dependsOn])
      | _ =>
        rw [hp] at he'
        exact absurd he' (by simp [pendingEth])
    by_cases hxw : x = w
    · exact key x y hxy hxw hx hy
    · by_cases hyw : y = w
      · exact key y x hxy.symm hyw hy hx
      · refine Or.inr ⟨x, y, hxy, ?_, ?_⟩
        · rw [after_phase_of_ne hxw]
          exact hx
        · rw [after_phase_of_ne hyw]
          exact hy

end step

/-! ## Epochs -/

/-- The writers that have finished, and what those since the last write of the whole
configuration have done. -/
structure Epoch (R E A S : Type) where
  /-- The writers up to the last write of the whole configuration. -/
  before : List Nat
  /-- The writers since then that do not touch the station section. -/
  posts : List Nat
  /-- The savings of Wi-Fi credentials since then. -/
  saves : List Nat
  /-- The requests for the default configuration that found a configuration. -/
  dropped : List Nat
  ruuvi : R
  wifiAp : A
  wifiSta : S
  /-- The Ethernet section of the last POST of network settings. -/
  eth : Option E
  /-- Some credentials had an SSID. -/
  useEthReset : Bool
  /-- The posts have not marked the configuration as not empty. -/
  postsEmpty : Bool
  /-- The savings have not. -/
  savesEmpty : Bool

/-- An epoch that begins with the store `t`. -/
def Epoch.new (before dropped : List Nat) (t : Store R E A S) : Epoch R E A S where
  before := before
  posts := []
  saves := []
  dropped := dropped
  ruuvi := t.cfg.ruuvi
  wifiAp := t.cfg.wifiAp
  wifiSta := t.cfg.wifiSta
  eth := none
  useEthReset := false
  postsEmpty := true
  savesEmpty := true

/-- The writers that have finished. -/
def Epoch.all (e : Epoch R E A S) : List Nat := e.before ++ e.posts ++ e.saves ++ e.dropped

/-- What the posts do from any store that agrees with the beginning of the epoch on what they
read. -/
def PostsOk (ops : Ops R E A S Json Remote) (reqs : Nat → Req S Json Remote)
    (base : Store R E A S) (e : Epoch R E A S) : Prop :=
  ∀ t : Store R E A S, t.cfg.ruuvi = base.cfg.ruuvi → t.cfg.wifiAp = base.cfg.wifiAp →
    serial ops reqs e.posts t =
      ⟨⟨e.ruuvi, e.eth.getD t.cfg.eth, e.wifiAp, t.cfg.wifiSta⟩, t.isEmpty && e.postsEmpty⟩

/-- `use_eth` is reset if some credentials had an SSID. -/
def resetUseEth (ops : Ops R E A S Json Remote) (reset : Bool) (e : E) : E :=
  if reset then ops.setUseEth false e else e

theorem resetUseEth_resetUseEth (b b' : Bool) (e : E) :
    resetUseEth ops b (resetUseEth ops b' e) = resetUseEth ops (b || b') e := by
  cases b <;> cases b' <;> simp [resetUseEth, ops.setUseEth_setUseEth]

/-- What the savings do. -/
def SavesOk (ops : Ops R E A S Json Remote) (reqs : Nat → Req S Json Remote)
    (base : Store R E A S) (e : Epoch R E A S) : Prop :=
  ∀ t : Store R E A S, t.cfg.wifiSta = base.cfg.wifiSta →
    serial ops reqs e.saves t =
      ⟨⟨t.cfg.ruuvi, resetUseEth ops e.useEthReset t.cfg.eth, t.cfg.wifiAp, e.wifiSta⟩,
        t.isEmpty && e.savesEmpty⟩

/-- The store of an epoch.  `net` is the Ethernet section that a pending POST has written,
`reset` says that `use_eth` has been reset after the last POST of network settings. -/
def merged (ops : Ops R E A S Json Remote) (base : Store R E A S) (e : Epoch R E A S)
    (net : Option E) (reset : Bool) : Store R E A S :=
  ⟨⟨e.ruuvi, resetUseEth ops reset ((net.or e.eth).getD base.cfg.eth), e.wifiAp, e.wifiSta⟩,
    base.isEmpty && e.postsEmpty && e.savesEmpty && net.isNone⟩

/-- The order of the writers of an epoch. -/
def Epoch.order (e : Epoch R E A S) (reset : Bool) : List Nat :=
  if reset then e.before ++ (e.posts ++ e.saves) else e.before ++ (e.saves ++ e.posts)

/-- **Without pending writers the store of an epoch is a serial one.** -/
theorem serial_order {e : Epoch R E A S} {reset : Bool}
    (hposts : PostsOk ops reqs (serial ops reqs e.before initial) e)
    (hsaves : SavesOk ops reqs (serial ops reqs e.before initial) e)
    (htrue : reset = true → e.useEthReset = true)
    (hfalse : reset = false → e.useEthReset = true → e.eth.isSome = true) :
    serial ops reqs (e.order reset) initial =
      merged ops (serial ops reqs e.before initial) e none reset := by
  cases reset with
  | true =>
    show serial ops reqs (e.before ++ (e.posts ++ e.saves)) initial = _
    have hsta := congrArg (·.cfg.wifiSta) (hposts (serial ops reqs e.before initial) rfl rfl)
    rw [serial_append, serial_append, hsaves _ hsta, hposts _ rfl rfl, htrue rfl]
    simp [merged]
  | false =>
    show serial ops reqs (e.before ++ (e.saves ++ e.posts)) initial = _
    have hsta := hsaves (serial ops reqs e.before initial) rfl
    have hruuvi := congrArg (·.cfg.ruuvi) hsta
    have hap := congrArg (·.cfg.wifiAp) hsta
    rw [serial_append, serial_append, hposts _ hruuvi hap, hsta]
    cases he : e.eth with
    | some v => simp [merged, he, resetUseEth, Bool.and_assoc, Bool.and_comm e.postsEmpty]
    | none =>
      have hno : e.useEthReset = false := by
        cases hr : e.useEthReset with
        | false => rfl
        | true => exact absurd (hfalse rfl hr) (by simp [he])
      simp [merged, he, hno, resetUseEth, Bool.and_assoc, Bool.and_comm e.postsEmpty]

theorem Epoch.order_perm (e : Epoch R E A S) (reset : Bool) :
    (e.order reset ++ e.dropped).Perm e.all := by
  cases reset with
  | true =>
    show (e.before ++ (e.posts ++ e.saves) ++ e.dropped).Perm e.all
    rw [Epoch.all, ← List.append_assoc]
  | false =>
    show (e.before ++ (e.saves ++ e.posts) ++ e.dropped).Perm e.all
    rw [Epoch.all, List.append_assoc e.before e.posts]
    exact (List.Perm.append_left _ List.perm_append_comm).append_right _

/-! ## The invariant -/

/-- The writers that have finished are listed once each. -/
structure Finished (s : State R E A S Json Remote) (all : List Nat) : Prop where
  nodup : all.Nodup
  mem_iff : ∀ w, w ∈ all ↔ (s.phase w).isDone = true

theorem Finished.perm {all all' : List Nat} (h : Finished s all) (hp : all'.Perm all) :
    Finished s all' where
  nodup := hp.nodup_iff.mpr h.nodup
  mem_iff w := hp.mem_iff.trans (h.mem_iff w)

/-- The store is the one of an epoch. -/
structure Live (ops : Ops R E A S Json Remote) (reqs : Nat → Req S Json Remote)
    (initial : Store R E A S) (s : State R E A S Json Remote) (e : Epoch R E A S)
    (net : Option (Nat × E)) (reset : Bool) : Prop where
  finished : Finished s e.all
  posts : PostsOk ops reqs (serial ops reqs e.before initial) e
  saves : SavesOk ops reqs (serial ops reqs e.before initial) e
  store : s.store = merged ops (serial ops reqs e.before initial) e (net.map Prod.snd) reset
  net_iff : ∀ w v, pendingEth ops (s.phase w) = some v ↔ net = some (w, v)
  reset_true : reset = true → e.useEthReset = true ∨ ∃ w, (s.phase w).savesWifi = true
  reset_false : reset = false → (e.useEthReset = true ∨ ∃ w, (s.phase w).savesWifi = true) →
    (net.isSome || e.eth.isSome) = true
  dropped : ∀ w ∈ e.dropped, s.store.isEmpty = false ∧ ∃ b, reqs w = .setDefaultConfig b

/-- The invariant. -/
structure Inv (ops : Ops R E A S Json Remote) (reqs : Nat → Req S Json Remote)
    (initial : Store R E A S) (s : State R E A S Json Remote) : Prop where
  writer : ∀ w, WriterOk ops (s.stale w) s.store (reqs w) (s.phase w)
  live : Doomed ops s ∨ ∃ e net reset, Live ops reqs initial s e net reset
  defaultOverwrote : s.defaultOverwrote = false

theorem postsOk_new (before dropped : List Nat) (t : Store R E A S) :
    PostsOk ops reqs t (Epoch.new before dropped t) := by
  intro u hr ha
  show u = _
  cases u with
  | mk c b =>
    cases c
    simp_all [Epoch.new]

theorem savesOk_new (before dropped : List Nat) (t : Store R E A S) :
    SavesOk ops reqs t (Epoch.new before dropped t) := by
  intro u hs
  show u = _
  cases u with
  | mk c b =>
    cases c
    simp_all [Epoch.new, resetUseEth]

theorem merged_new (before dropped : List Nat) (t : Store R E A S) :
    merged ops t (Epoch.new before dropped t) none false = t := by
  simp [merged, Epoch.new, resetUseEth]

theorem inv_init : Inv ops reqs initial ⟨initial, fun _ => .start, fun _ => false, false⟩ where
  writer := fun _ => trivial
  live := Or.inr ⟨Epoch.new [] [] initial, none, false,
    { finished := ⟨List.nodup_nil, fun w => by simp [Epoch.all, Epoch.new, Phase.isDone]⟩
      posts := postsOk_new [] [] initial
      saves := savesOk_new [] [] initial
      store := (merged_new [] [] initial).symm
      net_iff := fun w v => by simp [pendingEth]
      reset_true := fun h => absurd h (by simp)
      reset_false := fun _ h => absurd h (by simp [Epoch.new, Phase.savesWifi])
      dropped := fun w h => absurd h (by simp [Epoch.new]) }⟩
  defaultOverwrote := rfl

/-- Without pending writers the store is a serial one. -/
theorem Live.serial_of_atRest {e : Epoch R E A S} {reset : Bool}
    (h : Live ops reqs initial s e none reset)
    (hs : ∀ x, (s.phase x).savesWifi = false) :
    s.store = serial ops reqs (e.order reset) initial := by
  have hno : ¬ ∃ x, (s.phase x).savesWifi = true := by
    rintro ⟨x, hx⟩
    rw [hs x] at hx
    exact absurd hx (by simp)
  rw [h.store]
  refine (serial_order h.posts h.saves (fun hr => ?_) fun hr hreset => ?_).symm
  · exact (h.reset_true hr).resolve_right hno
  · exact h.reset_false hr (Or.inl hreset)

/-- The writer has not finished, and it is not pending. -/
structure Phase.IsReading (ops : Ops R E A S Json Remote) (p : Phase R E A S Json Remote) :
    Prop where
  notDone : p.isDone = false
  noEth : pendingEth ops p = none
  noSave : p.savesWifi = false

theorem setSection_eth (v v' : E) : setSection ops.ethCmp (some v) v' = v := by
  cases hc : ops.ethCmp v' v with
  | false => simp [setSection, hc]
  | true => simpa [setSection, hc] using ops.eq_of_ethCmp _ _ hc

section step

variable [DecidableEq Remote]
variable {p' : Phase R E A S Json Remote} {t' : Store R E A S} {ws : List Loc}
variable {e e' : Epoch R E A S} {net : Option (Nat × E)} {reset : Bool} {all : List Nat}

/-- A critical section that is not the last one of its writer. -/
theorem Finished.continue (h : Finished s all) (hd : (s.phase w).isDone = false)
    (hd' : p'.isDone = false) : Finished (after ops reqs s w (p', t', ws)) all where
  nodup := h.nodup
  mem_iff v := by
    by_cases hv : v = w
    · subst hv
      rw [after_phase_self, h.mem_iff, hd, hd']
    · rw [after_phase_of_ne hv, h.mem_iff]

/-- The last critical section of a writer. -/
theorem Finished.finish (h : Finished s all) (hd : (s.phase w).isDone = false)
    {all' : List Nat} (hp : all'.Perm (w :: all)) :
    Finished (after ops reqs s w (.done, t', ws)) all' := by
  have hnot : w ∉ all := by
    intro hmem
    rw [(h.mem_iff w).mp hmem] at hd
    exact absurd hd (by simp)
  refine Finished.perm ⟨List.nodup_cons.mpr ⟨hnot, h.nodup⟩, fun v => ?_⟩ hp
  rw [List.mem_cons]
  by_cases hv : v = w
  · subst hv
    rw [after_phase_self]
    simp [Phase.isDone]
  · rw [after_phase_of_ne hv, ← h.mem_iff]
    simp [hv]

theorem all_perm_posts (e : Epoch R E A S) (w : Nat) :
    (e.before ++ (e.posts ++ [w]) ++ e.saves ++ e.dropped).Perm (w :: e.all) := by
  have hall : e.all = (e.before ++ e.posts) ++ (e.saves ++ e.dropped) := by
    rw [Epoch.all, List.append_assoc _ e.saves]
  rw [hall, ← List.append_assoc e.before, List.append_assoc _ e.saves, List.append_assoc _ [w]]
  exact List.perm_middle

theorem all_perm_saves (e : Epoch R E A S) (w : Nat) :
    (e.before ++ e.posts ++ (e.saves ++ [w]) ++ e.dropped).Perm (w :: e.all) := by
  rw [← List.append_assoc _ e.saves, List.append_assoc _ [w]]
  exact List.perm_middle

theorem all_perm_dropped (e : Epoch R E A S) (w : Nat) :
    (e.before ++ e.posts ++ e.saves ++ (e.dropped ++ [w])).Perm (w :: e.all) := by
  rw [← List.append_assoc]
  exact List.perm_append_singleton w e.all

/-- A step of a writer that is pending neither before nor after leaves the pending writers
as they are. -/
theorem Live.net_iff_after (h : Live ops reqs initial s e net reset)
    (hp : pendingEth ops (s.phase w) = none) (hp' : pendingEth ops p' = none) (x : Nat) (v : E) :
    pendingEth ops ((after ops reqs s w (p', t', ws)).phase x) = some v ↔ net = some (x, v) := by
  rw [← h.net_iff]
  by_cases hx : x = w
  · subst hx
    rw [after_phase_self, hp, hp']
  · rw [after_phase_of_ne hx]

theorem savesWifi_after (hp : (s.phase w).savesWifi = p'.savesWifi) :
    (∃ x, ((after ops reqs s w (p', t', ws)).phase x).savesWifi = true) ↔
      ∃ x, (s.phase x).savesWifi = true := by
  refine exists_congr fun x => ?_
  by_cases hx : x = w
  · subst hx
    rw [after_phase_self, hp]
  · rw [after_phase_of_ne hx]

/-- A critical section that only reads. -/
theorem Live.read (h : Live ops reqs initial s e net reset) (hp : (s.phase w).IsReading ops)
    (hp' : p'.IsReading ops) :
    Live ops reqs initial (after ops reqs s w (p', s.store, [])) e net reset where
  finished := h.finished.continue hp.notDone hp'.notDone
  posts := h.posts
  saves := h.saves
  store := h.store
  net_iff := h.net_iff_after hp.noEth hp'.noEth
  reset_true hr :=
    (h.reset_true hr).imp_right (savesWifi_after (hp.noSave.trans hp'.noSave.symm)).mpr
  reset_false hr hor :=
    h.reset_false hr (hor.imp_right (savesWifi_after (hp.noSave.trans hp'.noSave.symm)).mp)
  dropped := h.dropped

/-- The last critical section of a writer that concerns the Ruuvi section only, or nothing. -/
theorem Live.post (h : Live ops reqs initial s e net reset) {r : R} {b : Bool}
    (hp : (s.phase w).IsReading ops)
    (hsolo : ∀ t : Store R E A S, t.cfg.ruuvi = s.store.cfg.ruuvi →
      solo ops (reqs w) t = ⟨{ t.cfg with ruuvi := r }, t.isEmpty && b⟩)
    (ht : t' = ⟨{ s.store.cfg with ruuvi := r }, s.store.isEmpty && b⟩) :
    Live ops reqs initial (after ops reqs s w (.done, t', ws))
      { e with posts := e.posts ++ [w], ruuvi := r, postsEmpty := e.postsEmpty && b } net
      reset where
  finished := h.finished.finish hp.notDone (all_perm_posts e w)
  posts t hr ha := by
    rw [serial_snoc, h.posts t hr ha]
    refine (hsolo _ ?_).trans ?_
    · rw [h.store]
      rfl
    · simp [Bool.and_assoc]
  saves := h.saves
  store := by
    rw [after_store, ht, h.store]
    simp only [merged, Store.mk.injEq, true_and]
    cases b <;> simp
  net_iff := h.net_iff_after hp.noEth rfl
  reset_true hr := (h.reset_true hr).imp_right (savesWifi_after hp.noSave).mpr
  reset_false hr hor := h.reset_false hr (hor.imp_right (savesWifi_after hp.noSave).mp)
  dropped v hv := by
    obtain ⟨he, hb⟩ := h.dropped v hv
    refine ⟨?_, hb⟩
    rw [after_store, ht]
    simp [he]

/-- The last critical section of a writer that changes nothing. -/
theorem Live.skip (h : Live ops reqs initial s e net reset)
    (hp : (s.phase w).IsReading ops)
    (hsolo : ∀ t : Store R E A S, t.cfg.ruuvi = s.store.cfg.ruuvi → solo ops (reqs w) t = t) :
    Live ops reqs initial (after ops reqs s w (.done, s.store, []))
      { e with posts := e.posts ++ [w], ruuvi := s.store.cfg.ruuvi,
               postsEmpty := e.postsEmpty && true } net reset := by
  refine h.post hp (fun t ht => ?_) (by rw [Bool.and_true])
  rw [hsolo t ht, Bool.and_true, ← ht]

/-- The request for the default configuration is dropped. -/
theorem Live.drop (h : Live ops reqs initial s e net reset)
    (hp : (s.phase w).IsReading ops) (hempty : s.store.isEmpty = false) {b : Bool}
    (hreq : reqs w = .setDefaultConfig b) :
    Live ops reqs initial (after ops reqs s w (.done, s.store, []))
      { e with dropped := e.dropped ++ [w] } net reset where
  finished := h.finished.finish hp.notDone (all_perm_dropped e w)
  posts := h.posts
  saves := h.saves
  store := h.store
  net_iff := h.net_iff_after hp.noEth rfl
  reset_true hr := (h.reset_true hr).imp_right (savesWifi_after hp.noSave).mpr
  reset_false hr hor := h.reset_false hr (hor.imp_right (savesWifi_after hp.noSave).mp)
  dropped v hv := by
    refine ⟨hempty, ?_⟩
    rcases List.mem_append.mp hv with hv | hv
    · exact (h.dropped v hv).2
    · rw [List.mem_singleton.mp hv]
      exact ⟨b, hreq⟩

/-- The last critical section of a saving of credentials: `k` says that it has an SSID and
was pending. -/
theorem Live.save (h : Live ops reqs initial s e net reset) {sta : S} {k : Bool}
    (hd : (s.phase w).isDone = false) (hp : pendingEth ops (s.phase w) = none)
    (hs : (s.phase w).savesWifi = k)
    (hsolo : ∀ t : Store R E A S, t.cfg.wifiSta = s.store.cfg.wifiSta →
      solo ops (reqs w) t =
        ⟨{ t.cfg with eth := resetUseEth ops k t.cfg.eth, wifiSta := sta }, false⟩)
    (ht : t' = ⟨{ s.store.cfg with wifiSta := sta }, false⟩) :
    Live ops reqs initial (after ops reqs s w (.done, t', ws))
      { e with saves := e.saves ++ [w], wifiSta := sta, useEthReset := k || e.useEthReset,
               savesEmpty := false } net reset where
  finished := h.finished.finish hd (all_perm_saves e w)
  posts := h.posts
  saves t hsta := by
    rw [serial_snoc, h.saves t hsta]
    refine (hsolo _ ?_).trans ?_
    · rw [h.store]
      rfl
    · simp [resetUseEth_resetUseEth]
  store := by
    rw [after_store, ht, h.store]
    simp [merged]
  net_iff := h.net_iff_after hp rfl
  reset_true hr := by
    rcases h.reset_true hr with hreset | ⟨x, hx⟩
    · exact Or.inl (by simp [hreset])
    · by_cases hxw : x = w
      · subst hxw
        rw [hx] at hs
        exact Or.inl (by simp [← hs])
      · exact Or.inr ⟨x, by rw [after_phase_of_ne hxw]; exact hx⟩
  reset_false hr hor := by
    refine h.reset_false hr ?_
    rcases hor with hreset | ⟨x, hx⟩
    · cases hk : k with
      | false =>
        rw [hk] at hreset
        exact Or.inl (by simpa using hreset)
      | true => exact Or.inr ⟨w, hs.trans hk⟩
    · by_cases hxw : x = w
      · subst hxw
        rw [after_phase_self] at hx
        exact absurd hx (by simp [Phase.savesWifi])
      · rw [after_phase_of_ne hxw] at hx
        exact Or.inr ⟨x, hx⟩
  dropped v hv := ⟨by rw [after_store, ht], (h.dropped v hv).2⟩

/-- The first critical section of a saving of credentials with an SSID. -/
theorem Live.beginSave (h : Live ops reqs initial s e net reset)
    (hp : (s.phase w).IsReading ops) :
    Live ops reqs initial
      (after ops reqs s w (.useEthWritten, gwCfgSetEthUseEth ops false s.store, ws)) e net
      true where
  finished := h.finished.continue hp.notDone rfl
  posts := h.posts
  saves := h.saves
  store := by
    rw [after_store]
    show (⟨{ s.store.cfg with eth := resetUseEth ops true s.store.cfg.eth }, _⟩ :
      Store R E A S) = _
    rw [h.store]
    simp only [merged, resetUseEth_resetUseEth, Bool.true_or]
  net_iff := h.net_iff_after hp.noEth rfl
  reset_true _ := Or.inr ⟨w, by rw [after_phase_self]; rfl⟩
  reset_false hr := absurd hr (by simp)
  dropped := h.dropped

/-- The first critical section of a POST of network settings that writes. -/
theorem Live.beginPost (h : Live ops reqs initial s e none reset) {json : Json} {useEth : Bool}
    {copy : Cfg R E A S} (hp : (s.phase w).IsReading ops) :
    Live ops reqs initial (after ops reqs s w (.postEthWritten json useEth copy,
        gwCfgUpdateEthCfg ops (postedEth ops json useEth) s.store, ws))
      e (some (w, postedEth ops json useEth)) false where
  finished := h.finished.continue hp.notDone rfl
  posts := h.posts
  saves := h.saves
  store := by
    rw [after_store]
    show (⟨{ s.store.cfg with eth := setSection ops.ethCmp (some _) s.store.cfg.eth }, false⟩ :
      Store R E A S) = _
    rw [setSection_eth, h.store]
    simp [merged, resetUseEth]
  net_iff x v := by
    by_cases hx : x = w
    · subst hx
      rw [after_phase_self]
      simp [pendingEth]
    · rw [after_phase_of_ne hx, h.net_iff]
      simp [Ne.symm hx]
  reset_true hr := absurd hr (by simp)
  reset_false _ _ := rfl
  dropped v hv := ⟨rfl, (h.dropped v hv).2⟩

/-- Its last one. -/
theorem Live.endPost {v : E} (h : Live ops reqs initial s e (some (w, v)) reset) {a : A}
    (hd : (s.phase w).isDone = false) (hs : (s.phase w).savesWifi = false)
    (hsolo : ∀ t : Store R E A S, t.cfg.wifiAp = s.store.cfg.wifiAp →
      solo ops (reqs w) t = ⟨{ t.cfg with eth := v, wifiAp := a }, false⟩)
    (ht : t' = ⟨{ s.store.cfg with wifiAp := a }, false⟩) :
    Live ops reqs initial (after ops reqs s w (.done, t', ws))
      { e with posts := e.posts ++ [w], wifiAp := a, eth := some v, postsEmpty := false } none
      reset where
  finished := h.finished.finish hd (all_perm_posts e w)
  posts t hr ha := by
    rw [serial_snoc, h.posts t hr ha]
    refine (hsolo _ ?_).trans ?_
    · rw [h.store]
      rfl
    · simp
  saves := h.saves
  store := by
    rw [after_store, ht, h.store]
    simp [merged]
  net_iff x v := by
    by_cases hx : x = w
    · subst hx
      rw [after_phase_self]
      simp [pendingEth]
    · rw [after_phase_of_ne hx, h.net_iff]
      simp [Ne.symm hx]
  reset_true hr := (h.reset_true hr).imp_right (savesWifi_after hs).mpr
  reset_false _ _ := rfl
  dropped v hv := ⟨by rw [after_store, ht], (h.dropped v hv).2⟩

/-- A write of the whole configuration begins a new epoch. -/
theorem Live.whole (h : Live ops reqs initial s e none reset)
    (hs : ∀ x, (s.phase x).savesWifi = false) (hd : (s.phase w).isDone = false)
    (hempty : t'.isEmpty = false) (ht : t' = solo ops (reqs w) s.store) :
    Live ops reqs initial (after ops reqs s w (.done, t', ws))
      (Epoch.new (e.order reset ++ [w]) e.dropped t') none false := by
  have hbase : serial ops reqs (e.order reset ++ [w]) initial = t' := by
    rw [serial_snoc, ← h.serial_of_atRest hs, ht]
  refine ⟨h.finished.finish hd ?_, ?_, ?_, ?_, ?_, fun hr => absurd hr (by simp), fun _ hor => ?_,
    fun v hv => ⟨hempty, (h.dropped v hv).2⟩⟩
  · simp only [Epoch.all, Epoch.new, List.append_nil]
    rw [List.append_assoc]
    exact List.perm_middle.trans ((e.order_perm reset).cons w)
  · exact (congrArg (PostsOk ops reqs · _) hbase).mpr (postsOk_new _ _ t')
  · exact (congrArg (SavesOk ops reqs · _) hbase).mpr (savesOk_new _ _ t')
  · show t' = merged ops (serial ops reqs (e.order reset ++ [w]) initial) _ none false
    rw [hbase]
    exact (merged_new _ _ t').symm
  · intro x v
    by_cases hx : x = w
    · subst hx
      rw [after_phase_self]
      simp [pendingEth]
    · rw [after_phase_of_ne hx]
      exact h.net_iff x v
  · rcases hor with hor | ⟨x, hx⟩
    · exact absurd hor (by simp [Epoch.new])
    · by_cases hxw : x = w
      · subst hxw
        rw [after_phase_self] at hx
        exact absurd hx (by simp [Phase.savesWifi])
      · rw [after_phase_of_ne hxw, hs x] at hx
        exact absurd hx (by simp)

/-- A write of the whole configuration dooms the pending writers, if there are any. -/
theorem Live.atRest_or_doomed (h : Live ops reqs initial s e net reset)
    (hp : (s.phase w).IsReading ops) :
    (net = none ∧ ∀ x, (s.phase x).savesWifi = false) ∨
      Doomed ops (after ops reqs s w (p', t', [.ruuvi, .eth, .wifiAp, .wifiSta, .isEmpty])) := by
  have doom : ∀ x, x ≠ w → (s.phase x).isPending →
      Doomed ops (after ops reqs s w (p', t', [.ruuvi, .eth, .wifiAp, .wifiSta, .isEmpty])) :=
    fun x hne hx =>
      doomed_of_overlaps hx hne (overlaps_of_whole hx (by simp) (by simp) (by simp))
  by_cases hsaves : ∃ x, (s.phase x).savesWifi = true
  · obtain ⟨x, hx⟩ := hsaves
    refine Or.inr (doom x ?_ (Or.inl hx))
    rintro rfl
    rw [hp.noSave] at hx
    exact absurd hx (by simp)
  · cases hnet : net with
    | none => exact Or.inl ⟨rfl, fun x => Bool.eq_false_iff.mpr fun hx => hsaves ⟨x, hx⟩⟩
    | some y =>
      have hy := (h.net_iff y.1 y.2).mpr hnet
      refine Or.inr (doom y.1 ?_ (isPending_of_pendingEth hy))
      intro heq
      rw [heq, hp.noEth] at hy
      exact absurd hy (by simp)

/-- Two POSTs of network settings are pending. -/
theorem Live.doomed_of_beginPost {y : Nat × E} (h : Live ops reqs initial s e (some y) reset)
    {json : Json} {useEth : Bool} {copy : Cfg R E A S} (hp : pendingEth ops (s.phase w) = none) :
    Doomed ops (after ops reqs s w (.postEthWritten json useEth copy, t', ws)) := by
  have hy := (h.net_iff y.1 y.2).mpr rfl
  have hne : y.1 ≠ w := by
    intro heq
    rw [heq, hp] at hy
    exact absurd hy (by simp)
  refine Or.inr ⟨y.1, w, hne, ?_, ?_⟩
  · rw [after_phase_of_ne hne, hy]
    rfl
  · rw [after_phase_self]
    rfl

/-! ## The writes, one by one -/

/-- The write of a POST of Ruuvi settings. -/
theorem Live.postWrite (h : Live ops reqs initial s e net reset) {body : Option Json} {lan : Bool}
    {json : Json} {copy : Cfg R E A S} (hr : reqs w = .postRuuvi body lan)
    (hph : s.phase w = .postRead json copy) (hst : s.stale w = false)
    (hok : WriterOk ops (s.stale w) s.store (.postRuuvi body lan) (.postRead json copy)) :
    ∃ e, Live ops reqs initial (after ops reqs s w (.done,
      gwCfgUpdateRuuviCfg ops (ops.parseRuuvi json copy.ruuvi) s.store, ws)) e net reset := by
  obtain ⟨rfl, hnet, hcopy⟩ := hok
  refine ⟨_, h.post (b := false)
    (r := setSection ops.ruuviCmp (some (ops.parseRuuvi json copy.ruuvi)) s.store.cfg.ruuvi)
    (hph ▸ ⟨rfl, rfl, rfl⟩) (fun t ht => ?_) ?_⟩
  · rw [hr, solo_postRuuvi hnet, Bool.and_false, ← hcopy hst, ← ht]
    rfl
  · rw [Bool.and_false]
    rfl

/-- The second write of a POST of network settings. -/
theorem Live.postApWrite (h : Live ops reqs initial s e net reset) {body : Option Json}
    {lan useEth : Bool} {json : Json} {copy : Cfg R E A S} (hr : reqs w = .postRuuvi body lan)
    (hph : s.phase w = .postEthWritten json useEth copy) (hst : s.stale w = false)
    (hok : WriterOk ops (s.stale w) s.store (.postRuuvi body lan)
      (.postEthWritten json useEth copy)) :
    ∃ e, Live ops reqs initial (after ops reqs s w (.done,
      gwCfgUpdateWifiApConfig ops (postedAp ops json useEth copy.wifiAp) s.store, ws))
      e none reset := by
  obtain ⟨rfl, hnetCfg, hcopy⟩ := hok
  have hnet : net = some (w, postedEth ops json useEth) := (h.net_iff w _).mp (hph ▸ rfl)
  subst hnet
  refine ⟨_, h.endPost (hph ▸ rfl) (hph ▸ rfl) (fun t ht => ?_) rfl⟩
  rw [hr, solo_postNetwork hnetCfg, ht, ← hcopy hst]
  show (⟨{ t.cfg with eth := setSection ops.ethCmp (some _) t.cfg.eth,
                      wifiAp := setSection ops.apCmp (some _) t.cfg.wifiAp }, false⟩ :
    Store R E A S) = _
  rw [setSection_eth, ht]

/-- The write of the downloaded configuration. -/
theorem Live.downloadWrite (h : Live ops reqs initial s e none reset)
    {download : Remote → Option Json} {json : Json} {copy : Cfg R E A S}
    (hr : reqs w = .downloadAndUpdate download) (hph : s.phase w = .downloadRead json copy)
    (hst : s.stale w = false) (hrest : ∀ x, (s.phase x).savesWifi = false)
    (hok : WriterOk ops (s.stale w) s.store (.downloadAndUpdate download)
      (.downloadRead json copy)) :
    ∃ e, Live ops reqs initial (after ops reqs s w (.done,
      gwCfgUpdate ops (downloadedCfg ops json copy) s.store, ws)) e none false := by
  obtain ⟨huse, hcopy⟩ := hok
  obtain ⟨hdown, hcfg⟩ := hcopy hst
  refine ⟨_, h.whole hrest (hph ▸ rfl) rfl ?_⟩
  rw [hr, solo_download hdown (huse _), hcfg]

/-- The write of the default configuration. -/
theorem Live.defaultWrite (h : Live ops reqs initial s e none reset)
    (hr : reqs w = .setDefaultConfig true) (hph : s.phase w = .defaultSignalled)
    (hempty : s.store.isEmpty = true) (hrest : ∀ x, (s.phase x).savesWifi = false) :
    ∃ e, Live ops reqs initial (after ops reqs s w (.done,
      gwCfgUpdate ops ops.default s.store, ws)) e none false := by
  refine ⟨_, h.whole hrest (hph ▸ rfl) rfl ?_⟩
  rw [hr, solo_setDefault hempty]

/-- The only write of a saving of credentials without an SSID. -/
theorem Live.staOnlyWrite (h : Live ops reqs initial s e net reset) {sta : S}
    (hr : reqs w = .saveWifiConfig sta) (hph : s.phase w = .start)
    (hssid : ops.hasSsid sta = false) :
    ∃ e, Live ops reqs initial (after ops reqs s w (.done,
      gwCfgUpdateWifiStaConfig ops sta s.store, ws)) e net reset := by
  refine ⟨_, h.save (k := false) (hph ▸ rfl) (hph ▸ rfl) (hph ▸ rfl) (fun t ht => ?_) rfl⟩
  rw [hr, solo_saveWifi_noSsid hssid, ← ht]
  rfl

/-- The second write of one with an SSID. -/
theorem Live.staWrite (h : Live ops reqs initial s e net reset) {sta : S}
    (hr : reqs w = .saveWifiConfig sta) (hph : s.phase w = .useEthWritten)
    (hssid : ops.hasSsid sta = true) :
    ∃ e, Live ops reqs initial (after ops reqs s w (.done,
      gwCfgUpdateWifiStaConfig ops sta s.store, ws)) e net reset := by
  refine ⟨_, h.save (k := true) (hph ▸ rfl) (hph ▸ rfl) (hph ▸ rfl) (fun t ht => ?_) rfl⟩
  rw [hr, solo_saveWifi_ssid hssid, ← ht]
  rfl

/-- The write of the address of the firmware server. -/
theorem Live.urlWrite (h : Live ops reqs initial s e net reset) {url : String}
    (hr : reqs w = .fwUpdateUrl url) (hph : s.phase w = .start) :
    ∃ e, Live ops reqs initial (after ops reqs s w (.done,
      gwCfgUpdateFwUpdateUrl ops url s.store, ws)) e net reset := by
  refine ⟨_, h.post (b := true) (r := ops.setFwUpdateUrl url s.store.cfg.ruuvi)
    (hph ▸ ⟨rfl, rfl, rfl⟩) (fun t ht => ?_) ?_⟩
  · rw [hr, solo_fwUpdateUrl, ← ht, Bool.and_true]
    rfl
  · rw [Bool.and_true]
    rfl

/-- **One critical section keeps the invariant**, if its write is fresh. -/
theorem Live.advance (h : Live ops reqs initial s e net reset)
    (hok : WriterOk ops (s.stale w) s.store (reqs w) (s.phase w))
    (ha : Advances ops (reqs w) (s.phase w) s.store p' t' ws)
    (hfresh : ws ≠ [] → s.stale w = false) :
    Doomed ops (after ops reqs s w (p', t', ws)) ∨ ∃ e net reset,
      Live ops reqs initial (after ops reqs s w (p', t', ws)) e net reset := by
  have live : ∀ {net : Option (Nat × E)} {reset : Bool} {r},
      (∃ e, Live ops reqs initial (after ops reqs s w r) e net reset) →
      Doomed ops (after ops reqs s w r) ∨ ∃ e net reset,
        Live ops reqs initial (after ops reqs s w r) e net reset :=
    fun ⟨e, he⟩ => Or.inr ⟨e, _, _, he⟩
  have reading : ∀ {p : Phase R E A S Json Remote}, s.phase w = p → p.IsReading ops →
      (s.phase w).IsReading ops := fun hph hp => hph ▸ hp
  generalize hr : reqs w = req at ha hok
  generalize hph : s.phase w = p at ha hok
  cases ha with
  -- reads only
  | postRead hnet => exact live ⟨_, h.read (reading hph ⟨rfl, rfl, rfl⟩) ⟨rfl, rfl, rfl⟩⟩
  | postNetworkRead hnet => exact live ⟨_, h.read (reading hph ⟨rfl, rfl, rfl⟩) ⟨rfl, rfl, rfl⟩⟩
  | downloaded hdown huse => exact live ⟨_, h.read (reading hph ⟨rfl, rfl, rfl⟩) ⟨rfl, rfl, rfl⟩⟩
  | downloadRead download remote json =>
    exact live ⟨_, h.read (reading hph ⟨rfl, rfl, rfl⟩) ⟨rfl, rfl, rfl⟩⟩
  | signalled allocated he =>
    exact live ⟨_, h.read (reading hph ⟨rfl, rfl, rfl⟩) ⟨rfl, rfl, rfl⟩⟩
  -- ends without a write
  | unparsed lan =>
    refine live ⟨_, h.skip (reading hph ⟨rfl, rfl, rfl⟩) fun t _ => ?_⟩
    rw [hr, solo_postRuuvi_none]
  | downloadFailed hsame =>
    refine live ⟨_, h.skip (reading hph ⟨rfl, rfl, rfl⟩) fun t ht => ?_⟩
    rw [hr, hsame t ht]
  | noMemory =>
    refine live ⟨_, h.skip (reading hph ⟨rfl, rfl, rfl⟩) fun t _ => ?_⟩
    rw [hr, solo_setDefault_noMemory]
  | declined allocated he => exact live ⟨_, h.drop (reading hph ⟨rfl, rfl, rfl⟩) he hr⟩
  -- writes
  | postWrite => exact live (h.postWrite hr hph (hfresh (by simp)) hok)
  | urlWrite => exact live (h.urlWrite hr hph)
  | postEthWrite =>
    cases hnet : net with
    | some y =>
      exact Or.inl ((hnet ▸ h).doomed_of_beginPost (reading hph ⟨rfl, rfl, rfl⟩).noEth)
    | none => exact live ⟨_, (hnet ▸ h).beginPost (reading hph ⟨rfl, rfl, rfl⟩)⟩
  | postApWrite => exact live (h.postApWrite hr hph (hfresh (by simp)) hok)
  | useEthWrite hssid => exact live ⟨_, h.beginSave (reading hph ⟨rfl, rfl, rfl⟩)⟩
  | staOnlyWrite hssid => exact live (h.staOnlyWrite hr hph hssid)
  | staWrite => exact live (h.staWrite hr hph hok)
  -- writes everything
  | downloadWrite =>
    rcases h.atRest_or_doomed (reading hph ⟨rfl, rfl, rfl⟩) with ⟨rfl, hrest⟩ | hdoom
    · exact live (h.downloadWrite hr hph (hfresh (by simp)) hrest hok)
    · exact Or.inl hdoom
  | defaultWrite =>
    rcases h.atRest_or_doomed (reading hph ⟨rfl, rfl, rfl⟩) with ⟨rfl, hrest⟩ | hdoom
    · exact live (h.defaultWrite hr hph (hok (hfresh (by simp))) hrest)
    · exact Or.inl hdoom

end step

theorem appliesDefault_eq_true {req : Req S Json Remote} {p : Phase R E A S Json Remote}
    (h : appliesDefault req p = true) : req = .setDefaultConfig true ∧ p = .defaultSignalled := by
  unfold appliesDefault at h
  split at h
  · exact ⟨by rw [h], rfl⟩
  · exact absurd h (by simp)

/-- The requests for the default configuration that were dropped do nothing at the end of
the order either. -/
theorem serial_dropped {dropped : List Nat} {t : Store R E A S} (ht : t.isEmpty = false)
    (h : ∀ w ∈ dropped, ∃ b, reqs w = .setDefaultConfig b) :
    serial ops reqs dropped t = t := by
  induction dropped with
  | nil => rfl
  | cons w rest ih =>
    obtain ⟨b, hb⟩ := h w (List.mem_cons_self ..)
    have hsolo : solo ops (reqs w) t = t := by
      rw [hb, solo_setDefault_notEmpty ht]
    show serial ops reqs rest (solo ops (reqs w) t) = t
    rw [hsolo]
    exact ih fun v hv => h v (List.mem_cons_of_mem w hv)

theorem not_isPending_of_atRest {p : Phase R E A S Json Remote} (h : p.atRest = true) :
    ¬ p.isPending := by
  rintro (hs | ⟨json, useEth, copy, rfl⟩)
  · cases p <;> first | exact Bool.noConfusion h | exact Bool.noConfusion hs
  · exact Bool.noConfusion h

theorem Inv.serializable (h : Inv ops reqs initial s) : Serializable ops reqs initial s := by
  intro hfinal
  have hnone : ∀ w, ¬ (s.phase w).isPending := fun w => not_isPending_of_atRest (hfinal w)
  rcases h.live with hdoom | ⟨e, net, reset, hlive⟩
  · obtain ⟨w, hw⟩ := hdoom.exists_pending
    exact absurd hw (hnone w)
  · have hnet : net = none := by
      cases hn : net with
      | none => rfl
      | some y =>
        have hy := (hlive.net_iff y.1 y.2).mpr hn
        exact absurd (isPending_of_pendingEth hy) (hnone y.1)
    subst hnet
    have hstore := hlive.serial_of_atRest fun x =>
      Bool.eq_false_iff.mpr fun hx => hnone x (Or.inl hx)
    have hfinished := hlive.finished.perm (e.order_perm reset)
    refine ⟨e.order reset ++ e.dropped, hfinished.nodup, hfinished.mem_iff, ?_⟩
    rw [serial_append, ← hstore]
    cases hdrop : e.dropped with
    | nil => rfl
    | cons v rest =>
      have he := (hlive.dropped v (hdrop ▸ List.mem_cons_self ..)).1
      rw [← hdrop, serial_dropped he fun w hw => (hlive.dropped w hw).2]

variable [DecidableEq Remote]

theorem not_mem_of_overlaps {p : Phase R E A S Json Remote} {t' : Store R E A S}
    {ws : List Loc} (h : overlaps ops p t' ws = false) {l : Loc} (hl : l ∈ dependsOn p) :
    l ∉ ws := by
  intro hmem
  rw [overlaps_of_mem hmem hl] at h
  exact Bool.noConfusion h

/-- What does not get in the way of a writer leaves the remote settings that it has read. -/
theorem remote_eq_of_overlaps {p : Phase R E A S Json Remote} {t' : Store R E A S}
    {ws : List Loc} (h : overlaps ops p t' ws = false) {remote : Remote}
    (hr : p.readsRemote = some remote) : ops.remote t'.cfg.ruuvi = remote := by
  have hany := (Bool.or_eq_false_iff.mp (Bool.or_eq_false_iff.mp h).1).2
  rw [hr] at hany
  exact not_not.mp (of_decide_eq_false hany)

/-- **Every step whose write is fresh keeps the invariant.** -/
theorem Inv.step (h : Inv ops reqs initial s) (hf : FreshWrite ops reqs s w)
    (hstep : step ops reqs s w = some s') : Inv ops reqs initial s' := by
  obtain ⟨⟨p', t', ws⟩, hadv, rfl⟩ := Option.map_eq_some_iff.mp hstep
  have ha := advances_of_advance hadv
  have hfresh : ws ≠ [] → s.stale w = false := fun hws => hf (by
    simpa [writes, hadv] using hws)
  refine ⟨fun v => ?_, ?_, ?_⟩
  · by_cases hv : v = w
    · subst hv
      rw [after_phase_self]
      refine ha.writerOk ?_ fun hws => ?_
      · exact (h.writer v).frame fun hst =>
          ⟨(Bool.or_eq_false_iff.mp hst).1, fun l _ => .refl _ l, fun _ _ heq => heq⟩
      · show (s.stale v || _) = false
        simp [hfresh hws]
    · rw [after_phase_of_ne hv]
      refine (h.writer v).frame fun hst => ?_
      obtain ⟨hs, hover⟩ := Bool.or_eq_false_iff.mp hst
      rw [decide_eq_true hv, Bool.true_and] at hover
      exact ⟨hs, fun l hl => ha.frame (not_mem_of_overlaps hover hl),
        fun remote hr _ => remote_eq_of_overlaps hover hr⟩
  · rcases h.live with hdoom | ⟨e, net, reset, hlive⟩
    · exact Or.inl (hdoom.after ha hfresh)
    · exact hlive.advance (h.writer w) ha hfresh
  · show (s.defaultOverwrote || _) = false
    rw [h.defaultOverwrote, Bool.false_or]
    cases happ : appliesDefault (reqs w) (s.phase w) with
    | false => rfl
    | true =>
      obtain ⟨hreq, hph⟩ := appliesDefault_eq_true happ
      have hok := h.writer w
      have hst : s.stale w = false := by
        refine hfresh ?_
        rw [hreq, hph] at ha
        cases ha
        simp
      rw [hreq, hph] at hok
      rw [hok hst]
      rfl

/-- **No update is lost in a run whose writes are all fresh**, and the default
configuration overwrites only an empty one. -/
theorem serializable_of_freshWrites
    (h : (sys ops reqs initial).ReachableVia (FreshWrite ops reqs) s) :
    Serializable ops reqs initial s ∧ s.defaultOverwrote = false := by
  have hinv : Inv ops reqs initial s := by
    refine h.invariant (P := Inv ops reqs initial) ?_ ?_
    · rintro s rfl
      exact inv_init
    · exact fun s w t _ hs hf hstep => hs.step hf hstep
  exact ⟨hinv.serializable, hinv.defaultOverwrote⟩

/-! ## A small configuration -/

/-- Some keys of a document. -/
structure SampleJson where
  remoteCfgUse : Option Bool
  mqttServer : Option String
  useEth : Option Bool
  apPassword : Option String
  staSsid : Option String

/-- Some fields of `gw_cfg_ruuvi_t`. -/
structure SampleRuuvi where
  remoteCfgUse : Bool
  mqttServer : String
  fwUpdateUrl : String
  deriving DecidableEq

/-- The parsers on these keys: an absent key leaves its field as it is. -/
def sampleOps : Ops SampleRuuvi Bool String String SampleJson Bool where
  ruuviCmp := fun r r' => decide (r = r')
  ethCmp := fun e e' => decide (e = e')
  apCmp := fun a a' => decide (a = a')
  staCmp := fun a a' => decide (a = a')
  parseRuuvi := fun j r =>
    { r with
      remoteCfgUse := j.remoteCfgUse.getD r.remoteCfgUse
      mqttServer := j.mqttServer.getD r.mqttServer }
  parseEth := fun j e => j.useEth.getD e
  parseAp := fun j a => j.apPassword.getD a
  parseSta := fun j a => j.staSsid.getD a
  getUseEth := SampleJson.useEth
  default := ⟨⟨false, "test.mosquitto.org", "firmwareupdate"⟩, true, "", ""⟩
  setUseEth := fun b _ => b
  eq_of_ethCmp := fun _ _ h => of_decide_eq_true h
  setUseEth_setUseEth := fun _ _ _ => rfl
  setFwUpdateUrl := fun url r => { r with fwUpdateUrl := url }
  remote := SampleRuuvi.remoteCfgUse
  setUseRemoteCfg := fun b r => { r with remoteCfgUse := b }
  useRemoteCfg := SampleRuuvi.remoteCfgUse
  useRemoteCfg_parse := fun _ _ _ => rfl
  hasSsid := fun a => a != ""

/-- The default configuration, which is in use but has never been saved. -/
def sampleStore : Store SampleRuuvi Bool String String := ⟨sampleOps.default, true⟩

/-- The document of the remote server. -/
def remoteJson : SampleJson := ⟨some true, some "mqtt.example", none, none, none⟩

/-- The requests: the remote configuration, Wi-Fi credentials from WPS, a POST of Ruuvi
settings, a POST of network settings, and the default configuration; no others. -/
def sampleReqs : Nat → Req String SampleJson Bool
  | 0 => .downloadAndUpdate fun _ => some remoteJson
  | 1 => .saveWifiConfig "home"
  | 2 => .postRuuvi (some ⟨none, some "broker.local", none, none, none⟩) true
  | 3 => .postRuuvi (some ⟨none, none, some false, some "secret", none⟩) false
  | 4 => .setDefaultConfig true
  | _ => .postRuuvi none true

/-- The writers that have finished, of the first five. -/
def finishedOf (s : State SampleRuuvi Bool String String SampleJson Bool) : List Nat :=
  (List.range 5).filter fun w => (s.phase w).isDone

/-- Three writers at once, and the credentials saved between the two writes of a POST. -/
theorem serializable_of_sampleRun :
    ∃ s, decide (finishedOf s = [1, 2, 3] ∧ s.store.cfg.ruuvi.mqttServer = "broker.local" ∧
        s.store.cfg.wifiAp = "secret" ∧ s.store.cfg.wifiSta = "home") = true ∧
      Serializable sampleOps sampleReqs sampleStore s ∧ s.defaultOverwrote = false := by
  obtain ⟨s, hs, hp⟩ := System.exists_reachableVia_of_run
    (S := sys sampleOps sampleReqs sampleStore) (C := FreshWrite sampleOps sampleReqs) rfl
    [2, 3, 1, 3, 2, 1, 3]
    (fun s => decide (finishedOf s = [1, 2, 3] ∧
      s.store.cfg.ruuvi.mqttServer = "broker.local" ∧
      s.store.cfg.wifiAp = "secret" ∧ s.store.cfg.wifiSta = "home")) (by decide)
  exact ⟨s, hp, serializable_of_freshWrites hs⟩

/-- A writer that takes no step stays where it is. -/
theorem run_phase_of_notMem {l : List Nat} (h : w ∉ l)
    (hrun : (sys ops reqs initial).run s l = some s') : s'.phase w = s.phase w := by
  induction l generalizing s with
  | nil => exact Option.some.inj hrun ▸ rfl
  | cons v l ih =>
    rw [System.run_cons] at hrun
    obtain ⟨u, hu, hrest⟩ := Option.bind_eq_some_iff.mp hrun
    obtain ⟨r, -, rfl⟩ := Option.map_eq_some_iff.mp hu
    obtain ⟨hne, hl⟩ := not_or.mp (mt List.mem_cons.mpr h)
    exact (ih hl hrest).trans (Function.update_of_ne hne ..)

/-- **Updates are lost.**  The credentials that are saved while the remote configuration is
applied are overwritten with the empty ones read before, although in either order of the
two writers they would be kept; and the default configuration overwrites the settings that
are posted after the check. -/
theorem updates_are_lost :
    (∃ s, (sys sampleOps sampleReqs sampleStore).Reachable s ∧
      ¬ Serializable sampleOps sampleReqs sampleStore s) ∧
    ∃ s, (sys sampleOps sampleReqs sampleStore).Reachable s ∧ s.defaultOverwrote = true := by
  refine ⟨?_, System.exists_reachable_of_run (S := sys sampleOps sampleReqs sampleStore) rfl
    [4, 2, 2, 4] State.defaultOverwrote (by decide)⟩
  obtain ⟨s, hrun, hp⟩ : ∃ s, (sys sampleOps sampleReqs sampleStore).run
      ⟨sampleStore, fun _ => .start, fun _ => false, false⟩ [0, 0, 1, 1, 0] = some s ∧
      decide (finishedOf s = [0, 1] ∧ s.store.cfg.wifiSta = "") = true :=
    ⟨_, rfl, by decide⟩
  refine ⟨s, System.Reachable.run _ (.init rfl) hrun, fun hserial => ?_⟩
  obtain ⟨hfin, hsta⟩ := of_decide_eq_true hp
  have hrest : ∀ w, w ∉ [0, 1] → s.phase w = .start := fun w hw =>
    run_phase_of_notMem (by simp_all) hrun
  have hdone : ∀ w, w ∈ [0, 1] ↔ (s.phase w).isDone = true := by
    intro w
    by_cases hw : w ∈ [0, 1]
    · have hlt : w < 5 := by
        rcases List.mem_pair.mp hw with rfl | rfl <;> omega
      rw [← hfin]
      simp [finishedOf, hlt]
    · rw [hrest w hw]
      simpa [Phase.isDone] using hw
  have hfinal : Final s := by
    intro w
    by_cases hw : w ∈ [0, 1]
    · have hd := (hdone w).mp hw
      cases hph : s.phase w <;> rw [hph] at hd <;> first | rfl | exact Bool.noConfusion hd
    · rw [hrest w hw]
      rfl
  obtain ⟨order, hnodup, hmem, hstore⟩ := hserial hfinal
  have hperm : order.Perm [0, 1] :=
    (List.perm_ext_iff_of_nodup hnodup (by decide)).mpr fun w => (hmem w).trans (hdone w).symm
  have hkept : ∀ o ∈ [0, 1].permutations',
      (serial sampleOps sampleReqs o sampleStore).cfg.wifiSta = "home" := by decide
  have hhome := hkept order (List.mem_permutations'.mpr hperm)
  rw [← hstore, hsta] at hhome
  exact absurd hhome (by decide)

end GwCfg
end RuuviGateway
