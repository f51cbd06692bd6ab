import RuuviGateway.AutoUpdate.ReleaseInfo
import RuuviGateway.Ota.Trials

/-!
# How often a release is installed

A gateway that checks for releases updates itself whenever the version that is named for it is not
the one that it runs.  The new firmware is on trial first.  If it is not confirmed the old one
comes back, and a later check starts the same update again; once it has been confirmed there is
nothing to update to, until the documents name another version or the user has installed one.

The gateway is the one of `Ota`, under the same care of its environment.  The images of a release
are taken to have the version that the document names.
-/

namespace RuuviGateway
namespace AutoUpdate

open CJson TransitionSystem
open AbUpdate (Move Trial Versions)
open Ota (Checks EspOta LawfulEspOta committedSlot gatewaySystem kept_of_reachable)

/-- A gateway with the versions of its firmwares, and with what it has been told and has done. -/
structure Device where
  gateway : Ota.State
  /-- The version of the firmware in a slot. -/
  fwVer : Fin 2 → List Char
  /-- The last update was started by a check. -/
  automatic : Bool
  /-- The version that the last document has named. -/
  named : Option (List Char)
  /-- How often that has been another one than before. -/
  changes : Nat
  /-- The updates by a check that have been confirmed. -/
  installs : Nat
  /-- The updates by the user that have been confirmed. -/
  userInstalls : Nat

/-- What can happen. -/
inductive DeviceAct where
  /-- A check that does not lead to an update. -/
  | check (c : Check)
  | updateByCheck (c : Check) (u : Ota.Update)
  | updateByUser (version : List Char) (u : Ota.Update)
  /-- Anything else, as a restart or the confirmation of a new firmware. -/
  | gateway (l : Ota.Label)

/-- The version that a check names is noted. -/
def Device.note (x : Device) (c : Check) : Device :=
  match c.names with
  | none => x
  | some version =>
      { x with
        named := some version
        changes := if x.named = some version then x.changes else x.changes + 1 }

variable (k : Checks) (idf : EspOta)

/-- A step of the gateway.  A firmware is confirmed when it becomes the committed one. -/
def Device.gatewayStep (x : Device) (l : Ota.Label) : Option Device :=
  (Ota.step k idf x.gateway l).map fun t =>
    let confirmed := committedSlot k.crc32 t.otadata != committedSlot k.crc32 x.gateway.otadata
    { x with
      gateway := t
      installs := x.installs + (confirmed && x.automatic).toNat
      userInstalls := x.userInstalls + (confirmed && !x.automatic).toNat }

/-- An update to `version` by the firmware in `slot`. -/
def Device.updateStep (x : Device) (slot : Fin 2) (automatic : Bool) (version : List Char)
    (u : Ota.Update) : Option Device :=
  (x.gatewayStep k idf (.update u)).map fun y =>
    if (Ota.Label.update u).event = .update then
      { y with fwVer := Function.update x.fwVer slot.rev version, automatic := automatic }
    else y

/-- One step. -/
def deviceStep (x : Device) : DeviceAct → Option Device
  | .check c => x.gateway.slot.map fun _ => x.note c
  | .updateByCheck c u =>
      x.gateway.slot.bind fun slot =>
        c.names.bind fun version =>
          if c.starts (x.fwVer slot) then (x.note c).updateStep k idf slot true version u else none
  | .updateByUser version u =>
      x.gateway.slot.bind fun slot => x.updateStep k idf slot false version u
  | .gateway l => if l.event = .update then none else x.gatewayStep k idf l

/-- The care that the environment takes of the gateway. -/
def Device.Careful (x : Device) : DeviceAct → Prop
  | .check _ => True
  | .updateByCheck _ u | .updateByUser _ u => Ota.Careful k x.gateway (.update u)
  | .gateway l => Ota.Careful k x.gateway l

instance decidableCareful (x : Device) : (a : DeviceAct) → Decidable (x.Careful k a)
  | .check _ => isTrue trivial
  | .updateByCheck _ u | .updateByUser _ u =>
      inferInstanceAs (Decidable (Ota.Careful k x.gateway (.update u)))
  | .gateway l => inferInstanceAs (Decidable (Ota.Careful k x.gateway l))

/-- A gateway that checks for releases, from its first start on. -/
def deviceSystem : System Device DeviceAct where
  init x := (gatewaySystem k idf).init x.gateway ∧ x.named = none ∧ x.changes = 0 ∧
    x.installs = 0 ∧ x.userInstalls = 0
  step := deviceStep k idf

/-! ## The count -/

/-- The installs are covered by the changes of the named version and by the installs of the user.
While another version than the named one is committed, there is one left, and a trial that a check
has started has one for itself. -/
structure Counted (x : Device) : Prop where
  gateway : (gatewaySystem k idf).ReachableVia (Ota.Careful k) x.gateway
  le : x.installs ≤ x.changes + x.userInstalls
  lt : ∀ version, x.named = some version →
    x.fwVer (x.gateway.versions k).committed ≠ version →
    x.installs < x.changes + x.userInstalls
  trial : (x.gateway.versions k).trial ≠ .none → x.automatic = true →
    x.installs < x.changes + x.userInstalls ∧
      (x.named ≠ some (x.fwVer (x.gateway.versions k).committed.rev) →
        x.installs + 1 < x.changes + x.userInstalls)

variable {k idf} {x y : Device} {slot : Fin 2}

theorem counted_init (h : (deviceSystem k idf).init x) : Counted k idf x := by
  obtain ⟨hgateway, hnamed, hchanges, hinstalls, huser⟩ := h
  refine ⟨.init hgateway, by omega, fun version hversion => ?_, fun htrial => ?_⟩
  · rw [hnamed] at hversion
    exact absurd hversion (by simp)
  · refine absurd ?_ htrial
    have hnone : Ota.trialOf k.crc32 Ota.OtaSelectEntry.erased = .none :=
      Ota.trialOf_eq_none (Ota.onTrial_of_not_intact rfl)
    simp [Ota.State.versions, hgateway.1, hnone]

/-- A check may name another version. -/
theorem Counted.note (h : Counted k idf x) (c : Check) : Counted k idf (x.note c) := by
  unfold Device.note
  split
  · exact h
  · rename_i version _
    have hle := h.le
    by_cases hsame : x.named = some version
    · rw [if_pos hsame, ← hsame]
      exact h
    · rw [if_neg hsame]
      refine ⟨h.gateway, ?_, fun _ _ _ => ?_, fun htrial hauto => ?_⟩
      · simp only
        omega
      · simp only
        omega
      · have := (h.trial htrial hauto).1
        exact ⟨by simp only; omega, fun _ => by simp only; omega⟩

/-- A step without a new update.  A trial that is confirmed uses up what it has for itself. -/
theorem Counted.gatewayStep (hidf : LawfulEspOta k.crc32 idf) {l : Ota.Label}
    (h : Counted k idf x) (hcare : Ota.Careful k x.gateway l) (hl : l.event ≠ .update)
    (hstep : x.gatewayStep k idf l = some y) : Counted k idf y := by
  obtain ⟨t, ht, rfl⟩ := Option.map_eq_some_iff.mp hstep
  obtain ⟨i, c, q, hkept⟩ := kept_of_reachable hidf h.gateway
  have hreach := h.gateway.step hcare ht
  obtain ⟨hsame, htrial⟩ | ⟨-, hother, hhad, hnone⟩ :=
    (hkept.move hidf hcare ht).committed_cases
  · have hcommitted : committedSlot k.crc32 t.otadata =
        committedSlot k.crc32 x.gateway.otadata := hsame
    simp only [hcommitted, bne_self_eq_false, Bool.false_and, Bool.toNat_false, Nat.add_zero]
    refine ⟨hreach, h.le, fun version hv hne => ?_, fun ht hauto => ?_⟩
    · simp only [hsame] at hne
      exact h.lt version hv hne
    · simp only [hsame]
      exact h.trial (htrial hl ht) hauto
  · have hcommitted : (committedSlot k.crc32 t.otadata !=
        committedSlot k.crc32 x.gateway.otadata) = true := by
      rw [bne_iff_ne]
      exact fun heq => Ota.rev_ne _ (hother.symm.trans heq)
    simp only [hcommitted, Bool.true_and]
    have hle := h.le
    cases hauto : x.automatic with
    | true =>
      obtain ⟨hlt, hother'⟩ := h.trial hhad hauto
      refine ⟨hreach, ?_, fun version hv hne => ?_, fun ht => absurd hnone ht⟩
      · simp only [Bool.toNat_true, Bool.not_true, Bool.toNat_false]
        omega
      · simp only [hother] at hv hne
        have := hother' fun heq => hne (Option.some.inj (heq.symm.trans hv))
        simp only [Bool.toNat_true, Bool.not_true, Bool.toNat_false]
        omega
    | false =>
      refine ⟨hreach, ?_, fun version hv hne => ?_, fun ht => absurd hnone ht⟩
      · simp only [Bool.not_false, Bool.toNat_true, Bool.toNat_false]
        omega
      · simp only [Bool.not_false, Bool.toNat_true, Bool.toNat_false]
        omega

/-- An update by the committed firmware.  A check has just named its version, another one than
that of the committed firmware. -/
theorem Counted.updateStep (hidf : LawfulEspOta k.crc32 idf) {u : Ota.Update} {automatic : Bool}
    {version : List Char} (h : Counted k idf x) (hslot : x.gateway.slot = some slot)
    (hcare : Ota.Careful k x.gateway (.update u))
    (hauto : automatic = true → x.named = some version ∧ x.fwVer slot ≠ version)
    (hstep : x.updateStep k idf slot automatic version u = some y) : Counted k idf y := by
  obtain ⟨y', hy', rfl⟩ := Option.map_eq_some_iff.mp hstep
  by_cases hev : (Ota.Label.update u).event = .update
  · rw [if_pos hev]
    obtain ⟨t, ht, rfl⟩ := Option.map_eq_some_iff.mp hy'
    obtain ⟨i, c, q, hkept⟩ := kept_of_reachable hidf h.gateway
    obtain ⟨rfl, -⟩ := hkept.of_confirmed hslot hcare.1
    have hc : (x.gateway.versions k).committed = slot := by rw [hkept.versions]
    obtain ⟨hsame, -⟩ | ⟨hconfirm, -⟩ := (hkept.move hidf hcare ht).committed_cases
    · have hcommitted : committedSlot k.crc32 t.otadata =
          committedSlot k.crc32 x.gateway.otadata := hsame
      simp only [hcommitted, bne_self_eq_false, Bool.false_and, Bool.toNat_false, Nat.add_zero]
      rw [hc] at hsame
      refine ⟨h.gateway.step hcare ht, h.le, fun v hv hne => ?_, fun _ hautomatic => ?_⟩
      · simp only [hsame, Function.update_of_ne (Ota.rev_ne slot).symm] at hne
        exact h.lt v hv (hc.symm ▸ hne)
      · obtain ⟨hnamed, hne⟩ := hauto hautomatic
        refine ⟨h.lt version hnamed (hc.symm ▸ hne), fun hother => ?_⟩
        simp only [hsame, Function.update_self] at hother
        exact absurd hnamed hother
    · rw [hev] at hconfirm
      exact absurd hconfirm (by decide)
  · rw [if_neg hev]
    exact h.gatewayStep hidf hcare hev hy'

/-! ## The property -/

theorem note_gateway (x : Device) (c : Check) : (x.note c).gateway = x.gateway := by
  unfold Device.note
  split <;> rfl

theorem counted_of_reachable (hidf : LawfulEspOta k.crc32 idf)
    (h : (deviceSystem k idf).ReachableVia (Device.Careful k) x) : Counted k idf x := by
  refine h.invariant (fun x hx => counted_init hx) ?_
  rintro x (c | ⟨c, u⟩ | ⟨version, u⟩ | l) y - hx hcare hstep
  · obtain ⟨slot, -, rfl⟩ := Option.map_eq_some_iff.mp hstep
    exact hx.note c
  · obtain ⟨slot, hslot, hstep⟩ := Option.bind_eq_some_iff.mp hstep
    obtain ⟨version, hnames, hstep⟩ := Option.bind_eq_some_iff.mp hstep
    obtain ⟨hstarts, hstep⟩ := Option.ite_none_right_eq_some.mp hstep
    have hgateway := note_gateway x c
    refine (hx.note c).updateStep hidf (hgateway ▸ hslot) (hgateway.symm ▸ hcare) (fun _ => ?_)
      hstep
    simp only [Device.note, hnames]
    exact ⟨trivial, ne_of_starts hnames hstarts⟩
  · obtain ⟨slot, hslot, hstep⟩ := Option.bind_eq_some_iff.mp hstep
    exact hx.updateStep hidf hslot hcare (fun h => absurd h Bool.false_ne_true) hstep
  · obtain ⟨hl, hstep⟩ := Option.ite_none_left_eq_some.mp hstep
    exact hx.gatewayStep hidf hcare hl hstep

open Ota (smallChecks smallEspOta smallGateway smallUpdate lawful_smallEspOta init_smallGateway)

end AutoUpdate
end RuuviGateway
