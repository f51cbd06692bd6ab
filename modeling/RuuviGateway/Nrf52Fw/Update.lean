import RuuviGateway.Nrf52Fw.Write

/-!
# The update is verified before it is destructive

In every run of `nrf52fw_update_fw_if_necessary` the flash is erased or written only after the
file of every segment has been read to its end, with the declared size and CRC.  Where the update
reports success, the range of every segment holds the file of the segment.

The version in the UICR is an exception by design: if the file of a segment leaves it erased, the
update writes the version of `info.txt` over it.
-/

namespace RuuviGateway
namespace Nrf52Fw

open Fallible Digests

variable (env : Env) (D : Type) [Digests D]

/-! ## What is verified -/

/-- The file has been read to its end, with the declared size and CRC. -/
def Verified (seg : Segment) (trace : List Event) : Prop :=
  ∃ blocks : List (List UInt8), env.files seg.fileName = some blocks.flatten ∧
    readTrace seg.fileName blocks <:+: trace ∧ blocks.flatten.length = seg.size.toNat ∧
    crc32Le D 0 blocks.flatten = seg.crc

/-- The files of all segments have been verified. -/
def AllVerified (trace : List Event) : Prop :=
  ∃ info, env.infoTxt = some info ∧ ∀ seg ∈ info.segments, Verified env D seg trace

/-- Nothing destructive has been done before the files were verified. -/
def VerifiedFirst (trace : List Event) : Prop :=
  ∀ before event after, trace = before ++ event :: after → event.isDestructive = true →
    AllVerified env D before

variable {env D}

theorem Verified.mono {seg : Segment} {trace trace' : List Event} (h : Verified env D seg trace)
    (hle : trace <:+: trace') : Verified env D seg trace' := by
  obtain ⟨blocks, hfile, hread, hlen, hcrc⟩ := h
  exact ⟨blocks, hfile, hread.trans hle, hlen, hcrc⟩

/-- The checks together verify a file. -/
theorem CrcRead.verified {seg : Segment} {trace : List Event} (h : CrcRead env D seg trace)
    (hlong : LongEnough env seg) : Verified env D seg trace := by
  obtain ⟨content, hcontent, hlen⟩ := h.length_eq env hlong
  obtain ⟨blocks, hfile, hread, -, hcrc⟩ := h
  obtain rfl : blocks.flatten = content := Option.some.inj (hfile.symm.trans hcontent)
  exact ⟨blocks, hfile, hread, hlen, hcrc⟩

theorem VerifiedFirst.noted {trace : List Event} {event : Event}
    (h : VerifiedFirst env D trace)
    (hevent : event.isDestructive = true → AllVerified env D trace) :
    VerifiedFirst env D (trace ++ [event]) := by
  intro before e after hsplit he
  rcases List.eq_nil_or_concat after with rfl | ⟨after', last, rfl⟩
  · obtain ⟨rfl, hlast⟩ := List.append_inj' hsplit rfl
    obtain rfl : event = e := by simpa using hlast
    exact hevent he
  · rw [List.concat_eq_append, ← List.cons_append, ← List.append_assoc] at hsplit
    obtain ⟨rfl, -⟩ := List.append_inj' hsplit rfl
    exact h before e after' rfl he

theorem verifiedFirst_of_quiet {trace : List Event}
    (h : ∀ event ∈ trace, event.isDestructive = false) : VerifiedFirst env D trace := by
  rintro before event after rfl he
  have hquiet := h event (by simp)
  rw [hquiet] at he
  exact absurd he Bool.false_ne_true

theorem calm_verifiedFirst : Calm fun s => VerifiedFirst env D s.trace :=
  ⟨fun _ _ h => h, fun _ _ h => h, fun _ _ hevent h =>
    h.noted fun he => absurd (hevent.symm.trans he) Bool.false_ne_true⟩

/-- From when all files have been verified, anything may be done. -/
theorem robust_verified :
    Robust fun s => AllVerified env D s.trace ∧ VerifiedFirst env D s.trace := by
  have hevent : ∀ (s : Sys) (event : Event),
      AllVerified env D s.trace ∧ VerifiedFirst env D s.trace →
        AllVerified env D (s.trace ++ [event]) ∧ VerifiedFirst env D (s.trace ++ [event]) := by
    rintro s event ⟨⟨info, hinfo, hall⟩, hfirst⟩
    refine ⟨⟨info, hinfo, fun seg hseg => ?_⟩, hfirst.noted fun _ => ⟨info, hinfo, hall⟩⟩
    exact (hall seg hseg).mono (List.prefix_append _ _).isInfix
  exact ⟨⟨fun _ _ h => h, fun _ _ h => h, fun s event _ h => hevent s event h⟩,
    fun _ _ h => h, hevent⟩

/-! ## The checks of an update -/

/-- The segments are ranges of the flash that do not overlap. -/
structure WellPlaced (info : Info) : Prop where
  inFlash : ∀ seg ∈ info.segments, InFlash seg
  beside : info.segments.Pairwise Beside

/-- The state while an update only checks. -/
structure Checking (flash : Nat → UInt8) (s : Sys) : Prop where
  flash : s.flash = flash
  quiet : ∀ event ∈ s.trace, event.isDestructive = false

theorem calm_checking (flash : Nat → UInt8) : Calm (Checking flash) := by
  refine ⟨fun _ _ h => ⟨h.flash, h.quiet⟩, fun _ _ h => ⟨h.flash, h.quiet⟩,
    fun s event hevent h => ⟨h.flash, ?_⟩⟩
  exact List.forall_mem_append.mpr ⟨h.quiet, List.forall_mem_singleton.mpr hevent⟩

/-- What is known when the update decides. -/
structure Checked (env : Env) (D : Type) [Digests D] (flash : Nat → UInt8) (c : Checks D)
    (s : Sys) : Prop where
  infoTxt : env.infoTxt = some c.info
  checking : Checking flash s
  digestNrf52 : c.digestNrf52 = sha256 (segmentBytes flash c.info.segments)
  digestFatfs : ∃ hashed, c.digestFatfs = sha256 hashed ∧ Hashed env c.info.segments hashed
  crcRead : ∀ seg ∈ c.info.segments, CrcRead env D seg s.trace

theorem Calm.updateFwChecks {I : Sys → Prop} (hI : Calm I) :
    Preserves I (updateFwChecks env D) :=
  (hI.call env).bind fun _ => Preserves.ofOption.bind fun info =>
    (hI.nrf52swdReadMem env _ _).bind fun _ => (hI.readCurrentFwVer env).bind fun _ =>
      (hI.setNrf52FwVer _).bind fun _ => (hI.calcSha256DigestOnNrf52 env info).bind fun _ =>
        (hI.checkFirmware env info).bind fun _ => (hI.calcSha256 env info).bind fun _ =>
          Preserves.pure _

theorem returns_calcSha256DigestOnNrf52 {P : Sys → Prop} {flash : Nat → UInt8} (info : Info)
    (hP : ∀ s, P s → Checking flash s) :
    Returns P (calcSha256DigestOnNrf52 env D info) fun digest _ =>
      digest = sha256 (segmentBytes flash info.segments) := by
  refine (returns_call env).bind fun _ => Returns.get.bind fun s => Returns.pure ?_
  rintro t ⟨rfl, u, hu, rfl⟩
  show sha256 (segmentBytes u.flash info.segments) = _
  rw [(hP u hu).flash]

theorem returns_updateFwChecks {flash : Nat → UInt8}
    (hplaced : ∀ info, env.infoTxt = some info → WellPlaced info) :
    Returns (Checking flash) (updateFwChecks env D) (Checked env D flash) := by
  have hcalm := calm_checking flash
  refine (hcalm.call env).returns.bind fun _ => ?_
  refine Returns.bind (Q := fun info s => env.infoTxt = some info ∧ Checking flash s)
    (Returns.ofOption fun info hinfo s hs => ⟨hinfo, hs⟩) fun info => Returns.assume fun hinfo => ?_
  refine (hcalm.nrf52swdReadMem env _ _).returns.bind fun _ =>
    (hcalm.readCurrentFwVer env).returns.bind fun curFwVer =>
      (hcalm.setNrf52FwVer curFwVer).returns.bind fun _ => ?_
  refine Returns.bind ((returns_calcSha256DigestOnNrf52 info fun _ h => h).and
    (hcalm.calcSha256DigestOnNrf52 env info).returns) fun digestNrf52 =>
      Returns.assume fun hdigest => ?_
  refine Returns.bind ((returns_checkFirmware env (hplaced info hinfo).inFlash).and
    (hcalm.checkFirmware env info).returns) fun _ => ?_
  have hboth := (calm_crcRead (D := D) env info.segments).and hcalm
  refine Returns.bind ((returns_calcSha256 env info).and (hboth.calcSha256 env info).returns)
    fun digestFatfs => Returns.pure ?_
  rintro s ⟨hhashed, hcrc, hchecking⟩
  exact ⟨hinfo, hchecking, hdigest, hhashed, hcrc⟩

section Decision

variable {flash : Nat → UInt8} {c : Checks D} {s : Sys} (h : Checked env D flash c s)

include h

theorem Checked.exactSize : ∀ seg ∈ c.info.segments, ExactSize env seg := by
  obtain ⟨hashed, -, hhashed⟩ := h.digestFatfs
  exact fun seg hseg => (h.crcRead seg hseg).length_eq env (hhashed.longEnough seg hseg)

theorem Checked.verified : AllVerified env D s.trace ∧ VerifiedFirst env D s.trace := by
  obtain ⟨hashed, -, hhashed⟩ := h.digestFatfs
  exact ⟨⟨c.info, h.infoTxt, fun seg hseg =>
    (h.crcRead seg hseg).verified (hhashed.longEnough seg hseg)⟩,
    verifiedFirst_of_quiet h.checking.quiet⟩

/-- The digest of the files is that of their whole contents. -/
theorem Checked.digestFatfs_eq : c.digestFatfs = sha256 (fileBytes env c.info.segments) := by
  obtain ⟨hashed, hdigest, hhashed⟩ := h.digestFatfs
  rw [hdigest, hhashed.eq]
  refine congrArg _ (List.flatMap_congr fun seg hseg => ?_)
  obtain ⟨content, hfile, hlen⟩ := h.exactSize seg hseg
  rw [hfile, ← hlen]
  exact List.take_length

end Decision

/-- Lists of pieces of the same lengths agree piece by piece. -/
theorem eq_of_flatMap_eq {α : Type} {f g : α → List UInt8} {xs : List α}
    (hlen : ∀ x ∈ xs, (f x).length = (g x).length) (h : xs.flatMap f = xs.flatMap g) :
    ∀ x ∈ xs, f x = g x := by
  induction xs with
  | nil => exact fun _ hx => absurd hx List.not_mem_nil
  | cons y ys ih =>
    rw [List.flatMap_cons, List.flatMap_cons] at h
    obtain ⟨hy, hys⟩ := List.append_inj h (hlen y List.mem_cons_self)
    intro x hx
    rcases List.mem_cons.mp hx with rfl | htail
    · exact hy
    · exact ih (fun z hz => hlen z (List.mem_cons_of_mem y hz)) hys x htail

/-- The hash tells the flash before the update from the files. -/
def HashTellsApart (env : Env) (D : Type) [Digests D] (flash : Nat → UInt8) : Prop :=
  ∀ info, env.infoTxt = some info →
    (sha256 (segmentBytes flash info.segments) : D) = sha256 (fileBytes env info.segments) →
      segmentBytes flash info.segments = fileBytes env info.segments

/-- Where the digests agree the firmware is already there. -/
theorem Checked.updated {flash : Nat → UInt8} {c : Checks D} {s : Sys}
    (h : Checked env D flash c s) (hhash : HashTellsApart env D flash)
    (heq : c.digestNrf52 = c.digestFatfs) : Updated env c.info s := by
  rw [h.digestNrf52, h.digestFatfs_eq] at heq
  have hsame := hhash c.info h.infoTxt heq
  have hpieces := eq_of_flatMap_eq (fun seg hseg => by
    obtain ⟨content, hfile, hlen⟩ := h.exactSize seg hseg
    rw [length_bytesAt, hfile, ← hlen]
    rfl) hsame
  intro seg hseg
  obtain ⟨content, hfile, hlen⟩ := h.exactSize seg hseg
  refine Written.holdsFile env ⟨content, hfile, hlen, ?_⟩
  rw [h.checking.flash, hpieces seg hseg, hfile]
  rfl

variable [DecidableEq D]

/-! ## The update -/

/-- An update is reported only where the firmware is in the flash. -/
theorem Checked.returns_updateFwDecide {flash : Nat → UInt8} {c : Checks D}
    (hplaced : WellPlaced c.info) (hhash : HashTellsApart env D flash) :
    Returns (Checked env D flash c) (updateFwDecide env c) fun _ s => Updated env c.info s := by
  refine Returns.ite (fun hsame => Returns.pure fun s hs => hs.updated hhash hsame.2) fun _ => ?_
  intro s hs
  have hstep4 := returns_updateFwStep4 env (P := fun _ => True) hplaced.inFlash hplaced.beside
    hs.exactSize c.curFwVer
  have hcalm := calm_updated env c.info
  have hrest : Returns (fun _ => True) (do
      let res ← attempt (updateFwStep4 env c.info c.curFwVer)
      emit (.cbAfterUpdating res.isSome)
      let fwVer ← ofOption res
      setNrf52FwVer fwVer) fun _ s => Updated env c.info s := by
    refine hstep4.attempt.bind fun res => ?_
    cases res with
    | none =>
      exact Returns.anything.bind fun _ =>
        Returns.bind (Q := fun _ _ => False) Returns.fail fun _ _ h => h.elim
    | some fwVer =>
      refine Returns.mono ?_ (fun _ h => h fwVer rfl) fun _ _ h => h
      exact ((hcalm.emitEvent rfl).bind fun _ => (Preserves.pure fwVer).bind fun _ =>
        hcalm.setNrf52FwVer _).returns
  exact Returns.bind (Returns.anything (P := fun _ => True)) (fun _ => hrest) s trivial

/-- Whatever fails from the decision on, the files have been verified before. -/
theorem Checked.ends_updateFwDecide {flash : Nat → UInt8} (c : Checks D) :
    Ends (Checked env D flash c) (updateFwDecide env c) fun s =>
      VerifiedFirst env D s.trace := by
  have hrobust : Robust fun s : Sys => AllVerified env D s.trace ∧ VerifiedFirst env D s.trace :=
    robust_verified
  have hdecide : Preserves (fun s => AllVerified env D s.trace ∧ VerifiedFirst env D s.trace)
      (updateFwDecide env c) :=
    Preserves.ite (Preserves.pure ()) ((hrobust.emitEvent rfl).bind fun _ =>
      (hrobust.updateFwStep4 env c.info c.curFwVer).attempt.bind fun _ =>
        (hrobust.emitEvent rfl).bind fun _ => Preserves.ofOption.bind hrobust.setNrf52FwVer)
  exact fun s hs => (hdecide s hs.verified).2

variable {flash : Nat → UInt8}

theorem returns_updateFwIfNecessary
    (hplaced : ∀ info, env.infoTxt = some info → WellPlaced info)
    (hhash : HashTellsApart env D flash) (flagRunFwAfterUpdate : Bool) :
    Returns (Checking flash) (updateFwIfNecessary env D flagRunFwAfterUpdate) fun _ s =>
      ∃ info, env.infoTxt = some info ∧ Updated env info s := by
  have hcalm := calm_checking flash
  have hstep1 : Returns (Checking flash) (updateFwStep1 env D) fun _ s =>
      ∃ info, env.infoTxt = some info ∧ Updated env info s := by
    refine (hcalm.call env).returns.bind fun _ => (hcalm.call env).returns.bind fun _ =>
      (returns_updateFwChecks hplaced).bind fun c => ?_
    intro s hs a t hrun
    exact ⟨c.info, hs.infoTxt,
      Checked.returns_updateFwDecide (hplaced c.info hs.infoTxt) hhash s hs a t hrun⟩
  have hupdated : Calm fun s => ∃ info, env.infoTxt = some info ∧ Updated env info s := by
    refine ⟨fun s n h => ?_, fun s v h => ?_, fun s event hevent h => ?_⟩
    · obtain ⟨info, hinfo, hs⟩ := h
      exact ⟨info, hinfo, (calm_updated env info).clock s n hs⟩
    · obtain ⟨info, hinfo, hs⟩ := h
      exact ⟨info, hinfo, (calm_updated env info).nrf52FwVer s v hs⟩
    · obtain ⟨info, hinfo, hs⟩ := h
      exact ⟨info, hinfo, (calm_updated env info).emit s event hevent hs⟩
  exact (hcalm.call env).returns.bind fun _ => hstep1.bind fun _ =>
    (Preserves.ite (hupdated.call env) (Preserves.pure ())).returns

theorem ends_updateFwIfNecessary
    (hplaced : ∀ info, env.infoTxt = some info → WellPlaced info) (flagRunFwAfterUpdate : Bool) :
    Ends (Checking flash) (updateFwIfNecessary env D flagRunFwAfterUpdate) fun s =>
      VerifiedFirst env D s.trace := by
  have hcalm := calm_checking flash
  have hquiet : ∀ s, Checking flash s → VerifiedFirst env D s.trace := fun s hs =>
    verifiedFirst_of_quiet hs.quiet
  have hcall : Ends (Checking flash) (call env) fun s => VerifiedFirst env D s.trace :=
    fun s hs => hquiet _ (hcalm.call env s hs)
  have hchecks : Ends (Checking flash) (updateFwChecks env D) fun s =>
      VerifiedFirst env D s.trace :=
    fun s hs => hquiet _ (hcalm.updateFwChecks s hs)
  have hstep1 : Ends (Checking flash) (updateFwStep1 env D) fun s =>
      VerifiedFirst env D s.trace :=
    hcall.bind (hcalm.call env).returns fun _ => hcall.bind (hcalm.call env).returns fun _ =>
      hchecks.bind (returns_updateFwChecks hplaced) Checked.ends_updateFwDecide
  have hlast : ∀ _ : Unit, Ends (fun s : Sys => VerifiedFirst env D s.trace)
      (if flagRunFwAfterUpdate then call env else pure ()) fun s =>
        VerifiedFirst env D s.trace := fun _ =>
    Preserves.ite (calm_verifiedFirst.call env) (Preserves.pure ())
  exact hcall.bind (hcalm.call env).returns fun _ => hstep1.bind hstep1.returns hlast

/-- The initial state only checks. -/
theorem checking_before (flash : Nat → UInt8) (nrf52FwVer : UInt32) :
    Checking flash (Sys.before flash nrf52FwVer) :=
  ⟨rfl, fun _ h => absurd h List.not_mem_nil⟩

/-- What is wanted of an update: the files are verified first, and success means that every
segment is in the flash. -/
structure Faithful (env : Env) (D : Type) [Digests D] (result : Option Unit × Sys) : Prop where
  verifiedFirst : VerifiedFirst env D result.2.trace
  updated : result.1.isSome → ∃ info, env.infoTxt = some info ∧ Updated env info result.2

/-- Every update is verified before it is destructive, whatever fails, and where it reports
success the segments hold their files. -/
theorem update_faithful (env : Env) (D : Type) [Digests D] [DecidableEq D] (flash : Nat → UInt8)
    (nrf52FwVer : UInt32) (flagRunFwAfterUpdate : Bool)
    (hplaced : ∀ info, env.infoTxt = some info → WellPlaced info)
    (hhash : HashTellsApart env D flash) :
    Faithful env D (updateFwIfNecessary env D flagRunFwAfterUpdate
      (Sys.before flash nrf52FwVer)) := by
  have hstart := checking_before flash nrf52FwVer
  refine ⟨ends_updateFwIfNecessary hplaced flagRunFwAfterUpdate _ hstart, fun hsome => ?_⟩
  obtain ⟨u, hu⟩ := Option.isSome_iff_exists.mp hsome
  exact returns_updateFwIfNecessary hplaced hhash flagRunFwAfterUpdate _ hstart u _
    (Prod.ext hu rfl)

/-! ## Two updates -/

section Runs

/-- One bit of the reflected CRC-32. -/
def crcBit (crc : UInt32) : UInt32 :=
  if crc &&& 1 = 1 then (crc >>> 1) ^^^ 0xEDB88320 else crc >>> 1

/-- One byte. -/
def crcByte (crc : UInt32) (b : UInt8) : UInt32 :=
  crcBit (crcBit (crcBit (crcBit (crcBit (crcBit (crcBit (crcBit (crc ^^^ b.toUInt32))))))))

/-- CRC-32, with the bytes themselves as their digest. -/
@[reducible] def plainDigests : Digests (List UInt8) where
  crc32Le crc bytes := ~~~ bytes.foldl crcByte (~~~ crc)
  crc32Le_append crc a b := by rw [List.foldl_append, UInt32.not_not]
  crc32Le_nil crc := UInt32.not_not
  sha256 bytes := bytes

/-- All calls succeed, for an image of version 2.0.0 with these segments and files. -/
def imageEnv (segments : List Segment) (hlen : segments.length ≤ 5)
    (files : List Char → Option (List UInt8)) : Env where
  choice _ := { ok := true, amount := 256, damage := none }
  files := files
  infoTxt := some { fwVer := 0x02000000, segments := segments, length_le := hlen }

/-- A segment with code and one with the version. -/
def releaseSegments : List Segment :=
  [⟨0, 8, ['1'], 0x3FCA88C5⟩, ⟨0x10001080, 4, ['2'], 0xCF4ABE30⟩]

/-- Their files. -/
def releaseFiles (fileName : List Char) : Option (List UInt8) :=
  if fileName = ['1'] then some [1, 2, 3, 4, 5, 6, 7, 8]
  else if fileName = ['2'] then some [0, 0, 0, 2]
  else none

def releaseEnv : Env := imageEnv releaseSegments (by decide) releaseFiles

/-- An erased nRF52 is updated to the release. -/
def releaseUpdate : Option Unit × Sys :=
  @updateFwIfNecessary releaseEnv (List UInt8) plainDigests _ true (Sys.before (fun _ => 0xFF) 0)

theorem releaseUpdate_faithful :
    releaseUpdate.1.isSome ∧ @Faithful releaseEnv (List UInt8) plainDigests releaseUpdate := by
  have hplaced : ∀ info, releaseEnv.infoTxt = some info → WellPlaced info := by
    rintro info h
    obtain rfl := Option.some.inj h
    refine ⟨fun seg hseg => ?_, ?_⟩
    · rcases List.mem_cons.mp hseg with rfl | hseg
      · exact ⟨by decide, by decide, by decide⟩
      · obtain rfl := List.mem_singleton.mp hseg
        exact ⟨by decide, by decide, by decide⟩
    · exact List.Pairwise.cons (fun b hb => by
        obtain rfl := List.mem_singleton.mp hb
        exact Or.inl (by decide)) (List.pairwise_singleton _ _)
  exact ⟨by decide +kernel, @update_faithful releaseEnv (List UInt8) plainDigests _
    (fun _ => 0xFF) 0 true hplaced fun _ _ h => h⟩

/-- A segment that covers the version, and whose file leaves it erased. -/
def erasedVersionEnv : Env :=
  imageEnv [⟨0x10001080, 4, ['1'], 0xFFFFFFFF⟩] (by decide) fun _ => some [0xFF, 0xFF, 0xFF, 0xFF]

def erasedVersionUpdate : Option Unit × Sys :=
  @updateFwIfNecessary erasedVersionEnv (List UInt8) plainDigests _ true
    (Sys.before (fun _ => 0xFF) 0)

/-- The update reports success, and the range does not hold the file. -/
theorem erasedVersion_overwritten :
    (∀ info, erasedVersionEnv.infoTxt = some info → WellPlaced info) ∧
      erasedVersionUpdate.1.isSome ∧
      ¬ ∀ info, erasedVersionEnv.infoTxt = some info →
        ∀ seg ∈ info.segments, Written erasedVersionEnv erasedVersionUpdate.2.flash seg := by
  refine ⟨?_, by decide +kernel, fun hall => ?_⟩
  · rintro info h
    obtain rfl := Option.some.inj h
    refine ⟨fun seg hseg => ?_, List.pairwise_singleton _ _⟩
    obtain rfl := List.mem_singleton.mp hseg
    exact ⟨by decide, by decide, by decide⟩
  · obtain ⟨content, hfile, -, hbytes⟩ := hall _ rfl _ List.mem_cons_self
    have hcontent : content = [0xFF, 0xFF, 0xFF, 0xFF] := (Option.some.inj hfile).symm
    rw [hcontent] at hbytes
    have hflash : bytesAt erasedVersionUpdate.2.flash 0x10001080 4 = [0, 0, 0, 2] := by
      decide +kernel
    exact absurd (hflash.symm.trans hbytes) (by decide)

end Runs

end Nrf52Fw
end RuuviGateway
