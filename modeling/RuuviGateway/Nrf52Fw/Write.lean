import RuuviGateway.Nrf52Fw.Check

/-!
# What writing the firmware leaves in the flash

Each block is read back after it has been written, so a segment that has been written without an
error holds the blocks of its file, and nothing outside its range has changed.  Segments that do
not overlap do not disturb each other.  The version in the UICR is written at the end if it is
still erased, over whatever segment lies there.
-/

namespace RuuviGateway
namespace Nrf52Fw

open Fallible

variable (env : Env)

/-! ## Programs that write -/

/-- The invariant is about what stays in the trace. -/
structure Robust (I : Sys → Prop) : Prop extends Calm I where
  flash : ∀ s flash, I s → I { s with flash := flash }
  emitAny : ∀ s event, I s → I { s with trace := s.trace ++ [event] }

section Preserved

variable {I : Sys → Prop} (hI : Robust I)

include hI

theorem Robust.nrf52swdWriteFlash (addr : UInt32) (bytes : List UInt8) :
    Preserves I (nrf52swdWriteFlash env addr bytes) :=
  (hI.next env).bind fun _ => (Preserves.modify fun s => hI.emitAny s _).bind fun _ =>
    (Preserves.modify fun s => hI.flash s _).bind fun _ => Preserves.check

theorem Robust.nrf52swdEraseAll : Preserves I (nrf52swdEraseAll env) :=
  (hI.next env).bind fun _ => (Preserves.modify fun s => hI.emitAny s _).bind fun _ =>
    (Preserves.modify fun s => hI.flash s _).bind fun _ => Preserves.check

theorem Robust.flashWriteBlock (data : List UInt8) (segmentAddr segmentLen offset : UInt32) :
    Preserves I (flashWriteBlock env data segmentAddr segmentLen offset) :=
  Preserves.check.bind fun _ => Preserves.check.bind fun _ =>
    (hI.nrf52swdWriteFlash env _ data).bind fun _ => (hI.nrf52swdReadMem env _ _).bind fun _ =>
      Preserves.check.bind fun _ => Preserves.pure _

theorem Robust.writeSegmentFromFile (totalSize accum : UInt32) (seg : Segment) :
    Preserves I (writeSegmentFromFile env totalSize accum seg) := by
  have hbody : ∀ a data,
      Preserves I (flashWriteSegmentBlock env seg.address seg.size totalSize a data) :=
    fun a data => (hI.flashWriteBlock env data _ _ _).bind fun _ =>
      (hI.emitEvent rfl).bind fun _ => Preserves.pure _
  exact (hI.withFile env (fun content => hI.readLoop env hbody _ content _) seg.fileName).bind
    fun _ => Preserves.pure _

theorem Robust.flashWriteFirmware (info : Info) : Preserves I (flashWriteFirmware env info) :=
  (hI.nrf52swdEraseAll env).bind fun _ =>
    (Preserves.foldlM (fun _ seg => hI.writeSegmentFromFile env _ _ seg) _ _).bind fun _ =>
      (hI.readCurrentFwVer env).bind fun _ =>
        Preserves.ite (hI.nrf52swdWriteFlash env _ _) Preserves.check

theorem Robust.updateFwStep4 (info : Info) (curFwVer : UInt32) :
    Preserves I (updateFwStep4 env info curFwVer) :=
  (hI.flashWriteFirmware env info).attempt.bind fun _ => Preserves.ite
    ((hI.readCurrentFwVer env).attempt.bind fun _ =>
      Preserves.bind (Preserves.ite (hI.setNrf52FwVer curFwVer) (Preserves.pure _)) fun _ =>
        Preserves.ofOption)
    ((hI.readCurrentFwVer env).attempt.bind fun _ => (hI.setNrf52FwVer _).bind fun _ =>
      Preserves.fail)

end Preserved

/-! ## Ranges of the flash -/

/-- The flash is what it was outside of `[addr, addr + len)`. -/
def SameOutside (addr len : Nat) (flash flash' : Nat → UInt8) : Prop :=
  ∀ a, a < addr ∨ addr + len ≤ a → flash' a = flash a

theorem SameOutside.trans {addr len : Nat} {f g h : Nat → UInt8} (hfg : SameOutside addr len f g)
    (hgh : SameOutside addr len g h) : SameOutside addr len f h :=
  fun a ha => (hgh a ha).trans (hfg a ha)

theorem SameOutside.mono {addr len addr' len' : Nat} {f g : Nat → UInt8}
    (h : SameOutside addr len f g) (hlo : addr' ≤ addr) (hhi : addr + len ≤ addr' + len') :
    SameOutside addr' len' f g :=
  fun a ha => h a (by omega)

/-- A range beside the one that changes. -/
theorem SameOutside.bytesAt_eq {addr len : Nat} {f g : Nat → UInt8} (h : SameOutside addr len f g)
    {addr' len' : Nat} (hbeside : addr' + len' ≤ addr ∨ addr + len ≤ addr') :
    bytesAt g addr' len' = bytesAt f addr' len' := by
  refine List.map_congr_left fun i hi => h _ ?_
  have hlt := List.mem_range.mp hi
  omega

theorem length_bytesAt (flash : Nat → UInt8) (addr len : Nat) :
    (bytesAt flash addr len).length = len := by
  rw [bytesAt, List.length_map, List.length_range]

theorem getElem_bytesAt (flash : Nat → UInt8) (addr len i : Nat)
    (h : i < (bytesAt flash addr len).length) : (bytesAt flash addr len)[i] = flash (addr + i) := by
  simp only [bytesAt, List.getElem_map, List.getElem_range]

theorem bytesAt_add (flash : Nat → UInt8) (addr m n : Nat) :
    bytesAt flash addr (m + n) = bytesAt flash addr m ++ bytesAt flash (addr + m) n := by
  unfold bytesAt
  rw [List.range_add, List.map_append, List.map_map]
  refine congrArg _ (List.map_congr_left fun i _ => ?_)
  show flash (addr + (m + i)) = flash (addr + m + i)
  rw [Nat.add_assoc]

theorem sameOutside_programmed (damage : Option (Nat → UInt8)) (addr : Nat) (bytes : List UInt8)
    (flash : Nat → UInt8) :
    SameOutside addr bytes.length flash (programmed damage addr bytes flash) := by
  intro a ha
  unfold programmed
  rw [if_neg (by omega)]

/-! ## Blocks -/

variable {P : Sys → Prop} {f : Nat → UInt8}

theorem returns_nrf52swdWriteFlash (addr : UInt32) (bytes : List UInt8) :
    Returns (fun s => s.flash = f) (nrf52swdWriteFlash env addr bytes) fun _ t =>
      SameOutside addr.toNat bytes.length f t.flash ∧ .writeFlash addr bytes ∈ t.trace := by
  refine (returns_next env).bind fun c => (returns_emit _).bind fun _ =>
    (Returns.modify fun s hs => ?_).bind fun _ => Returns.check.mono (fun _ h => h) fun _ _ h => h.2
  obtain ⟨u, ⟨s, rfl, rfl⟩, rfl⟩ := hs
  refine ⟨sameOutside_programmed c.damage addr.toNat bytes s.flash, ?_⟩
  exact List.mem_append_right _ List.mem_cons_self

theorem returns_nrf52swdReadMem (addr : UInt32) (numWords : Nat)
    (hP : ∀ s, P s → P s.ticked) :
    Returns P (nrf52swdReadMem env addr numWords) fun bytes t =>
      bytes = bytesAt t.flash addr.toNat (4 * numWords) ∧ P t := by
  refine (returns_call env).bind fun _ => Returns.get.bind fun s => Returns.pure ?_
  rintro t ⟨rfl, u, hu, rfl⟩
  exact ⟨rfl, hP u hu⟩

/-- A block that has been written is there, and nothing else has changed. -/
theorem returns_flashWriteBlock (data : List UInt8) (segmentAddr segmentLen offset : UInt32) :
    Returns (fun s => s.flash = f) (flashWriteBlock env data segmentAddr segmentLen offset)
      fun a t => (a = offset + UInt32.ofNat data.length ∧ a ≤ segmentLen) ∧
        bytesAt t.flash (segmentAddr + offset).toNat data.length = data ∧
        SameOutside (segmentAddr + offset).toNat data.length f t.flash := by
  refine Returns.check.bind fun _ => Returns.assume fun hwords => Returns.check.bind fun _ =>
    Returns.assume fun hle => (returns_nrf52swdWriteFlash env _ data).bind fun _ =>
      (returns_nrf52swdReadMem env _ _ fun s hs => hs).bind fun rd =>
        Returns.check.bind fun _ => Returns.assume fun hverify => Returns.pure ?_
  rintro t ⟨hrd, houtside, -⟩
  have hlen : 4 * (data.length / 4) = data.length := by omega
  rw [hlen, ← hverify] at hrd
  exact ⟨⟨rfl, hle⟩, hrd.symm, houtside⟩

/-! ## Segments -/

/-- The loop over a segment after some blocks. -/
structure WriteLoop (f : Nat → UInt8) (seg : Segment) (blocks : List (List UInt8))
    (a : UInt32 × UInt32) (s : Sys) : Prop where
  offset : a.1.toNat = blocks.flatten.length
  offset_le : a.1.toNat ≤ seg.size.toNat
  bytes : bytesAt s.flash seg.address.toNat blocks.flatten.length = blocks.flatten
  outside : SameOutside seg.address.toNat seg.size.toNat f s.flash

theorem returns_flashWriteSegmentBlock {seg : Segment} (hseg : InFlash seg) (totalSize : UInt32)
    {blocks : List (List UInt8)} {data : List UInt8} {a : UInt32 × UInt32}
    (hdata : data.length ≤ tmpBufSize) :
    Returns (WriteLoop f seg blocks a)
      (flashWriteSegmentBlock env seg.address seg.size totalSize a data)
      (WriteLoop f seg (blocks ++ [data])) := by
  have hend := hseg.end_le
  intro s hs
  have hadd := toNat_add_ofNat hs.offset_le hdata (by omega)
  have haddr : (seg.address + a.1).toNat = seg.address.toNat + blocks.flatten.length := by
    rw [UInt32.toNat_add, hs.offset, Nat.mod_eq_of_lt]
    have hle := hs.offset_le
    rw [hs.offset] at hle
    omega
  refine Returns.bind ((returns_flashWriteBlock env data seg.address seg.size a.1).mono
    (fun t (ht : t = s) => congrArg Sys.flash ht) fun _ _ h => h) (fun offset =>
      Returns.assume ?_) s rfl
  rintro ⟨rfl, hle⟩
  refine (returns_emit _).bind fun _ => Returns.pure ?_
  rintro t ⟨u, ⟨hbytes, houtside⟩, rfl⟩
  rw [haddr] at hbytes houtside
  have hflatten : (blocks ++ [data]).flatten = blocks.flatten ++ data := by
    rw [List.flatten_append, List.flatten_singleton]
  have hle' : blocks.flatten.length + data.length ≤ seg.size.toNat := by
    have h := UInt32.le_iff_toNat_le.mp hle
    rwa [hadd, hs.offset] at h
  refine ⟨?_, hle, ?_, ?_⟩
  · rw [hadd, hs.offset, hflatten, List.length_append]
  · show bytesAt u.flash seg.address.toNat (blocks ++ [data]).flatten.length = _
    rw [hflatten, List.length_append, bytesAt_add, hbytes,
      houtside.bytesAt_eq (Or.inl (Nat.le_refl _)), hs.bytes]
  · exact hs.outside.trans (houtside.mono (by omega) (by omega))

/-- A segment that has been written holds its file, and nothing else has changed. -/
theorem returns_writeSegmentFromFile {seg : Segment} (hseg : InFlash seg)
    (totalSize accum : UInt32) :
    Returns (fun s => s.flash = f) (writeSegmentFromFile env totalSize accum seg) fun _ t =>
      (∃ content, env.files seg.fileName = some content ∧
        bytesAt t.flash seg.address.toNat content.length = content) ∧
        SameOutside seg.address.toNat seg.size.toNat f t.flash := by
  have huse : ∀ content, env.files seg.fileName = some content →
      Returns (fun t => ∃ s : Sys, s.flash = f ∧ t = s.ticked.noted (.opened seg.fileName))
        (readFile env (flashWriteSegmentBlock env seg.address seg.size totalSize) (0, accum)
          content)
        fun a t => ∃ blocks s, blocks.flatten = content ∧ WriteLoop f seg blocks a s ∧
          t = s.ticked.noted (.fileRead (some [])) := by
    intro content _
    refine (returns_readFile env content (fun blocks data a _ hdata _ =>
      (returns_flashWriteSegmentBlock env hseg totalSize hdata).mono ?_ fun _ _ h => h)
      (0, accum)).mono ?_ fun _ _ h => h
    · rintro t ⟨s, hs, rfl⟩
      exact ⟨hs.offset, hs.offset_le, hs.bytes, hs.outside⟩
    · rintro t ⟨s, rfl, rfl⟩
      exact ⟨rfl, Nat.zero_le _, rfl, fun _ _ => rfl⟩
  refine (returns_withFile env seg.fileName huse).bind fun a => Returns.pure ?_
  rintro t ⟨content, u, hfile, ⟨blocks, s, rfl, hs, rfl⟩, rfl⟩
  exact ⟨⟨_, hfile, hs.bytes⟩, hs.outside⟩

/-! ## The firmware -/

/-- The ranges of two segments do not overlap. -/
def Beside (a b : Segment) : Prop :=
  a.address.toNat + a.size.toNat ≤ b.address.toNat ∨
    b.address.toNat + b.size.toNat ≤ a.address.toNat

/-- The file has the declared size. -/
def ExactSize (seg : Segment) : Prop :=
  ∃ content, env.files seg.fileName = some content ∧ content.length = seg.size.toNat

/-- The range of the segment holds its file. -/
def Written (flash : Nat → UInt8) (seg : Segment) : Prop :=
  ∃ content, env.files seg.fileName = some content ∧ content.length = seg.size.toNat ∧
    bytesAt flash seg.address.toNat seg.size.toNat = content

theorem returns_segments {segments : List Segment} (hsegs : ∀ seg ∈ segments, InFlash seg)
    (hbeside : segments.Pairwise Beside) (hsize : ∀ seg ∈ segments, ExactSize env seg)
    (totalSize accum : UInt32) :
    Returns P (segments.foldlM (writeSegmentFromFile env totalSize) accum) fun _ t =>
      ∀ seg ∈ segments, Written env t.flash seg := by
  refine (Returns.foldlM (I := fun done _ s => ∀ seg ∈ done, Written env s.flash seg)
    segments ?_ accum).mono (fun _ _ _ h => absurd h List.not_mem_nil) fun _ _ h => h
  intro done seg rest accum hsplit s hs a t hrun
  have hmem : seg ∈ segments := by
    rw [hsplit]
    simp
  obtain ⟨⟨content, hfile, hbytes⟩, houtside⟩ :=
    returns_writeSegmentFromFile env (hsegs seg hmem) totalSize accum s rfl a t hrun
  obtain ⟨content', hfile', hlen⟩ := hsize seg hmem
  obtain rfl : content = content' := Option.some.inj (hfile.symm.trans hfile')
  rw [hsplit] at hbeside
  refine List.forall_mem_append.mpr ⟨fun seg' hdone => ?_, List.forall_mem_singleton.mpr ?_⟩
  · -- what has been written before lies beside the new segment
    obtain ⟨other, hother, hotherLen, hotherBytes⟩ := hs seg' hdone
    have hapart : Beside seg' seg :=
      (List.pairwise_append.mp hbeside).2.2 seg' hdone seg List.mem_cons_self
    refine ⟨other, hother, hotherLen, ?_⟩
    rw [houtside.bytesAt_eq hapart, hotherBytes]
  · exact ⟨content, hfile, hlen, by rw [← hlen, hbytes]⟩

theorem bytesAt_drop_take (flash : Nat → UInt8) {addr k m n : Nat} (h : k + m ≤ n) :
    ((bytesAt flash addr n).drop k).take m = bytesAt flash (addr + k) m := by
  obtain ⟨r, rfl⟩ : ∃ r, n = k + (m + r) := ⟨n - k - m, by omega⟩
  rw [bytesAt_add, bytesAt_add, List.drop_left' (length_bytesAt flash addr k),
    List.take_left' (length_bytesAt flash (addr + k) m)]

/-- The byte at `i` is part of the version in the UICR, which the file leaves erased, and the
version of `info.txt` has been written there. -/
structure VersionWritten (info : Info) (seg : Segment) (content : List UInt8) (i : Nat)
    (trace : List Event) : Prop where
  le : uicrFwVer.toNat ≤ seg.address.toNat + i
  lt : seg.address.toNat + i < uicrFwVer.toNat + 4
  erased : wordOfBytes ((content.drop (uicrFwVer.toNat - seg.address.toNat)).take 4) =
    erasedFlashDwordVal
  written : .writeFlash uicrFwVer (bytesOfWord info.fwVer) ∈ trace

/-- The range of the segment holds its file, the version in the UICR apart if the file leaves it
erased. -/
def HoldsFile (info : Info) (s : Sys) (seg : Segment) : Prop :=
  ∃ content, env.files seg.fileName = some content ∧ content.length = seg.size.toNat ∧
    ∀ i (h : i < content.length), s.flash (seg.address.toNat + i) = content[i] ∨
      VersionWritten info seg content i s.trace

theorem Written.getElem {seg : Segment} {content : List UInt8}
    (hbytes : bytesAt f seg.address.toNat seg.size.toNat = content) {i : Nat}
    (h : i < content.length) : f (seg.address.toNat + i) = content[i] := by
  subst hbytes
  exact (getElem_bytesAt f _ _ i h).symm

theorem Written.holdsFile {info : Info} {s : Sys} {seg : Segment}
    (h : Written env s.flash seg) : HoldsFile env info s seg := by
  obtain ⟨content, hfile, hlen, hbytes⟩ := h
  exact ⟨content, hfile, hlen, fun i hi => Or.inl (Written.getElem hbytes hi)⟩

/-- Writing the version over what is erased. -/
theorem Written.holdsFile_of_version {info : Info} {t : Sys} {seg : Segment} (hseg : InFlash seg)
    (h : Written env f seg)
    (herased : wordOfBytes (bytesAt f uicrFwVer.toNat 4) = erasedFlashDwordVal)
    (houtside : SameOutside uicrFwVer.toNat 4 f t.flash)
    (hevent : .writeFlash uicrFwVer (bytesOfWord info.fwVer) ∈ t.trace) :
    HoldsFile env info t seg := by
  obtain ⟨content, hfile, hlen, hbytes⟩ := h
  refine ⟨content, hfile, hlen, fun i hi => ?_⟩
  by_cases hword : uicrFwVer.toNat ≤ seg.address.toNat + i ∧
      seg.address.toNat + i < uicrFwVer.toNat + 4
  · refine Or.inr ⟨hword.1, hword.2, ?_, hevent⟩
    -- both are aligned, so the whole word lies in the segment
    have huicr : uicrFwVer.toNat = 0x10001080 := rfl
    have haddr := hseg.address_aligned
    have hsize := hseg.size_aligned
    have hinside : uicrFwVer.toNat - seg.address.toNat + 4 ≤ seg.size.toNat := by omega
    have hstart : seg.address.toNat + (uicrFwVer.toNat - seg.address.toNat) = uicrFwVer.toNat := by
      omega
    rw [← hbytes, bytesAt_drop_take f hinside, hstart, herased]
  · refine Or.inl ?_
    rw [houtside _ (by omega)]
    exact Written.getElem hbytes hi

/-- The firmware is in the flash. -/
def Updated (info : Info) (s : Sys) : Prop := ∀ seg ∈ info.segments, HoldsFile env info s seg

theorem calm_updated (info : Info) : Calm (Updated env info) := by
  refine ⟨fun _ _ h => h, fun _ _ h => h, fun s event _ h seg hseg => ?_⟩
  obtain ⟨content, hfile, hlen, hbytes⟩ := h seg hseg
  refine ⟨content, hfile, hlen, fun i hi => (hbytes i hi).imp_right fun hver => ?_⟩
  exact ⟨hver.le, hver.lt, hver.erased, List.mem_append_left _ hver.written⟩

theorem returns_readCurrentFwVer (hP : ∀ s, P s → P s.ticked) :
    Returns P (readCurrentFwVer env) fun fwVer t =>
      fwVer = wordOfBytes (bytesAt t.flash uicrFwVer.toNat 4) ∧ P t := by
  refine (returns_nrf52swdReadMem env uicrFwVer 1 hP).bind fun bytes => Returns.pure ?_
  rintro t ⟨rfl, ht⟩
  exact ⟨rfl, ht⟩

theorem returns_flashWriteFirmware {info : Info} (hsegs : ∀ seg ∈ info.segments, InFlash seg)
    (hbeside : info.segments.Pairwise Beside)
    (hsize : ∀ seg ∈ info.segments, ExactSize env seg) :
    Returns P (flashWriteFirmware env info) fun _ t => Updated env info t := by
  refine Returns.anything.bind fun _ =>
    (returns_segments env hsegs hbeside hsize _ 0).bind fun _ =>
      (returns_readCurrentFwVer env fun s hs => hs).bind fun fwVer => ?_
  refine Returns.ite (fun herased => ?_) fun _ => ?_
  · rintro s ⟨hver, hwritten⟩ a t hrun
    obtain ⟨houtside, hevent⟩ :=
      returns_nrf52swdWriteFlash env uicrFwVer (bytesOfWord info.fwVer) s rfl a t hrun
    exact fun seg hseg => (hwritten seg hseg).holdsFile_of_version env (hsegs seg hseg)
      (hver ▸ herased) houtside hevent
  · refine Returns.check.mono (fun _ h => h) ?_
    rintro - t ⟨-, -, hwritten⟩
    exact fun seg hseg => (hwritten seg hseg).holdsFile env

/-- A new version is returned only where the firmware is in the flash. -/
theorem returns_updateFwStep4 {info : Info} (hsegs : ∀ seg ∈ info.segments, InFlash seg)
    (hbeside : info.segments.Pairwise Beside)
    (hsize : ∀ seg ∈ info.segments, ExactSize env seg) (curFwVer : UInt32) :
    Returns P (updateFwStep4 env info curFwVer) fun _ t => Updated env info t := by
  have hcalm := calm_updated env info
  refine (returns_flashWriteFirmware env hsegs hbeside hsize).attempt.bind fun written => ?_
  refine Returns.ite (fun hsome => ?_) fun _ => ?_
  · obtain ⟨u, rfl⟩ := Option.isSome_iff_exists.mp hsome
    have hrest : Preserves (Updated env info) (do
        let fwVer ← attempt (readCurrentFwVer env)
        (if fwVer.isNone then setNrf52FwVer curFwVer else pure ())
        ofOption fwVer) :=
      (hcalm.readCurrentFwVer env).attempt.bind fun _ =>
        Preserves.bind (Preserves.ite (hcalm.setNrf52FwVer curFwVer) (Preserves.pure _)) fun _ =>
          Preserves.ofOption
    exact hrest.returns.mono (fun _ h => h u rfl) fun _ _ h => h
  · exact Returns.anything.bind fun _ => Returns.anything.bind fun _ => Returns.fail

end Nrf52Fw
end RuuviGateway
