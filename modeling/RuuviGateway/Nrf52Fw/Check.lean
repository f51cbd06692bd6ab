import RuuviGateway.Nrf52Fw.Model

/-!
# What the checks before an update establish

The parts of an update before it erases the flash do nothing to the flash (`Calm`), and where
they succeed each file has been read to its end: the loop over the CRC accepts no file that is
longer than its segment, and hashing accepts none that is shorter.
-/

namespace RuuviGateway
namespace Nrf52Fw

open Fallible Digests

variable (env : Env) {D : Type} [Digests D] {α : Type}

/-! ## Programs that leave the flash alone -/

/-- The invariant is about the flash and what is destructive. -/
structure Calm (I : Sys → Prop) : Prop where
  clock : ∀ s n, I s → I { s with clock := n }
  nrf52FwVer : ∀ s v, I s → I { s with nrf52FwVer := v }
  emit : ∀ s event, event.isDestructive = false → I s → I { s with trace := s.trace ++ [event] }

theorem Calm.and {I J : Sys → Prop} (hI : Calm I) (hJ : Calm J) : Calm fun s => I s ∧ J s :=
  ⟨fun s n h => ⟨hI.clock s n h.1, hJ.clock s n h.2⟩,
    fun s v h => ⟨hI.nrf52FwVer s v h.1, hJ.nrf52FwVer s v h.2⟩,
    fun s event he h => ⟨hI.emit s event he h.1, hJ.emit s event he h.2⟩⟩

section Preserved

variable {I : Sys → Prop} (hI : Calm I)

include hI

theorem Calm.next : Preserves I (next env) :=
  Preserves.get.bind fun s => (Preserves.modify fun s => hI.clock s _).bind fun _ =>
    Preserves.pure (env.choice s.clock)

theorem Calm.emitEvent {event : Event} (h : event.isDestructive = false) :
    Preserves I (Nrf52Fw.emit event) :=
  Preserves.modify fun s hs => hI.emit s event h hs

theorem Calm.call : Preserves I (call env) :=
  (hI.next env).bind fun _ => Preserves.check

theorem Calm.nrf52swdReadMem (addr : UInt32) (numWords : Nat) :
    Preserves I (nrf52swdReadMem env addr numWords) :=
  (hI.call env).bind fun _ => Preserves.get.bind fun _ => Preserves.pure _

theorem Calm.readCurrentFwVer : Preserves I (readCurrentFwVer env) :=
  (hI.nrf52swdReadMem env uicrFwVer 1).bind fun _ => Preserves.pure _

theorem Calm.setNrf52FwVer (v : UInt32) : Preserves I (setNrf52FwVer v) :=
  Preserves.modify fun s => hI.nrf52FwVer s v

theorem Calm.fileRead (rest : List UInt8) (bufSize : Nat) :
    Preserves I (fileRead env rest bufSize) :=
  (hI.next env).bind fun _ => Preserves.ite
    ((hI.emitEvent rfl).bind fun _ => Preserves.pure _)
    ((hI.emitEvent rfl).bind fun _ => Preserves.fail)

theorem Calm.withFile {use : List UInt8 → Fw α} (h : ∀ content, Preserves I (use content))
    (fileName : List Char) : Preserves I (withFile env fileName use) :=
  (hI.call env).bind fun _ => Preserves.ofOption.bind fun content =>
    (hI.emitEvent rfl).bind fun _ => (h content).attempt.bind fun _ =>
      (hI.emitEvent rfl).bind fun _ => Preserves.ofOption

theorem Calm.readLoop {body : α → List UInt8 → Fw α} (h : ∀ a data, Preserves I (body a data)) :
    ∀ fuel rest a, Preserves I (readLoop env body fuel rest a) := by
  intro fuel
  induction fuel with
  | zero => exact fun _ _ => Preserves.fail
  | succ fuel ih =>
    intro rest a
    exact (hI.fileRead env rest tmpBufSize).bind fun data =>
      Preserves.ite (Preserves.pure a) ((h a data).bind fun a' => ih (rest.drop data.length) a')

theorem Calm.checkFwSegmentCrc (seg : Segment) : Preserves I (checkFwSegmentCrc env D seg) := by
  have hbody : ∀ a data, Preserves I (calcSegmentCrcBlock D seg.size a data) := fun a data =>
    Preserves.check.bind fun _ => Preserves.check.bind fun _ => Preserves.pure _
  exact (hI.withFile env (fun content => hI.readLoop env hbody _ content _) seg.fileName).bind
    fun _ => Preserves.check

theorem Calm.checkFirmware (info : Info) : Preserves I (checkFirmware env D info) :=
  Preserves.foldlM (fun _ seg => hI.checkFwSegmentCrc env seg) info.segments ()

theorem Calm.updateSha256ForFd : ∀ fuel rest remLen hashed,
    Preserves I (updateSha256ForFd env fuel rest remLen hashed) := by
  intro fuel
  induction fuel with
  | zero => exact fun _ _ _ => Preserves.pure _
  | succ fuel ih =>
    intro rest remLen hashed
    exact Preserves.ite (Preserves.pure hashed) ((hI.fileRead env rest _).bind fun data =>
      Preserves.check.bind fun _ => (hI.call env).bind fun _ => ih _ _ _)

theorem Calm.updateSha256ForSegment (hashed : List UInt8) (seg : Segment) :
    Preserves I (updateSha256ForSegment env hashed seg) :=
  hI.withFile env (fun content => hI.updateSha256ForFd env _ content _ hashed) seg.fileName

theorem Calm.calcSha256 (info : Info) : Preserves I (calcSha256 env D info) :=
  (hI.call env).bind fun _ => (hI.call env).bind fun _ =>
    (Preserves.foldlM (hI.updateSha256ForSegment env) info.segments []).bind fun _ =>
      (hI.call env).bind fun _ => Preserves.pure _

theorem Calm.calcSha256DigestOnNrf52 (info : Info) :
    Preserves I (calcSha256DigestOnNrf52 env D info) :=
  (hI.call env).bind fun _ => Preserves.get.bind fun _ => Preserves.pure _

end Preserved

/-! ## Reading a file -/

/-- After the next answer. -/
def Sys.ticked (s : Sys) : Sys := { s with clock := s.clock + 1 }

/-- After an event. -/
def Sys.noted (s : Sys) (event : Event) : Sys := { s with trace := s.trace ++ [event] }

variable {P : Sys → Prop}

theorem returns_next : Returns P (next env) fun _ t => ∃ s, P s ∧ t = s.ticked := by
  refine Returns.get.bind fun s => ?_
  refine (Returns.modify (Q := fun _ t => ∃ s, P s ∧ t = s.ticked) ?_).bind fun _ =>
    Returns.pure fun t ht => ht
  rintro u ⟨-, hu⟩
  exact ⟨u, hu, rfl⟩

theorem returns_emit (event : Event) :
    Returns P (emit event) fun _ t => ∃ s, P s ∧ t = s.noted event :=
  Returns.modify fun s hs => ⟨s, hs, rfl⟩

theorem returns_call : Returns P (call env) fun _ t => ∃ s, P s ∧ t = s.ticked :=
  (returns_next env).bind fun _ => Returns.check.mono (fun _ h => h) fun _ _ h => h.2

/-- A read takes a piece of what is left, and nothing only at the end. -/
theorem returns_fileRead (rest : List UInt8) {bufSize : Nat} (hsize : 0 < bufSize) :
    Returns P (fileRead env rest bufSize) fun data t =>
      (data = rest.take data.length ∧ data.length ≤ bufSize ∧ (data = [] → rest = [])) ∧
        ∃ s, P s ∧ t = s.ticked.noted (.fileRead (some data)) := by
  refine (returns_next env).bind fun c => Returns.ite (fun _ => ?_) fun _ => ?_
  · refine (returns_emit _).bind fun _ => Returns.pure ?_
    rintro t ⟨u, ⟨s, hs, rfl⟩, rfl⟩
    refine ⟨⟨?_, ?_, ?_⟩, s, hs, rfl⟩
    · rw [List.length_take, ← List.take_eq_take_min]
    · rw [List.length_take]
      omega
    · intro hnil
      rcases List.take_eq_nil_iff.mp hnil with hzero | hrest
      · omega
      · exact hrest
  · exact (returns_emit _).bind fun _ => Returns.fail

/-- What holds where a file has been used and closed. -/
theorem returns_withFile {use : List UInt8 → Fw α} {Q : List UInt8 → α → Sys → Prop}
    (fileName : List Char)
    (h : ∀ content, env.files fileName = some content →
      Returns (fun t => ∃ s, P s ∧ t = s.ticked.noted (.opened fileName)) (use content)
        (Q content)) :
    Returns P (withFile env fileName use) fun a t =>
      ∃ content s, env.files fileName = some content ∧ Q content a s ∧ t = s.noted .closed := by
  refine (returns_call env).bind fun _ => ?_
  refine Returns.bind (Q := fun content t =>
      env.files fileName = some content ∧ ∃ s, P s ∧ t = s.ticked)
    (Returns.ofOption fun content hcontent t ht => ⟨hcontent, ht⟩) fun content => ?_
  refine Returns.assume fun hcontent => ?_
  refine ((returns_emit _).mono (fun _ h => h) fun _ t ht => ?_).bind fun _ =>
    (h content hcontent).attempt.bind fun res => (returns_emit _).bind fun _ =>
      Returns.ofOption ?_
  · obtain ⟨u, ⟨s, hs, rfl⟩, rfl⟩ := ht
    exact ⟨s, hs, rfl⟩
  · rintro a rfl t ⟨s, hs, rfl⟩
    exact ⟨content, s, hcontent, hs a rfl, rfl⟩

/-- The loop over a file, with what holds after the blocks read so far. -/
theorem returns_readFile {body : α → List UInt8 → Fw α}
    {I : List (List UInt8) → α → Sys → Prop} (content : List UInt8)
    (hbody : ∀ blocks data a, data ≠ [] → data.length ≤ tmpBufSize →
      (blocks ++ [data]).flatten <+: content →
      Returns (fun t => ∃ s, I blocks a s ∧ t = s.ticked.noted (.fileRead (some data)))
        (body a data) (I (blocks ++ [data]))) (a : α) :
    Returns (I [] a) (readFile env body a content) fun a t =>
      ∃ blocks s, blocks.flatten = content ∧ I blocks a s ∧
        t = s.ticked.noted (.fileRead (some [])) := by
  have hloop : ∀ fuel rest blocks a, blocks.flatten ++ rest = content →
      Returns (I blocks a) (readLoop env body fuel rest a) fun a t =>
        ∃ blocks s, blocks.flatten = content ∧ I blocks a s ∧
          t = s.ticked.noted (.fileRead (some [])) := by
    intro fuel
    induction fuel with
    | zero => exact fun _ _ _ _ => Returns.fail
    | succ fuel ih =>
      intro rest blocks a hcontent
      refine (returns_fileRead env rest (by decide)).bind fun data => Returns.assume ?_
      rintro ⟨htake, hlen, hend⟩
      refine Returns.ite (fun hnil => Returns.pure ?_) fun hne => ?_
      · rintro t ⟨s, hs, rfl⟩
        refine ⟨blocks, s, ?_, hs, by rw [hnil]⟩
        rw [← hcontent, hend hnil, List.append_nil]
      · have hsplit : data ++ rest.drop data.length = rest := by
          conv_rhs => rw [← List.take_append_drop data.length rest]
          rw [← htake]
        have hnext : (blocks ++ [data]).flatten ++ rest.drop data.length = content := by
          rw [List.flatten_append, List.flatten_singleton, List.append_assoc, hsplit, hcontent]
        have hprefix : (blocks ++ [data]).flatten <+: content :=
          hnext ▸ List.prefix_append _ _
        exact (hbody blocks data a hne hlen hprefix).bind fun a' =>
          ih (rest.drop data.length) (blocks ++ [data]) a' hnext
  exact hloop (content.length + 1) content [] a rfl

/-- More rounds than the file has bytes are never made: a larger bound gives the same run. -/
theorem readLoop_fuel (body : α → List UInt8 → Fw α) :
    ∀ fuel fuel' rest a s, rest.length < fuel → rest.length < fuel' →
      readLoop env body fuel rest a s = readLoop env body fuel' rest a s := by
  intro fuel
  induction fuel with
  | zero => exact fun _ _ _ _ h => absurd h (Nat.not_lt_zero _)
  | succ fuel ih =>
    intro fuel' rest a s hfuel hfuel'
    obtain ⟨k, rfl⟩ : ∃ k, fuel' = k + 1 := ⟨fuel' - 1, by omega⟩
    rcases hread : fileRead env rest tmpBufSize s with ⟨_ | data, t⟩
    · rw [readLoop, readLoop, run_bind_of_none hread, run_bind_of_none hread]
    · obtain ⟨⟨htake, -, hend⟩, -⟩ := returns_fileRead env rest (P := fun _ => True)
        (by decide) s trivial data t hread
      rw [readLoop, readLoop, run_bind_of_some hread, run_bind_of_some hread]
      by_cases hnil : data = []
      · rw [if_pos hnil, if_pos hnil]
      · rw [if_neg hnil, if_neg hnil]
        have hpos : 0 < data.length := List.length_pos_of_ne_nil hnil
        have hle : data.length ≤ rest.length := by
          have hlen := congrArg List.length htake
          rw [List.length_take] at hlen
          omega
        have hdrop : (rest.drop data.length).length < rest.length := by
          rw [List.length_drop]
          omega
        rcases hbody : body a data t with ⟨_ | a', u⟩
        · rw [run_bind_of_none hbody, run_bind_of_none hbody]
        · rw [run_bind_of_some hbody, run_bind_of_some hbody]
          exact ih k _ a' u (by omega) (by omega)

/-! ## The CRC of a segment -/

/-- A range of the flash or of the UICR, in words. -/
structure InFlash (seg : Segment) : Prop where
  address_aligned : seg.address.toNat % 4 = 0
  size_aligned : seg.size.toNat % 4 = 0
  end_le : seg.address.toNat + seg.size.toNat ≤ 0x10002000

theorem toNat_add_ofNat {a b : UInt32} {n : Nat} (ha : a.toNat ≤ b.toNat) (hn : n ≤ tmpBufSize)
    (hb : b.toNat ≤ 0x10002000) : (a + UInt32.ofNat n).toNat = a.toNat + n := by
  have hsize : tmpBufSize = 256 := rfl
  rw [UInt32.toNat_add, UInt32.toNat_ofNat', Nat.mod_eq_of_lt (a := n) (by omega),
    Nat.mod_eq_of_lt (by omega)]

/-- The trace of reading a file to its end in blocks. -/
def readTrace (fileName : List Char) (blocks : List (List UInt8)) : List Event :=
  .opened fileName :: (blocks.map fun data => .fileRead (some data)) ++
    [.fileRead (some []), .closed]

/-- The file has been read to its end, is not longer than its segment and has its CRC. -/
def CrcRead (D : Type) [Digests D] (seg : Segment) (trace : List Event) : Prop :=
  ∃ blocks : List (List UInt8), env.files seg.fileName = some blocks.flatten ∧
    readTrace seg.fileName blocks <:+: trace ∧ blocks.flatten.length ≤ seg.size.toNat ∧
    crc32Le D 0 blocks.flatten = seg.crc

/-- What has been read stays in the trace. -/
theorem CrcRead.mono {seg : Segment} {trace trace' : List Event} (h : CrcRead env D seg trace)
    (hle : trace <:+: trace') : CrcRead env D seg trace' := by
  obtain ⟨blocks, hfile, hread, hlen, hcrc⟩ := h
  exact ⟨blocks, hfile, hread.trans hle, hlen, hcrc⟩

theorem calm_crcRead (segments : List Segment) :
    Calm fun s => ∀ seg ∈ segments, CrcRead env D seg s.trace :=
  ⟨fun _ _ h => h, fun _ _ h => h, fun _ _ _ h seg hseg =>
    (h seg hseg).mono env (List.prefix_append _ _).isInfix⟩

/-- The loop over the CRC after some blocks. -/
structure CrcLoop (D : Type) [Digests D] (seg : Segment) (blocks : List (List UInt8))
    (a : UInt32 × UInt32) (s : Sys) : Prop where
  offset : a.1.toNat = blocks.flatten.length
  offset_le : a.1.toNat ≤ seg.size.toNat
  crc : a.2 = crc32Le D 0 blocks.flatten
  trace : .opened seg.fileName :: (blocks.map fun data => .fileRead (some data)) <:+ s.trace

theorem returns_checkFwSegmentCrc {seg : Segment} (hseg : InFlash seg) :
    Returns P (checkFwSegmentCrc env D seg) fun _ t => CrcRead env D seg t.trace := by
  have hsize : seg.size.toNat ≤ 0x10002000 := by
    have hend := hseg.end_le
    omega
  have hbody : ∀ blocks data a, data ≠ [] → data.length ≤ tmpBufSize →
      Returns (fun t => ∃ s, CrcLoop D seg blocks a s ∧
          t = s.ticked.noted (.fileRead (some data)))
        (calcSegmentCrcBlock D seg.size a data) (CrcLoop D seg (blocks ++ [data])) := by
    intro blocks data a _ hdata
    refine Returns.check.bind fun _ => Returns.assume fun _ => Returns.check.bind fun _ =>
      Returns.assume fun hle => Returns.pure ?_
    rintro t ⟨s, hs, rfl⟩
    have hadd := toNat_add_ofNat hs.offset_le hdata hsize
    refine ⟨?_, hle, ?_, ?_⟩
    · rw [hadd, hs.offset, List.flatten_append, List.length_append, List.flatten_singleton]
    · rw [List.flatten_append, List.flatten_singleton, crc32Le_append, ← hs.crc]
    · rw [List.map_append, ← List.cons_append]
      exact List.suffix_append_self_iff.mpr hs.trace
  have huse : ∀ content, env.files seg.fileName = some content →
      Returns (fun t => ∃ s, P s ∧ t = s.ticked.noted (.opened seg.fileName))
        (readFile env (calcSegmentCrcBlock D seg.size) (0, 0) content)
        fun a t => ∃ blocks s, blocks.flatten = content ∧ CrcLoop D seg blocks a s ∧
          t = s.ticked.noted (.fileRead (some [])) := by
    intro content _
    refine (returns_readFile env content (fun blocks data a hne hdata _ =>
      hbody blocks data a hne hdata) (0, 0)).mono ?_ fun _ _ h => h
    rintro t ⟨s, -, rfl⟩
    exact ⟨rfl, Nat.zero_le _, (crc32Le_nil 0).symm, List.suffix_append _ _⟩
  refine (returns_withFile env seg.fileName huse).bind fun a =>
    Returns.check.mono (fun _ h => h) ?_
  rintro - t ⟨hcrc, content, u, hfile, ⟨blocks, s, rfl, hs, rfl⟩, rfl⟩
  refine ⟨blocks, hfile, ?_, hs.offset ▸ hs.offset_le, hs.crc ▸ hcrc.symm⟩
  show readTrace seg.fileName blocks <:+: (s.trace ++ [_]) ++ [_]
  rw [List.append_assoc]
  exact (List.suffix_append_self_iff.mpr hs.trace).isInfix

/-- All files have been read to their end. -/
theorem returns_checkFirmware {info : Info} (hsegs : ∀ seg ∈ info.segments, InFlash seg) :
    Returns P (checkFirmware env D info) fun _ t =>
      ∀ seg ∈ info.segments, CrcRead env D seg t.trace := by
  refine (Returns.foldlM (I := fun done _ s => ∀ seg ∈ done, CrcRead env D seg s.trace)
    info.segments ?_ ()).mono (fun _ _ _ h => absurd h List.not_mem_nil) fun _ _ h => h
  intro done seg rest _ hsplit
  have hseg : InFlash seg := hsegs seg (by rw [hsplit]; simp)
  refine (((calm_crcRead env done).checkFwSegmentCrc env seg).returns.and
    (returns_checkFwSegmentCrc env hseg)).mono (fun _ h => h) ?_
  rintro - t ⟨hdone, hone⟩
  exact List.forall_mem_append.mpr ⟨hdone, List.forall_mem_singleton.mpr hone⟩

/-! ## The hashes of the files -/

/-- Hashing takes exactly the bytes of the segment from its file, which has as many. -/
theorem returns_updateSha256ForFd : ∀ fuel rest remLen hashed, remLen ≤ fuel →
    Returns P (updateSha256ForFd env fuel rest remLen hashed) fun a _ =>
      a = hashed ++ rest.take remLen ∧ remLen ≤ rest.length := by
  intro fuel
  induction fuel generalizing P with
  | zero =>
    intro rest remLen hashed hle
    obtain rfl : remLen = 0 := by omega
    exact Returns.pure fun _ _ => ⟨by simp, Nat.zero_le _⟩
  | succ fuel ih =>
    intro rest remLen hashed hle
    refine Returns.ite (fun hzero => Returns.pure fun _ _ => ?_) fun hpos => ?_
    · subst hzero
      exact ⟨by simp, Nat.zero_le _⟩
    · have hsize : 0 < min remLen tmpBufSize := by
        have : tmpBufSize = 256 := rfl
        omega
      refine (returns_fileRead env rest hsize).bind fun data => Returns.assume ?_
      rintro ⟨htake, -, -⟩
      refine Returns.check.bind fun _ => Returns.assume fun hlen =>
        (returns_call env).bind fun _ =>
          (ih (rest.drop data.length) (remLen - data.length) (hashed ++ data)
            (by omega)).mono (fun _ h => h) ?_
      rintro a - ⟨rfl, hle'⟩
      rw [List.length_drop] at hle'
      have hdata : data.length ≤ rest.length := by
        have hl := congrArg List.length htake
        rw [List.length_take] at hl
        omega
      refine ⟨?_, by omega⟩
      rw [List.append_assoc]
      congr 1
      conv_rhs => rw [show remLen = data.length + (remLen - data.length) by omega,
        List.take_add, ← htake]

/-- The contents of the files of the segments, one after the other. -/
def fileBytes (segments : List Segment) : List UInt8 :=
  segments.flatMap fun seg => (env.files seg.fileName).getD []

/-- The file has at least the bytes of the segment. -/
def LongEnough (seg : Segment) : Prop :=
  ∃ content, env.files seg.fileName = some content ∧ seg.size.toNat ≤ content.length

theorem returns_updateSha256ForSegment (hashed : List UInt8) (seg : Segment) :
    Returns P (updateSha256ForSegment env hashed seg) fun a _ =>
      a = hashed ++ ((env.files seg.fileName).getD []).take seg.size.toNat ∧
        LongEnough env seg := by
  refine (returns_withFile env seg.fileName fun content _ =>
    returns_updateSha256ForFd env _ content _ hashed (Nat.le_refl _)).mono (fun _ h => h) ?_
  rintro a t ⟨content, s, hfile, ⟨rfl, hle⟩, -⟩
  exact ⟨by rw [hfile]; rfl, content, hfile, hle⟩

/-- The first bytes of the files have been hashed, and they were all there. -/
structure Hashed (segments : List Segment) (hashed : List UInt8) : Prop where
  eq : hashed = segments.flatMap fun seg =>
    ((env.files seg.fileName).getD []).take seg.size.toNat
  longEnough : ∀ seg ∈ segments, LongEnough env seg

theorem returns_calcSha256 (info : Info) : Returns P (calcSha256 env D info) fun digest _ =>
    ∃ hashed, digest = sha256 hashed ∧ Hashed env info.segments hashed := by
  have hstep : ∀ done seg rest hashed, info.segments = done ++ seg :: rest →
      Returns (fun (_ : Sys) => Hashed env done hashed) (updateSha256ForSegment env hashed seg)
        fun a _ => Hashed env (done ++ [seg]) a := by
    intro done seg rest hashed _
    refine Returns.given fun hdone =>
      (returns_updateSha256ForSegment env hashed seg).mono (fun _ h => h) ?_
    rintro a - ⟨rfl, hlong⟩
    refine ⟨by rw [hdone.eq, List.flatMap_append, List.flatMap_singleton], ?_⟩
    exact List.forall_mem_append.mpr ⟨hdone.longEnough, List.forall_mem_singleton.mpr hlong⟩
  have hloop := Returns.foldlM (I := fun done hashed (_ : Sys) => Hashed env done hashed)
    info.segments hstep []
  refine (returns_call env).bind fun _ => (returns_call env).bind fun _ =>
    (hloop.mono (fun _ _ => ⟨rfl, fun _ h => absurd h List.not_mem_nil⟩) fun _ _ h => h).bind
      fun hashed => Returns.given fun hhashed => ?_
  exact (returns_call env).bind fun _ => Returns.pure fun _ _ => ⟨hashed, rfl, hhashed⟩

/-- Checked by its CRC and long enough, a file is exactly as long as its segment. -/
theorem CrcRead.length_eq {seg : Segment} {trace : List Event} (h : CrcRead env D seg trace)
    (hlong : LongEnough env seg) : ∃ content, env.files seg.fileName = some content ∧
      content.length = seg.size.toNat := by
  obtain ⟨blocks, hfile, -, hle, -⟩ := h
  obtain ⟨content, hcontent, hge⟩ := hlong
  obtain rfl : blocks.flatten = content := Option.some.inj (hfile.symm.trans hcontent)
  exact ⟨_, hfile, by omega⟩

end Nrf52Fw
end RuuviGateway
