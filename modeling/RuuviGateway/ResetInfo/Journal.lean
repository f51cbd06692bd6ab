import RuuviGateway.ResetInfo.Model

/-!
# The journal that the record keeps

What the record is for is a journal: how many times the gateway has started since its memory was
last lost, and the last cause of a reset that was noted.  The record keeps it through all runs in
which memory that has lost its contents fails the CRC.

The journal shows two things that a reader of the reports has to know.  A start does not end a
cause: until another one is noted, every further reset is reported as the last one that was.  And
a report that was received takes the message away and leaves the cause.
-/

namespace RuuviGateway
namespace ResetInfo

open CString StrBuf TransitionSystem

/-! ## The journal -/

/-- The cause of a reset. -/
inductive Cause where
  | none
  | software (msg : List Char)
  | panic (msg : List Char)
  | taskWdt (taskName activeTask : List Char)
  deriving DecidableEq

/-- The message of a cause that has one. -/
def Cause.withMsg (msg : List Char) : Cause → Cause
  | .none => .none
  | .software _ => .software msg
  | .panic _ => .panic msg
  | .taskWdt taskName activeTask => .taskWdt taskName activeTask

/-- What is reported of a cause. -/
def Cause.report : Cause → List Char
  | .none => []
  | .software msg => "Reset by software: ".toList ++ msg
  | .panic msg => "Reset by panic: ".toList ++ msg
  | .taskWdt taskName activeTask =>
      "Reset by task wdt: ".toList ++ taskName ++ " (active task: ".toList ++ activeTask ++
        ")".toList

/-- The starts since memory was lost, the last cause that was noted, and what panic handlers have
printed since the program started or the last cause began. -/
structure Journal where
  boots : Nat
  cause : Cause
  printed : List Char
  deriving DecidableEq

/-- The journal of a gateway that has started for the first time. -/
def Journal.first : Journal := ⟨1, .none, []⟩

/-- What is noted. -/
inductive Event where
  | boot (lost : Bool)
  | software (msg : List Char)
  | received
  | taskWdt (taskName activeTask : List Char)
  | panic (isFirst : Bool)
  | printed (c : Char)
  | restart

/-- How an event is noted. -/
def Journal.next (j : Journal) : Event → Journal
  | .boot lost => if lost then .first else { j with boots := j.boots + 1, printed := [] }
  | .software msg => { j with cause := .software (written softwareMsgLen msg), printed := [] }
  | .received => { j with cause := j.cause.withMsg [] }
  | .taskWdt taskName activeTask =>
      { j with
        cause := .taskWdt (written maxTaskNameLen taskName) (written maxTaskNameLen activeTask) }
  | .panic isFirst => if isFirst then { j with cause := .panic [], printed := [] } else j
  | .printed c =>
      { j with
        cause := j.cause.withMsg (written panicMsgLen (j.printed ++ [c]))
        printed := j.printed ++ [c] }
  | .restart => j

variable {S : Type} (crc32 : Info → UInt32) (P : PanicBuf S)

/-- The event that a step is. -/
def Label.event (s : State S) : Label → Event
  | .boot found => .boot (!resetInfoIsValid crc32 (found.getD s.rtc))
  | .setSw msg => .software msg
  | .clearExtraInfo => .received
  | .taskWdtIsr taskName activeTask => .taskWdt taskName activeTask
  | .panic hintUnknown => .panic hintUnknown
  | .printChar c => .printed c
  | .panicRestart => .restart

/-- The record, and the journal that is kept beside it. -/
structure Recorded (S : Type) where
  state : State S
  journal : Journal

/-- The gateway from the first start on. -/
def recordSystem : System (Recorded S) Label where
  init r := ∃ rtc, resetInfoIsValid crc32 rtc = false ∧ r = ⟨boot crc32 P rtc, .first⟩
  step r l := (step crc32 P r.state l).map fun s => ⟨s, r.journal.next (l.event crc32 r.state)⟩

/-- Memory that has lost its contents fails the CRC or one of the other checks. -/
def LossIsSeen (_ : Recorded S) : Label → Prop
  | .boot (some rtc) => resetInfoIsValid crc32 rtc = false
  | _ => True

instance (r : Recorded S) : (l : Label) → Decidable (LossIsSeen crc32 r l)
  | .boot (some rtc) => inferInstanceAs (Decidable (resetInfoIsValid crc32 rtc = false))
  | .boot none => isTrue trivial
  | .setSw _ | .clearExtraInfo | .taskWdtIsr _ _ | .panic _ | .printChar _ | .panicRestart =>
      isTrue trivial

/-! ## What the record keeps -/

/-- The record names the cause. -/
def Info.Names (info : Info) : Cause → Prop
  | .none => info.resetReason = Reason.other.code
  | .software msg => info.resetReason = Reason.sw.code ∧ info.data.read 0 = msg
  | .panic msg => info.resetReason = Reason.panic.code ∧ info.data.read 0 = msg
  | .taskWdt taskName activeTask => info.resetReason = Reason.taskWdt.code ∧
      info.taskName.read 0 = taskName ∧ info.activeTask.read 0 = activeTask

/-- The fields that `reset_info_is_valid` looks at, the CRC apart. -/
structure Info.WellFormed (info : Info) : Prop where
  signatureBegin : info.signatureBegin = signature
  signatureEnd : info.signatureEnd = ~~~signature
  versionFmt : info.versionFmt = ResetInfo.versionFmt
  len : info.len = infoSize

/-- The record keeps the journal. -/
structure Keeps (text : S → List Char) (s : State S) (j : Journal) : Prop where
  wellFormed : s.rtc.info.WellFormed
  resetCnt : s.rtc.info.resetCnt = UInt32.ofNat j.boots
  names : s.rtc.info.Names j.cause
  /-- Outside the panic handler the CRC belongs to the record. -/
  sealed : s.phase ≠ .panicking → s.rtc.crc = crc32 s.rtc.info
  text_strBuf : text s.strBuf = j.printed
  /-- What has been printed is in memory. -/
  read_data : j.printed = [] ∨ s.rtc.info.data.read 0 = written panicMsgLen j.printed
  quiet : s.phase = .running → j.printed = []

@[simp] theorem Cause.withMsg_withMsg (msg msg' : List Char) (cause : Cause) :
    (cause.withMsg msg).withMsg msg' = cause.withMsg msg' := by
  cases cause <;> rfl

variable {crc32 P} {text : S → List Char} {s : State S} {j : Journal} {rtc : Rtc}

theorem Info.WellFormed.valid {info : Info} (h : info.WellFormed) :
    resetInfoIsValid crc32 (withCrc crc32 info) = true := by
  simp [resetInfoIsValid, withCrc, h.signatureBegin, h.signatureEnd, h.versionFmt, h.len]

/-- Another message in the memory. -/
theorem Info.Names.withData {info : Info} {cause : Cause} (h : info.Names cause)
    {data : Mem panicMsgLen} {msg : List Char} (hdata : data.read 0 = msg) :
    Info.Names { info with data := data } (cause.withMsg msg) := by
  cases cause with
  | none => exact h
  | software _ => exact ⟨h.1, hdata⟩
  | panic _ => exact ⟨h.1, hdata⟩
  | taskWdt _ _ => exact h

/-! ## One step -/

theorem panicking_ne_running : Phase.panicking ≠ .running := by decide

theorem restarting_ne_running : Phase.restarting ≠ .running := by decide

theorem keeps_first (hP : P.Lawful text) (h : resetInfoIsValid crc32 rtc = false) :
    Keeps crc32 text (boot crc32 P rtc) .first := by
  have hinit : resetInfoInit crc32 rtc = withCrc crc32
      { (resetInfoClear crc32 rtc).info with
        resetCnt := (resetInfoClear crc32 rtc).info.resetCnt + 1 } := by
    simp only [resetInfoInit, h, Bool.false_eq_true, if_false]
  have hrtc : (boot crc32 P rtc : State S).rtc = resetInfoInit crc32 rtc := rfl
  refine ⟨?_, ?_, ?_, fun _ => ?_, hP.text_init, .inl rfl, fun _ => rfl⟩
  all_goals rw [hrtc, hinit]
  · exact ⟨rfl, rfl, rfl, rfl⟩
  · rfl
  · rfl
  · rfl

theorem Keeps.boot_valid (hP : P.Lawful text) (h : Keeps crc32 text s j)
    (hvalid : resetInfoIsValid crc32 s.rtc = true) :
    Keeps crc32 text (boot crc32 P s.rtc) { j with boots := j.boots + 1, printed := [] } := by
  have hinit : resetInfoInit crc32 s.rtc =
      withCrc crc32 { s.rtc.info with resetCnt := s.rtc.info.resetCnt + 1 } := by
    simp only [resetInfoInit, hvalid, if_true]
  have hrtc : (boot crc32 P s.rtc : State S).rtc = resetInfoInit crc32 s.rtc := rfl
  refine ⟨?_, ?_, ?_, fun _ => ?_, hP.text_init, .inl rfl, fun _ => rfl⟩
  all_goals rw [hrtc, hinit]
  · exact ⟨h.wellFormed.signatureBegin, h.wellFormed.signatureEnd, h.wellFormed.versionFmt,
      h.wellFormed.len⟩
  · simp [withCrc, h.resetCnt]
  · exact h.names
  · rfl

theorem Keeps.setSw (hP : P.Lawful text) (h : Keeps crc32 text s j) (msg : List Char) :
    Keeps crc32 text { s with rtc := resetInfoSetSw crc32 s.rtc msg, strBuf := P.init }
      (j.next (.software msg)) where
  wellFormed := ⟨h.wellFormed.signatureBegin, h.wellFormed.signatureEnd, h.wellFormed.versionFmt,
    h.wellFormed.len⟩
  resetCnt := h.resetCnt
  names := ⟨rfl, Mem.read_write_self _ softwareMsg_fits msg⟩
  sealed _ := rfl
  text_strBuf := hP.text_init
  read_data := .inl rfl
  quiet _ := rfl

theorem Keeps.clearExtraInfo (h : Keeps crc32 text s j) (hphase : s.phase = .running) :
    Keeps crc32 text { s with rtc := resetInfoClearExtraInfo crc32 s.rtc } (j.next .received) where
  wellFormed := ⟨h.wellFormed.signatureBegin, h.wellFormed.signatureEnd, h.wellFormed.versionFmt,
    h.wellFormed.len⟩
  resetCnt := h.resetCnt
  names := h.names.withData (Mem.read_zero 0)
  sealed _ := rfl
  text_strBuf := h.text_strBuf
  read_data := .inl (h.quiet hphase)
  quiet := h.quiet

theorem Keeps.taskWdtIsr (h : Keeps crc32 text s j) (taskName activeTask : List Char) :
    Keeps crc32 text
      { s with rtc := espTaskWdtIsrUserHandler crc32 s.rtc taskName activeTask }
      (j.next (.taskWdt taskName activeTask)) where
  wellFormed := ⟨h.wellFormed.signatureBegin, h.wellFormed.signatureEnd, h.wellFormed.versionFmt,
    h.wellFormed.len⟩
  resetCnt := h.resetCnt
  names := ⟨rfl, Mem.read_write_self _ taskName_fits taskName,
    Mem.read_write_self _ taskName_fits activeTask⟩
  sealed _ := rfl
  text_strBuf := h.text_strBuf
  read_data := h.read_data
  quiet := h.quiet

/-- A panic that is the first one begins a cause of its own. -/
theorem Keeps.panic (hP : P.Lawful text) (h : Keeps crc32 text s j) (hintUnknown : Bool) :
    Keeps crc32 text { wrapEspPanicHandler P hintUnknown s with phase := .panicking }
      (j.next (.panic hintUnknown)) := by
  cases hintUnknown with
  | false =>
    exact ⟨h.wellFormed, h.resetCnt, h.names, fun hp => absurd rfl hp, h.text_strBuf, h.read_data,
      fun hp => absurd hp panicking_ne_running⟩
  | true =>
    have hread := hP.read_printf P.init s.rtc.info.data [] (.inl hP.text_init)
    have htext := hP.text_printf P.init s.rtc.info.data []
    rw [hP.text_init] at hread htext
    exact
      { wellFormed := ⟨h.wellFormed.signatureBegin, h.wellFormed.signatureEnd,
          h.wellFormed.versionFmt, h.wellFormed.len⟩
        resetCnt := h.resetCnt
        names := ⟨rfl, hread⟩
        sealed := fun hp => absurd rfl hp
        text_strBuf := htext
        read_data := .inl rfl
        quiet := fun hp => absurd hp panicking_ne_running }

theorem Keeps.printChar (hP : P.Lawful text) (h : Keeps crc32 text s j)
    (hphase : s.phase = .panicking) (c : Char) :
    Keeps crc32 text (s.print P [c]) (j.next (.printed c)) := by
  have hread := hP.read_printf s.strBuf s.rtc.info.data [c]
    (h.text_strBuf ▸ h.read_data)
  have htext := hP.text_printf s.strBuf s.rtc.info.data [c]
  rw [h.text_strBuf] at hread htext
  exact
    { wellFormed := ⟨h.wellFormed.signatureBegin, h.wellFormed.signatureEnd,
        h.wellFormed.versionFmt, h.wellFormed.len⟩
      resetCnt := h.resetCnt
      names := h.names.withData hread
      sealed := fun hp => absurd hphase hp
      text_strBuf := htext
      read_data := .inr hread
      quiet := fun hp => absurd (hphase.symm.trans hp) panicking_ne_running }

theorem Keeps.panicRestart (h : Keeps crc32 text s j) :
    Keeps crc32 text { wrapPanicRestart crc32 s with phase := .restarting } (j.next .restart) where
  wellFormed := h.wellFormed
  resetCnt := h.resetCnt
  names := h.names
  sealed _ := rfl
  text_strBuf := h.text_strBuf
  read_data := h.read_data
  quiet hp := absurd hp restarting_ne_running

/-- Every step is noted. -/
theorem Keeps.step (hP : P.Lawful text) {t : State S} {l : Label} (h : Keeps crc32 text s j)
    (hloss : LossIsSeen crc32 ⟨s, j⟩ l) (hstep : step crc32 P s l = some t) :
    Keeps crc32 text t (j.next (l.event crc32 s)) := by
  cases l with
  | boot found =>
    obtain rfl := Option.some.inj hstep
    cases found with
    | none =>
      cases hvalid : resetInfoIsValid crc32 s.rtc with
      | true =>
        have hboot := h.boot_valid hP hvalid
        simpa [Label.event, Journal.next, hvalid] using hboot
      | false =>
        have hboot := keeps_first hP hvalid
        simpa [Label.event, Journal.next, hvalid] using hboot
    | some rtc =>
      have hvalid : resetInfoIsValid crc32 rtc = false := hloss
      have hboot := keeps_first hP hvalid
      simpa [Label.event, Journal.next, hvalid] using hboot
  | setSw msg =>
    obtain ⟨-, hstep⟩ := Option.ite_none_right_eq_some.mp hstep
    obtain rfl := Option.some.inj hstep
    exact h.setSw hP msg
  | clearExtraInfo =>
    obtain ⟨hphase, hstep⟩ := Option.ite_none_right_eq_some.mp hstep
    obtain rfl := Option.some.inj hstep
    exact h.clearExtraInfo hphase
  | taskWdtIsr taskName activeTask =>
    obtain ⟨-, hstep⟩ := Option.ite_none_right_eq_some.mp hstep
    obtain rfl := Option.some.inj hstep
    exact h.taskWdtIsr taskName activeTask
  | panic hintUnknown =>
    obtain ⟨-, hstep⟩ := Option.ite_none_right_eq_some.mp hstep
    obtain rfl := Option.some.inj hstep
    exact h.panic hP hintUnknown
  | printChar c =>
    obtain ⟨hphase, hstep⟩ := Option.ite_none_right_eq_some.mp hstep
    obtain rfl := Option.some.inj hstep
    exact h.printChar hP hphase c
  | panicRestart =>
    obtain ⟨-, hstep⟩ := Option.ite_none_right_eq_some.mp hstep
    obtain rfl := Option.some.inj hstep
    exact h.panicRestart

/-! ## Runs -/

theorem keeps_of_reachable (hP : P.Lawful text) {r : Recorded S}
    (h : (recordSystem crc32 P).ReachableVia (LossIsSeen crc32) r) :
    Keeps crc32 text r.state r.journal := by
  refine h.invariant (P := fun r => Keeps crc32 text r.state r.journal) ?_ ?_
  · rintro r ⟨rtc, hinvalid, rfl⟩
    exact keeps_first hP hinvalid
  · rintro r l r' - hkeeps hloss hstep
    obtain ⟨t, ht, rfl⟩ := Option.map_eq_some_iff.mp hstep
    exact hkeeps.step hP hloss ht

theorem code_ne {a b : Reason} (h : a ≠ b) : a.code ≠ b.code := by
  cases a <;> cases b <;> first | exact absurd rfl h | decide

theorem genStrBufText_of_names {info : Info} {cause : Cause} (h : info.Names cause) :
    genStrBufText info = some cause.report := by
  unfold genStrBufText
  cases cause with
  | none =>
    have hreason : info.resetReason = Reason.other.code := h
    rw [hreason, if_neg (code_ne (by decide)), if_neg (code_ne (by decide)),
      if_neg (code_ne (by decide)), if_pos rfl]
    rfl
  | software msg =>
    obtain ⟨hreason, rfl⟩ := h
    rw [if_pos hreason]
    rfl
  | panic msg =>
    obtain ⟨hreason, rfl⟩ := h
    rw [hreason, if_neg (code_ne (by decide)), if_pos rfl]
    rfl
  | taskWdt taskName activeTask =>
    obtain ⟨hreason, rfl, rfl⟩ := h
    rw [hreason, if_neg (code_ne (by decide)), if_neg (code_ne (by decide)), if_pos rfl]
    rfl

/-- **What the reports say in every run**: the number of starts since memory was lost, and the
cause in the journal. -/
theorem resetInfoGet_of_reachable {B : Type} {A : Api B} {view : B → View} (hA : A.Lawful view)
    (hP : P.Lawful text) {r : Recorded S}
    (h : (recordSystem crc32 P).ReachableVia (LossIsSeen crc32) r) :
    resetInfoGetCnt r.state.rtc = UInt32.ofNat r.journal.boots ∧
      ∃ e, resetInfoGet A true r.state.rtc = some e ∧
        view e = .holding (r.journal.cause.report.length + 1) (bytes r.journal.cause.report) := by
  have hkeeps := keeps_of_reachable hP h
  refine ⟨hkeeps.resetCnt, ?_⟩
  have hgen : resetInfoGenStrBuf A r.state.rtc.info =
      fun d => A.printf d (bytes r.journal.cause.report) := by
    funext d
    rw [resetInfoGenStrBuf, genStrBufText_of_names hkeeps.names]
  obtain ⟨e, he, -, hview⟩ := (hA.prints (bytes r.journal.cause.report)).alloc hA
  refine ⟨A.printf e (bytes r.journal.cause.report), ?_, ?_⟩
  · rw [resetInfoGet, hgen, he, Option.map_some]
  · rw [hview, length_bytes]

/-- A string buffer that writes all of its text again. -/
def simpleBuf : PanicBuf (List Char) where
  init := []
  printf s m t := (s ++ t, m.write 0 panicMsgLen panicMsg_fits (s ++ t))

theorem lawful_simpleBuf : simpleBuf.Lawful id where
  text_init := rfl
  text_printf _ _ _ := rfl
  read_printf _ m _ _ := Mem.read_write_self m panicMsg_fits _

/-- A checksum of one field. -/
def countCrc (info : Info) : UInt32 := info.resetCnt + 1

/-- Zeroes, which no checksum of this kind accepts. -/
def zeroedRtc : Rtc :=
  ⟨⟨0, 0, 0, 0, 0, Mem.zero _, Mem.zero _, Mem.zero _, 0⟩, 0⟩

theorem zeroedRtc_invalid : resetInfoIsValid countCrc zeroedRtc = false := by decide

/-- After a panic that has printed two characters. -/
theorem resetInfoGet_after_panic :
    ∃ r, (recordSystem countCrc simpleBuf).ReachableVia (LossIsSeen countCrc) r ∧
      resetInfoGetCnt r.state.rtc = 2 ∧
      resetInfoGet viewApi true r.state.rtc =
        some (.holding 19 (bytes "Reset by panic: ab".toList)) := by
  obtain ⟨r, hr, hp⟩ := System.exists_reachableVia_of_run (C := LossIsSeen countCrc)
    (S := recordSystem countCrc simpleBuf) ⟨zeroedRtc, zeroedRtc_invalid, rfl⟩
    [.panic true, .printChar 'a', .printChar 'b', .panicRestart, .boot none]
    (fun r => decide (r.journal = ⟨2, .panic ['a', 'b'], []⟩)) (by decide +kernel)
  obtain ⟨hcnt, e, he, hview⟩ := resetInfoGet_of_reachable lawful_viewApi lawful_simpleBuf hr
  rw [of_decide_eq_true hp] at hcnt hview
  exact ⟨r, hr, hcnt, he.trans (congrArg some hview)⟩

/-! ## Resets without a cause of their own -/

/-- The CRC belongs to the record, and so a reset keeps it. -/
theorem Keeps.valid (h : Keeps crc32 text s j) (hphase : s.phase ≠ .panicking) :
    resetInfoIsValid crc32 s.rtc = true := by
  have hrtc : s.rtc = withCrc crc32 s.rtc.info := congrArg (Rtc.mk s.rtc.info) (h.sealed hphase)
  rw [hrtc]
  exact h.wellFormed.valid

/-- A reset that keeps the memory, or a report that was received. -/
inductive Label.Quiet : Label → Prop where
  | boot : Label.Quiet (.boot none)
  | received : Label.Quiet .clearExtraInfo

/-- The steps among `l` that are a start. -/
def starts (l : List Label) : Nat :=
  l.countP fun
    | .boot _ => true
    | _ => false

/-- Whether a report has been received. -/
def received (l : List Label) : Bool :=
  l.any fun
    | .clearExtraInfo => true
    | _ => false

/-- **A cause is reported until another one is noted.**  After any resets that keep the memory it
is still the cause of the last one, and without its message just if a report was received. -/
theorem cause_of_quiet_run (hP : P.Lawful text) {r r' : Recorded S} {l : List Label}
    (h : (recordSystem crc32 P).ReachableVia (LossIsSeen crc32) r)
    (hphase : r.state.phase = .running) (hl : ∀ x ∈ l, x.Quiet)
    (hrun : (recordSystem crc32 P).run r l = some r') :
    r'.journal.boots = r.journal.boots + starts l ∧
      r'.journal.cause =
        if received l then r.journal.cause.withMsg [] else r.journal.cause := by
  induction l generalizing r with
  | nil =>
    obtain rfl := Option.some.inj hrun
    exact ⟨rfl, rfl⟩
  | cons x l ih =>
    obtain ⟨u, hu, hrest⟩ := Option.bind_eq_some_iff.mp hrun
    have hrest' := fun y hy => hl y (List.mem_cons_of_mem x hy)
    obtain ⟨t, ht, rfl⟩ := Option.map_eq_some_iff.mp hu
    cases hl x List.mem_cons_self with
    | boot =>
      have hvalid := (keeps_of_reachable hP h).valid fun hp =>
        panicking_ne_running (hp.symm.trans hphase)
      obtain rfl := Option.some.inj ht
      have hcare : LossIsSeen crc32 r (.boot none) := trivial
      obtain ⟨hboots, hcause⟩ := ih (h.step hcare hu) rfl hrest' hrest
      rw [hboots, hcause]
      simp [Label.event, Journal.next, hvalid, starts, received]
      omega
    | received =>
      obtain ⟨-, ht⟩ := Option.ite_none_right_eq_some.mp ht
      obtain rfl := Option.some.inj ht
      have hcare : LossIsSeen crc32 r .clearExtraInfo := trivial
      obtain ⟨hboots, hcause⟩ := ih (h.step hcare hu) hphase hrest' hrest
      rw [hboots, hcause]
      simp [Label.event, Journal.next, starts, received]

/-- A restart for want of memory is reported, and after two more resets still, without its
message. -/
theorem cause_of_low_memory :
    ∃ r, (recordSystem countCrc simpleBuf).ReachableVia (LossIsSeen countCrc) r ∧
      r.journal.cause = .software "Low memory".toList ∧
      ∃ r', (recordSystem countCrc simpleBuf).run r
          [.boot none, .clearExtraInfo, .boot none, .boot none] = some r' ∧
        r'.journal.boots = 4 ∧ r'.journal.cause = .software [] := by
  obtain ⟨r, hr, hp⟩ := System.exists_reachableVia_of_run (C := LossIsSeen countCrc)
    (S := recordSystem countCrc simpleBuf) ⟨zeroedRtc, zeroedRtc_invalid, rfl⟩
    [.setSw "Low memory".toList]
    (fun r => decide (r.journal = ⟨1, .software "Low memory".toList, []⟩ ∧
      r.state.phase = .running ∧ ((recordSystem countCrc simpleBuf).run r
        [.boot none, .clearExtraInfo, .boot none, .boot none]).isSome)) (by decide +kernel)
  obtain ⟨hjournal, hphase, hsome⟩ := of_decide_eq_true hp
  obtain ⟨r', hrun⟩ := Option.isSome_iff_exists.mp hsome
  have hquiet : ∀ x ∈ [Label.boot none, .clearExtraInfo, .boot none, .boot none], x.Quiet := by
    simp [Label.Quiet.boot, Label.Quiet.received]
  obtain ⟨hboots, hcause⟩ := cause_of_quiet_run lawful_simpleBuf hr hphase hquiet hrun
  rw [hjournal] at hboots hcause
  exact ⟨r, hr, congrArg Journal.cause hjournal, r', hrun, hboots, hcause⟩

end ResetInfo
end RuuviGateway
