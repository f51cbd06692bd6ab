import RuuviGateway.Lib.CString
import RuuviGateway.Lib.StrBuf
import RuuviGateway.Lib.TransitionSystem

/-!
# The record of resets

`reset_info.c` keeps a record in RTC memory, which survives a reset but not a loss of power: how
often the gateway has started, what the last reset came from that it knows of, and a message.  A
CRC tells at the start whether the record has survived.

A message of the software and the output of a panic handler share one piece of memory.  The
output goes there through a string buffer, a component that is not in the repository: what its
`printf` leaves in the memory is stated as the law `PanicBuf.Lawful`.
-/

namespace RuuviGateway
namespace ResetInfo

open CString StrBuf TransitionSystem

/-- `RESET_INFO_SIGNATURE`. -/
def signature : UInt32 := 0x52555556

/-- `RESET_INFO_VERSION_FMT`. -/
def versionFmt : UInt32 := 1

/-- `sizeof(reset_info_t)`. -/
def infoSize : UInt32 := 2108

/-- `RESET_INFO_DATA_SOFTWARE_MSG_LEN`. -/
def softwareMsgLen : Nat := 1024

/-- `RESET_INFO_DATA_PANIC_MSG_LEN`, which is the size of the union. -/
def panicMsgLen : Nat := 2048

/-- `configMAX_TASK_NAME_LEN`. -/
def maxTaskNameLen : Nat := 16

theorem softwareMsg_fits : 0 < softwareMsgLen ∧ 0 + softwareMsgLen ≤ panicMsgLen := by decide

theorem panicMsg_fits : 0 < panicMsgLen ∧ 0 + panicMsgLen ≤ panicMsgLen := by decide

theorem taskName_fits : 0 < maxTaskNameLen ∧ 0 + maxTaskNameLen ≤ maxTaskNameLen := by decide

/-- `reset_info_reason_e`. -/
inductive Reason where
  | sw
  | panic
  | taskWdt
  | other
  deriving DecidableEq

/-- The values of `esp_reset_reason_t`. -/
def Reason.code : Reason → UInt32
  | .sw => 3
  | .panic => 4
  | .taskWdt => 6
  | .other => 0

/-- `reset_info_t` without the CRC at its end. -/
structure Info where
  signatureBegin : UInt32
  versionFmt : UInt32
  len : UInt32
  resetCnt : UInt32
  resetReason : UInt32
  taskName : Mem maxTaskNameLen
  activeTask : Mem maxTaskNameLen
  data : Mem panicMsgLen
  signatureEnd : UInt32

/-- `g_reset_info`. -/
structure Rtc where
  info : Info
  crc : UInt32

/-- The string buffer on top of the memory of `panic.msg`. -/
structure PanicBuf (S : Type) where
  /-- `str_buf_init`, and the initial value at the start. -/
  init : S
  printf : S → Mem panicMsgLen → List Char → S × Mem panicMsgLen

/-- The memory holds what has been printed, as far as it fits. -/
structure PanicBuf.Lawful {S : Type} (P : PanicBuf S) (text : S → List Char) : Prop where
  text_init : text P.init = []
  text_printf : ∀ s m t, text (P.printf s m t).1 = text s ++ t
  read_printf : ∀ s m t, text s = [] ∨ m.read 0 = written panicMsgLen (text s) →
    (P.printf s m t).2.read 0 = written panicMsgLen (text s ++ t)

/-! ## The functions -/

section Functions

variable (crc32 : Info → UInt32)

/-- `reset_info_is_valid`. -/
def resetInfoIsValid (rtc : Rtc) : Bool :=
  if crc32 rtc.info ≠ rtc.crc then false
  else if signature ≠ rtc.info.signatureBegin then false
  else if ~~~signature ≠ rtc.info.signatureEnd then false
  else if versionFmt ≠ rtc.info.versionFmt then false
  else if infoSize ≠ rtc.info.len then false
  else true

/-- A record with the CRC that belongs to it. -/
def withCrc (info : Info) : Rtc := ⟨info, crc32 info⟩

/-- `reset_info_clear`.  The names of the tasks stay as they are. -/
def resetInfoClear (rtc : Rtc) : Rtc :=
  withCrc crc32 { rtc.info with
    signatureBegin := signature
    versionFmt := versionFmt
    len := infoSize
    resetReason := Reason.other.code
    resetCnt := 0
    signatureEnd := ~~~signature
    data := Mem.zero panicMsgLen }

/-- `reset_info_clear_extra_info`. -/
def resetInfoClearExtraInfo (rtc : Rtc) : Rtc :=
  withCrc crc32 { rtc.info with data := Mem.zero panicMsgLen }

/-- `reset_info_init`. -/
def resetInfoInit (rtc : Rtc) : Rtc :=
  let rtc := if resetInfoIsValid crc32 rtc then rtc else resetInfoClear crc32 rtc
  withCrc crc32 { rtc.info with resetCnt := rtc.info.resetCnt + 1 }

/-- `reset_info_set_sw`, the string buffer apart. -/
def resetInfoSetSw (rtc : Rtc) (msg : List Char) : Rtc :=
  withCrc crc32 { rtc.info with
    resetReason := Reason.sw.code
    data := rtc.info.data.write 0 softwareMsgLen softwareMsg_fits msg }

/-- `esp_task_wdt_isr_user_handler`. -/
def espTaskWdtIsrUserHandler (rtc : Rtc) (taskName activeTask : List Char) : Rtc :=
  withCrc crc32 { rtc.info with
    resetReason := Reason.taskWdt.code
    taskName := rtc.info.taskName.write 0 maxTaskNameLen taskName_fits taskName
    activeTask := rtc.info.activeTask.write 0 maxTaskNameLen taskName_fits activeTask }

/-- What `reset_info_gen_str_buf` prints, if the reason is one of the four. -/
def genStrBufText (info : Info) : Option (List Char) :=
  if info.resetReason = Reason.sw.code then
    some ("Reset by software: ".toList ++ info.data.read 0)
  else if info.resetReason = Reason.panic.code then
    some ("Reset by panic: ".toList ++ info.data.read 0)
  else if info.resetReason = Reason.taskWdt.code then
    some ("Reset by task wdt: ".toList ++ info.taskName.read 0 ++ " (active task: ".toList ++
      info.activeTask.read 0 ++ ")".toList)
  else if info.resetReason = Reason.other.code then some []
  else none

/-- `reset_info_gen_str_buf`. -/
def resetInfoGenStrBuf {B : Type} (A : Api B) (info : Info) (d : B) : B :=
  match genStrBufText info with
  | some text => A.printf d (bytes text)
  | none => d

/-- `reset_info_get`; without memory the buffer has none. -/
def resetInfoGet {B : Type} (A : Api B) (memory : Bool) (rtc : Rtc) : Option B :=
  (A.initWithAlloc memory (resetInfoGenStrBuf A rtc.info A.null)).map
    (resetInfoGenStrBuf A rtc.info)

/-- `reset_info_get_cnt`. -/
def resetInfoGetCnt (rtc : Rtc) : UInt32 := rtc.info.resetCnt

end Functions

/-! ## Runs -/

/-- Whether the program runs, its panic handler does, or the chip is being reset. -/
inductive Phase where
  | running
  | panicking
  | restarting
  deriving DecidableEq

/-- The record and `g_reset_info_data_panic_str_buf`. -/
structure State (S : Type) where
  rtc : Rtc
  strBuf : S
  phase : Phase

/-- What can happen. -/
inductive Label where
  /-- A reset, from whatever cause: the program starts and finds the record as it was, or other
  contents of the memory. -/
  | boot (found : Option Rtc)
  | setSw (msg : List Char)
  | clearExtraInfo
  | taskWdtIsr (taskName activeTask : List Char)
  /-- `__wrap_esp_panic_handler`. -/
  | panic (hintUnknown : Bool)
  /-- `panic_print_char_override`. -/
  | printChar (c : Char)
  /-- `__wrap_panic_restart`. -/
  | panicRestart

section System

variable {S : Type} (crc32 : Info → UInt32) (P : PanicBuf S)

/-- `panic_print_char_override` and the printing in `__wrap_esp_panic_handler`. -/
def State.print (s : State S) (t : List Char) : State S :=
  { s with
    strBuf := (P.printf s.strBuf s.rtc.info.data t).1
    rtc := { s.rtc with
      info := { s.rtc.info with data := (P.printf s.strBuf s.rtc.info.data t).2 } } }

/-- `__wrap_esp_panic_handler`, up to the handler of the framework. -/
def wrapEspPanicHandler (hintUnknown : Bool) (s : State S) : State S :=
  if hintUnknown then
    State.print P
      { s with
        rtc := { s.rtc with info := { s.rtc.info with resetReason := Reason.panic.code } }
        strBuf := P.init } []
  else s

/-- `__wrap_panic_restart`, up to the restart. -/
def wrapPanicRestart (s : State S) : State S :=
  { s with rtc := withCrc crc32 s.rtc.info }

/-- The program starts. -/
def boot (rtc : Rtc) : State S := ⟨resetInfoInit crc32 rtc, P.init, .running⟩

/-- One step. -/
def step (s : State S) : Label → Option (State S)
  | .boot found => some (boot crc32 P (found.getD s.rtc))
  | .setSw msg =>
      if s.phase = .running then
        some { s with rtc := resetInfoSetSw crc32 s.rtc msg, strBuf := P.init }
      else none
  | .clearExtraInfo =>
      if s.phase = .running then some { s with rtc := resetInfoClearExtraInfo crc32 s.rtc } else none
  | .taskWdtIsr taskName activeTask =>
      if s.phase = .running then
        some { s with rtc := espTaskWdtIsrUserHandler crc32 s.rtc taskName activeTask }
      else none
  | .panic hintUnknown =>
      if s.phase ≠ .restarting then
        some { wrapEspPanicHandler P hintUnknown s with phase := .panicking }
      else none
  | .printChar c => if s.phase = .panicking then some (s.print P [c]) else none
  | .panicRestart =>
      if s.phase = .panicking then some { wrapPanicRestart crc32 s with phase := .restarting }
      else none

end System

end ResetInfo
end RuuviGateway
