import RuuviGateway.Lib.Strtoul

/-!
# Time strings

`time_str.c`.  A time string has the fields of a date and a time of day, which may be separated or
not, and it may end after any of them; after the seconds there may be a fraction and the offset
from UTC.

A string is the list of its characters without the terminating NUL, and a pointer into it is what
is left of the string there.  `os_mkgmtime` and `gmtime_r` are not part of the repository.
-/

namespace RuuviGateway
namespace TimeStr

open Strtoul

/-- `struct tm`, without the members that are not used. -/
@[ext] structure Tm where
  year : Int
  mon : Int
  mday : Int
  hour : Int
  min : Int
  sec : Int
  wday : Int
  isdst : Int
  deriving DecidableEq

/-- The functions that are not part of the repository. -/
structure TimeEnv where
  osStrToUint32Cptr : List Char → Nat → UInt32 × List Char
  osMkgmtime : Tm → Int
  gmtimeR : Int → Tm

variable (env : TimeEnv)

/-- `time_str_conv_to_uint32_cptr`, where `*pp_end` is `maxLen` characters ahead: the number, and
the new `*pp_end`. -/
def timeStrConvToUint32Cptr (str : List Char) (maxLen : Nat) : UInt32 × List Char :=
  if 32 ≤ maxLen then (0xFFFFFFFF, str.drop maxLen)
  else
    let tmpBuf := str.take maxLen
    let read := env.osStrToUint32Cptr tmpBuf 10
    (read.1, str.drop (tmpBuf.length - read.2.length))

/-- `INT32_MIN`. -/
def int32Min : Int := -2147483648

/-- `parse_val_of_tm`: its result, `*p_val` and `*p_p_cur`.  There may be no delimiter. -/
def parseValOfTm (cur : List Char) (valLen minVal maxVal : Nat) (delimiter : Option Char) :
    Bool × Int × List Char :=
  let read := timeStrConvToUint32Cptr env cur (min valLen cur.length)
  let val := read.1.toNat
  let strEnd := read.2
  if val < minVal ∨ maxVal < val then (true, int32Min, cur)
  else if strEnd = [] then (true, val, strEnd)
  else
    match delimiter with
    | some delimiter =>
        if strEnd.head? = some delimiter then (false, val, strEnd.tail)
        else if strEnd.head?.any (isDigit 10) then (false, val, strEnd)
        else (true, int32Min, cur)
    | none => (false, val, strEnd)

/-! ## The fields -/

/-- A field of `struct tm`: how it is written, and where its value goes. -/
structure TmField where
  len : Nat
  minVal : Nat
  maxVal : Nat
  delimiter : Option Char
  set : Int → Tm → Tm

/-- The result of one of the functions `time_str_parse_tm_*`. -/
inductive ParseTm where
  /-- The function returns `true`; `none` where `*p_res` is `false`. -/
  | stop (res : Option Tm)
  | go (cur : List Char) (tm : Tm)

/-- What these functions have in common. -/
def timeStrParseTm (f : TmField) (cur : List Char) (tm : Tm) : ParseTm :=
  let parsed := parseValOfTm env cur f.len f.minVal f.maxVal f.delimiter
  if parsed.1 then
    if parsed.2.1 = int32Min then .stop none
    else .stop (some (f.set parsed.2.1 tm))
  else .go parsed.2.2 (f.set parsed.2.1 tm)

def tmYear : TmField := ⟨4, 1970, 2106, some '-', fun v tm => { tm with year := v - 1900 }⟩
def tmMon : TmField := ⟨2, 1, 12, some '-', fun v tm => { tm with mon := v - 1 }⟩
def tmMday : TmField := ⟨2, 1, 31, some 'T', fun v tm => { tm with mday := v }⟩
def tmHour : TmField := ⟨2, 0, 23, some ':', fun v tm => { tm with hour := v }⟩
def tmMin : TmField := ⟨2, 0, 59, some ':', fun v tm => { tm with min := v }⟩
def tmSec : TmField := ⟨2, 0, 60, none, fun v tm => { tm with sec := v }⟩

/-- `time_str_parse_tm_year`. -/
def timeStrParseTmYear := timeStrParseTm env tmYear
/-- `time_str_parse_tm_mon`. -/
def timeStrParseTmMon := timeStrParseTm env tmMon
/-- `time_str_parse_tm_mday`. -/
def timeStrParseTmMday := timeStrParseTm env tmMday
/-- `time_str_parse_tm_hour`. -/
def timeStrParseTmHour := timeStrParseTm env tmHour
/-- `time_str_parse_tm_min`. -/
def timeStrParseTmMin := timeStrParseTm env tmMin
/-- `time_str_parse_tm_sec`. -/
def timeStrParseTmSec := timeStrParseTm env tmSec

/-! ## The fraction and the offset -/

/-- The switch of `parse_ms`: the milliseconds for a fraction of so many characters. -/
def fractMs (len : Nat) (fractSec : UInt32) : Option UInt16 :=
  match len with
  | 0 => some 0
  | 1 => some (fractSec * 100).toUInt16
  | 2 => some (fractSec * 10).toUInt16
  | 3 => some (fractSec * 1).toUInt16
  | 4 => some (fractSec / 10).toUInt16
  | 5 => some (fractSec / 100).toUInt16
  | 6 => some (fractSec / 1000).toUInt16
  | _ => none

/-- `parse_ms`, at the dot: the milliseconds and `*p_p_cur`. -/
def parseMs (cur : List Char) : Option (UInt16 × List Char) :=
  let cur := cur.tail
  let read := timeStrConvToUint32Cptr env cur cur.length
  match fractMs (cur.length - read.2.length) read.1 with
  | none => none
  | some ms => some (ms, read.2)

/-- `parse_tz` after the sign. -/
def parseTzOffset (flagTzOffsetPositive : Bool) (cur : List Char) : Option Int :=
  let hours := parseValOfTm env cur 2 0 23 (some ':')
  if hours.1 ∧ hours.2.1 = int32Min then none
  else
    let tzMinutes : Option Int :=
      if hours.2.2 ≠ [] then
        let minutes := parseValOfTm env hours.2.2 2 0 59 none
        if minutes.1 = false then none
        else if minutes.2.1 = int32Min then none
        else some minutes.2.1
      else some 0
    match tzMinutes with
    | none => none
    | some tzMinutes =>
        if flagTzOffsetPositive ∧ 14 < hours.2.1 then none
        else if ¬ flagTzOffsetPositive ∧ 12 < hours.2.1 then none
        else if tzMinutes % 15 ≠ 0 then none
        else
          let tzOffsetSecondsAbs := (hours.2.1 * 60 + tzMinutes) * 60
          some (if flagTzOffsetPositive then tzOffsetSecondsAbs else -tzOffsetSecondsAbs)

/-- `parse_tz`: the offset in seconds. -/
def parseTz : List Char → Option Int
  | '+' :: cur => parseTzOffset env true cur
  | '-' :: cur => parseTzOffset env false cur
  | _ => none

/-! ## The string -/

/-- What `time_str_conv_to_tm` starts with. -/
def Tm.start : Tm := ⟨0, 0, 1, 0, 0, 0, 0, 0⟩

/-- The rest of `time_str_conv_to_tm`, after the seconds. -/
def timeStrConvTail (cur : List Char) (tm : Tm) : Option (Tm × UInt16) :=
  match if cur.head? = some '.' then parseMs env cur else some (0, cur) with
  | none => none
  | some (ms, cur) =>
      if cur = [] ∨ cur = ['Z'] then some (tm, ms)
      else
        match parseTz env cur with
        | none => none
        | some tzOffsetSeconds =>
            if tzOffsetSeconds ≠ 0 then
              let unixTime := env.osMkgmtime tm - tzOffsetSeconds
              some ({ env.gmtimeR unixTime with isdst := 0 }, ms)
            else some (tm, ms)

/-- `time_str_conv_to_tm`: the time and the milliseconds, if it returns `true`. -/
def timeStrConvToTm (timeStr : List Char) : Option (Tm × UInt16) :=
  match timeStrParseTmYear env timeStr .start with
  | .stop res => res.map (·, 0)
  | .go cur tm =>
  match timeStrParseTmMon env cur tm with
  | .stop res => res.map (·, 0)
  | .go cur tm =>
  match timeStrParseTmMday env cur tm with
  | .stop res => res.map (·, 0)
  | .go cur tm =>
  match timeStrParseTmHour env cur tm with
  | .stop res => res.map (·, 0)
  | .go cur tm =>
  match timeStrParseTmMin env cur tm with
  | .stop res => res.map (·, 0)
  | .go cur tm =>
  match timeStrParseTmSec env cur tm with
  | .stop res => res.map (·, 0)
  | .go cur tm => timeStrConvTail env cur tm

/-- The fields in their order. -/
def fields : List TmField := [tmYear, tmMon, tmMday, tmHour, tmMin, tmSec]

/-- One field after the other, and then the rest. -/
def parseFields : List TmField → List Char → Tm → Option (Tm × UInt16)
  | [], cur, tm => timeStrConvTail env cur tm
  | f :: fs, cur, tm =>
      match timeStrParseTm env f cur tm with
      | .stop res => res.map (·, 0)
      | .go cur tm => parseFields fs cur tm

theorem timeStrConvToTm_eq (timeStr : List Char) :
    timeStrConvToTm env timeStr = parseFields env fields timeStr .start := rfl

end TimeStr
end RuuviGateway
