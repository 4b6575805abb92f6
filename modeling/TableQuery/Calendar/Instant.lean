import TableQuery.Calendar.Scan
import TableQuery.Calendar.Date

namespace TableQuery.Calendar

/-- A time of day; a leap second is second 59 with a second or more in its nanoseconds. -/
structure TimeOfDay where
  second : Nat
  nanosecond : Nat
deriving DecidableEq, Repr

structure Instant where
  date : Date
  time : TimeOfDay
deriving DecidableEq, Repr

def TimeOfDay.ofClock (hour minute second nanosecond : Nat) : TimeOfDay :=
  if second = 60 then ⟨hour * 3600 + minute * 60 + 59, 1000000000 + nanosecond⟩
  else ⟨hour * 3600 + minute * 60 + second, nanosecond⟩

namespace Instant

/-- The instant at which clocks `offset` seconds east of Greenwich show the date and the time. -/
def ofLocal? (date : Date) (time : TimeOfDay) (offset : Int) : Option Instant :=
  let seconds := date.toDays * 86400 + time.second - offset
  (Date.ofDays? (seconds / 86400)).map fun d => ⟨d, ⟨(seconds % 86400).toNat, time.nanosecond⟩⟩

def ofUnixSeconds? (seconds : Int) : Option Instant :=
  (Date.ofDays? (seconds / 86400)).map fun d => ⟨d, ⟨(seconds % 86400).toNat, 0⟩⟩

def orRange {α : Type} : Option α → Except ScanError α
  | some x => .ok x
  | none => .error .outOfRange

def build (year : Int) (month day hour minute second nanosecond : Nat) (offset : Int) :
    Except ScanError Instant := do
  let date ← orRange (Date.ofParts? year month day)
  if !(-86400 < offset && offset < 86400) then .error .outOfRange
  match ofLocal? date (.ofClock hour minute second nanosecond) offset with
  | some i => .ok i
  | none => .error .beyondCalendar

def scanDateMark : List Char → Except ScanError (List Char)
  | [] => .error .tooShort
  | c :: rest => if c = 't' || c = 'T' || c = ' ' then .ok rest else .error .invalid

def colonMark (cs : List Char) : Except ScanError (List Char) := scanMark ':' cs

def looseMark (cs : List Char) : Except ScanError (List Char) :=
  .ok (cs.dropWhile fun c => c = ':' || Text.isBlank c)

/-- The text of RFC 3339: fixed widths, any of `t`, `T` and a blank before the time. -/
def readStrict (text : List Char) : Except ScanError Instant := do
  if (String.ofList text).utf8ByteSize < 19 then .error .tooShort
  let (century, rest) ← scanTwo text
  let (yearOfCentury, rest) ← scanTwo rest
  let (month, rest) ← scanTwo (← scanMark '-' rest)
  let (day, rest) ← scanTwo (← scanMark '-' rest)
  let year := century * 100 + yearOfCentury
  let _ ← orRange (Date.ofParts? year month day)
  let (hour, rest) ← scanTwo (← scanDateMark rest)
  let (minute, rest) ← scanTwo (← colonMark rest)
  let (second, rest) ← scanTwo (← colonMark rest)
  let (nanosecond, rest) ← scanFraction rest
  if 23 < hour || 59 < minute || 60 < second then .error .outOfRange
  let (offset, rest) ← scanOffset colonMark rest
  if !rest.isEmpty then .error .trailing
  build year month day hour minute second nanosecond offset

def scanZone (cs : List Char) : Except ScanError (Int × List Char) :=
  match cs with
  | u :: t :: c :: rest =>
    if [u, t, c].map Char.toLower = ['u', 't', 'c'] then .ok (0, rest) else scanOffset looseMark cs
  | _ => scanOffset looseMark cs

def scanDateParts (cs : List Char) : Except ScanError ((Int × Nat × Nat) × List Char) := do
  let (year, rest) ← scanYear cs
  let (month, rest) ← scanField 2 1 12 (← scanMark '-' (Text.trimLeft rest))
  let (day, rest) ← scanField 2 1 31 (← scanMark '-' (Text.trimLeft rest))
  .ok ((year, month, day), rest)

def scanMinutes (cs : List Char) : Except ScanError ((Nat × Nat) × List Char) := do
  let (hour, rest) ← scanField 2 0 23 cs
  let (minute, rest) ← scanField 2 0 59 (← scanMark ':' (Text.trimLeft rest))
  .ok ((hour, minute), rest)

/-- RFC 3339 with room for blanks, short fields, signed years and the zone name `UTC`. -/
def readRelaxed (text : List Char) : Except ScanError Instant := do
  let ((year, month, day), rest) ← scanDateParts text
  let ((hour, minute), rest) ← scanMinutes (← scanDateMark rest)
  let (second, rest) ← scanField 2 0 60 (← scanMark ':' (Text.trimLeft rest))
  let (nanosecond, rest) ← scanFraction rest
  let (offset, rest) ← scanZone (Text.trimLeft rest)
  if !(Text.trimLeft rest).isEmpty then .error .trailing
  build year month day hour minute second nanosecond offset

def fractionText (nanosecond : Nat) : String :=
  if nanosecond = 0 then ""
  else if nanosecond % 1000000 = 0 then "." ++ padLeft 3 (nanosecond / 1000000)
  else if nanosecond % 1000 = 0 then "." ++ padLeft 6 (nanosecond / 1000)
  else "." ++ padLeft 9 nanosecond

def clockText (t : TimeOfDay) : String :=
  let leap := if 1000000000 ≤ t.nanosecond then 1 else 0
  padLeft 2 (t.second / 3600) ++ ":" ++ padLeft 2 (t.second / 60 % 60) ++ ":" ++
    padLeft 2 (t.second % 60 + leap) ++ fractionText (t.nanosecond % 1000000000)

def withZone (zone : String) (i : Instant) : String :=
  i.date.text ++ "T" ++ clockText i.time ++ zone

/-- The text that sorts by time as long as the years have four digits. -/
def stamp (i : Instant) : String := i.withZone "+00:00"

def text (i : Instant) : String := i.withZone "Z"

end Instant

def readDateTime (mark : List Char → Except ScanError (List Char)) (hasSeconds : Bool)
    (text : List Char) : Except ScanError Date := do
  let (year, rest) ← scanYear text
  let (month, rest) ← scanField 2 1 12 (← scanMark '-' rest)
  let (day, rest) ← scanField 2 1 31 (← scanMark '-' rest)
  let (_, rest) ← scanField 2 0 23 (← mark rest)
  let (_, rest) ← scanField 2 0 59 (← scanMark ':' rest)
  let rest ←
    if hasSeconds then do
      let (_, rest) ← scanField 2 0 60 (← scanMark ':' rest)
      let (_, rest) ← scanFraction rest
      pure rest
    else pure rest
  if !rest.isEmpty then .error .trailing
  Instant.orRange (Date.ofParts? year month day)

def readPlainDate (text : List Char) : Except ScanError Date := do
  let (year, rest) ← scanYear text
  let (month, rest) ← scanField 2 1 12 (← scanMark '-' rest)
  let (day, rest) ← scanField 2 1 31 (← scanMark '-' rest)
  if !rest.isEmpty then .error .trailing
  Instant.orRange (Date.ofParts? year month day)

def blankMark (cs : List Char) : Except ScanError (List Char) := .ok (Text.trimLeft cs)

/-- The date of a written instant, in UTC if it has an offset. -/
def readDate? (text : List Char) : Option Date :=
  match Instant.readStrict text with
  | .ok i => some i.date
  | .error _ =>
    [readDateTime blankMark true, readDateTime (scanMark 'T') true,
      readDateTime blankMark false, readDateTime (scanMark 'T') false,
      readPlainDate].findSome? fun read => (read text).toOption

end TableQuery.Calendar
