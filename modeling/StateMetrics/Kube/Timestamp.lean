import StateMetrics.Decimal.Text
import StateMetrics.Text.Unicode

/-! # Timestamps of cluster API objects

Timestamps are strings in a relaxed RFC 3339 form: `2024-01-02T03:04:05Z`, read field by field.

* The date is a year, a month and a day separated by `-`. The year has at most four digits, or
  any number after a sign `+` or `-`; the month and the day have one or two digits.
* The date is followed by exactly one `T`, `t` or blank.
* The time is an hour, a minute and a second separated by `:`, each of one or two digits,
  with an optional fraction of a second after a point (at least one digit; digits past the
  ninth are skipped).
* Then comes the offset: `Z`, `z`, the word `UTC` in any letter case, or a sign (`+`, `-` or
  the minus sign `−`) with two digits of hours and then two of minutes. Colons and white space
  may stand between the hours and the minutes.

White space may stand before every number and around the separators of the date and the time,
and after the time. Nothing but white space may follow the offset.

Reading stops at the first problem, and a field out of its range (a month of 13, an hour of 24,
minutes of an offset from 60 on) is refused as soon as it is read. Only then is the whole
checked: the date must exist and lie within the years -262143 to 262142, and the offset must be
less than a day (otherwise the timestamp is out of range); the instant must stay within those
years in universal time (otherwise no instant matches it). A second of 60 is a leap second. The
kinds of failure are worded as the reader words them (`TimeError`).

Objects write their timestamps back in universal time to whole seconds,
`2024-01-02T02:04:05Z` for `2024-01-02T03:04:05.5+01:00`; a year outside 0 to 9999 is written
with its sign and at least four digits.

Dates are counted in days since 1970-01-01 in the proleptic Gregorian calendar, by the
era arithmetic that splits time into 400-year cycles of 146097 days. -/

namespace StateMetrics.Kube

open Text.Unicode

/-- Why a timestamp does not read. -/
inductive TimeError where
  /-- A field, the date, the offset or the instant lies outside its range. -/
  | outOfRange
  /-- A character that does not belong where it stands. -/
  | invalid
  /-- The text ends before the timestamp does. -/
  | tooShort
  /-- Something other than white space follows the timestamp. -/
  | tooLong
  /-- The local time exists, but the instant it stands for lies outside the calendar. -/
  | impossible
  deriving Repr, BEq, DecidableEq, Inhabited

/-- The message of a failure. -/
def TimeError.message : TimeError → String
  | .outOfRange => "input is out of range"
  | .invalid => "input contains invalid characters"
  | .tooShort => "premature end of input"
  | .tooLong => "trailing input"
  | .impossible => "no possible date and time matching input"

/-- A parsed timestamp: the local date and time and the offset from universal time in
seconds. The second is 60 for a leap second. -/
structure Timestamp where
  year : Int
  month : Nat
  day : Nat
  hour : Nat
  minute : Nat
  second : Nat
  offsetSeconds : Int
  deriving Repr, BEq, DecidableEq, Inhabited

/-- A partial read: a result and the characters after it. -/
abbrev TimeReading (α : Type) := Except TimeError (α × List Char)

/-- The characters after the white space at the front. -/
def trimStart (cs : List Char) : List Char := cs.dropWhile isWhitespace

/-- The largest value of a signed 64-bit integer, beyond which a number is out of range. -/
def maxNumber : Nat := Nat.pow 2 63 - 1

/-- Reads a number of at least one and at most `max` digits: none at all is a character that
does not belong, or the end of the text. -/
def number (max : Nat) (cs : List Char) : TimeReading Nat :=
  match cs with
  | [] => .error .tooShort
  | c :: _ =>
    if !c.isDigit then .error .invalid
    else
      let ds := (cs.takeWhile Char.isDigit).take max
      let v := Numeral.digitsValue ds
      if maxNumber < v then .error .outOfRange else .ok (v, cs.drop ds.length)

/-- Reads a field of at most `width` digits after white space, which must lie between two
bounds. -/
def field (width lo hi : Nat) (cs : List Char) : Except TimeError (Nat × List Char) := do
  let (v, r) ← number width (trimStart cs)
  if v < lo || hi < v then throw .outOfRange
  pure (v, r)

/-- Whether a year fits in 32 signed bits. -/
def yearFits (y : Int) : Bool := -(Nat.pow 2 31 : Int) ≤ y && y < (Nat.pow 2 31 : Int)

/-- Reads the year after white space: any number of digits after a sign, at most four
without. -/
def readYear (cs : List Char) : Except TimeError (Int × List Char) := do
  let (y, r) ← match trimStart cs with
    | '-' :: rest => do
      let (v, r) ← number rest.length rest
      pure (-(v : Int), r)
    | '+' :: rest => do
      let (v, r) ← number rest.length rest
      pure ((v : Int), r)
    | rest => do
      let (v, r) ← number 4 rest
      pure ((v : Int), r)
  if yearFits y then pure (y, r) else throw .outOfRange

/-- Reads a separator after white space. -/
def separator (sep : Char) (cs : List Char) : Except TimeError (List Char) :=
  match trimStart cs with
  | [] => .error .tooShort
  | c :: rest => if c == sep then .ok rest else .error .invalid

/-- Skips an optional fraction of a second: a point, one to nine digits, and any further
digits. -/
def fraction (cs : List Char) : Except TimeError (List Char) :=
  match cs with
  | '.' :: rest => do
    let (_, r) ← number 9 rest
    pure (r.dropWhile Char.isDigit)
  | _ => .ok cs

/-- The number of bytes of the encoding of some characters. -/
def byteLength (cs : List Char) : Nat := (cs.map Char.utf8Size).foldl (· + ·) 0

/-- Reads the two digits of an offset's hours: fewer than two bytes left is the end of the
text. -/
def offsetHours (cs : List Char) : TimeReading Nat :=
  if byteLength cs < 2 then .error .tooShort
  else match cs with
    | a :: b :: rest =>
      if a.isDigit && b.isDigit then .ok (Numeral.digitsValue [a, b], rest) else .error .invalid
    | _ => .error .invalid

/-- Reads the two digits of an offset's minutes: a first digit from 6 to 9 is out of range. -/
def offsetMinutes (cs : List Char) : TimeReading Nat :=
  if byteLength cs < 2 then .error .tooShort
  else match cs with
    | a :: b :: rest =>
      if '0' ≤ a && a ≤ '5' && b.isDigit then .ok (Numeral.digitsValue [a, b], rest)
      else if '6' ≤ a && a ≤ '9' && b.isDigit then .error .outOfRange
      else .error .invalid
    | _ => .error .invalid

/-- Reads an offset in seconds: `Z`, or a sign with hours and minutes. -/
def zoneOffset (cs : List Char) : Except TimeError (Int × List Char) :=
  match cs with
  | 'Z' :: rest | 'z' :: rest => .ok (0, rest)
  | [] => .error .tooShort
  | c :: rest =>
    let negative := c == '-' || c == '−'
    if !(negative || c == '+') then .error .invalid
    else do
      let (hours, r) ← offsetHours rest
      let (minutes, r) ← offsetMinutes (r.dropWhile fun c => c == ':' || isWhitespace c)
      let total : Int := hours * 3600 + minutes * 60
      pure (if negative then -total else total, r)

/-- Whether the text starts with the word `UTC` in any letter case. -/
def startsWithUtc (cs : List Char) : Bool :=
  (cs.take 3).map Char.toUpper == ['U', 'T', 'C'] && (cs.take 3).all (·.toNat < 0x80)

/-- Whether a year of the proleptic Gregorian calendar is a leap year. -/
def isLeapYear (year : Int) : Bool :=
  year % 4 == 0 && (year % 100 != 0 || year % 400 == 0)

/-- Days in a month of a year of the proleptic Gregorian calendar. -/
def daysInMonth (year : Int) (month : Nat) : Nat :=
  if month = 2 then (if isLeapYear year then 29 else 28)
  else if month = 4 ∨ month = 6 ∨ month = 9 ∨ month = 11 then 30
  else 31

/-- The days from 1970-01-01 to a date. -/
def daysFromCivil (year : Int) (month day : Nat) : Int :=
  let y := if month ≤ 2 then year - 1 else year
  let era := y / 400
  let yoe := y - era * 400
  let mp : Int := if month > 2 then month - 3 else month + 9
  let doy := (153 * mp + 2) / 5 + day - 1
  let doe := yoe * 365 + yoe / 4 - yoe / 100 + doy
  era * 146097 + doe - 719468

/-- The date that lies a number of days after 1970-01-01, as year, month and day. -/
def civilFromDays (days : Int) : Int × Nat × Nat :=
  let z := days + 719468
  let era := z / 146097
  let doe := z - era * 146097
  let yoe := (doe - doe / 1460 + doe / 36524 - doe / 146096) / 365
  let doy := doe - (365 * yoe + yoe / 4 - yoe / 100)
  let mp := (5 * doy + 2) / 153
  let day := doy - (153 * mp + 2) / 5 + 1
  let month := if mp < 10 then mp + 3 else mp - 9
  ((if month ≤ 2 then yoe + era * 400 + 1 else yoe + era * 400), month.toNat, day.toNat)

/-- The first year timestamps may use. -/
def firstYear : Int := -262143
/-- The last year timestamps may use. -/
def lastYear : Int := 262142

namespace Timestamp

/-- The instant in minutes since 1970-01-01 at midnight in universal time, leaving out the
seconds. -/
def utcMinutes (t : Timestamp) : Int :=
  daysFromCivil t.year t.month t.day * 1440 + t.hour * 60 + t.minute - t.offsetSeconds / 60

/-- Checks the timestamp as a whole: the date exists within the calendar's years, the offset is
less than a day, and the instant lies within the calendar in universal time. -/
def check (t : Timestamp) : Except TimeError Timestamp :=
  let first := daysFromCivil firstYear 1 1 * 1440
  let last := daysFromCivil lastYear 12 31 * 1440 + 1439
  if t.year < firstYear || lastYear < t.year || daysInMonth t.year t.month < t.day then
    .error .outOfRange
  else if 86400 ≤ t.offsetSeconds.natAbs then .error .outOfRange
  else if t.utcMinutes < first || last < t.utcMinutes then .error .impossible
  else .ok t

/-- Parses a timestamp in relaxed RFC 3339 form. -/
def parse (s : String) : Except TimeError Timestamp := do
  let (year, cs) ← readYear s.toList
  let cs ← separator '-' cs
  let (month, cs) ← field 2 1 12 cs
  let cs ← separator '-' cs
  let (day, cs) ← field 2 1 31 cs
  let cs ← match cs with
    | c :: rest => if c == 'T' || c == 't' || c == ' ' then pure rest else throw .invalid
    | [] => throw .tooShort
  let (hour, cs) ← field 2 0 23 cs
  let cs ← separator ':' cs
  let (minute, cs) ← field 2 0 59 cs
  let cs ← separator ':' cs
  let (second, cs) ← field 2 0 60 cs
  let cs ← fraction cs
  let cs := trimStart cs
  let (offset, cs) ← if startsWithUtc cs then pure (0, cs.drop 3) else zoneOffset cs
  if !(trimStart cs).isEmpty then throw .tooLong
  check ⟨year, month, day, hour, minute, second, offset⟩

end Timestamp

/-- A number with at least `width` digits, zeros in front. -/
def padded (width n : Nat) : String :=
  let s := toString n
  String.ofList (List.replicate (width - s.length) '0') ++ s

/-- A year with four digits, and a sign when it lies outside 0 to 9999. -/
def yearText (y : Int) : String :=
  if y < 0 then "-" ++ padded 4 y.natAbs
  else if y > 9999 then "+" ++ toString y
  else padded 4 y.toNat

namespace Timestamp

/-- The timestamp in universal time to whole seconds. -/
def utcText (t : Timestamp) : String :=
  let minutes := t.utcMinutes
  let days := minutes / 1440
  let inDay := (minutes - days * 1440).toNat
  let (y, m, d) := civilFromDays days
  yearText y ++ "-" ++ padded 2 m ++ "-" ++ padded 2 d ++ "T" ++ padded 2 (inDay / 60) ++ ":" ++
    padded 2 (inDay % 60) ++ ":" ++ padded 2 t.second ++ "Z"

end Timestamp

/-- Checks a timestamp, with the message of its failure. -/
def checkTimestamp (s : String) : Except String Unit :=
  match Timestamp.parse s with
  | .ok _ => .ok ()
  | .error e => .error e.message

end StateMetrics.Kube
