/-
  LanguageBlueprint/Time/Instant.lean
  ===================================
  **Points in time.**  A point in time is its date and time of day in UTC, to the
  nanosecond; a leap second is the sixtieth second of its minute.  It is read from
  the usual form of date, time and offset, with blanks between the parts, and
  written back in UTC with as many digits of the second as it needs: none, three,
  six or nine.
-/
import LanguageBlueprint.Json.Codec
import LanguageBlueprint.Number.IntegerText

namespace LanguageBlueprint

open Text Number

/-- A date of the Gregorian calendar, also before its introduction. -/
structure Date where
  year : Int
  month : Nat
  day : Nat
deriving DecidableEq, Repr

/-- A point in time in UTC.  The second is at most 60. -/
structure Instant where
  date : Date
  hour : Nat
  minute : Nat
  second : Nat
  nano : Nat
deriving DecidableEq, Repr

namespace Date

def isLeapYear (year : Int) : Bool := year % 4 == 0 && (year % 100 != 0 || year % 400 == 0)

def daysInMonth (year : Int) (month : Nat) : Nat :=
  if month == 2 then (if isLeapYear year then 29 else 28)
  else if month == 4 || month == 6 || month == 9 || month == 11 then 30
  else 31

/-- The years that dates reach. -/
def inReach (year : Int) : Bool := -262143 ≤ year && year ≤ 262142

def isValid (date : Date) : Bool :=
  inReach date.year && 1 ≤ date.month && date.month ≤ 12 && 1 ≤ date.day &&
  date.day ≤ daysInMonth date.year date.month

def next (date : Date) : Date :=
  if date.day < daysInMonth date.year date.month then { date with day := date.day + 1 }
  else if date.month < 12 then { date with month := date.month + 1, day := 1 }
  else ⟨date.year + 1, 1, 1⟩

def previous (date : Date) : Date :=
  if 1 < date.day then { date with day := date.day - 1 }
  else if 1 < date.month then
    { date with month := date.month - 1, day := daysInMonth date.year (date.month - 1) }
  else ⟨date.year - 1, 12, 31⟩

end Date

namespace Instant

/-! ### Reading -/

def byteCount (cs : List Char) : Nat := (String.ofList cs).utf8ByteSize

/-- The digits at the beginning of a text, at least one and at most `width` if that is given. -/
def scanNumber (width : Option Nat) (cs : List Char) : Except BadInstant (Nat × List Char) :=
  if cs.isEmpty then .error .tooShort
  else
    let run := cs.takeWhile Char.isDigit
    let digits := match width with
      | some w => run.take w
      | none => run
    match natural? digits with
    | some n => .ok (n, cs.drop digits.length)
    | none => .error .invalid

/-- A number of at most two digits after blanks, in a range. -/
def scanPair (low high : Nat) (cs : List Char) : Except BadInstant (Nat × List Char) := do
  let (n, rest) ← scanNumber (some 2) (trimStart cs)
  if low ≤ n && n ≤ high then return (n, rest) else throw .outOfRange

/-- A year after blanks: at most four digits, or a sign and any number of digits. -/
def scanYear (cs : List Char) : Except BadInstant (Int × List Char) := do
  let (year, rest) ← match trimStart cs with
    | '-' :: more => do
        let (n, rest) ← scanNumber none more
        pure (-(n : Int), rest)
    | '+' :: more => do
        let (n, rest) ← scanNumber none more
        pure ((n : Int), rest)
    | digits => do
        let (n, rest) ← scanNumber (some 4) digits
        pure ((n : Int), rest)
  if Int32.minValue.toInt ≤ year && year ≤ Int32.maxValue.toInt then return (year, rest)
  else throw .outOfRange

def scanMark (mark : Char) (cs : List Char) : Except BadInstant (List Char) :=
  match trimStart cs with
  | [] => .error .tooShort
  | c :: rest => if c = mark then .ok rest else .error .invalid

/-- The fraction of a second, if there is one, in nanoseconds; digits after the ninth are passed
over. -/
def scanNano : List Char → Except BadInstant (Nat × List Char)
  | '.' :: cs => do
      let (n, rest) ← scanNumber (some 9) cs
      let digits := cs.length - rest.length
      return (n * Nat.pow 10 (9 - digits), rest.dropWhile Char.isDigit)
  | cs => .ok (0, cs)

def twoDigits? (a b : Char) : Option Nat := natural? [a, b]

/-- The hours of an offset, always with two digits. -/
def scanOffsetHours (cs : List Char) : Except BadInstant (Nat × List Char) :=
  if byteCount cs < 2 then .error .tooShort
  else match cs with
    | a :: b :: rest =>
        match twoDigits? a b with
        | some n => .ok (n, rest)
        | none => .error .invalid
    | _ => .error .invalid

def scanOffsetMinutes (cs : List Char) : Except BadInstant (Nat × List Char) := do
  let (n, rest) ← scanOffsetHours cs
  if n < 60 then return (n, rest) else throw .outOfRange

/-- The offset from UTC in minutes: the letter Z, or a sign, hours and minutes. -/
def scanSignedOffset (cs : List Char) : Except BadInstant (Int × List Char) := do
  let (negative, digits) ← match cs with
    | [] => throw .tooShort
    | c :: rest =>
        if c = '+' then pure (false, rest)
        else if c = '-' || c = '\u2212' then pure (true, rest)
        else throw .invalid
  let (hours, rest) ← scanOffsetHours digits
  let (minutes, rest) ← scanOffsetMinutes (rest.dropWhile (fun c => c == ':' || isBlankChar c))
  let total : Int := hours * 60 + minutes
  return (if negative then -total else total, rest)

def scanOffset (cs : List Char) : Except BadInstant (Int × List Char) :=
  match cs with
  | 'Z' :: rest => .ok (0, rest)
  | 'z' :: rest => .ok (0, rest)
  | a :: b :: c :: rest =>
      if String.ofList [a.toUpper, b.toUpper, c.toUpper] = "UTC" then .ok (0, rest)
      else scanSignedOffset cs
  | _ => scanSignedOffset cs

/-- The same point in time with an offset of so many minutes taken off. -/
def subtractOffset (civil : Instant) (offset : Int) : Instant :=
  let minutes : Int := civil.hour * 60 + civil.minute - offset
  let ofDay := minutes % 1440
  let date :=
    if minutes < 0 then civil.date.previous
    else if minutes ≥ 1440 then civil.date.next
    else civil.date
  { civil with date := date, hour := (ofDay / 60).toNat, minute := (ofDay % 60).toNat }

def ofChars (cs : List Char) : Except BadInstant Instant := do
  let (year, cs) ← scanYear cs
  let cs ← scanMark '-' cs
  let (month, cs) ← scanPair 1 12 cs
  let cs ← scanMark '-' cs
  let (day, cs) ← scanPair 1 31 cs
  let cs ← match cs with
    | [] => throw .tooShort
    | c :: rest => if c = 'T' || c = 't' || c = ' ' then pure rest else throw .invalid
  let (hour, cs) ← scanPair 0 23 cs
  let cs ← scanMark ':' cs
  let (minute, cs) ← scanPair 0 59 cs
  let cs ← scanMark ':' cs
  let (second, cs) ← scanPair 0 60 cs
  let (nano, cs) ← scanNano cs
  let (offset, cs) ← scanOffset (trimStart cs)
  if !(trimStart cs).isEmpty then throw .trailing
  let date : Date := ⟨year, month, day⟩
  if !date.isValid then throw .outOfRange
  if offset ≤ -1440 || 1440 ≤ offset then throw .outOfRange
  let instant := subtractOffset ⟨date, hour, minute, second, nano⟩ offset
  if Date.inReach instant.date.year then return instant else throw .impossible

def ofText (text : String) : Except BadInstant Instant := ofChars text.toList

/-! ### Writing -/

/-- A number with zeros in front, up to a width. -/
def padded (width n : Nat) : List Char :=
  let digits := Nat.toDigits 10 n
  List.replicate (width - digits.length) '0' ++ digits

/-- The year: four digits, or a sign and at least four digits. -/
def yearChars (year : Int) : List Char :=
  if 0 ≤ year && year ≤ 9999 then padded 4 year.toNat
  else (if year < 0 then '-' else '+') :: padded 4 year.natAbs

/-- The fraction of the second, with the fewest groups of three digits. -/
def nanoChars (nano : Nat) : List Char :=
  if nano = 0 then []
  else if nano % 1000000 = 0 then '.' :: padded 3 (nano / 1000000)
  else if nano % 1000 = 0 then '.' :: padded 6 (nano / 1000)
  else '.' :: padded 9 nano

def text (instant : Instant) : String :=
  String.ofList (yearChars instant.date.year ++ '-' :: padded 2 instant.date.month ++
    '-' :: padded 2 instant.date.day ++ 'T' :: padded 2 instant.hour ++
    ':' :: padded 2 instant.minute ++ ':' :: padded 2 instant.second ++
    nanoChars instant.nano ++ ['Z'])

def codec : Codec Instant where
  encode instant := .text instant.text
  decode _ json :=
    match json with
    | .text s =>
        match ofText s with
        | .ok instant => return instant
        | .error reason => Decode.unfit (.badInstant reason)
    | other => Decode.wrongType other "an RFC 3339 formatted date and time string"

end Instant

end LanguageBlueprint
