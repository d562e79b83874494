import CloudReconcile.Decimal.Shortest
import CloudReconcile.Text.Blank
import CloudReconcile.Text.Utf8

/-!
# Points in time

A point in time is a date and a time of day in the zone of Greenwich, to the second.  It may be
read with another offset and with a fraction of a second, which is dropped.
-/

namespace CloudReconcile

/-- A second of a day; the sixtieth second of a minute is a leap second. -/
structure Timestamp where
  year : Int
  month : Nat
  day : Nat
  hour : Nat
  minute : Nat
  second : Nat
deriving DecidableEq, Repr

inductive TimestampError where
  | outOfRange
  | invalid
  | tooShort
  | tooLong
  | impossible
deriving DecidableEq, Repr

namespace TimestampError

def message : TimestampError → String
  | .outOfRange => "input is out of range"
  | .invalid => "input contains invalid characters"
  | .tooShort => "premature end of input"
  | .tooLong => "trailing input"
  | .impossible => "no possible date and time matching input"

end TimestampError

namespace Timestamp

/-! ## Writing -/

def padded (width n : Nat) : String :=
  let digits := Decimal.digits n
  String.ofList (List.replicate (width - digits.length) '0' ++ digits)

/-- Four digits; years that need more have a sign. -/
def yearText (year : Int) : String :=
  if year < 0 then "-" ++ padded 4 year.natAbs
  else if 9999 < year then "+" ++ padded 4 year.natAbs
  else padded 4 year.natAbs

def text (t : Timestamp) : String :=
  yearText t.year ++ "-" ++ padded 2 t.month ++ "-" ++ padded 2 t.day ++ "T" ++
    padded 2 t.hour ++ ":" ++ padded 2 t.minute ++ ":" ++ padded 2 t.second ++ "Z"

/-! ## The calendar -/

def firstYear : Int := -262143

def lastYear : Int := 262142

def holds (year : Int) : Bool := firstYear ≤ year && year ≤ lastYear

def isLeap (year : Int) : Bool :=
  year % 4 = 0 && (year % 100 ≠ 0 || year % 400 = 0)

def monthDays (year : Int) (month : Nat) : Nat :=
  if month = 2 then (if isLeap year then 29 else 28)
  else if month = 4 ∨ month = 6 ∨ month = 9 ∨ month = 11 then 30
  else 31

def nextDay (t : Timestamp) : Timestamp :=
  if t.day < monthDays t.year t.month then { t with day := t.day + 1 }
  else if t.month < 12 then { t with month := t.month + 1, day := 1 }
  else { t with year := t.year + 1, month := 1, day := 1 }

def previousDay (t : Timestamp) : Timestamp :=
  if 1 < t.day then { t with day := t.day - 1 }
  else if 1 < t.month then
    { t with month := t.month - 1, day := monthDays t.year (t.month - 1) }
  else { t with year := t.year - 1, month := 12, day := 31 }

/-- The time that was so many minutes, less than a day, ahead. -/
def behind (t : Timestamp) (minutes : Int) : Timestamp :=
  let total : Int := (t.hour * 60 + t.minute : Nat) - minutes
  let ofDay := (total % 1440).toNat
  let clocked := { t with hour := ofDay / 60, minute := ofDay % 60 }
  if total < 0 then clocked.previousDay
  else if 1440 ≤ total then clocked.nextDay
  else clocked

/-! ## Reading -/

def skipBlanks (text : List Char) : List Char := text.dropWhile Text.isBlank

def digitsValue (digits : List Char) : Nat :=
  digits.foldl (fun n c => n * 10 + (c.toNat - 0x30)) 0

/-- A number of at least one digit and at most `width` ones. -/
def number (width : Nat) (text : List Char) : Except TimestampError (Nat × List Char) :=
  let digits := (text.take width).takeWhile Char.isDigit
  if text.isEmpty then .error .tooShort
  else if digits.isEmpty then .error .invalid
  else .ok (digitsValue digits, text.drop digits.length)

/-- A number within bounds, blanks in front of it left out. -/
def bounded (low high : Nat) (text : List Char) : Except TimestampError (Nat × List Char) := do
  let (n, rest) ← number 2 (skipBlanks text)
  if low ≤ n ∧ n ≤ high then return (n, rest) else throw .outOfRange

/-- A year; one with a sign may have any number of digits, but has to fit into 32 bits. -/
def yearNumber (text : List Char) : Except TimestampError (Int × List Char) := do
  let (year, rest) : Int × List Char ← match skipBlanks text with
    | '-' :: rest => do
      let (n, rest) ← number rest.length rest
      pure (-(n : Int), rest)
    | '+' :: rest => do
      let (n, rest) ← number rest.length rest
      pure ((n : Int), rest)
    | text => do
      let (n, rest) ← number 4 text
      pure ((n : Int), rest)
  let limit : Int := Nat.pow 2 31
  if -limit ≤ year ∧ year < limit then return (year, rest) else throw .outOfRange

def mark (c : Char) (text : List Char) : Except TimestampError (List Char) :=
  match skipBlanks text with
  | [] => .error .tooShort
  | d :: rest => if d = c then .ok rest else .error .invalid

def skipFraction (text : List Char) : Except TimestampError (List Char) :=
  match text with
  | '.' :: rest => do
    let (_, _) ← number 9 rest
    return rest.dropWhile Char.isDigit
  | _ => .ok text

/-- Two digits, the first of them at most `most`.  A text is too short if it has fewer than two
bytes. -/
def twoDigits (most : Nat) (text : List Char) : Except TimestampError (Nat × List Char) :=
  match text with
  | a :: b :: rest =>
    if !(a.isDigit && b.isDigit) then .error .invalid
    else if most < digitsValue [a] then .error .outOfRange
    else .ok (digitsValue [a, b], rest)
  | text => .error (if (Text.Utf8.encode text).length < 2 then .tooShort else .invalid)

def span (text : List Char) : Except TimestampError (Nat × List Char) := do
  let (hours, rest) ← twoDigits 9 text
  let (minutes, rest) ← twoDigits 5 (rest.dropWhile fun c => c = ':' || Text.isBlank c)
  return (hours * 60 + minutes, rest)

/-- Minutes ahead of Greenwich: a `Z`, the letters `UTC`, or a sign with hours and minutes. -/
def zone (text : List Char) : Except TimestampError (Int × List Char) := do
  if (text.take 3).map Char.toUpper = ['U', 'T', 'C'] then return (0, text.drop 3)
  match text with
  | [] => throw .tooShort
  | c :: rest =>
    if c = 'z' ∨ c = 'Z' then return (0, rest)
    else if c = '+' then
      let (n, rest) ← span rest
      return ((n : Int), rest)
    else if c = '-' ∨ c.toNat = 0x2212 then
      let (n, rest) ← span rest
      return (-(n : Int), rest)
    else throw .invalid

def parse (text : String) : Except TimestampError Timestamp := do
  let (year, rest) ← yearNumber text.toList
  let (month, rest) ← bounded 1 12 (← mark '-' rest)
  let (day, rest) ← bounded 1 31 (← mark '-' rest)
  let rest ← match rest with
    | [] => throw .tooShort
    | c :: rest => if c = 'T' ∨ c = 't' ∨ c = ' ' then pure rest else throw .invalid
  let (hour, rest) ← bounded 0 23 rest
  let (minute, rest) ← bounded 0 59 (← mark ':' rest)
  let (second, rest) ← bounded 0 60 (← mark ':' rest)
  let (minutes, rest) ← zone (skipBlanks (← skipFraction rest))
  if !(skipBlanks rest).isEmpty then throw .tooLong
  if !holds year ∨ monthDays year month < day ∨ 24 * 60 ≤ minutes.natAbs then throw .outOfRange
  let t := behind { year, month, day, hour, minute, second } minutes
  if holds t.year then return t else throw .impossible

end Timestamp

end CloudReconcile
