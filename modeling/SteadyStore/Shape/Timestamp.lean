import SteadyStore.Number.Power
import SteadyStore.Text.Blank
/-!
# Points in time

A date, a time of day to the nanosecond and an offset, read as `2024-01-02T03:04:05Z`
and written in coordinated time. A second may be a leap second, `60`. Days are counted
from a fixed day (`dayNumber`), which makes moving by an offset a subtraction
(`dateOfDay` goes back).
-/

namespace SteadyStore.Timestamp

/-- What can be wrong with a text that should be a point in time. -/
inductive Fault
  | outOfRange | impossible | invalid | tooShort | tooLong
deriving DecidableEq, Repr

def Fault.message : Fault → String
  | .outOfRange => "input is out of range"
  | .impossible => "no possible date and time matching input"
  | .invalid => "input contains invalid characters"
  | .tooShort => "premature end of input"
  | .tooLong => "trailing input"

/-! ## The calendar -/

structure Date where
  year : Int
  month : Nat
  day : Nat
deriving DecidableEq, Repr

def isLeapYear (year : Int) : Bool := year % 4 = 0 && (year % 100 ≠ 0 || year % 400 = 0)

def daysInMonth (year : Int) (month : Nat) : Nat :=
  if month = 2 then (if isLeapYear year then 29 else 28)
  else if month = 4 ∨ month = 6 ∨ month = 9 ∨ month = 11 then 30
  else 31

/-- The years of the calendar. -/
def yearInRange (year : Int) : Bool := -262143 ≤ year && year ≤ 262142

def Date.isValid (date : Date) : Bool :=
  yearInRange date.year && 1 ≤ date.month && date.month ≤ 12 && 1 ≤ date.day &&
    date.day ≤ daysInMonth date.year date.month

/-- The number of a day. Years are counted from March, so that a leap day ends one. -/
def dayNumber (date : Date) : Int :=
  let year := if date.month ≤ 2 then date.year - 1 else date.year
  let era := year / 400
  let yearOfEra := year - era * 400
  let month := (date.month + 9) % 12
  let dayOfYear : Int := (153 * month + 2) / 5 + date.day - 1
  era * 146097 + yearOfEra * 365 + yearOfEra / 4 - yearOfEra / 100 + dayOfYear

/-- The day with a number. -/
def dateOfDay (number : Int) : Date :=
  let era := number / 146097
  let dayOfEra := number - era * 146097
  let yearOfEra := (dayOfEra - dayOfEra / 1460 + dayOfEra / 36524 - dayOfEra / 146096) / 365
  let dayOfYear := dayOfEra - (365 * yearOfEra + yearOfEra / 4 - yearOfEra / 100)
  let shifted := (5 * dayOfYear + 2) / 153
  let day := (dayOfYear - (153 * shifted + 2) / 5 + 1).toNat
  let month := if shifted < 10 then (shifted + 3).toNat else (shifted - 9).toNat
  ⟨yearOfEra + era * 400 + (if month ≤ 2 then 1 else 0), month, day⟩

/-- A time of day. The second 60 is a leap second. -/
structure Clock where
  hour : Nat
  minute : Nat
  second : Nat
  nano : Nat
deriving DecidableEq, Repr

/-- The date and time at offset zero of a date and time at an offset in seconds. An offset
is a whole number of minutes, so a leap second stays one. -/
def atZero (date : Date) (clock : Clock) (offset : Int) : Date × Clock :=
  let minutes := dayNumber date * 1440 + clock.hour * 60 + clock.minute - offset / 60
  let ofDay := (minutes % 1440).toNat
  (dateOfDay (minutes / 1440), { clock with hour := ofDay / 60, minute := ofDay % 60 })

/-! ## Reading -/

/-- Reading takes characters from the front of a text, or fails. -/
abbrev Reader := StateT (List Char) (Except Fault)

def fail {α : Type} (fault : Fault) : Reader α := throw fault

def skipBlanks : Reader Unit := modify (·.dropWhile isBlank)

/-- The next character has to be `c`. -/
def expect (c : Char) : Reader Unit := do
  match ← get with
  | [] => fail .tooShort
  | next :: rest => if next = c then set rest else fail .invalid

/-- A number of one to `width` digits, with how many they are. -/
def readDigits (width : Nat) : Reader (Nat × Nat) := do
  let cs ← get
  let digits := (cs.takeWhile Char.isDigit).take width
  if cs.isEmpty then fail .tooShort
  if digits.isEmpty then fail .invalid
  set (cs.drop digits.length)
  return (digits.foldl (fun n c => 10 * n + (c.toNat - 48)) 0, digits.length)

/-- A number of one or two digits between two bounds. -/
def readPart (low high : Nat) : Reader Nat := do
  skipBlanks
  let (n, _) ← readDigits 2
  if n < low ∨ high < n then fail .outOfRange
  return n

/-- A year of up to four digits, or of any length behind a sign. -/
def readYear : Reader Int := do
  skipBlanks
  let cs ← get
  let (year, negative) ← (do
    match cs with
    | '-' :: rest =>
      set rest
      return ((← readDigits rest.length).1, true)
    | '+' :: rest =>
      set rest
      return ((← readDigits rest.length).1, false)
    | _ => return ((← readDigits 4).1, false))
  let year : Int := if negative then -year else year
  if year < -(twoPow 31 : Int) ∨ twoPow 31 ≤ year then fail .outOfRange
  return year

/-- A separator between two parts, with blanks around it. -/
def readSeparator (c : Char) : Reader Unit := do
  skipBlanks
  expect c

def readDate : Reader Date := do
  let year ← readYear
  readSeparator '-'
  let month ← readPart 1 12
  readSeparator '-'
  return ⟨year, month, ← readPart 1 31⟩

/-- The nanoseconds behind a point, if there is one. Digits past the ninth do not count. -/
def readNano : Reader Nat := do
  match ← get with
  | '.' :: rest =>
    set rest
    let (n, count) ← readDigits 9
    modify (·.dropWhile Char.isDigit)
    return n * tenPow (9 - count)
  | _ => return 0

def readClock : Reader Clock := do
  let hour ← readPart 0 23
  readSeparator ':'
  let minute ← readPart 0 59
  readSeparator ':'
  let second ← readPart 0 60
  return ⟨hour, minute, second, ← readNano⟩

/-- Two digits of an offset. -/
def readPair : Reader (Char × Char) := do
  match ← get with
  | a :: b :: rest =>
    set rest
    return (a, b)
  | [c] => if 1 < c.utf8Size then fail .invalid else fail .tooShort
  | [] => fail .tooShort

def digitValue (c : Char) : Nat := c.toNat - 48

/-- An offset in seconds: `Z`, or a sign, hours, and minutes below 60. -/
def readOffset : Reader Int := do
  let cs ← get
  match cs with
  | [] => fail .tooShort
  | sign :: rest =>
    if sign = 'Z' ∨ sign = 'z' then
      set rest
      return 0
    if sign ≠ '+' ∧ sign ≠ '-' ∧ sign ≠ '−' then fail .invalid
    set rest
    let (h₁, h₂) ← readPair
    if !(h₁.isDigit && h₂.isDigit) then fail .invalid
    modify (·.dropWhile fun c => c = ':' || isBlank c)
    let (m₁, m₂) ← readPair
    if !(m₁.isDigit && m₂.isDigit) then fail .invalid
    if '6' ≤ m₁ then fail .outOfRange
    let hours := 10 * digitValue h₁ + digitValue h₂
    let minutes := 10 * digitValue m₁ + digitValue m₂
    let seconds : Int := (hours * 60 + minutes : Nat) * 60
    return if sign = '+' then seconds else -seconds

/-- An offset, or the name of offset zero. -/
def readZone : Reader Int := do
  skipBlanks
  let cs ← get
  if (cs.take 3).map Char.toLower = ['u', 't', 'c'] then
    set (cs.drop 3)
    return 0
  readOffset

/-- The letter or blank between a date and a time. -/
def readMiddle : Reader Unit := do
  match ← get with
  | [] => fail .tooShort
  | c :: rest => if c = 'T' ∨ c = 't' ∨ c = ' ' then set rest else fail .invalid

/-- A date and time at offset zero. -/
def readTimestamp : Reader (Date × Clock) := do
  let date ← readDate
  readMiddle
  let clock ← readClock
  let offset ← readZone
  skipBlanks
  if !(← get).isEmpty then fail .tooLong
  if !date.isValid then fail .outOfRange
  if offset ≤ -86400 ∨ 86400 ≤ offset then fail .outOfRange
  let (date, clock) := atZero date clock offset
  if !yearInRange date.year then fail .impossible
  return (date, clock)

/-! ## Writing -/

/-- A count in at least `width` digits. -/
def padded (width n : Nat) : String :=
  let digits := Nat.toDigits 10 n
  String.ofList (List.replicate (width - digits.length) '0' ++ digits)

/-- Years from 0 to 9999 have no sign. -/
def writeYear (year : Int) : String :=
  if 0 ≤ year ∧ year ≤ 9999 then padded 4 year.toNat
  else (if year < 0 then "-" else "+") ++ padded 4 year.natAbs

/-- None, three, six or nine digits: the fewest that hold the value. -/
def writeNano (nano : Nat) : String :=
  if nano = 0 then ""
  else if nano % 1000000 = 0 then "." ++ padded 3 (nano / 1000000)
  else if nano % 1000 = 0 then "." ++ padded 6 (nano / 1000)
  else "." ++ padded 9 nano

def write (date : Date) (clock : Clock) : String :=
  writeYear date.year ++ "-" ++ padded 2 date.month ++ "-" ++ padded 2 date.day ++ "T" ++
    padded 2 clock.hour ++ ":" ++ padded 2 clock.minute ++ ":" ++ padded 2 clock.second ++
    writeNano clock.nano ++ "Z"

/-- The written form of the point in time that a text reads as. -/
def normalize (text : String) : Except String String :=
  match readTimestamp.run text.toList with
  | .ok ((date, clock), _) => .ok (write date clock)
  | .error fault => .error fault.message

end SteadyStore.Timestamp
