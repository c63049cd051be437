import IRDiagnostics.Toml.Lexical

/-!
This module contains the dates and times of TOML texts: a date, a time of day, or a date with a time
and perhaps its offset from universal time.
-/

namespace IRDiagnostics

namespace Toml

structure Date where
  year : Nat
  month : Nat
  day : Nat
  deriving DecidableEq

structure Time where
  hour : Nat
  minute : Nat
  second : Nat
  nanosecond : Nat
  deriving DecidableEq

structure DateTime where
  date? : Option Date
  time? : Option Time
  /-- The offset in minutes. -/
  offset? : Option Int
  deriving DecidableEq

def isLeapYear (year : Nat) : Bool := year % 4 = 0 && (year % 100 ≠ 0 || year % 400 = 0)

def daysInMonth (year month : Nat) : Nat :=
  if month = 2 then
    if isLeapYear year then 29 else 28
  else if month ∈ [4, 6, 9, 11] then
    30
  else
    31

/--
A number with a fixed count of digits.
-/
def fixedDigits (count : Nat) : Reader Nat := do
  let chars ← (List.replicate count (Reader.satisfy (·.isDigit))).mapM id
  return Nat.ofDigitChars 10 chars 0

/--
A number of two digits within bounds.
-/
def twoDigits (least greatest : Nat) : Reader Nat := do
  let value ← fixedDigits 2
  guard (least ≤ value ∧ value ≤ greatest)
  return value

def date : Reader Date := do
  let year ← fixedDigits 4
  Reader.char '-'
  let month ← twoDigits 1 12
  Reader.char '-'
  let day ← twoDigits 1 (daysInMonth year month)
  return { year, month, day }

/--
The digits after the seconds, of which those beyond nanoseconds are dropped.
-/
def secondFraction : Reader Nat := do
  Reader.char '.'
  let places ← Reader.takeWhile1 (·.isDigit)
  return Nat.ofDigitChars 10 (places.take 9) 0 * Nat.pow 10 (9 - places.length)

/--
A time of day. The second 60 is for leap seconds.
-/
def time : Reader Time := do
  let hour ← twoDigits 0 23
  Reader.char ':'
  let minute ← twoDigits 0 59
  Reader.char ':'
  let second ← twoDigits 0 60
  let nanosecond ← optional secondFraction
  return { hour, minute, second, nanosecond := nanosecond.getD 0 }

def offset : Reader Int :=
  (do
    let _ ← Reader.satisfy fun c => c = 'Z' || c = 'z'
    return 0) <|>
  (do
    let sign ← Reader.satisfy fun c => c = '+' || c = '-'
    let hours ← twoDigits 0 23
    Reader.char ':'
    let minutes ← twoDigits 0 59
    let total := 60 * hours + minutes
    return if sign = '-' then -total else total)

/--
What follows a date: a time, and perhaps its offset.
-/
def timeAndOffset : Reader (Time × Option Int) := do
  let _ ← Reader.satisfy fun c => c = 'T' || c = 't' || c = ' '
  let time ← time
  let offset? ← optional offset
  return (time, offset?)

def dateTime : Reader DateTime :=
  (do
    let date ← date
    match ← optional timeAndOffset with
    | some (time, offset?) => return { date? := some date, time? := some time, offset? }
    | none => return { date? := some date, time? := none, offset? := none }) <|>
  (do return { date? := none, time? := some (← time), offset? := none })

end Toml

end IRDiagnostics
