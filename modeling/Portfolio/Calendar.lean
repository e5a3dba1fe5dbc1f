/-
Module: Portfolio.Calendar
Purpose: Dates and times of day: the written forms that are read, and the one form that
  is written.
Main exports: Calendar.Moment, Calendar.readMoment?, Calendar.ofUnixSeconds?,
  Calendar.Moment.text, Calendar.readTime?
-/
import Portfolio.Text.Blank
import Portfolio.Text.Numeral

namespace Portfolio.Calendar

/-- A day of the Gregorian calendar, extended to all years. -/
structure Date where
  year : Int
  month : Nat
  day : Nat
  deriving DecidableEq, Repr, Inhabited

/-- A time of day. A leap second is the second sixty of any minute. -/
structure Clock where
  hour : Nat
  minute : Nat
  second : Nat
  deriving DecidableEq, Repr, Inhabited

/-- A date and a time of day on a local clock, to the second. -/
structure Moment where
  date : Date
  clock : Clock
  deriving DecidableEq, Repr, Inhabited

/-! ### Validity -/

/-- Leap years have a twenty-ninth of February. -/
def isLeapYear (year : Int) : Bool :=
  year % 4 == 0 && (year % 100 != 0 || year % 400 == 0)

def daysInMonth (year : Int) (month : Nat) : Nat :=
  if month = 2 then (if isLeapYear year then 29 else 28)
  else if month = 4 ∨ month = 6 ∨ month = 9 ∨ month = 11 then 30
  else 31

/-- The years that dates can have. -/
def isYear (year : Int) : Bool := decide (-262143 ≤ year ∧ year ≤ 262142)

/-- The date is a day of the calendar. -/
def Date.isValid (d : Date) : Bool :=
  isYear d.year && decide (1 ≤ d.month ∧ d.month ≤ 12) &&
    decide (1 ≤ d.day ∧ d.day ≤ daysInMonth d.year d.month)

/-- The time is on the clock. -/
def Clock.isValid (c : Clock) : Bool :=
  decide (c.hour ≤ 23 ∧ c.minute ≤ 59 ∧ c.second ≤ 60)

/-! ### Patterns -/

/-- A part of a written form. -/
inductive Part where
  | year
  | month
  | day
  | hour
  | minute
  | second
  /-- A fraction of a second, or nothing. It is dropped. -/
  | fraction
  /-- Any run of blanks, also none. -/
  | space
  | mark (c : Char)
  deriving DecidableEq, Repr, Inhabited

/-- A number of at least one and at most `most` digits, and the rest. -/
def scanNumber (most : Nat) (cs : List Char) : Option (Nat × List Char) :=
  let digits := (cs.take most).takeWhile Char.isDigit
  if digits.isEmpty then none
  else some (Text.ofDigits 10 digits, cs.drop digits.length)

/-- A number of any count of digits, and the rest. -/
def scanLongNumber (cs : List Char) : Option (Nat × List Char) := scanNumber cs.length cs

/-- A year: up to four digits, or any count of digits behind a sign. -/
def scanYear (cs : List Char) : Option (Int × List Char) :=
  match cs with
  | '-' :: rest => (scanLongNumber rest).map fun (n, rest) => (-n, rest)
  | '+' :: rest => (scanLongNumber rest).map fun (n, rest) => ((n : Int), rest)
  | _ => (scanNumber 4 cs).map fun (n, rest) => ((n : Int), rest)

/-- A point and digits, or nothing, and the rest. -/
def skipFraction (cs : List Char) : Option (List Char) :=
  match cs with
  | '.' :: rest => (scanLongNumber rest).map (·.2)
  | _ => some cs

/-- A moment read so far. Parts that were not read are zero. -/
def blank : Moment := ⟨⟨0, 0, 0⟩, ⟨0, 0, 0⟩⟩

/-- Reads one part of a moment. Blanks may stand before every number. -/
def Part.read (part : Part) (m : Moment) (cs : List Char) : Option (Moment × List Char) :=
  let number := scanNumber 2 (Text.trimStartChars cs)
  match part with
  | .year => (scanYear (Text.trimStartChars cs)).map fun (n, rest) =>
      ({ m with date.year := n }, rest)
  | .month => number.map fun (n, rest) => ({ m with date.month := n }, rest)
  | .day => number.map fun (n, rest) => ({ m with date.day := n }, rest)
  | .hour => number.map fun (n, rest) => ({ m with clock.hour := n }, rest)
  | .minute => number.map fun (n, rest) => ({ m with clock.minute := n }, rest)
  | .second => number.map fun (n, rest) => ({ m with clock.second := n }, rest)
  | .fraction => (skipFraction cs).map fun rest => (m, rest)
  | .space => some (m, Text.trimStartChars cs)
  | .mark c =>
      match cs with
      | d :: rest => if c = d then some (m, rest) else none
      | [] => none

/-- Reads a moment by a pattern that has to reach the end. -/
def readPattern (m : Moment) : List Part → List Char → Option Moment
  | [], [] => some m
  | [], _ :: _ => none
  | part :: parts, cs => (part.read m cs).bind fun (m, rest) => readPattern m parts rest

/-- Year, month and day. -/
def datePattern : List Part := [.year, .mark '-', .month, .mark '-', .day]

/-- Hour and minute. -/
def minutePattern : List Part := [.hour, .mark ':', .minute]

/-- Hour, minute and second, with a fraction. -/
def secondPattern : List Part := minutePattern ++ [.mark ':', .second, .fraction]

/-- The patterns with a time of day, in the order they are tried. -/
def momentPatterns : List (List Part) := [
  datePattern ++ [.mark 'T'] ++ secondPattern,
  datePattern ++ [.space] ++ secondPattern,
  datePattern ++ [.mark 'T'] ++ minutePattern,
  datePattern ++ [.space] ++ minutePattern]

/-! ### Moments with an offset -/

/-- A number of exactly two digits, and the rest. -/
def scanPair : List Char → Option (Nat × List Char)
  | a :: b :: rest =>
      if a.isDigit && b.isDigit then some (Text.ofDigits 10 [a, b], rest) else none
  | _ => none

/-- The rest after a character. -/
def skipChar (c : Char) : List Char → Option (List Char)
  | d :: rest => if c = d then some rest else none
  | [] => none

/-- Hours and minutes of an offset, up to the end. -/
def isOffsetTime (cs : List Char) : Bool :=
  ((do
    let (hours, rest) ← scanPair cs
    let rest ← skipChar ':' rest
    let (minutes, rest) ← scanPair rest
    return decide (hours ≤ 23 ∧ minutes ≤ 59) && rest.isEmpty) : Option Bool).getD false

/-- An offset from universal time, up to the end: `Z`, or a sign and a time. The sign
may be a typographic minus. -/
def isOffset : List Char → Bool
  | ['Z'] | ['z'] => true
  | c :: rest => (c == '+' || c == '-' || c == '\u2212') && isOffsetTime rest
  | [] => false

/-- A moment of fixed width with an offset. The time is that of the local clock, so the
offset does not change it. -/
def readInternet? (cs : List Char) : Option Moment := do
  let (high, rest) ← scanPair cs
  let (low, rest) ← scanPair rest
  let rest ← skipChar '-' rest
  let (month, rest) ← scanPair rest
  let rest ← skipChar '-' rest
  let (day, rest) ← scanPair rest
  let rest ← match rest with
    | c :: rest => if c = 'T' ∨ c = 't' ∨ c = ' ' then some rest else none
    | [] => none
  let (hour, rest) ← scanPair rest
  let rest ← skipChar ':' rest
  let (minute, rest) ← scanPair rest
  let rest ← skipChar ':' rest
  let (second, rest) ← scanPair rest
  let rest ← skipFraction rest
  if isOffset rest then return ⟨⟨high * 100 + low, month, day⟩, ⟨hour, minute, second⟩⟩
  else none

/-! ### Reading -/

/-- A moment that is in the calendar and on the clock. -/
def Moment.valid? (m : Moment) : Option Moment :=
  if m.date.isValid && m.clock.isValid then some m else none

/-- The first valid reading of a text: with an offset, with a time of day, or as a date
alone, which means midnight. -/
def readMoment? (s : String) : Option Moment :=
  let cs := Text.trimChars s.toList
  (readInternet? cs).bind Moment.valid? <|>
    momentPatterns.findSome? (fun p => (readPattern blank p cs).bind Moment.valid?) <|>
    (readPattern blank datePattern cs).bind Moment.valid?

/-- A time of day by a pattern, if it is on the clock. -/
def readClock? (pattern : List Part) (cs : List Char) : Option Clock :=
  ((readPattern blank pattern cs).map (·.clock)).filter Clock.isValid

/-- A time of day, alone or as part of a moment. -/
def readTime? (s : String) : Option Clock :=
  let cs := Text.trimChars s.toList
  [secondPattern, minutePattern].findSome? (fun p => readClock? p cs) <|>
    (readMoment? s).map (·.clock)

/-! ### Unix time -/

/-- The date of a count of days since the first of March of the year zero, split into
eras of 400 years. -/
def dateOfDays (days : Int) : Date :=
  let era := days / 146097
  let dayOfEra := (days % 146097).toNat
  let yearOfEra :=
    (dayOfEra - dayOfEra / 1460 + dayOfEra / 36524 - dayOfEra / 146096) / 365
  let dayOfYear := dayOfEra - (365 * yearOfEra + yearOfEra / 4 - yearOfEra / 100)
  let monthFromMarch := (5 * dayOfYear + 2) / 153
  let day := dayOfYear - (153 * monthFromMarch + 2) / 5 + 1
  let month := if monthFromMarch < 10 then monthFromMarch + 3 else monthFromMarch - 9
  let year := (yearOfEra : Int) + era * 400
  ⟨if month ≤ 2 then year + 1 else year, month, day⟩

/-- The days from the first of March of the year zero to the first of January 1970. -/
def epochDays : Int := 719468

/-- The moment of a count of seconds since 1970, in universal time. -/
def ofUnixSeconds? (seconds : Int) : Option Moment :=
  let days := seconds / 86400
  let rest := (seconds % 86400).toNat
  (Moment.mk (dateOfDays (days + epochDays))
    ⟨rest / 3600, rest / 60 % 60, rest % 60⟩).valid?

/-! ### Writing -/

/-- A year has at least four digits, and a sign outside 0 to 9999. -/
def yearText (year : Int) : String :=
  let digits := Text.padZeros 4 (Text.decimal year.natAbs)
  if year < 0 then "-" ++ digits
  else if 9999 < year then "+" ++ digits
  else digits

/-- Two digits. -/
def pairText (n : Nat) : String := Text.padZeros 2 (Text.decimal n)

/-- A moment as year, month, day, hour, minute and second. -/
def Moment.text (m : Moment) : String :=
  yearText m.date.year ++ "-" ++ pairText m.date.month ++ "-" ++ pairText m.date.day ++ " " ++
    pairText m.clock.hour ++ ":" ++ pairText m.clock.minute ++ ":" ++ pairText m.clock.second

/-- A time of day as hour and minute. -/
def Clock.text (c : Clock) : String := pairText c.hour ++ ":" ++ pairText c.minute

end Portfolio.Calendar
