/-
Module: Portfolio.Toml.Scalar
Purpose: Reading the parts of TOML that have no parts of their own: strings, numbers,
  booleans, dates and times.
Main exports: Toml.readBasic, Toml.readLiteral, Toml.readToken
-/
import Portfolio.Calendar
import Portfolio.Toml.Basic

namespace Portfolio.Toml

/-! ### Characters -/

/-- Blanks inside a line. -/
def isSpace (c : Char) : Bool := c == ' ' || c == '\t'

/-- Controls may not stand in strings and comments, except for the tab. -/
def isControl (c : Char) : Bool := (decide (c.toNat < 0x20) && c != '\t') || c == '\x7f'

/-- The rest of a text after a line ending at its start. -/
def skipNewline : List Char → Option (List Char)
  | '\n' :: rest | '\r' :: '\n' :: rest => some rest
  | _ => none

/-! ### Strings -/

/-- The character of an escape of one letter. -/
def shortEscape? (c : Char) : Option Char :=
  match c with
  | 'b' => some '\x08'
  | 't' => some '\t'
  | 'n' => some '\n'
  | 'f' => some '\x0c'
  | 'r' => some '\r'
  | '\x22' => some '\x22'
  | '\\' => some '\\'
  | _ => none

/-- The character of a code point in hexadecimal digits. Surrogates are none. -/
def codePoint? (digits : List Char) : Option Char :=
  let n := Text.ofDigits 16 digits
  if digits.all (fun c => (Text.digitIn? 16 c).isSome) && decide n.isValidChar then
    some (Char.ofNat n)
  else none

/-- Puts a character in front of what was read. -/
def consChar (c : Char) (read : Option (List Char × List Char)) :
    Option (List Char × List Char) :=
  read.map fun (cs, rest) => (c :: cs, rest)

/-- Nothing but blanks stands before the end of the line. -/
def endsLine (cs : List Char) : Bool := (skipNewline (cs.dropWhile isSpace)).isSome

/-- How many of the quotes at the end of a long string belong to it, where the first
quote of the run is already read: up to two more than the three that close it. -/
def closingQuotes (quote : Char) : List Char → Option (List Char × List Char)
  | a :: b :: rest =>
      if a = quote ∧ b = quote then
        match rest with
        | c :: d :: rest' =>
            if c = quote ∧ d = quote then some ([quote, quote], rest')
            else if c = quote then some ([quote], d :: rest')
            else some ([], c :: d :: rest')
        | [c] => if c = quote then some ([quote], []) else some ([], [c])
        | [] => some ([], [])
      else none
  | _ => none

/-- The characters of a string with escapes after its opening quotes. A long string
ends at three quotes and holds line endings; a backslash at the end of its line skips
the blanks and line endings up to the next character. -/
def basicChars (long : Bool) (skipping : Bool) : List Char → Option (List Char × List Char)
  | [] => none
  | '\\' :: 'u' :: a :: b :: c :: d :: rest =>
      (codePoint? [a, b, c, d]).bind fun x => consChar x (basicChars long false rest)
  | '\\' :: 'U' :: a :: b :: c :: d :: e :: f :: g :: h :: rest =>
      (codePoint? [a, b, c, d, e, f, g, h]).bind fun x =>
        consChar x (basicChars long false rest)
  | '\\' :: c :: rest =>
      match shortEscape? c with
      | some x => consChar x (basicChars long false rest)
      | none => if long && endsLine (c :: rest) then basicChars long true (c :: rest) else none
  | '\r' :: '\n' :: rest =>
      if !long then none
      else if skipping then basicChars long true rest
      else consChar '\n' (basicChars long false rest)
  | '\x22' :: rest =>
      if long then
        closingQuotes '\x22' rest <|> consChar '\x22' (basicChars long false rest)
      else some ([], rest)
  | c :: rest =>
      if skipping && (isSpace c || c == '\n') then basicChars long true rest
      else if isControl c && !(long && c == '\n') then none
      else consChar c (basicChars long false rest)

/-- The characters of a string without escapes after its opening quotes. -/
def literalChars (long : Bool) : List Char → Option (List Char × List Char)
  | [] => none
  | '\r' :: '\n' :: rest => if long then consChar '\n' (literalChars long rest) else none
  | '\x27' :: rest =>
      if long then closingQuotes '\x27' rest <|> consChar '\x27' (literalChars long rest)
      else some ([], rest)
  | c :: rest =>
      if isControl c && !(long && c == '\n') then none
      else consChar c (literalChars long rest)

/-- The characters read as a text. -/
def asText (read : Option (List Char × List Char)) : Option (String × List Char) :=
  read.map fun (cs, rest) => (String.ofList cs, rest)

/-- A string of one line with escapes, after its opening quote. -/
def readBasic (cs : List Char) : Option (String × List Char) := asText (basicChars false false cs)

/-- A string of one line without escapes, after its opening quote. -/
def readLiteral (cs : List Char) : Option (String × List Char) := asText (literalChars false cs)

/-- A string of several lines with escapes, after its opening quotes. A line ending right
behind them does not count. -/
def readLongBasic (cs : List Char) : Option (String × List Char) :=
  asText (basicChars true false ((skipNewline cs).getD cs))

/-- A string of several lines without escapes, after its opening quotes. -/
def readLongLiteral (cs : List Char) : Option (String × List Char) :=
  asText (literalChars true ((skipNewline cs).getD cs))

/-! ### Numbers -/

/-- The digits of a run in which single underscores may stand between digits. -/
def digitRun (isDigit : Char → Bool) : List Char → Option (List Char)
  | [] => none
  | [c] => if isDigit c then some [c] else none
  | c :: '_' :: rest => if isDigit c then (digitRun isDigit rest).map (c :: ·) else none
  | c :: rest => if isDigit c then (digitRun isDigit rest).map (c :: ·) else none

/-- The decimal digits of a run without a leading zero. -/
def wholeRun (cs : List Char) : Option (List Char) :=
  match cs with
  | ['0'] => some ['0']
  | '0' :: _ => none
  | _ => digitRun Char.isDigit cs

/-- A sign and the rest. -/
def splitSign : List Char → Bool × List Char
  | '-' :: rest => (true, rest)
  | '+' :: rest => (false, rest)
  | cs => (false, cs)

/-- The integers of 64 bits. -/
def integer? (n : Int) : Option Toml := if Int64.inRange n then some (.integer n) else none

/-- A natural number in a base other than ten. -/
def baseInteger? (base : Nat) (cs : List Char) : Option Toml := do
  let digits ← digitRun (fun c => (Text.digitIn? base c).isSome) cs
  integer? (Text.ofDigits base digits)

def readInteger (token : List Char) : Option Toml :=
  match token with
  | '0' :: 'x' :: rest => baseInteger? 16 rest
  | '0' :: 'o' :: rest => baseInteger? 8 rest
  | '0' :: 'b' :: rest => baseInteger? 2 rest
  | _ => do
      let (negative, rest) := splitSign token
      let n : Int := Text.ofDigits 10 (← wholeRun rest)
      integer? (if negative then -n else n)

/-- The digits behind a point, if there is one. -/
def fractionRun : List Char → Option (List Char)
  | [] => some []
  | _ :: rest => digitRun Char.isDigit rest

/-- The number behind an exponent's letter, if there is one. -/
def exponentRun : List Char → Option Int
  | [] => some 0
  | _ :: rest => do
      let (negative, rest) := splitSign rest
      let n : Int := Text.ofDigits 10 (← digitRun Char.isDigit rest)
      return if negative then -n else n

/-- A number with a fraction or an exponent, or one that is not finite. A positive
number may not be too large. -/
def readFloat (token : List Char) : Option Toml :=
  let (negative, rest) := splitSign token
  if rest = "inf".toList then some (.float (.infinity negative))
  else if rest = "nan".toList then some (.float .nan)
  else do
    let isLetter (c : Char) : Bool := c == 'e' || c == 'E'
    let significand := rest.takeWhile fun c => !isLetter c
    let exponent := rest.dropWhile fun c => !isLetter c
    let fraction := significand.dropWhile (· != '.')
    if fraction.isEmpty && exponent.isEmpty then none
    let whole ← wholeRun (significand.takeWhile (· != '.'))
    let places ← fractionRun fraction
    let shift ← exponentRun exponent
    let x := Double.ofDecimal negative (Text.ofDigits 10 (whole ++ places)) (shift - places.length)
    if !negative && !x.isFinite then none else return .float x

/-! ### Dates and times -/

/-- A date of the calendar, with four digits for the year. -/
def readDate (cs : List Char) : Option (String × List Char) := do
  let (high, rest) ← Calendar.scanPair cs
  let (low, rest) ← Calendar.scanPair rest
  let rest ← Calendar.skipChar '-' rest
  let (month, rest) ← Calendar.scanPair rest
  let rest ← Calendar.skipChar '-' rest
  let (day, rest) ← Calendar.scanPair rest
  let date : Calendar.Date := ⟨high * 100 + low, month, day⟩
  if date.isValid then return (String.ofList (cs.take 10), rest) else none

/-- The digits of a fraction of a second that count: nine at most, and no zeros at the
end. -/
def fractionText (digits : List Char) : String :=
  let kept := Text.dropEndWhile (· == '0') (digits.take 9)
  if kept.isEmpty then "" else "." ++ String.ofList kept

/-- A time of day to the second, with a fraction. -/
def readClock (cs : List Char) : Option (String × List Char) := do
  let (hour, rest) ← Calendar.scanPair cs
  let rest ← Calendar.skipChar ':' rest
  let (minute, rest) ← Calendar.scanPair rest
  let rest ← Calendar.skipChar ':' rest
  let (second, rest) ← Calendar.scanPair rest
  let clock : Calendar.Clock := ⟨hour, minute, second⟩
  if !clock.isValid then none
  let seconds := String.ofList (cs.take 8)
  match rest with
  | '.' :: rest =>
      let digits := rest.takeWhile Char.isDigit
      if digits.isEmpty then none
      else return (seconds ++ fractionText digits, rest.dropWhile Char.isDigit)
  | _ => return (seconds, rest)

/-- An offset up to the end of a token, or none. No offset is negative zero. -/
def readOffset (cs : List Char) : Option String :=
  match cs with
  | [] => some ""
  | ['Z'] | ['z'] => some "Z"
  | sign :: time =>
      if (sign == '+' || sign == '-') && Calendar.isOffsetTime time then
        some (String.ofList (if time = "00:00".toList then '+' :: time else sign :: time))
      else none

/-- A date, a time of day, or both with an offset, as a text of one form. -/
def readMoment (token : List Char) : Option Toml :=
  let both : Option String := do
    let (date, rest) ← readDate token
    match rest with
    | [] => return date
    | mark :: rest =>
        if mark = 'T' ∨ mark = 't' then
          let (clock, rest) ← readClock rest
          return date ++ "T" ++ clock ++ (← readOffset rest)
        else none
  let clock : Option String := do
    let (clock, rest) ← readClock token
    if rest.isEmpty then return clock else none
  (both <|> clock).map .moment

/-! ### Tokens -/

/-- The characters of numbers, booleans, dates and times. -/
def isTokenChar (c : Char) : Bool :=
  c.isAlphanum || c == '+' || c == '-' || c == '_' || c == '.' || c == ':'

/-- What a token stands for. -/
def ofToken (token : List Char) : Option Toml :=
  if token = "true".toList then some (.boolean true)
  else if token = "false".toList then some (.boolean false)
  else readMoment token <|> readFloat token <|> readInteger token

/-- A number, boolean, date or time at the start of a text. A blank may stand between a
date and a time. -/
def readToken (cs : List Char) : Option (Toml × List Char) :=
  let token := cs.takeWhile isTokenChar
  let rest := cs.dropWhile isTokenChar
  match readDate token, rest with
  | some (_, []), ' ' :: c :: rest' =>
      if c.isDigit then
        let time := (c :: rest').takeWhile isTokenChar
        (readMoment (token ++ 'T' :: time)).map fun t => (t, (c :: rest').dropWhile isTokenChar)
      else (ofToken token).map fun t => (t, rest)
  | _, _ => (ofToken token).map fun t => (t, rest)

end Portfolio.Toml
