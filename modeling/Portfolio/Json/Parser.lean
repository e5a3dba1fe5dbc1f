/-
Module: Portfolio.Json.Parser
Purpose: Reading JSON text into values, with the limits on nesting and on the size
  of numbers.
Main exports: Json.parse, Json.ParseError
-/
import Portfolio.Value
import Portfolio.Text.Numeral

namespace Portfolio.Json

/-- Why a text is not JSON. -/
inductive ParseError where
  /-- The text ends early or has an unexpected character. -/
  | malformed
  /-- A number is beyond the range of binary64. -/
  | numberTooLarge
  /-- Lists and maps are nested too deep. -/
  | tooDeep
  deriving DecidableEq, Repr, Inhabited

/-- Lists and maps may enclose each other up to this many levels. -/
def maxNesting : Nat := 127

/-- The four characters of white space in JSON. -/
def isSpace (c : Char) : Bool := c == ' ' || c == '\n' || c == '\t' || c == '\r'

/-- The rest from the first character that is no white space. -/
def skipSpace (cs : List Char) : List Char := cs.dropWhile isSpace

/-! ### Strings -/

/-- The number of four hexadecimal digits. -/
def hexUnit? (a b c d : Char) : Option Nat := do
  let a ← Text.digitIn? 16 a
  let b ← Text.digitIn? 16 b
  let c ← Text.digitIn? 16 c
  let d ← Text.digitIn? 16 d
  return ((a * 16 + b) * 16 + c) * 16 + d

/-- The first half of a surrogate pair. -/
def isHighHalf (n : Nat) : Bool := decide (0xD800 ≤ n ∧ n < 0xDC00)

/-- The second half of a surrogate pair. -/
def isLowHalf (n : Nat) : Bool := decide (0xDC00 ≤ n ∧ n < 0xE000)

/-- The character of an escape of one letter. -/
def shortEscape? (c : Char) : Option Char :=
  match c with
  | '\x22' => some '\x22'
  | '\\' => some '\\'
  | '/' => some '/'
  | 'b' => some '\x08'
  | 'f' => some '\x0c'
  | 'n' => some '\n'
  | 'r' => some '\r'
  | 't' => some '\t'
  | _ => none

/-- Puts a character in front of what was read. -/
def consChar (c : Char) :
    Except ParseError (List Char × List Char) → Except ParseError (List Char × List Char)
  | .ok (cs, rest) => .ok (c :: cs, rest)
  | .error e => .error e

/-- The characters of a string up to its closing quote. Halves of surrogate pairs
stand only in pairs, and controls only escaped. -/
def parseChars : List Char → Except ParseError (List Char × List Char)
  | '\x22' :: rest => .ok ([], rest)
  | '\\' :: 'u' :: a :: b :: c :: d :: rest =>
      match hexUnit? a b c d with
      | none => .error .malformed
      | some high =>
          if isHighHalf high then
            match rest with
            | '\\' :: 'u' :: e :: f :: g :: h :: rest =>
                match hexUnit? e f g h with
                | some low =>
                    if isLowHalf low then
                      consChar (Char.ofNat (0x10000 + (high - 0xD800) * 0x400 + (low - 0xDC00)))
                        (parseChars rest)
                    else .error .malformed
                | none => .error .malformed
            | _ => .error .malformed
          else if isLowHalf high then .error .malformed
          else consChar (Char.ofNat high) (parseChars rest)
  | '\\' :: c :: rest =>
      match shortEscape? c with
      | some d => consChar d (parseChars rest)
      | none => .error .malformed
  | c :: rest => if c.toNat < 0x20 then .error .malformed else consChar c (parseChars rest)
  | [] => .error .malformed

/-- A string after its opening quote. -/
def parseString (cs : List Char) : Except ParseError (String × List Char) := do
  let (chars, rest) ← parseChars cs
  return (String.ofList chars, rest)

/-! ### Numbers -/

/-- The parts of a number literal. -/
structure Literal where
  negative : Bool
  whole : List Char
  /-- The digits behind the point, if there is one. -/
  fraction : Option (List Char)
  /-- The sign and the digits of the exponent, if there is one. -/
  exponent : Option (Bool × List Char)

/-- The leading digits and the rest. -/
def spanDigits (cs : List Char) : List Char × List Char := cs.span Char.isDigit

/-- The digits behind a point, if there is one. At least one is needed. -/
def parseFraction : List Char → Except ParseError (Option (List Char) × List Char)
  | '.' :: cs =>
      match spanDigits cs with
      | ([], _) => .error .malformed
      | (digits, rest) => .ok (some digits, rest)
  | cs => .ok (none, cs)

/-- The sign of an exponent and the rest. -/
def exponentSign : List Char → Bool × List Char
  | '+' :: cs => (false, cs)
  | '-' :: cs => (true, cs)
  | cs => (false, cs)

/-- An exponent, if there is one. At least one digit is needed. -/
def parseExponent : List Char → Except ParseError (Option (Bool × List Char) × List Char)
  | c :: cs =>
      if c = 'e' ∨ c = 'E' then
        let (negative, cs) := exponentSign cs
        match spanDigits cs with
        | ([], _) => .error .malformed
        | (digits, rest) => .ok (some (negative, digits), rest)
      else .ok (none, c :: cs)
  | [] => .ok (none, [])

/-- The parts of a literal. A whole part of several digits does not start with zero. -/
def parseLiteral (negative : Bool) (cs : List Char) :
    Except ParseError (Literal × List Char) := do
  let (whole, rest) ← match spanDigits cs with
    | ([], _) => .error .malformed
    | ('0' :: _ :: _, _) => .error .malformed
    | found => .ok found
  let (fraction, rest) ← parseFraction rest
  let (exponent, rest) ← parseExponent rest
  return (⟨negative, whole, fraction, exponent⟩, rest)

/-- Appends digits to a number as long as it fits 64 bits. The second part holds the
digits from the first that does not fit. -/
def absorb (n : Nat) : List Char → Nat × List Char
  | [] => (n, [])
  | c :: cs =>
      let m := 10 * n + (c.toNat - '0'.toNat)
      if m < Nat.pow 2 64 then absorb m cs else (n, c :: cs)

/-- The nearest number to a power of ten. -/
def powerOfTen (n : Nat) : Double := Double.ofDecimal false 1 n

/-- A number below `2 ^ 64` times a power of ten, in one rounding step down to
`10 ^ -308`. Below that it is divided by `10 ^ 308` first, and twice that leaves
zero. -/
def shift (x : Double) (exponent : Int) : Except ParseError Double :=
  if 0 ≤ exponent then
    if exponent ≤ 308 then
      let y := x.mul (powerOfTen exponent.toNat)
      if y.isFinite then .ok y else .error .numberTooLarge
    else if x.isZero then .ok x
    else .error .numberTooLarge
  else if -308 ≤ exponent then .ok (x.div (powerOfTen (-exponent).toNat))
  else if -616 ≤ exponent then
    .ok ((x.div (powerOfTen 308)).div (powerOfTen (-exponent - 308).toNat))
  else .ok (Double.ofMagnitude false 0)

/-- The exponent that a literal writes, or `none` if it is beyond 31 bits. -/
def writtenExponent (digits : List Char) : Option Nat :=
  let n := Text.ofDigits 10 digits
  if n < Nat.pow 2 31 then some n else none

/-- The binary64 number of a significand and a literal's exponent. -/
def scaleLiteral (significand : Nat) (position : Int) (written : Option (Bool × List Char)) :
    Except ParseError Double :=
  let x := Double.ofInt significand
  match written with
  | none => shift x position
  | some (negative, digits) =>
      match writtenExponent digits with
      | some n => shift x (if negative then position - n else position + n)
      | none =>
          if significand ≠ 0 ∧ !negative then .error .numberTooLarge
          else .ok (Double.ofMagnitude false 0)

/-- A number with its sign set. -/
def withSign (negative : Bool) (x : Double) : Double :=
  if negative then ⟨x.bits ||| 0x8000000000000000⟩ else x

/-- The number of a literal. Digits past 64 bits only count for the magnitude before
the point, and not at all behind it. A negative zero, and an integer that fits
neither 64-bit range, is a binary64 number. -/
def Literal.number (l : Literal) : Except ParseError Number := do
  let (n, dropped) := absorb 0 l.whole
  if l.fraction.isNone && l.exponent.isNone && dropped.isEmpty then
    if !l.negative then return .int n
    else if n ≠ 0 ∧ n ≤ Nat.pow 2 63 then return .int (-n)
    else return .double (withSign true (Double.ofInt n))
  else
    let fraction := l.fraction.getD []
    let (significand, ignored) := absorb n fraction
    let position : Int := dropped.length - (fraction.length - ignored.length : Nat)
    let x ← scaleLiteral significand position l.exponent
    return .double (withSign l.negative x)

/-- A number after its sign. -/
def parseNumber (negative : Bool) (cs : List Char) : Except ParseError (Number × List Char) := do
  let (literal, rest) ← parseLiteral negative cs
  let n ← literal.number
  return (n, rest)

/-! ### Lists and maps -/

/-- The items of a list after its bracket or a comma, each read by `item`. The fuel
bounds their number. -/
def parseItems (item : List Char → Except ParseError (Value × List Char)) :
    Nat → List Char → Except ParseError (List Value × List Char)
  | 0, _ => .error .malformed
  | fuel + 1, cs => do
      let (v, rest) ← item cs
      match skipSpace rest with
      | ']' :: rest => return ([v], rest)
      | ',' :: rest =>
          let (vs, rest) ← parseItems item fuel rest
          return (v :: vs, rest)
      | _ => .error .malformed

def parseEntry (item : List Char → Except ParseError (Value × List Char)) (cs : List Char) :
    Except ParseError ((String × Value) × List Char) :=
  match skipSpace cs with
  | '\x22' :: rest => do
      let (key, rest) ← parseString rest
      match skipSpace rest with
      | ':' :: rest =>
          let (v, rest) ← item rest
          return ((key, v), rest)
      | _ => .error .malformed
  | _ => .error .malformed

/-- The entries of a map after its brace or a comma. The fuel bounds their number. -/
def parseEntries (item : List Char → Except ParseError (Value × List Char)) :
    Nat → List Char → Except ParseError (List (String × Value) × List Char)
  | 0, _ => .error .malformed
  | fuel + 1, cs => do
      let (e, rest) ← parseEntry item cs
      match skipSpace rest with
      | '\x7d' :: rest => return ([e], rest)
      | ',' :: rest =>
          let (es, rest) ← parseEntries item fuel rest
          return (e :: es, rest)
      | _ => .error .malformed

/-- A value with white space in front, inside which `levels` lists and maps may
enclose each other. -/
def parseValue : Nat → List Char → Except ParseError (Value × List Char)
  | levels, cs =>
      match skipSpace cs with
      | 'n' :: 'u' :: 'l' :: 'l' :: rest => .ok (.null, rest)
      | 't' :: 'r' :: 'u' :: 'e' :: rest => .ok (.bool true, rest)
      | 'f' :: 'a' :: 'l' :: 's' :: 'e' :: rest => .ok (.bool false, rest)
      | '\x22' :: rest => do
          let (s, rest) ← parseString rest
          return (.text s, rest)
      | '[' :: rest =>
          match levels with
          | 0 => .error .tooDeep
          | levels + 1 =>
              match skipSpace rest with
              | ']' :: rest => .ok (.list [], rest)
              | rest => do
                  let (items, rest) ← parseItems (parseValue levels) rest.length rest
                  return (.list items, rest)
      | '\x7b' :: rest =>
          match levels with
          | 0 => .error .tooDeep
          | levels + 1 =>
              match skipSpace rest with
              | '\x7d' :: rest => .ok (.map [], rest)
              | rest => do
                  let (entries, rest) ← parseEntries (parseValue levels) rest.length rest
                  return (.map entries, rest)
      | '-' :: rest => do
          let (n, rest) ← parseNumber true rest
          return (.number n, rest)
      | rest => do
          let (n, rest) ← parseNumber false rest
          return (.number n, rest)

/-- The value that a text holds, with nothing but white space after it. Maps keep
the order and the repetitions of the text. -/
def parse (s : String) : Except ParseError Value := do
  let (v, rest) ← parseValue maxNesting s.toList
  if (skipSpace rest).isEmpty then return v else .error .malformed

end Portfolio.Json
