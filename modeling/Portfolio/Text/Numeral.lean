/-
Module: Portfolio.Text.Numeral
Purpose: Decimal and hexadecimal numerals of natural numbers, with padding, and
  reading digits back.
Main exports: Text.decimal, Text.padZeros, Text.hexDigit, Text.hexByte, Text.digitIn?,
  Text.ofDigits
-/

namespace Portfolio.Text

/-- The decimal numeral of a natural number, without leading zeros. -/
def decimal (n : Nat) : String := Nat.repr n

def signedDecimal (n : Int) : String :=
  if n < 0 then "-" ++ decimal n.natAbs else decimal n.natAbs

/-- A numeral widened with zeros in front to at least `width` characters. -/
def padZeros (width : Nat) (numeral : String) : String :=
  String.ofList (List.replicate (width - numeral.length) '0') ++ numeral

/-- The lower-case hexadecimal digit of a number below sixteen. -/
def hexDigit (n : Nat) : Char := Nat.digitChar n

/-- The lower-case hexadecimal digits of a number, most significant first. -/
def hexDigits (n : Nat) : List Char := Nat.toDigits 16 n

/-- Two lower-case hexadecimal digits. -/
def hexByte (b : UInt8) : List Char :=
  [hexDigit (b.toNat / 16), hexDigit (b.toNat % 16)]

/-- The value of a digit in a base up to sixteen, in either case. -/
def digitIn? (base : Nat) (c : Char) : Option Nat :=
  let value :=
    if c.isDigit then some (c.toNat - '0'.toNat)
    else if 'a' ≤ c ∧ c ≤ 'f' then some (c.toNat - 'a'.toNat + 10)
    else if 'A' ≤ c ∧ c ≤ 'F' then some (c.toNat - 'A'.toNat + 10)
    else none
  value.filter (· < base)

/-- The number that digits of a base denote, most significant digit first. A
character that is no digit counts as zero. -/
def ofDigits (base : Nat) (digits : List Char) : Nat :=
  digits.foldl (fun n c => base * n + (digitIn? base c).getD 0) 0

end Portfolio.Text
