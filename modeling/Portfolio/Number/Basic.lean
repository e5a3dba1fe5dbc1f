/-
Module: Portfolio.Number.Basic
Purpose: The numbers of a document: integers of 64 bits, and binary64 for the rest.
Main exports: Number, Number.text, Number.asInt64, Number.toDouble
-/
import Portfolio.Number.Shortest

namespace Portfolio

/-- A number of a document. A literal without point and exponent that fits a
signed or unsigned 64-bit word is an integer; every other one is a binary64
number, so `1` and `1.0` differ. -/
inductive Number where
  | int (n : Int)
  | double (x : Double)
  deriving DecidableEq, Repr, Inhabited

/-- The range of signed 64-bit integers. -/
def Int64.inRange (n : Int) : Bool := decide (-(Nat.pow 2 63) ≤ n ∧ n < Nat.pow 2 63)

namespace Number

def text (style : NumberStyle) : Number → String
  | .int n => Text.signedDecimal n
  | .double x => style.text x

/-- An integer that fits a signed 64-bit word. Numbers written with a point have
none, even when they are whole. -/
def asInt64 : Number → Option Int
  | .int n => if Int64.inRange n then some n else none
  | .double _ => none

/-- The nearest binary64 number. -/
def toDouble : Number → Double
  | .int n => Double.ofInt n
  | .double x => x

end Number

end Portfolio
