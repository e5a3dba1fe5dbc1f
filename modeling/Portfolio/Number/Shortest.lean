/-
Module: Portfolio.Number.Shortest
Purpose: The fewest decimal digits that read back as a given binary64 number, and
  the notations those digits are written in.
Main exports: Decimal, Shortest.ofDouble, NumberStyle.text, NumberStyle.json, NumberStyle.yaml,
  NumberStyle.positional
-/
import Portfolio.Number.Double
import Portfolio.Text.Blank
import Portfolio.Text.Numeral

namespace Portfolio

/-- A positive decimal `0.d₁d₂… * 10 ^ point`: its digits, and how many of them
stand before the point. -/
structure Decimal where
  digits : List Char
  point : Int
  deriving DecidableEq, Repr, Inhabited

/-- Which of two equally near decimals is taken. -/
inductive Tie where
  | toEven
  | away
  deriving DecidableEq, Repr, Inhabited

namespace Shortest

/-- The reals that round to `mantissa * 2 ^ exponent`, in quarters of a unit of the
last place: their least and greatest member around `4 * mantissa`. The lower
neighbour of a power of two is half as far away. -/
def interval (mantissa : Nat) (exponent : Int) : Nat × Nat :=
  let below := if mantissa = Nat.pow 2 52 ∧ -1074 < exponent then 1 else 2
  (4 * mantissa - below, 4 * mantissa + 2)

/-- `num / den` to the power of ten just above it: the least `k` with
`num / den < 10 ^ k`, for a positive quotient. -/
def magnitude (num den : Nat) : Int :=
  let bits : Int := (num.log2 : Int) - den.log2
  let guess := (bits * 30103) / 100000
  let below (k : Int) : Bool :=
    if 0 ≤ k then decide (num < den * Nat.pow 10 k.toNat)
    else decide (num * Nat.pow 10 (-k).toNat < den)
  if below (guess - 1) then guess - 1
  else if below guess then guess
  else if below (guess + 1) then guess + 1
  else guess + 2

/-- The decimal on the grid of `10 ^ k` nearest to the number, among the grid's two
neighbours of it that read back. Quantities are multiples of `unit`. -/
def onGrid (tie : Tie) (closed : Bool) (low mid high unit : Nat) : Option Nat :=
  let reads (c : Nat) : Bool :=
    if closed then decide (low ≤ c * unit ∧ c * unit ≤ high)
    else decide (low < c * unit ∧ c * unit < high)
  let floor := mid / unit
  let rest := mid % unit
  match reads floor, reads (floor + 1) with
  | true, false => some floor
  | false, true => some (floor + 1)
  | false, false => none
  | true, true =>
      if 2 * rest < unit then some floor
      else if unit < 2 * rest then some (floor + 1)
      else match tie with
        | .away => some (floor + 1)
        | .toEven => some (if floor % 2 = 0 then floor else floor + 1)

/-- Searches grids from the coarsest to the finest; seventeen digits always read
back. -/
def search (tie : Tie) (closed : Bool) (low mid high den : Nat) (top : Int) :
    Nat → Nat → Nat × Int
  | 0, count => (0, top - count)
  | fuel + 1, count =>
      let k := top - count
      let (low', mid', high', unit) :=
        if 0 ≤ k then (low, mid, high, den * Nat.pow 10 k.toNat)
        else
          let p := Nat.pow 10 (-k).toNat
          (low * p, mid * p, high * p, den)
      match onGrid tie closed low' mid' high' unit with
      | some c => (c, k)
      | none => search tie closed low mid high den top fuel (count + 1)

/-- The shortest decimal that reads back as a finite number other than zero, and of
those the nearest. -/
def ofDouble (tie : Tie) (x : Double) : Decimal :=
  let m := x.mantissa
  let (low, high) := interval m x.exponent
  let (one, den) := Double.scaled 1 1 (-(x.exponent - 2))
  let (low, mid, high) := (low * one, 4 * m * one, high * one)
  let top := magnitude mid den
  let (c, k) := search tie (m % 2 == 0) low mid high den top 17 1
  let digits := (Text.decimal c).toList
  let point := k + digits.length
  ⟨Text.dropEndWhile (· == '0') digits, point⟩

end Shortest

/-- How the digits of a number are written. -/
structure NumberStyle where
  /-- Which of two equally short and near decimals is written. -/
  tie : Tie
  /-- The least and greatest count of digits before the point that is written
  without an exponent; outside it the exponent form is used. -/
  plain : Option (Int × Int)
  /-- Whether a whole number shows a fraction `.0`. -/
  pointZero : Bool
  /-- What stands before a positive exponent. -/
  plus : String
  deriving DecidableEq, Repr, Inhabited

namespace NumberStyle

/-- Numbers in JSON: plain from `1e-5` up to below `1e16`, always with a point or an
exponent. -/
def json : NumberStyle := ⟨.toEven, some (-4, 16), true, "+"⟩

/-- Numbers in YAML: as in JSON, without the plus sign. -/
def yaml : NumberStyle := ⟨.toEven, some (-4, 16), true, ""⟩

/-- Numbers without an exponent, however many zeros that takes. -/
def positional : NumberStyle := ⟨.away, none, false, ""⟩

/-- Digits without an exponent. -/
def plainText (pointZero : Bool) (d : Decimal) : List Char :=
  let fractionOfWhole := if pointZero then ['.', '0'] else []
  if d.point ≤ 0 then
    '0' :: '.' :: List.replicate (-d.point).toNat '0' ++ d.digits
  else
    let n := d.point.toNat
    if d.digits.length ≤ n then
      d.digits ++ List.replicate (n - d.digits.length) '0' ++ fractionOfWhole
    else d.digits.take n ++ '.' :: d.digits.drop n

/-- One digit, the others behind a point, and the exponent. -/
def exponentText (plus : String) (d : Decimal) : List Char :=
  let e := d.point - 1
  let tail := match d.digits.drop 1 with
    | [] => []
    | rest => '.' :: rest
  d.digits.take 1 ++ tail ++ 'e' :: (if 0 ≤ e then plus.toList else []) ++
    (Text.signedDecimal e).toList

def digitsText (style : NumberStyle) (d : Decimal) : List Char :=
  match style.plain with
  | none => plainText style.pointZero d
  | some (least, greatest) =>
      if least ≤ d.point ∧ d.point ≤ greatest then plainText style.pointZero d
      else exponentText style.plus d

def text (style : NumberStyle) (x : Double) : String :=
  if x.isNaN then "NaN" else
    let sign := if x.negative then "-" else ""
    if !x.isFinite then sign ++ "inf"
    else if x.isZero then sign ++ "0" ++ (if style.pointZero then ".0" else "")
    else sign ++ String.ofList (style.digitsText (Shortest.ofDouble style.tie x))

end NumberStyle

end Portfolio
