/-
Module: Portfolio.Number.Double
Purpose: Binary64 numbers as exact values: the word, its sign, mantissa and
  exponent, and rounding of exact quotients to the nearest number.
Main exports: Double, Double.ofQuotient, Double.mul, Double.div, Double.isWhole,
  Double.truncate
-/

namespace Portfolio

/-- A binary64 number, given by its 64-bit word: one sign bit, eleven exponent
bits, fifty-two fraction bits. Every word is a number, an infinity or a NaN. -/
structure Double where
  bits : UInt64
  deriving DecidableEq, Repr, Inhabited

namespace Double

/-! ### Parts of the word -/

/-- The sign bit. Zeros carry a sign too. -/
def negative (x : Double) : Bool := decide (Nat.pow 2 63 ≤ x.bits.toNat)

/-- The exponent bits. -/
def biased (x : Double) : Nat := x.bits.toNat / Nat.pow 2 52 % Nat.pow 2 11

/-- The fraction bits. -/
def fraction (x : Double) : Nat := x.bits.toNat % Nat.pow 2 52

/-- Neither an infinity nor a NaN. -/
def isFinite (x : Double) : Bool := x.biased != 2047

/-- Not a number. -/
def isNaN (x : Double) : Bool := x.biased == 2047 && x.fraction != 0

/-- The mantissa of a finite number as a whole number, below `2 ^ 53`. -/
def mantissa (x : Double) : Nat :=
  if x.biased = 0 then x.fraction else x.fraction + Nat.pow 2 52

/-- The power of two that the mantissa of a finite number is multiplied with. -/
def exponent (x : Double) : Int :=
  if x.biased = 0 then -1074 else (x.biased : Int) - 1075

/-- A zero of either sign. -/
def isZero (x : Double) : Bool := x.isFinite && x.mantissa == 0

/-! ### Building words -/

/-- The word with a sign and a magnitude below `2 ^ 63`. -/
def ofMagnitude (negative : Bool) (magnitude : Nat) : Double :=
  ⟨UInt64.ofNat (magnitude + if negative then Nat.pow 2 63 else 0)⟩

/-- The magnitude of an infinity: all exponent bits set, no fraction bit. -/
def infinityMagnitude : Nat := 2047 * Nat.pow 2 52

def infinity (negative : Bool) : Double := ofMagnitude negative infinityMagnitude

/-- A quiet NaN. -/
def nan : Double := ofMagnitude false (infinityMagnitude + Nat.pow 2 51)

/-- The whole number nearest to `num / den`, a half going to the even one. -/
def roundHalfEven (num den : Nat) : Nat :=
  let q := num / den
  let r := num % den
  if 2 * r < den then q
  else if den < 2 * r then q + 1
  else if q % 2 = 0 then q else q + 1

/-- `num / den / 2 ^ e` as a quotient of natural numbers. -/
def scaled (num den : Nat) (e : Int) : Nat × Nat :=
  if 0 ≤ e then (num, den * Nat.pow 2 e.toNat) else (num * Nat.pow 2 (-e).toNat, den)

/-- The number nearest to `± num / den`, a half going to the even mantissa. Past
the greatest finite number lies infinity.

The exponent is the least one that leaves at most 53 mantissa bits, and never
below the exponent of the subnormal numbers. A mantissa that rounds up to
`2 ^ 53` carries into the exponent bits, which is the next number. -/
def ofQuotient (negative : Bool) (num den : Nat) : Double :=
  if num = 0 then ofMagnitude negative 0 else
    let guess : Int := (num.log2 : Int) - den.log2 - 53
    let (n, d) := scaled num den guess
    let exact := if n / d < Nat.pow 2 53 then guess else guess + 1
    let e := max exact (-1074)
    let (n, d) := scaled num den e
    let magnitude := (e + 1074).toNat * Nat.pow 2 52 + roundHalfEven n d
    ofMagnitude negative (min magnitude infinityMagnitude)

/-- The number nearest to an integer. -/
def ofInt (n : Int) : Double := ofQuotient (decide (n < 0)) n.natAbs 1

/-- The number nearest to `± digits * 10 ^ exponent`. Far outside the range of
binary64 the answer is known without the power of ten. -/
def ofDecimal (negative : Bool) (digits : Nat) (exponent : Int) : Double :=
  let bits : Int := digits.log2
  if digits = 0 then ofMagnitude negative 0
  else if 310 < bits * 30103 / 100000 + exponent then infinity negative
  else if (bits + 1) * 30103 / 100000 + 1 + exponent < -330 then ofMagnitude negative 0
  else if 0 ≤ exponent then ofQuotient negative (digits * Nat.pow 10 exponent.toNat) 1
  else ofQuotient negative digits (Nat.pow 10 (-exponent).toNat)

/-! ### Arithmetic -/

/-- Two factors' sign: unlike signs give a negative product. -/
def productSign (x y : Double) : Bool := x.negative != y.negative

/-- The product, rounded to the nearest number. -/
def mul (x y : Double) : Double :=
  let sign := productSign x y
  if x.isNaN || y.isNaN then nan
  else if !x.isFinite then (if y.isZero then nan else infinity sign)
  else if !y.isFinite then (if x.isZero then nan else infinity sign)
  else
    let (num, den) := scaled (x.mantissa * y.mantissa) 1 (-(x.exponent + y.exponent))
    ofQuotient sign num den

/-- The quotient, rounded to the nearest number. -/
def div (x y : Double) : Double :=
  let sign := productSign x y
  if x.isNaN || y.isNaN then nan
  else if !x.isFinite then (if y.isFinite then infinity sign else nan)
  else if !y.isFinite then ofMagnitude sign 0
  else if y.isZero then (if x.isZero then nan else infinity sign)
  else
    let (num, den) := scaled x.mantissa y.mantissa (y.exponent - x.exponent)
    ofQuotient sign num den

/-! ### Whole numbers -/

/-- The magnitude of a finite number without its fraction. -/
def wholePart (x : Double) : Nat :=
  if 0 ≤ x.exponent then x.mantissa * Nat.pow 2 x.exponent.toNat
  else x.mantissa / Nat.pow 2 (-x.exponent).toNat

/-- A finite number without a fraction. -/
def isWhole (x : Double) : Bool :=
  x.isFinite && (decide (0 ≤ x.exponent) || x.mantissa % Nat.pow 2 (-x.exponent).toNat == 0)

/-- A finite number without its fraction, toward zero. -/
def truncate (x : Double) : Int :=
  if x.negative then -(x.wholePart : Int) else x.wholePart

/-- The integer toward zero, held within bounds. Infinities go to the bound on
their side and NaN goes to zero. -/
def clampToInt (lo hi : Int) (x : Double) : Int :=
  if x.isNaN then 0
  else if !x.isFinite then (if x.negative then lo else hi)
  else max lo (min hi x.truncate)

end Double

end Portfolio
