/-
Module: Portfolio.Yaml.Scalar
Purpose: How a text is written as a YAML scalar: which texts would read back as
  something else, which of the four styles is allowed, and the styles themselves.
Main exports: Yaml.Style, Yaml.readsAsOther, Yaml.styleOf, Yaml.scalar
-/
import Portfolio.Number.Double
import Portfolio.Text.Line
import Portfolio.Text.Numeral

namespace Portfolio.Yaml

/-- The styles of a scalar. -/
inductive Style where
  | plain
  | singleQuoted
  | doubleQuoted
  | literal
  deriving DecidableEq, Repr, Inhabited

/-! ### Texts that read back as something else -/

/-- Null in one of its spellings. -/
def readsAsNull (s : String) : Bool := s ∈ ["", "null", "Null", "NULL", "~"]

/-- A boolean in one of its spellings. -/
def readsAsBool (s : String) : Bool :=
  s ∈ ["true", "True", "TRUE", "false", "False", "FALSE"]

/-- Without one plus sign in front. -/
def dropPlus : List Char → List Char
  | '+' :: cs => cs
  | cs => cs

/-- Without one sign in front. -/
def dropSign : List Char → List Char
  | '+' :: cs => cs
  | '-' :: cs => cs
  | cs => cs

/-- Several digits of which the first is zero, behind at most one sign. Readers differ on
whether they are a text or a number, so they are quoted. -/
def isZeroPadded (cs : List Char) : Bool :=
  match dropSign cs with
  | '0' :: d :: ds => (d :: ds).all Char.isDigit
  | _ => false

/-- Digits of a base whose number is below a bound. -/
def isNumeral (base bound : Nat) (digits : List Char) : Bool :=
  !digits.isEmpty && digits.all (fun c => (Text.digitIn? base c).isSome) &&
    decide (Text.ofDigits base digits < bound)

/-- Digits behind `0x`, `0o` or `0b`, whose number is below a bound. -/
def isBasedNumeral (bound : Nat) : List Char → Bool
  | '0' :: 'x' :: digits => isNumeral 16 bound digits
  | '0' :: 'o' :: digits => isNumeral 8 bound digits
  | '0' :: 'b' :: digits => isNumeral 2 bound digits
  | _ => false

/-- An integer: decimal, or in one of the bases with a letter. Decimal integers of
any length also read back as floating point, so their size does not matter. -/
def readsAsInt (cs : List Char) : Bool :=
  isBasedNumeral (Nat.pow 2 128) (dropPlus cs) ||
    (match cs with
      | '-' :: rest => isBasedNumeral (Nat.pow 2 127 + 1) rest
      | _ => false) ||
    (!isZeroPadded cs && isNumeral 10 (Nat.pow 2 128) (dropPlus cs))

/-- The exponent part of a decimal, or nothing. -/
def exponentValue? : List Char → Option Int
  | [] => some 0
  | c :: cs =>
      if c = 'e' ∨ c = 'E' then
        let digits := dropSign cs
        if digits.isEmpty || !digits.all Char.isDigit then none
        else
          let n : Int := Text.ofDigits 10 digits
          some (if cs.head? = some '-' then -n else n)
      else none

/-- A decimal with digits before or behind the point: its digits and its exponent. -/
def decimalParts? (cs : List Char) : Option (List Char × Int) :=
  let (whole, rest) := cs.span Char.isDigit
  let (fraction, rest) := match rest with
    | '.' :: rest => rest.span Char.isDigit
    | rest => ([], rest)
  if whole.isEmpty && fraction.isEmpty then none
  else (exponentValue? rest).map fun e => (whole ++ fraction, e - fraction.length)

/-- A floating point number that does not round to infinity, or one of the spellings of
infinity and NaN. -/
def readsAsFloat (s : String) : Bool :=
  let cs := s.toList
  let unsigned := dropPlus cs
  let signedTwice := cs.head? == some '+' && dropSign unsigned != unsigned
  !signedTwice &&
    (String.ofList unsigned ∈ [".inf", ".Inf", ".INF"] ||
      s ∈ ["-.inf", "-.Inf", "-.INF", ".nan", ".NaN", ".NAN"] ||
      (match decimalParts? (dropSign unsigned) with
        | some (digits, exponent) =>
            (Double.ofDecimal false (Text.ofDigits 10 digits) exponent).isFinite
        | none => false))

/-- A text that would not read back as itself, or that looks like a number. -/
def readsAsOther (s : String) : Bool :=
  readsAsNull s || readsAsBool s || readsAsInt s.toList || isZeroPadded s.toList ||
    readsAsFloat s

/-! ### Characters -/

/-- The characters that end a line. -/
def isBreak (c : Char) : Bool :=
  let n := c.toNat
  n == 0x0A || n == 0x0D || n == 0x85 || n == 0x2028 || n == 0x2029

/-- The characters that may stand unescaped. -/
def isPrintable (c : Char) : Bool :=
  let n := c.toNat
  n == 0x0A || (0x20 ≤ n && n ≤ 0x7E) || (0xA0 ≤ n && n ≤ 0xFFFD && n != 0xFEFF) ||
    0x10000 ≤ n

/-- The characters after which an indicator can start: spaces, tabs, breaks and NUL. -/
def isSeparating (c : Char) : Bool :=
  c == ' ' || c == '\t' || c == '\x00' || isBreak c

/-- The characters that no plain scalar starts with. -/
def isIndicator (c : Char) : Bool :=
  c ∈ ['#', ',', '[', ']', '\x7b', '\x7d', '&', '*', '!', '|', '>', '\x27', '\x22', '%',
    '@', '\x60']

/-! ### Which styles are allowed -/

/-- Some neighbours in the list satisfy `p`. -/
def anyNeighbours (p : Char → Char → Bool) (cs : List Char) : Bool :=
  (cs.zip (cs.drop 1)).any fun pair => p pair.1 pair.2

/-- Something in the text means more than itself in a plain scalar. -/
def holdsIndicator (cs : List Char) : Bool :=
  ['-', '-', '-'].isPrefixOf cs || ['.', '.', '.'].isPrefixOf cs ||
    (match cs with
      | [] => false
      | c :: rest =>
          isIndicator c ||
            ((c == '-' || c == '?') && (rest.head?.map isSeparating).getD true)) ||
    cs.getLast? == some ':' ||
    anyNeighbours (fun a b => (a == ':' && isSeparating b) || (isSeparating a && b == '#')) cs

/-- A space or a break stands at the start or at the end. -/
def hasLooseEnd (cs : List Char) : Bool :=
  [cs.head?, cs.getLast?].any fun c? => (c?.map fun c => c == ' ' || isBreak c).getD false

/-- The text takes more than one line. -/
def isMultiline (cs : List Char) : Bool := cs.any isBreak

/-- Only a double-quoted scalar can hold the text: a character needs an escape, or a
space stands before a break. -/
def needsEscapes (cs : List Char) : Bool :=
  cs.any (fun c => !isPrintable c) || anyNeighbours (fun a b => a == ' ' && isBreak b) cs

/-- A space stands after a break, which only a literal scalar keeps. -/
def hasIndentedLine (cs : List Char) : Bool :=
  anyNeighbours (fun a b => isBreak a && b == ' ') cs

/-- The text can stand as it is. -/
def allowsPlain (cs : List Char) : Bool :=
  !hasLooseEnd cs && !needsEscapes cs && !isMultiline cs && !holdsIndicator cs

/-- The text can stand in single quotes. -/
def allowsSingleQuoted (cs : List Char) : Bool :=
  !needsEscapes cs && !hasIndentedLine cs

/-- The text can stand as a literal block. -/
def allowsLiteral (cs : List Char) : Bool :=
  !needsEscapes cs && cs.getLast? != some ' '

/-- The style of a text. Texts with a line feed are literal blocks, texts that read
back as something else are quoted, and the others are plain; where that is not
allowed, quotes take over, and double quotes hold everything. -/
def styleOf (s : String) : Style :=
  let cs := s.toList
  if '\n' ∈ cs then
    if allowsLiteral cs then .literal else .doubleQuoted
  else if !readsAsOther s && allowsPlain cs then .plain
  else if allowsSingleQuoted cs then .singleQuoted
  else .doubleQuoted

/-! ### The styles -/

/-- A break, and the indentation before the next character that is none. -/
def indentLines (indent : Nat) (afterBreak : Bool) : List Char → List Char
  | [] => []
  | c :: cs =>
      if isBreak c then c :: indentLines indent true cs
      else if afterBreak then List.replicate indent ' ' ++ c :: indentLines indent false cs
      else c :: indentLines indent false cs

/-- What a literal block says about its indentation and its end: `2` if the first
character would be taken for indentation, `-` if no break ends the text, `+` if the
text ends in an empty line. -/
def literalHints (cs : List Char) : List Char :=
  let start := match cs.head? with
    | some c => if c == ' ' || isBreak c then ['2'] else []
    | none => []
  let finish := match cs.reverse with
    | [] => ['-']
    | [c] => if isBreak c then ['+'] else ['-']
    | c :: d :: _ => if isBreak c then (if isBreak d then ['+'] else []) else ['-']
  start ++ finish

/-- The text as a literal block. -/
def literal (indent : Nat) (cs : List Char) : List Char :=
  '|' :: literalHints cs ++ '\n' :: indentLines indent true cs

/-- A single quote inside single quotes is written twice. -/
def doubleQuotes (cs : List Char) : List Char :=
  cs.flatMap fun c => if c == '\x27' then [c, c] else [c]

/-- The text in single quotes. A break at the end is followed by the indentation. -/
def singleQuoted (indent : Nat) (cs : List Char) : List Char :=
  let closing := match cs.getLast? with
    | some c => if isBreak c then List.replicate indent ' ' else []
    | none => []
  '\x27' :: indentLines indent false (doubleQuotes cs) ++ closing ++ ['\x27']

/-- A number as upper-case hexadecimal digits of a width. -/
def upperHex (width : Nat) (n : Nat) : List Char :=
  let digits := (Text.hexDigits n).map Char.toUpper
  List.replicate (width - digits.length) '0' ++ digits

/-- A character inside double quotes. -/
def escapeChar (c : Char) : List Char :=
  if isPrintable c && !isBreak c && c != '\x22' && c != '\\' then [c]
  else
    let n := c.toNat
    match n with
    | 0x00 => ['\\', '0']
    | 0x07 => ['\\', 'a']
    | 0x08 => ['\\', 'b']
    | 0x09 => ['\\', 't']
    | 0x0A => ['\\', 'n']
    | 0x0B => ['\\', 'v']
    | 0x0C => ['\\', 'f']
    | 0x0D => ['\\', 'r']
    | 0x1B => ['\\', 'e']
    | 0x22 => ['\\', '\x22']
    | 0x5C => ['\\', '\\']
    | 0x85 => ['\\', 'N']
    | 0x2028 => ['\\', 'L']
    | 0x2029 => ['\\', 'P']
    | _ =>
        if n ≤ 0xFF then '\\' :: 'x' :: upperHex 2 n
        else if n ≤ 0xFFFF then '\\' :: 'u' :: upperHex 4 n
        else '\\' :: 'U' :: upperHex 8 n

/-- The text in double quotes. -/
def doubleQuoted (cs : List Char) : List Char :=
  '\x22' :: cs.flatMap escapeChar ++ ['\x22']

/-- A text as a scalar whose further lines are indented. -/
def scalar (indent : Nat) (s : String) : List Char :=
  let cs := s.toList
  match styleOf s with
  | .plain => cs
  | .singleQuoted => singleQuoted indent cs
  | .doubleQuoted => doubleQuoted cs
  | .literal => literal indent cs

end Portfolio.Yaml
