/-
Module: Portfolio.Text.Blank
Purpose: The characters of the Unicode property White_Space, and trimming by them.
Main exports: Text.isBlank, Text.trim, Text.trimEnd, Text.allBlank
-/

namespace Portfolio.Text

/-- The Unicode property White_Space. It holds the no-break spaces and the
ideographic space, and leaves out the zero-width space. -/
def isBlank (c : Char) : Bool :=
  let n := c.toNat
  (9 ≤ n && n ≤ 13) || n == 0x20 || n == 0x85 || n == 0xA0 || n == 0x1680 ||
    (0x2000 ≤ n && n ≤ 0x200A) || n == 0x2028 || n == 0x2029 || n == 0x202F ||
    n == 0x205F || n == 0x3000

/-- A list without its longest tail of elements that satisfy `p`. -/
def dropEndWhile {α : Type} (p : α → Bool) (xs : List α) : List α :=
  (xs.reverse.dropWhile p).reverse

/-- Characters without the blanks in front. -/
def trimStartChars (cs : List Char) : List Char :=
  cs.dropWhile isBlank

/-- Characters without the blanks at the end. -/
def trimEndChars (cs : List Char) : List Char :=
  dropEndWhile isBlank cs

/-- Characters without the blanks at either end. -/
def trimChars (cs : List Char) : List Char :=
  trimEndChars (trimStartChars cs)

/-- A text without the blanks at the end. -/
def trimEnd (s : String) : String :=
  String.ofList (trimEndChars s.toList)

/-- A text without the blanks at either end. -/
def trim (s : String) : String :=
  String.ofList (trimChars s.toList)

/-- A text that holds nothing but blanks, such as the empty one. -/
def allBlank (s : String) : Bool :=
  s.toList.all isBlank

theorem dropEndWhile_nil {α : Type} (p : α → Bool) : dropEndWhile p [] = [] := rfl

/-- Dropping from the end leaves no droppable last element. -/
theorem getLast?_dropEndWhile {α : Type} (p : α → Bool) (xs : List α) (x : α)
    (h : (dropEndWhile p xs).getLast? = some x) : p x = false := by
  have key : ∀ ys : List α, (ys.dropWhile p).head? = some x → p x = false := by
    intro ys
    induction ys with
    | nil => simp
    | cons y ys ih =>
        by_cases hy : p y
        · simpa [List.dropWhile_cons, hy] using ih
        · intro hx
          simp [hy] at hx
          subst hx
          simpa using hy
  exact key xs.reverse (by simpa [dropEndWhile, List.getLast?_reverse] using h)

end Portfolio.Text
