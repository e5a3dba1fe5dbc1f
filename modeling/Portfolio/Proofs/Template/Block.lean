/-
Module: Portfolio.Proofs.Template.Block
Purpose: The blocks of a file. An `if` or a `foreach` opens one, and it is closed by an end of
  its own kind. They are read from the islands of the text, and a grammar says when they nest.
Main exports: Template.BlockHead, Template.Mark, Template.marks, Template.Nested,
  Template.Nested.heads_eq, Template.marks_ofText
-/
import Mathlib.Data.List.Basic
import Portfolio.Proofs.Template.Island

namespace Portfolio.Template

/-! ### Marks -/

/-- The kinds of blocks. -/
inductive BlockKind where
  | condition
  | loop
  deriving DecidableEq, Repr, Inhabited

/-- The start of a block: what it tests, or what it goes through. -/
structure BlockHead where
  kind : BlockKind
  code : String
  deriving DecidableEq, Repr, Inhabited

/-- The start or the end of a block. -/
inductive Mark where
  | opens (head : BlockHead)
  | closes (kind : BlockKind)
  deriving DecidableEq, Repr, Inhabited

/-- What stands in a text between a start and an end. -/
def between? (start ending text : String) : Option String :=
  ((text.toList.dropPrefix? start.toList).bind fun cs =>
    cs.dropSuffix? ending.toList).map String.ofList

/-- The mark that a statement sets. -/
def markOfCode? (code : String) : Option Mark :=
  if code = "endif" then some (.closes .condition)
  else if code = "endforeach" then some (.closes .loop)
  else
    match between? "if (" "):" code with
    | some test => some (.opens ⟨.condition, test⟩)
    | none => (between? "foreach (" "):" code).map fun head => .opens ⟨.loop, head⟩

/-- The mark that an island of a text sets. -/
def markOf? (island : String) : Option Mark :=
  (between? "<?php " " ?>" island).bind markOfCode?

/-- The marks of a file, in the order of its text. -/
def marks (file : File) : List Mark := (islandsOfFile file).filterMap markOf?

example : markOf? "<?php if ($page->a()->toBool()): ?>" =
    some (.opens ⟨.condition, "$page->a()->toBool()"⟩) := by decide +kernel

/-! ### Reading marks -/

theorem between?_append (start s ending : String) :
    between? start ending (start ++ s ++ ending) = some s := by
  have hprefix : (start ++ s ++ ending).toList.dropPrefix? start.toList =
      some (s.toList ++ ending.toList) := by
    rw [String.toList_append, String.toList_append, List.append_assoc]
    exact List.dropPrefix?_append_of_beq _ (beq_self_eq_true _)
  have hsuffix : (s.toList ++ ending.toList).dropSuffix? ending.toList = some s.toList :=
    List.dropSuffix?_eq_some_iff.2 ⟨ending.toList, rfl, beq_self_eq_true _⟩
  rw [between?, hprefix, Option.bind_some, hsuffix, Option.map_some, String.ofList_toList]

/-- A text that begins with another character has no such start. -/
theorem between?_eq_none {start ending text : String} {c : Char}
    (hstart : start.toList.head? = some c) (h : text.toList.head? ≠ some c) :
    between? start ending text = none := by
  have hprefix : text.toList.dropPrefix? start.toList = none := by
    rw [Option.eq_none_iff_forall_ne_some]
    intro cs hcs
    obtain ⟨front, htext, hfront⟩ := List.dropPrefix?_eq_some_iff.1 hcs
    rw [eq_of_beq hfront] at htext
    rw [htext, List.head?_append, hstart] at h
    exact h rfl
  rw [between?, hprefix]
  rfl

theorem ne_of_head? {s t : String} (h : s.toList.head? ≠ t.toList.head?) : s ≠ t := by
  rintro rfl
  exact h rfl

/-- The mark that a statement of a tree sets. A call is any code, so its text decides. -/
def Control.mark? : Control → Option Mark
  | .condition test => some (.opens ⟨.condition, test⟩)
  | .endCondition => some (.closes .condition)
  | .loop head => some (.opens ⟨.loop, head⟩)
  | .endLoop => some (.closes .loop)
  | .snippet _ _ => none
  | .call code => markOfCode? code

theorem markOfCode?_snippet {code : String} (h : code.toList.head? = some 's') :
    markOfCode? code = none := by
  have hif : between? "if (" "):" code = none := between?_eq_none (c := 'i') rfl (by simp [h])
  have hforeach : between? "foreach (" "):" code = none :=
    between?_eq_none (c := 'f') rfl (by simp [h])
  rw [markOfCode?, if_neg (ne_of_head? (by simp [h])), if_neg (ne_of_head? (by simp [h])), hif,
    hforeach]
  rfl

/-- The text of a statement shows the mark that it sets. -/
theorem markOfCode?_code (c : Control) : markOfCode? c.code = c.mark? := by
  cases c with
  | condition test =>
      rw [Control.code, markOfCode?, if_neg (ne_of_head? (by simp)), if_neg (ne_of_head? (by simp)),
        between?_append]
      rfl
  | endCondition => rfl
  | loop head =>
      have hif : between? "if (" "):" ("foreach (" ++ head ++ "):") = none :=
        between?_eq_none (c := 'i') rfl (by simp)
      rw [Control.code, markOfCode?, if_neg (ne_of_head? (by simp)), if_neg (ne_of_head? (by simp)),
        hif, between?_append]
      rfl
  | endLoop => rfl
  | snippet name passed =>
      apply markOfCode?_snippet
      cases passed with
      | none => simp [Control.code]
      | some pair => simp [Control.code]
  | call code => rfl

/-- The mark that an island of a tree sets. -/
def Island.mark? : Island → Option Mark
  | .control c => c.mark?
  | .echo _ => none

theorem markOf?_render (i : Island) : markOf? i.render = i.mark? := by
  cases i with
  | control c =>
      rw [markOf?, Island.render, between?_append, Option.bind_some, markOfCode?_code]
      rfl
  | echo expression =>
      have hphp : (Island.echo expression).render.toList.dropPrefix? "<?php ".toList = none := by
        have hchars : (Island.echo expression).render.toList =
            '<' :: '?' :: '=' :: ' ' :: (expression ++ " ?>").toList := by
          simp [Island.render]
        rw [hchars]
        rfl
      rw [markOf?, between?, hphp]
      rfl

/-- The marks in parts of a tree. -/
def marksOfAll (ms : List Markup) : List Mark := (islandsOfAll ms).filterMap Island.mark?

/-- The marks of a file of clean markup are those in its tree. -/
theorem marks_ofText {path : String} {ms : List Markup} (h : CleanAll ms) :
    marks (.ofText path (renderAll ms)) = marksOfAll ms := by
  rw [marks, islandsOfFile_ofText h, List.filterMap_map]
  apply List.filterMap_congr
  intro i _
  exact markOf?_render i

/-! ### Nesting -/

/-- Marks in which every block is closed by an end of its own kind, after all blocks inside it.
The heads are those of the outermost blocks, in order. -/
inductive Nested : List Mark → List BlockHead → Prop where
  | nil : Nested [] []
  | block (head : BlockHead) {inside after : List Mark} {inner heads : List BlockHead}
      (nested : Nested inside inner) (rest : Nested after heads) :
      Nested (.opens head :: inside ++ .closes head.kind :: after) (head :: heads)

/-- The outermost blocks of marks by one pass, given the kinds of the blocks that are open
around them, the innermost first. -/
def outermostIn? : List BlockKind → List Mark → Option (List BlockHead)
  | [], [] => some []
  | _ :: _, [] => none
  | [], .opens head :: ms => (outermostIn? [head.kind] ms).map (head :: ·)
  | kind :: kinds, .opens head :: ms => outermostIn? (head.kind :: kind :: kinds) ms
  | [], .closes _ :: _ => none
  | kind :: kinds, .closes ended :: ms => if kind = ended then outermostIn? kinds ms else none

/-- Inside a block the pass goes over nested marks and forgets their heads. -/
theorem Nested.outermostIn?_append {ms : List Mark} {heads : List BlockHead} (h : Nested ms heads)
    (kind : BlockKind) (kinds : List BlockKind) (after : List Mark) :
    outermostIn? (kind :: kinds) (ms ++ after) = outermostIn? (kind :: kinds) after := by
  induction h generalizing kind kinds after with
  | nil => rfl
  | block head _ _ ihNested ihRest =>
      rw [List.append_assoc, List.cons_append, List.cons_append, outermostIn?, ihNested,
        outermostIn?, if_pos rfl, ihRest]

theorem Nested.outermostIn?_eq {ms : List Mark} {heads : List BlockHead} (h : Nested ms heads) :
    outermostIn? [] ms = some heads := by
  induction h with
  | nil => rfl
  | block head hnested _ _ ihRest =>
      rw [List.cons_append, outermostIn?, hnested.outermostIn?_append, outermostIn?, if_pos rfl,
        ihRest, Option.map_some]

/-- The marks alone tell which blocks are outermost. -/
theorem Nested.heads_eq {ms : List Mark} {heads others : List BlockHead} (h : Nested ms heads)
    (h' : Nested ms others) : others = heads := by
  have heq := h.outermostIn?_eq
  rw [h'.outermostIn?_eq] at heq
  exact Option.some.inj heq

end Portfolio.Template
