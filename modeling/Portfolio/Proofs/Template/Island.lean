/-
Module: Portfolio.Proofs.Template.Island
Purpose: The PHP islands of a text are read back from it: of printed markup they are the
  islands of its tree, since free text holds no `<` and no code holds a `?`.
Main exports: Template.islandTexts, Template.Markup.Clean, Template.islandTexts_renderAll,
  Template.islandsOfFile, Template.calls, Template.calls_ofText
-/
import Mathlib.Data.List.Basic
import Portfolio.File
import Portfolio.Template.Markup

namespace Portfolio.Template

/-! ### Reading -/

mutual

/-- The islands of a text: each from a `<?` to the next `?>`. -/
def islandsOutside : List Char → List String
  | [] => []
  | '<' :: '?' :: cs => islandsInside ['?', '<'] cs
  | _ :: cs => islandsOutside cs

/-- The same inside an island, of which some characters are read, the last one first. One
that is not closed goes on to the end. -/
def islandsInside (read : List Char) : List Char → List String
  | [] => [String.ofList read.reverse]
  | '?' :: '>' :: cs => String.ofList ('>' :: '?' :: read).reverse :: islandsOutside cs
  | c :: cs => islandsInside (c :: read) cs

end

/-- The islands of a text. -/
def islandTexts (text : String) : List String := islandsOutside text.toList

example : islandTexts "<b><?= $x ?></b> <?php if (" = ["<?= $x ?>", "<?php if ("] := by
  decide +kernel

theorem islandsOutside_cons_of_ne {c : Char} (h : c ≠ '<') (cs : List Char) :
    islandsOutside (c :: cs) = islandsOutside cs := by
  rw [islandsOutside]
  intro ds hc
  exact absurd hc h

theorem islandsOutside_angle_cons {c : Char} (h : c ≠ '?') (cs : List Char) :
    islandsOutside ('<' :: c :: cs) = islandsOutside (c :: cs) := by
  rw [islandsOutside]
  intro ds _ hcs
  exact absurd (List.cons.inj hcs).1 h

theorem islandsInside_cons_of_ne {c : Char} (h : c ≠ '?') (read cs : List Char) :
    islandsInside read (c :: cs) = islandsInside (c :: read) cs := by
  rw [islandsInside]
  intro ds hc
  exact absurd hc h

/-- A text without `<` opens no island. -/
theorem islandsOutside_append_of_not_mem {cs : List Char} (h : '<' ∉ cs) (rest : List Char) :
    islandsOutside (cs ++ rest) = islandsOutside rest := by
  induction cs with
  | nil => rfl
  | cons c cs ih =>
      rw [List.mem_cons, not_or] at h
      rw [List.cons_append, islandsOutside_cons_of_ne (Ne.symm h.1), ih h.2]

/-- A text without `?` closes no island. -/
theorem islandsInside_append_of_not_mem {cs : List Char} (h : '?' ∉ cs) (read rest : List Char) :
    islandsInside read (cs ++ rest) = islandsInside (cs.reverse ++ read) rest := by
  induction cs generalizing read with
  | nil => rfl
  | cons c cs ih =>
      rw [List.mem_cons, not_or] at h
      rw [List.cons_append, islandsInside_cons_of_ne (Ne.symm h.1), ih h.2, List.reverse_cons,
        List.append_assoc, List.singleton_append]

/-! ### Pieces of a text -/

/-- A piece of a text whose islands are found whatever follows it. -/
def Reads (piece : String) (found : List String) : Prop :=
  ∀ rest, islandsOutside (piece.toList ++ rest) = found ++ islandsOutside rest

theorem Reads.islandTexts_eq {piece : String} {found : List String} (h : Reads piece found) :
    islandTexts piece = found := by
  have hend := h []
  rwa [List.append_nil, islandsOutside, List.append_nil] at hend

theorem Reads.append {s t : String} {xs ys : List String} (hs : Reads s xs) (ht : Reads t ys) :
    Reads (s ++ t) (xs ++ ys) := by
  intro rest
  rw [String.toList_append, List.append_assoc, hs, ht, List.append_assoc]

theorem reads_of_not_mem {s : String} (h : '<' ∉ s.toList) : Reads s [] :=
  islandsOutside_append_of_not_mem h

theorem reads_empty : Reads "" [] := reads_of_not_mem (by simp)

/-- Behind every `<` of a fixed piece of HTML stands a character that makes it no island. -/
def opensNone : List Char → Bool
  | [] => true
  | c :: cs => (c != '<' || cs.head?.any (· != '?')) && opensNone cs

theorem reads_of_opensNone {cs : List Char} (h : opensNone cs = true) :
    Reads (String.ofList cs) [] := by
  intro rest
  rw [String.toList_ofList, List.nil_append]
  induction cs with
  | nil => rfl
  | cons c cs ih =>
      rw [opensNone, Bool.and_eq_true] at h
      obtain ⟨hfirst, htail⟩ := h
      by_cases hc : c = '<'
      · cases cs with
        | nil => simp [hc] at hfirst
        | cons d ds =>
            have hd : d ≠ '?' := by simpa [hc] using hfirst
            rw [hc, List.cons_append, List.cons_append, islandsOutside_angle_cons hd]
            exact ih htail
      · rw [List.cons_append, islandsOutside_cons_of_ne hc]
        exact ih htail

/-- Code that does not close its island. -/
def Quiet (code : String) : Prop := '?' ∉ code.toList

theorem quiet_literal {cs : List Char} (h : cs.contains '?' = false) :
    Quiet (String.ofList cs) := by
  rw [Quiet, String.toList_ofList, ← List.contains_iff_mem, h]
  exact Bool.false_ne_true

@[simp] theorem quiet_append {s t : String} : Quiet (s ++ t) ↔ Quiet s ∧ Quiet t := by
  rw [Quiet, String.toList_append, List.mem_append, not_or]
  rfl

/-- Quiet code in an island is read as one. -/
theorem reads_island {opening code : String} (hopening : Quiet opening) (hcode : Quiet code) :
    Reads ("<?" ++ opening ++ code ++ " ?>") ["<?" ++ opening ++ code ++ " ?>"] := by
  intro rest
  have hopen : "<?".toList = ['<', '?'] := rfl
  have hclose : " ?>".toList = [' ', '?', '>'] := rfl
  have hbody : '?' ∉ opening.toList ++ code.toList ++ [' '] := by
    rw [Quiet] at hopening hcode
    simp [hopening, hcode]
  have hpiece : ("<?" ++ opening ++ code ++ " ?>").toList ++ rest =
      '<' :: '?' :: ((opening.toList ++ code.toList ++ [' ']) ++ '?' :: '>' :: rest) := by
    simp [hopen, hclose]
  rw [hpiece, islandsOutside, islandsInside_append_of_not_mem hbody, islandsInside,
    List.singleton_append, List.cons.injEq]
  refine ⟨String.toList_injective ?_, rfl⟩
  simp [hopen, hclose]

/-! ### Markup -/

/-- The name of a tag or an attribute. -/
structure IsName (name : String) : Prop where
  ne_empty : name ≠ ""
  alphanumeric : ∀ c ∈ name.toList, c.isAlphanum = true

theorem isName_literal {c : Char} {cs : List Char} (h : (c :: cs).all Char.isAlphanum = true) :
    IsName (String.ofList (c :: cs)) := by
  refine ⟨?_, by rwa [String.toList_ofList, ← List.all_eq_true]⟩
  intro hempty
  have hlist := congrArg String.toList hempty
  rw [String.toList_ofList] at hlist
  exact List.cons_ne_nil c cs hlist

theorem IsName.not_mem {name : String} (h : IsName name) {c : Char} (hc : c.isAlphanum = false) :
    c ∉ name.toList := by
  intro hmem
  rw [h.alphanumeric c hmem] at hc
  contradiction

/-- A bracket before the name of a tag opens no island. -/
theorem IsName.reads_open {name : String} (h : IsName name) : Reads ("<" ++ name) [] := by
  intro rest
  obtain ⟨c, cs, hname⟩ : ∃ c cs, name.toList = c :: cs := by
    apply List.exists_cons_of_ne_nil
    intro hempty
    exact h.ne_empty (String.toList_injective hempty)
  have hmark : c ≠ '?' := by
    rintro rfl
    exact h.not_mem (by decide) (hname ▸ List.mem_cons_self)
  have hangle : '<' ∉ c :: cs := hname ▸ h.not_mem (by decide)
  have hopen : "<".toList = ['<'] := rfl
  rw [String.toList_append, hopen, hname, List.singleton_append, List.cons_append,
    List.cons_append, islandsOutside_angle_cons hmark]
  exact islandsOutside_append_of_not_mem hangle rest

/-- The name of a snippet: it ends neither at a quote nor at the end of an island. -/
structure IsSnippetName (name : String) : Prop where
  quiet : Quiet name
  no_quote : '\'' ∉ name.toList

theorem isSnippetName_literal {cs : List Char}
    (h : (cs.contains '?' || cs.contains '\'') = false) : IsSnippetName (String.ofList cs) := by
  rw [Bool.or_eq_false_iff] at h
  refine ⟨quiet_literal h.1, ?_⟩
  rw [String.toList_ofList, ← List.contains_iff_mem, h.2]
  exact Bool.false_ne_true

/-- A statement that its text determines: it does not close its island, and nothing but a call
of a snippet starts like one. -/
def Control.Clean : Control → Prop
  | .condition test => Quiet test
  | .loop head => Quiet head
  | .endCondition | .endLoop => True
  | .snippet name none => IsSnippetName name
  | .snippet name (some (key, value)) => IsSnippetName name ∧ Quiet key ∧ Quiet value
  | .call code => Quiet code ∧ code.toList.head? ≠ some 's'

def Island.Clean : Island → Prop
  | .control c => c.Clean
  | .echo expression => Quiet expression

/-- An attribute whose value, if it is code, does not close its island. -/
structure Attribute.Clean (a : Attribute) : Prop where
  name : IsName a.name
  value : ∀ expression, a.value = .echo expression → Quiet expression

mutual

/-- Markup whose islands can be told from its text. Free text needs no care. -/
def Markup.Clean : Markup → Prop
  | .text _ => True
  | .fixed html => Reads html []
  | .island i => i.Clean
  | .element tag attributes children =>
      IsName tag ∧ (∀ a ∈ attributes, a.Clean) ∧ CleanAll children
  | .void tag attributes => IsName tag ∧ ∀ a ∈ attributes, a.Clean

/-- The same for parts one behind the other. -/
def CleanAll : List Markup → Prop
  | [] => True
  | m :: ms => m.Clean ∧ CleanAll ms

end

/-! ### Printed markup -/

/-- Escaped text holds no `<`. -/
theorem reads_escape (s : String) : Reads (escape s) [] := by
  apply reads_of_not_mem
  rw [escape, String.toList_ofList, List.mem_flatMap]
  rintro ⟨c, -, hc⟩
  unfold escapeChar at hc
  split at hc
  · simp at hc
  · simp at hc
  · simp at hc
  · simp at hc
  · next hangle _ _ => exact hangle (List.mem_singleton.1 hc).symm

theorem Control.Clean.quiet_code {c : Control} (h : c.Clean) : Quiet c.code := by
  cases c with
  | condition test =>
      rw [Control.code, quiet_append, quiet_append]
      exact ⟨⟨quiet_literal rfl, h⟩, quiet_literal rfl⟩
  | endCondition => exact quiet_literal rfl
  | loop head =>
      rw [Control.code, quiet_append, quiet_append]
      exact ⟨⟨quiet_literal rfl, h⟩, quiet_literal rfl⟩
  | endLoop => exact quiet_literal rfl
  | snippet name passed =>
      cases passed with
      | none =>
          rw [Control.code, quiet_append, quiet_append]
          exact ⟨⟨quiet_literal rfl, h.quiet⟩, quiet_literal rfl⟩
      | some pair =>
          obtain ⟨hname, hkey, hvalue⟩ := h
          simp only [Control.code, quiet_append, hname.quiet, hkey, hvalue]
          and_intros <;> first | trivial | exact quiet_literal rfl
  | call code => exact h.1

theorem Island.Clean.reads {i : Island} (h : i.Clean) : Reads i.render [i.render] := by
  cases i with
  | control c => exact @reads_island "php " _ (quiet_literal rfl) h.quiet_code
  | echo expression => exact @reads_island "= " _ (quiet_literal rfl) h

theorem Attribute.Clean.reads {a : Attribute} (h : a.Clean) :
    Reads a.render ((attributeIslands [a]).map Island.render) := by
  obtain ⟨hname, hecho⟩ := h
  obtain ⟨name, value⟩ := a
  have hstart : Reads (" " ++ name) [] := by
    apply reads_of_not_mem
    simpa using hname.not_mem (by decide)
  have hequals : Reads "=\"" [] := reads_of_not_mem (by simp)
  have hquote : Reads "\"" [] := reads_of_not_mem (by simp)
  cases value with
  | text s => exact ((hstart.append hequals).append (reads_escape s)).append hquote
  | echo expression =>
      have hisland : (Island.echo expression).Clean := hecho expression rfl
      exact ((hstart.append hequals).append hisland.reads).append hquote
  | absent => exact hstart

theorem clean_of_mem_attributeIslands {attributes : List Attribute}
    (h : ∀ a ∈ attributes, a.Clean) : ∀ i ∈ attributeIslands attributes, i.Clean := by
  intro i hi
  obtain ⟨a, ha, hvalue⟩ := List.mem_filterMap.1 hi
  cases hecho : a.value with
  | echo expression =>
      rw [hecho, Option.some.injEq] at hvalue
      exact hvalue ▸ (h a ha).value expression hecho
  | text s => simp [hecho] at hvalue
  | absent => simp [hecho] at hvalue

theorem reads_attributes {attributes : List Attribute} (h : ∀ a ∈ attributes, a.Clean) :
    Reads (String.join (attributes.map Attribute.render))
      ((attributeIslands attributes).map Island.render) := by
  induction attributes with
  | nil => exact reads_empty
  | cons a as ih =>
      rw [List.forall_mem_cons] at h
      have hislands : attributeIslands (a :: as) = attributeIslands [a] ++ attributeIslands as :=
        List.filterMap_append (l := [a])
      rw [List.map_cons, String.join_cons, hislands, List.map_append]
      exact h.1.reads.append (ih h.2)

theorem reads_openTag {tag : String} {attributes : List Attribute} (htag : IsName tag)
    (h : ∀ a ∈ attributes, a.Clean) :
    Reads (openTag tag attributes) ((attributeIslands attributes).map Island.render) := by
  have hend : Reads ">" [] := reads_of_not_mem (by simp)
  have htext := (htag.reads_open.append (reads_attributes h)).append hend
  rwa [List.nil_append, List.append_nil] at htext

theorem reads_closeTag {tag : String} (htag : IsName tag) : Reads ("</" ++ tag ++ ">") [] := by
  have hstart : Reads "</" [] := reads_of_opensNone rfl
  have hend : Reads ">" [] := reads_of_not_mem (by simp)
  exact (hstart.append (reads_of_not_mem (htag.not_mem (by decide)))).append hend

mutual

/-- Of clean markup the islands of its tree are read. -/
theorem reads_render : ∀ {m : Markup}, m.Clean → Reads m.render (m.islands.map Island.render)
  | .text s => by
      intro _
      exact reads_escape s
  | .fixed _ => by
      intro h
      exact h
  | .island i => by
      intro h
      exact Island.Clean.reads h
  | .element tag attributes children => by
      rintro ⟨htag, hattributes, hchildren⟩
      have hinside := (reads_openTag htag hattributes).append (reads_renderAll hchildren)
      have hall := hinside.append (reads_closeTag htag)
      rw [List.append_nil, ← List.map_append] at hall
      rw [Markup.render, Markup.islands]
      simpa only [String.append_assoc] using hall
  | .void tag attributes => by
      rintro ⟨htag, hattributes⟩
      exact reads_openTag htag hattributes

/-- The same for parts one behind the other. -/
theorem reads_renderAll : ∀ {ms : List Markup}, CleanAll ms →
    Reads (renderAll ms) ((islandsOfAll ms).map Island.render)
  | [] => by
      intro _
      exact reads_empty
  | m :: ms => by
      rintro ⟨hfirst, hrest⟩
      rw [renderAll, islandsOfAll, List.map_append]
      exact (reads_render hfirst).append (reads_renderAll hrest)

end

/-- The islands of printed markup are those of its tree, in the same order. -/
theorem islandTexts_renderAll {ms : List Markup} (h : CleanAll ms) :
    islandTexts (renderAll ms) = (islandsOfAll ms).map Island.render :=
  (reads_renderAll h).islandTexts_eq

@[simp] theorem cleanAll_append {ms ns : List Markup} :
    CleanAll (ms ++ ns) ↔ CleanAll ms ∧ CleanAll ns := by
  induction ms with
  | nil => exact (and_iff_right trivial).symm
  | cons m ms ih => rw [List.cons_append, CleanAll, CleanAll, ih, and_assoc]

/-- The islands of a file that is a text. -/
def islandsOfFile (file : File) : List String := (file.body.text?.map islandTexts).getD []

theorem islandsOfFile_ofText {path : String} {ms : List Markup} (h : CleanAll ms) :
    islandsOfFile (.ofText path (renderAll ms)) = (islandsOfAll ms).map Island.render :=
  islandTexts_renderAll h

/-! ### Calls -/

/-- The start of an island that calls a snippet. -/
def callStart : String := "<?php snippet('"

/-- The name of the snippet that an island calls: the text up to the next quote. -/
def calledName? (island : String) : Option String :=
  if callStart.toList <+: island.toList then
    some (String.ofList ((island.toList.drop callStart.toList.length).takeWhile (· != '\'')))
  else none

/-- The names of the snippets that a file calls, call by call. -/
def calls (file : File) : List String := (islandsOfFile file).filterMap calledName?

/-- The name of the snippet that an island of a tree calls. -/
def Island.called? : Island → Option String
  | .control (.snippet name _) => some name
  | _ => none

theorem calledName?_append {name : String} (h : '\'' ∉ name.toList) (rest : String) :
    calledName? (callStart ++ name ++ "'" ++ rest) = some name := by
  have hquote : "'".toList = ['\''] := rfl
  have hchars : (callStart ++ name ++ "'" ++ rest).toList =
      callStart.toList ++ (name.toList ++ '\'' :: rest.toList) := by
    simp [hquote]
  have hname : (name.toList ++ '\'' :: rest.toList).takeWhile (· != '\'') = name.toList := by
    rw [List.takeWhile_append_of_pos, List.takeWhile_cons_of_neg (by simp), List.append_nil]
    intro c hc
    rw [bne_iff_ne]
    rintro rfl
    exact h hc
  rw [calledName?, hchars, if_pos (List.prefix_append _ _), List.drop_left, hname,
    String.ofList_toList]

/-- A statement with the text of a call calls the snippet that it names. -/
theorem calledName?_of_code {c : Control} {name : String} (h : '\'' ∉ name.toList) (rest : String)
    (hcode : c.code = "snippet('" ++ name ++ "'" ++ rest) :
    calledName? (Island.control c).render = some name := by
  have hrender : (Island.control c).render = callStart ++ name ++ "'" ++ (rest ++ " ?>") := by
    apply String.toList_injective
    simp [Island.render, hcode, callStart]
  rw [hrender, calledName?_append h]

/-- A statement that starts with another letter calls no snippet. -/
theorem calledName?_of_head {c : Control} (h : (c.code ++ " ?>").toList.head? ≠ some 's') :
    calledName? (Island.control c).render = none := by
  have hstart : callStart.toList = "<?php ".toList ++ 's' :: "nippet('".toList := by decide
  have hchars : (Island.control c).render.toList =
      "<?php ".toList ++ (c.code ++ " ?>").toList := by
    rw [Island.render, String.append_assoc, String.toList_append]
  rw [calledName?, if_neg]
  rintro ⟨rest, hrest⟩
  rw [hchars, hstart, List.append_assoc, List.append_cancel_left_eq] at hrest
  rw [← hrest] at h
  exact h rfl

theorem calledName?_echo (expression : String) :
    calledName? (Island.echo expression).render = none := by
  have hstart : callStart.toList = '<' :: '?' :: 'p' :: "hp snippet('".toList := by decide
  have hecho : "<?= ".toList = ['<', '?', '=', ' '] := rfl
  rw [calledName?, if_neg]
  rintro ⟨rest, hrest⟩
  simp [Island.render, hstart, hecho] at hrest

/-- The island of a clean statement shows whether it calls a snippet, and which. -/
theorem calledName?_render {i : Island} (h : i.Clean) : calledName? i.render = i.called? := by
  cases i with
  | echo expression => exact calledName?_echo expression
  | control c =>
      cases c with
      | condition test => exact calledName?_of_head (by simp [Control.code])
      | endCondition => exact calledName?_of_head (by simp [Control.code])
      | loop head => exact calledName?_of_head (by simp [Control.code])
      | endLoop => exact calledName?_of_head (by simp [Control.code])
      | snippet name passed =>
          cases passed with
          | none =>
              apply calledName?_of_code h.no_quote ")"
              apply String.toList_injective
              simp [Control.code]
          | some pair =>
              obtain ⟨key, value⟩ := pair
              apply calledName?_of_code h.1.no_quote (", ['" ++ key ++ "' => " ++ value ++ "])")
              apply String.toList_injective
              simp [Control.code]
      | call code =>
          apply calledName?_of_head
          have hhead := h.2
          rw [Control.code, String.toList_append]
          cases hcode : code.toList with
          | nil => simp
          | cons c cs => simpa [hcode] using hhead

mutual

/-- The islands of clean markup are clean. -/
theorem clean_of_mem_islands : ∀ {m : Markup}, m.Clean → ∀ i ∈ m.islands, i.Clean
  | .text _ => by simp [Markup.islands]
  | .fixed _ => by simp [Markup.islands]
  | .island i => by
      intro h j hj
      rw [Markup.islands, List.mem_singleton] at hj
      exact hj ▸ h
  | .element _ attributes children => by
      rintro ⟨-, hattributes, hchildren⟩ i hi
      rw [Markup.islands, List.mem_append] at hi
      rcases hi with hi | hi
      · exact clean_of_mem_attributeIslands hattributes i hi
      · exact clean_of_mem_islandsOfAll hchildren i hi
  | .void _ attributes => by
      rintro ⟨-, hattributes⟩
      exact clean_of_mem_attributeIslands hattributes

/-- The same for parts one behind the other. -/
theorem clean_of_mem_islandsOfAll : ∀ {ms : List Markup}, CleanAll ms →
    ∀ i ∈ islandsOfAll ms, i.Clean
  | [] => by simp [islandsOfAll]
  | m :: ms => by
      rintro ⟨hfirst, hrest⟩ i hi
      rw [islandsOfAll, List.mem_append] at hi
      rcases hi with hi | hi
      · exact clean_of_mem_islands hfirst i hi
      · exact clean_of_mem_islandsOfAll hrest i hi

end

/-- The calls in a file of clean markup are those in its tree. -/
theorem calls_ofText {path : String} {ms : List Markup} (h : CleanAll ms) :
    calls (.ofText path (renderAll ms)) = (islandsOfAll ms).filterMap Island.called? := by
  rw [calls, islandsOfFile_ofText h, List.filterMap_map]
  apply List.filterMap_congr
  intro i hi
  exact calledName?_render (clean_of_mem_islandsOfAll h i hi)

end Portfolio.Template
