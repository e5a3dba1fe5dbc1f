/-
Module: Portfolio.Proofs.Record.Sequence
Purpose: The two ways a list of texts is written as a sequence. A structure writes its items as
  scalars, a list writes them as they are; so the two agree, and every reader has the texts back
  from a list, only where an item needs no quotes.
Main exports: Record.escapeLine_eq_wholeScalar_iff, Record.escapeLine_eq_yamlScalar_iff,
  Record.sequence, Record.ReadAs, Record.forall_readAs_iff, Record.sequences_agree_iff,
  Record.list_leaves_items_unquoted
-/
import Portfolio.Proofs.Record.Row

namespace Portfolio.Record

/-! ### Texts as they are -/

theorem escapeLineChars_eq_self {cs : List Char} (hfeed : '\n' ∉ cs) (hreturn : '\r' ∉ cs) :
    escapeLineChars cs = cs := by
  fun_induction escapeLineChars cs with
  | case1 => simp at hfeed
  | case2 => simp at hfeed
  | case3 => simp at hreturn
  | case4 c cs _ _ _ ih =>
      rw [List.mem_cons, not_or] at hfeed hreturn
      rw [ih hfeed.2 hreturn.2]
  | case5 => rfl

/-- On one line a text takes no more than its room. -/
theorem length_escapeLineChars_le (cs : List Char) :
    (escapeLineChars cs).length ≤ Yaml.room cs := by
  fun_induction escapeLineChars cs with
  | case1 cs ih =>
      rw [Yaml.room_cons_of_ne (by decide), Yaml.room_newline_cons]
      exact Nat.le_succ_of_le (Nat.add_le_add_right ih 2)
  | case2 cs ih =>
      rw [Yaml.room_newline_cons]
      exact Nat.add_le_add_right ih 2
  | case3 cs _ ih =>
      rw [Yaml.room_cons_of_ne (by decide)]
      exact Nat.le_succ_of_le ih
  | case4 c cs _ hfeed _ ih =>
      rw [Yaml.room_cons_of_ne hfeed]
      exact Nat.succ_le_succ ih
  | case5 => exact Nat.le_refl _

theorem newline_not_mem_escapeLine (s : String) : '\n' ∉ (escapeLine s).toList := by
  rw [escapeLine, String.toList_ofList]
  exact newline_not_mem_escapeLineChars s.toList

/-- A text that can stand plain takes one line as it is. -/
theorem escapeLine_of_plain {s : String} (h : Yaml.styleOf s = .plain) : escapeLine s = s := by
  obtain ⟨hfeed, -, hplain⟩ := (Yaml.styleOf_eq_plain_iff s).1 h
  simp only [Yaml.allowsPlain, Bool.and_eq_true, Bool.not_eq_true'] at hplain
  have hreturn : '\r' ∉ s.toList := by
    intro hmem
    have hbreak := List.any_eq_false.1 hplain.1.2 '\r' hmem
    exact hbreak (by decide)
  rw [escapeLine, escapeLineChars_eq_self hfeed hreturn, String.ofList_toList]

/-- A text that cannot stand plain is not its own scalar: the quotes take more room. -/
theorem escapeLine_ne_wholeScalar {s : String} (h : Yaml.styleOf s ≠ .plain) :
    escapeLine s ≠ wholeScalar s := by
  intro heq
  have hquoted := quoted_wholeScalar h
  have hdecoded := decode_wholeScalar s
  rw [← heq] at hquoted hdecoded
  have hlt := Yaml.room_lt_of_decode hquoted (newline_not_mem_escapeLine s) hdecoded
  have hle := length_escapeLineChars_le s.toList
  rw [escapeLine, String.toList_ofList] at hlt
  omega

/-- A text is its own whole scalar exactly if it can stand plain. -/
theorem escapeLine_eq_wholeScalar_iff (s : String) :
    escapeLine s = wholeScalar s ↔ Yaml.styleOf s = .plain := by
  constructor
  · intro heq
    by_contra hplain
    exact escapeLine_ne_wholeScalar hplain heq
  · intro hplain
    rw [escapeLine_of_plain hplain, wholeScalar_of_plain hplain]

/-- A text is its own scalar exactly if it can stand plain and ends in no blank. -/
theorem escapeLine_eq_yamlScalar_iff (s : String) :
    escapeLine s = yamlScalar (.text s) ↔ Yaml.styleOf s = .plain ∧ Text.trimEnd s = s := by
  by_cases hplain : Yaml.styleOf s = .plain
  · rw [escapeLine_of_plain hplain, yamlScalar_of_plain hplain, and_iff_right hplain, eq_comm]
  · simp [yamlScalar_of_not_plain hplain, escapeLine_ne_wholeScalar hplain, hplain]

/-! ### Sequences -/

/-- A sequence with a scalar on each line, behind a dash. -/
def sequence (scalars : List String) : String := Text.unlines (scalars.map ("- " ++ ·))

theorem listBlock_texts (texts : List String) :
    listBlock (.list (texts.map .text)) = sequence (texts.map escapeLine) := by
  have hpresent : present (texts.map Value.text) = texts.map Value.text := by
    rw [present, List.filter_eq_self, List.forall_mem_map]
    exact fun _ _ => rfl
  rw [listBlock, hpresent, List.map_map, sequence, List.map_map]
  rfl

theorem structureBlock_texts (nested : List Field) (texts : List String) :
    structureBlock nested (.list (texts.map .text)) =
      sequence (texts.map fun s => yamlScalar (.text s)) := by
  rw [structureBlock, List.flatMap_map, sequence, List.map_map, List.map_eq_flatMap]
  rfl

/-- The lines of a sequence are its scalars behind dashes. A sequence of none has one empty line. -/
theorem filledLines_sequence {scalars : List String} (h : ∀ t ∈ scalars, '\n' ∉ t.toList) :
    (Text.splitLines (sequence scalars).toList).filter (fun line => !line.isEmpty) =
      scalars.map fun t => '-' :: ' ' :: t.toList := by
  by_cases hne : scalars = []
  · rw [hne]
    rfl
  · have hlines : Text.splitLines (sequence scalars).toList =
        scalars.map fun t => '-' :: ' ' :: t.toList := by
      rw [sequence, Text.splitLines_unlines]
      · simp
      · simpa using hne
      · rw [List.forall_mem_map]
        intro t ht
        simp [h t ht]
    rw [hlines, List.filter_eq_self, List.forall_mem_map]
    exact fun _ _ => rfl

theorem sequence_inj {ss ts : List String} (hs : ∀ t ∈ ss, '\n' ∉ t.toList)
    (ht : ∀ t ∈ ts, '\n' ∉ t.toList) : sequence ss = sequence ts ↔ ss = ts := by
  refine ⟨fun heq => ?_, congrArg sequence⟩
  have hlines := filledLines_sequence hs
  rw [heq, filledLines_sequence ht] at hlines
  refine (List.map_injective_iff.2 ?_ hlines).symm
  intro s t hline
  rw [List.cons_eq_cons, List.cons_eq_cons] at hline
  exact String.toList_injective hline.2.2

/-- A reader of scalars has the texts back from a sequence: it reads one of them on each line. -/
def ReadAs (read : String → Option String) (body : String) (texts : List String) : Prop :=
  ∃ scalars, body = sequence scalars ∧ (∀ t ∈ scalars, '\n' ∉ t.toList) ∧
    scalars.map read = texts.map some

section

variable {f g : String → String} (hf : ∀ s, '\n' ∉ (f s).toList) (hg : ∀ s, '\n' ∉ (g s).toList)
include hf

theorem newline_not_mem_map (texts : List String) : ∀ t ∈ texts.map f, '\n' ∉ t.toList :=
  List.forall_mem_map.2 fun s _ => hf s

include hg in
/-- Sequences of the same texts are equal exactly if the scalars of each text are. -/
theorem sequence_map_inj (texts : List String) :
    sequence (texts.map f) = sequence (texts.map g) ↔ ∀ s ∈ texts, f s = g s := by
  rw [sequence_inj (newline_not_mem_map hf texts) (newline_not_mem_map hg texts),
    List.map_inj_left]

theorem readAs_sequence_iff (read : String → Option String) (texts : List String) :
    ReadAs read (sequence (texts.map f)) texts ↔ ∀ s ∈ texts, read (f s) = some s := by
  constructor
  · rintro ⟨scalars, hbody, hfeed, hread⟩
    rw [sequence_inj (newline_not_mem_map hf texts) hfeed] at hbody
    rwa [← hbody, List.map_map, List.map_inj_left] at hread
  · intro hread
    refine ⟨texts.map f, rfl, newline_not_mem_map hf texts, ?_⟩
    rwa [List.map_map, List.map_inj_left]

/-- Every reader that undoes the emitter has the texts back from a sequence exactly if each text
stands there as its whole scalar. -/
theorem forall_readAs_iff (texts : List String) :
    (∀ read, Undoes read → ReadAs read (sequence (texts.map f)) texts) ↔
      ∀ s ∈ texts, '\n' ∉ s.toList ∧ f s = wholeScalar s := by
  simp only [readAs_sequence_iff hf, ← forall_undoes_iff]
  constructor
  · intro hall s hs read hread
    exact hall read hread s hs
  · intro hall read hread s hs
    exact hall s hs read hread

end

/-- A list and a structure write the same texts as the same sequence exactly if every text can
stand plain and ends in no blank. Every reader that undoes the emitter has the texts back from the
list exactly if each can stand plain, and from the structure exactly if none holds a line feed or
loses its end; of the other texts some readers make themselves and some do not. -/
theorem sequences_agree_iff (nested : List Field) (texts : List String) :
    (listBlock (.list (texts.map .text)) = structureBlock nested (.list (texts.map .text)) ↔
        ∀ s ∈ texts, Yaml.styleOf s = .plain ∧ Text.trimEnd s = s) ∧
      ((∀ read, Undoes read → ReadAs read (listBlock (.list (texts.map .text))) texts) ↔
        ∀ s ∈ texts, Yaml.styleOf s = .plain) ∧
      ((∀ read, Undoes read →
          ReadAs read (structureBlock nested (.list (texts.map .text))) texts) ↔
        ∀ s ∈ texts, '\n' ∉ s.toList ∧ ¬ LosesEnd s) := by
  rw [listBlock_texts, structureBlock_texts,
    sequence_map_inj newline_not_mem_escapeLine newline_not_mem_yamlScalar_text,
    forall_readAs_iff newline_not_mem_escapeLine,
    forall_readAs_iff newline_not_mem_yamlScalar_text]
  simp only [escapeLine_eq_yamlScalar_iff, escapeLine_eq_wholeScalar_iff,
    yamlScalar_eq_wholeScalar_iff, and_iff_right_of_imp newline_not_mem_of_plain, and_self]

/-- Names of songs need no quotes, so the reader of whole scalars has them back from both. -/
theorem sequences_agree_songs :
    (∀ s ∈ ["So What", "Blue in Green"], Yaml.styleOf s = .plain ∧ Text.trimEnd s = s) ∧
      listBlock (.list (["So What", "Blue in Green"].map .text)) =
        structureBlock songFields (.list (["So What", "Blue in Green"].map .text)) ∧
      Undoes readWhole ∧
      ReadAs readWhole (listBlock (.list (["So What", "Blue in Green"].map .text)))
        ["So What", "Blue in Green"] ∧
      ReadAs readWhole (structureBlock songFields (.list (["So What", "Blue in Green"].map .text)))
        ["So What", "Blue in Green"] := by
  have hplain : ∀ s ∈ ["So What", "Blue in Green"],
      Yaml.styleOf s = .plain ∧ Text.trimEnd s = s := by
    decide +kernel
  have hkept : ∀ s ∈ ["So What", "Blue in Green"], '\n' ∉ s.toList ∧ ¬ LosesEnd s :=
    fun s hs => ⟨newline_not_mem_of_plain (hplain s hs).1, fun h => h.2 (hplain s hs).2⟩
  obtain ⟨hagree, hlist, hstructure⟩ := sequences_agree_iff songFields ["So What", "Blue in Green"]
  exact ⟨hplain, hagree.2 hplain, undoes_readWhole,
    hlist.2 (fun s hs => (hplain s hs).1) readWhole undoes_readWhole,
    hstructure.2 hkept readWhole undoes_readWhole⟩

/-- The list leaves out the quotes that the structure writes: an item with a colon is another
text behind its dash, a text in quotes is written as the structure writes what stands between them,
and a text is written as the boolean is. -/
theorem list_leaves_items_unquoted :
    listBlock (.list [.text "Bass: Paul Chambers"]) = "- Bass: Paul Chambers" ∧
      structureBlock [] (.list [.text "Bass: Paul Chambers"]) = "- 'Bass: Paul Chambers'" ∧
      listBlock (.list [.text "'true'"]) = structureBlock [] (.list [.text "true"]) ∧
      listBlock (.list [.text "true"]) = listBlock (.list [.bool true]) ∧
      structureBlock [] (.list [.text "true"]) ≠ structureBlock [] (.list [.bool true]) := by
  decide +kernel

end Portfolio.Record
