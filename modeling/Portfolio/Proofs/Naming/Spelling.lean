/-
Module: Portfolio.Proofs.Naming.Spelling
Purpose: How names are spelled. Slugs, templates, collections and keys are made of small
  letters, digits and one separator; a label reads back as the key of its field.
Main exports: Naming.Spelled, Naming.Word, Naming.runs_joined, Naming.spelled_slug,
  Naming.word_template, Naming.word_collection, Naming.key_label, Naming.map_toLower_label
-/
import Portfolio.Naming

namespace Portfolio.Naming

/-! ### Characters -/

/-- Small letters and digits: what kept characters become in names. -/
def isSmall (c : Char) : Bool := c.isLower || c.isDigit

theorem isKept_iff (c : Char) :
    isKept c = true ↔ (c.isUpper = true ∨ c.isLower = true) ∨ c.isDigit = true := by
  change ((c.isUpper || c.isLower) || c.isDigit) = true ↔ _
  rw [Bool.or_eq_true, Bool.or_eq_true]

/-- Kept characters are ASCII characters, so a fact about them can be checked for all. -/
theorem of_isKept {P : Char → Prop} (hP : ∀ n < 128, P (Char.ofNat n)) {c : Char}
    (hc : isKept c = true) : P c := by
  have hlt : c.toNat < 128 := by
    rw [isKept_iff] at hc
    delta Char.isUpper Char.isLower Char.isDigit at hc
    simp only [Bool.and_eq_true, decide_eq_true_eq, ge_iff_le, UInt32.le_iff_toNat_le] at hc
    change ((65 ≤ c.toNat ∧ c.toNat ≤ 90) ∨ (97 ≤ c.toNat ∧ c.toNat ≤ 122)) ∨
      (48 ≤ c.toNat ∧ c.toNat ≤ 57) at hc
    omega
  have h := hP c.toNat hlt
  rwa [Char.ofNat_toNat] at h

theorem isSmall_toLower {c : Char} (hc : isKept c = true) : isSmall c.toLower = true :=
  of_isKept (P := fun c => isKept c = true → isSmall c.toLower = true) (by decide) hc hc

theorem isKept_of_isSmall {c : Char} (hc : isSmall c = true) : isKept c = true := by
  rw [isSmall, Bool.or_eq_true] at hc
  rw [isKept_iff]
  rcases hc with hc | hc
  · exact Or.inl (Or.inr hc)
  · exact Or.inr hc

theorem toLower_of_isSmall {c : Char} (hc : isSmall c = true) : c.toLower = c :=
  of_isKept (P := fun c => isSmall c = true → c.toLower = c) (by decide)
    (isKept_of_isSmall hc) hc

theorem isUpper_of_isSmall {c : Char} (hc : isSmall c = true) : c.isUpper = false :=
  of_isKept (P := fun c => isSmall c = true → c.isUpper = false) (by decide)
    (isKept_of_isSmall hc) hc

theorem isKept_toUpper {c : Char} (hc : isKept c = true) : isKept c.toUpper = true :=
  of_isKept (P := fun c => isKept c = true → isKept c.toUpper = true) (by decide) hc hc

/-- Upper case is lost in lower case. -/
theorem toLower_toUpper (c : Char) : c.toUpper.toLower = c.toLower := by
  by_cases hc : isKept c = true
  · exact of_isKept (P := fun c => c.toUpper.toLower = c.toLower) (by decide) hc
  · have hupper : c.toUpper = c := by
      delta Char.toUpper
      rw [dif_neg]
      rintro ⟨hge, hle⟩
      have hlower : c.isLower = true :=
        Bool.and_eq_true_iff.2 ⟨decide_eq_true hge, decide_eq_true hle⟩
      exact hc ((isKept_iff c).2 (Or.inl (Or.inr hlower)))
    rw [hupper]

theorem toLower_of_not_isKept {c : Char} (hc : ¬ isKept c = true) : c.toLower = c := by
  delta Char.toLower
  rw [dif_neg]
  intro hrange
  have hupper : c.isUpper = true := decide_eq_true hrange
  exact hc ((isKept_iff c).2 (Or.inl (Or.inl hupper)))

/-! ### Runs -/

/-- The pieces of a split list hold no separator. -/
theorem eq_false_of_mem_splitOnP {α : Type} {p : α → Bool} (xs : List α) :
    ∀ piece ∈ xs.splitOnP p, ∀ x ∈ piece, p x = false := by
  induction xs with
  | nil => simp
  | cons y ys ih =>
      rw [List.splitOnP_cons_eq_if_modifyHead]
      cases hy : p y with
      | true => simpa using ih
      | false =>
          obtain ⟨first, rest, hsplit⟩ := List.exists_cons_of_ne_nil (List.splitOnP_ne_nil p ys)
          rw [hsplit] at ih ⊢
          simpa [hy] using ih

/-- Words: nonempty runs of kept characters. -/
def Words (words : List (List Char)) : Prop :=
  ∀ word ∈ words, word ≠ [] ∧ ∀ c ∈ word, isKept c = true

theorem words_runs (cs : List Char) : Words (runs cs) := by
  intro run hrun
  obtain ⟨hpiece, hne⟩ := List.mem_filter.1 hrun
  constructor
  · simpa using hne
  · intro c hc
    simpa using eq_false_of_mem_splitOnP cs run hpiece c hc

/-- Joined words come apart again. -/
theorem runs_joined {separator : Char} (hseparator : isKept separator = false) :
    ∀ {words : List (List Char)}, Words words → runs ([separator].intercalate words) = words
  | [], _ => by simp [runs, List.intercalate_nil]
  | [word], hwords => by
      obtain ⟨hne, hkept⟩ := hwords word List.mem_cons_self
      rw [List.intercalate_singleton, runs, List.splitOnP_eq_singleton]
      · simp [hne]
      · intro c hc
        simp [hkept c hc]
  | word :: next :: rest, hwords => by
      obtain ⟨hne, hkept⟩ := hwords word List.mem_cons_self
      have hrest : Words (next :: rest) := fun w hw => hwords w (List.mem_cons_of_mem _ hw)
      have ih := runs_joined hseparator hrest
      rw [runs] at ih
      rw [List.intercalate_cons_cons, List.append_assoc, List.singleton_append, runs,
        List.splitOnP_append_cons_of_forall_mem _ separator (by simp [hseparator]),
        List.filter_cons_of_pos (by simpa using hne), ih]
      intro c hc
      simp [hkept c hc]

theorem mem_intercalate {α : Type} {separator : List α} {x : α} :
    ∀ {pieces : List (List α)}, x ∈ separator.intercalate pieces →
      x ∈ separator ∨ ∃ piece ∈ pieces, x ∈ piece
  | [], h => by simp [List.intercalate_nil] at h
  | [piece], h => by
      rw [List.intercalate_singleton] at h
      exact Or.inr ⟨piece, List.mem_cons_self, h⟩
  | piece :: next :: rest, h => by
      rw [List.intercalate_cons_cons, List.mem_append, List.mem_append] at h
      rcases h with (h | h) | h
      · exact Or.inr ⟨piece, List.mem_cons_self, h⟩
      · exact Or.inl h
      · rcases mem_intercalate h with h | ⟨other, hother, hx⟩
        · exact Or.inl h
        · exact Or.inr ⟨other, List.mem_cons_of_mem _ hother, hx⟩

/-- Joined runs hold kept characters and separators only. -/
theorem mem_joinRuns {separator c : Char} {cs : List Char} (h : c ∈ joinRuns separator cs) :
    c = separator ∨ isKept c = true := by
  rcases mem_intercalate h with h | ⟨run, hrun, hc⟩
  · exact Or.inl (List.mem_singleton.1 h)
  · exact Or.inr ((words_runs cs run hrun).2 c hc)

/-! ### Spelling -/

/-- A text of small letters, digits and one separator. -/
def Spelled (separator : Char) (cs : List Char) : Prop :=
  ∀ c ∈ cs, isSmall c = true ∨ c = separator

theorem spelled_of_all {separator : Char} {cs : List Char}
    (h : (cs.all fun c => isSmall c || c == separator) = true) : Spelled separator cs := by
  intro c hc
  simpa using List.all_eq_true.1 h c hc

theorem Spelled.of_subset {separator : Char} {cs ds : List Char} (h : Spelled separator cs)
    (hsubset : ds ⊆ cs) : Spelled separator ds :=
  fun c hc => h c (hsubset hc)

/-- A character that is no small letter, digit or separator has no place in such a text. -/
theorem Spelled.not_mem {separator c : Char} {cs : List Char} (h : Spelled separator cs)
    (hsmall : isSmall c = false) (hseparator : c ≠ separator) : c ∉ cs := by
  intro hc
  rcases h c hc with hc | hc
  · exact absurd hc (by simp [hsmall])
  · exact hseparator hc

theorem Spelled.append {separator : Char} {cs ds : List Char} (h : Spelled separator cs)
    (h' : Spelled separator ds) : Spelled separator (cs ++ ds) := by
  intro c hc
  rcases List.mem_append.1 hc with hc | hc
  · exact h c hc
  · exact h' c hc

theorem dropEndWhile_subset {α : Type} (p : α → Bool) (xs : List α) :
    Text.dropEndWhile p xs ⊆ xs := by
  intro x hx
  rw [Text.dropEndWhile, List.mem_reverse] at hx
  exact List.mem_reverse.1 ((List.dropWhile_sublist p).subset hx)

/-- Joined runs in lower case are spelled with their separator. -/
theorem spelled_joinRuns {separator : Char} (hseparator : separator.toLower = separator)
    (cs : List Char) : Spelled separator ((joinRuns separator cs).map Char.toLower) := by
  intro c hc
  obtain ⟨d, hd, rfl⟩ := List.mem_map.1 hc
  rcases mem_joinRuns hd with rfl | hkept
  · exact Or.inr hseparator
  · exact Or.inl (isSmall_toLower hkept)

theorem spelled_dashed (cs : List Char) : Spelled '-' (dashed cs) :=
  spelled_joinRuns (by decide) cs

theorem spelled_slug (s : String) : Spelled '-' (slug s).toList := by
  rw [slug, String.toList_ofList, cutSlug]
  split
  · exact spelled_dashed s.toList
  · apply (spelled_dashed s.toList).of_subset
    intro c hc
    exact List.mem_of_mem_take (dropEndWhile_subset _ _ hc)

theorem spelled_template (id : String) : Spelled '-' (template id).toList := by
  rw [template]
  split
  · exact spelled_of_all (by decide)
  · rw [String.toList_ofList]
    exact spelled_dashed id.toList

theorem template_ne_empty (id : String) : template id ≠ "" := by
  rw [template]
  split
  · decide
  · next hne =>
      intro h
      exact hne (by simpa using congrArg String.toList h)

theorem spelled_collection (pluralName id : String) :
    Spelled '-' (collection pluralName id).toList := by
  rw [collection]
  split
  · exact spelled_template id
  · exact spelled_slug pluralName

theorem collection_ne_empty (pluralName id : String) : collection pluralName id ≠ "" := by
  rw [collection]
  split
  · exact template_ne_empty id
  · next hne => simpa using hne

theorem spelled_key (name : String) : Spelled '_' (key name).toList := by
  rw [key, String.toList_ofList]
  exact spelled_joinRuns (by decide) name.toList

/-! ### Words -/

/-- A name of at least one character, made of small letters, digits and one separator. -/
structure Word (separator : Char) (s : String) : Prop where
  filled : s ≠ ""
  spelled : Spelled separator s.toList

theorem word_template (id : String) : Word '-' (template id) :=
  ⟨template_ne_empty id, spelled_template id⟩

theorem word_collection (pluralName id : String) : Word '-' (collection pluralName id) :=
  ⟨collection_ne_empty pluralName id, spelled_collection pluralName id⟩

/-- A character that is no small letter, digit or separator is in no word. -/
theorem Word.not_mem {separator c : Char} {s : String} (h : Word separator s)
    (hsmall : isSmall c = false) (hseparator : c ≠ separator) : c ∉ s.toList :=
  h.spelled.not_mem hsmall hseparator

/-! ### Labels -/

/-- The words of a label: those of the name, the first of them with a capital. -/
def labelWords (words : List (List Char)) : List (List Char) :=
  words.modifyHead capitalize

theorem words_labelWords {words : List (List Char)} (h : Words words) :
    Words (labelWords words) := by
  cases words with
  | nil => exact h
  | cons word rest =>
      rw [labelWords, List.modifyHead_cons]
      intro w hw
      rcases List.mem_cons.1 hw with rfl | hw
      · obtain ⟨hne, hkept⟩ := h word List.mem_cons_self
        cases word with
        | nil => exact absurd rfl hne
        | cons c cs =>
            rw [capitalize]
            refine ⟨List.cons_ne_nil _ _, List.forall_mem_cons.2 ⟨?_, ?_⟩⟩
            · exact isKept_toUpper (hkept c List.mem_cons_self)
            · exact fun d hd => hkept d (List.mem_cons_of_mem _ hd)
      · exact h w (List.mem_cons_of_mem _ hw)

theorem capitalize_intercalate {separator : Char} {words : List (List Char)} (h : Words words) :
    capitalize ([separator].intercalate words) = [separator].intercalate (labelWords words) := by
  match words, h with
  | [], _ => rfl
  | [word], _ => simp [labelWords]
  | word :: next :: rest, h =>
      obtain ⟨hne, -⟩ := h word List.mem_cons_self
      obtain ⟨c, cs, rfl⟩ := List.exists_cons_of_ne_nil hne
      simp [labelWords, capitalize, List.intercalate_cons_cons]

/-- A label is made of the words of its name. -/
theorem toList_label (name : String) :
    (label name).toList = ['_'].intercalate (labelWords (runs name.toList)) := by
  rw [label, String.toList_ofList, joinRuns, capitalize_intercalate (words_runs _)]

/-- A label holds kept characters and underscores only. -/
theorem mem_label {name : String} {c : Char} (h : c ∈ (label name).toList) :
    c = '_' ∨ isKept c = true := by
  rw [toList_label] at h
  rcases mem_intercalate h with h | ⟨word, hword, hc⟩
  · exact Or.inl (List.mem_singleton.1 h)
  · exact Or.inr ((words_labelWords (words_runs _) word hword).2 c hc)

theorem map_toLower_capitalize (cs : List Char) :
    (capitalize cs).map Char.toLower = cs.map Char.toLower := by
  cases cs with
  | nil => rfl
  | cons c cs => rw [capitalize, List.map_cons, List.map_cons, toLower_toUpper]

/-- A label in lower case is the key of its field. -/
theorem map_toLower_label (name : String) :
    (label name).toList.map Char.toLower = (key name).toList := by
  rw [label, key, String.toList_ofList, String.toList_ofList, map_toLower_capitalize]

/-- A label reads back as the key of its field. -/
theorem key_label (name : String) : key (label name) = key name := by
  have hruns : joinRuns '_' (label name).toList = (label name).toList := by
    rw [toList_label, joinRuns, runs_joined (by decide) (words_labelWords (words_runs _))]
  rw [key, hruns, map_toLower_label, String.ofList_toList]

end Portfolio.Naming
