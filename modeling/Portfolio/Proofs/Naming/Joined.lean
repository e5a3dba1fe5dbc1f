/-
Module: Portfolio.Proofs.Naming.Joined
Purpose: Names made of words: small letters and digits, with one separator between any two
  words and none at either end. Cutting such a name and numbering it leaves such a name.
Main exports: Naming.Joined, Naming.Joined.cut, Naming.Joined.numbered,
  Naming.lowered_eq_nil_or_joined, Naming.slug_eq_empty_or_joined, Naming.length_slug_le
-/
import Portfolio.Proofs.Naming.Spelling
import Portfolio.Proofs.Text.Numeral

namespace Portfolio.Naming

/-- Words of small letters and digits with one separator between any two. With a dash these
are the texts `[a-z0-9]+(-[a-z0-9]+)*`. -/
inductive Joined (separator : Char) : List Char → Prop where
  | single {c : Char} : isSmall c = true → Joined separator [c]
  | letter {c : Char} {cs : List Char} :
      isSmall c = true → Joined separator cs → Joined separator (c :: cs)
  | separated {c : Char} {cs : List Char} :
      isSmall c = true → Joined separator cs → Joined separator (c :: separator :: cs)

theorem dropEndWhile_cons {α : Type} (p : α → Bool) (x : α) (xs : List α) :
    Text.dropEndWhile p (x :: xs) =
      if (Text.dropEndWhile p xs).isEmpty && p x then [] else x :: Text.dropEndWhile p xs := by
  rw [Text.dropEndWhile, List.reverse_cons, List.dropWhile_append, Text.dropEndWhile,
    List.isEmpty_reverse]
  cases hdropped : (xs.reverse.dropWhile p) with
  | nil => cases hx : p x <;> simp [hx]
  | cons y ys => simp

/-- A last element that stays keeps all before it. -/
theorem dropEndWhile_cons_of_ne_nil {α : Type} {p : α → Bool} {xs : List α}
    (h : Text.dropEndWhile p xs ≠ []) (x : α) :
    Text.dropEndWhile p (x :: xs) = x :: Text.dropEndWhile p xs := by
  rw [dropEndWhile_cons, if_neg (by simp [h])]

theorem dropEndWhile_cons_of_neg {α : Type} {p : α → Bool} {x : α} (h : p x = false)
    (xs : List α) : Text.dropEndWhile p (x :: xs) = x :: Text.dropEndWhile p xs := by
  rw [dropEndWhile_cons, if_neg (by simp [h])]

namespace Joined

variable {separator : Char} {cs : List Char}

theorem ne_nil (h : Joined separator cs) : cs ≠ [] := by
  cases h with
  | single _ => exact List.cons_ne_nil _ _
  | letter _ _ => exact List.cons_ne_nil _ _
  | separated _ _ => exact List.cons_ne_nil _ _

theorem word : ∀ {word : List Char}, word ≠ [] → (∀ c ∈ word, isSmall c = true) →
    Joined separator word
  | [], hne, _ => absurd rfl hne
  | [c], _, hword => .single (hword c List.mem_cons_self)
  | c :: d :: rest, _, hword => by
      rw [List.forall_mem_cons] at hword
      exact .letter hword.1 (word (List.cons_ne_nil d rest) hword.2)

/-- Two names with a separator between them. -/
theorem append {ds : List Char} (h : Joined separator cs) (h' : Joined separator ds) :
    Joined separator (cs ++ separator :: ds) := by
  induction h with
  | single hc => exact .separated hc h'
  | letter hc _ ih => exact .letter hc ih
  | separated hc _ ih => exact .separated hc ih

/-- A number behind a separator. -/
theorem numbered (h : Joined separator cs) (n : Nat) :
    Joined separator (cs ++ separator :: (Text.decimal n).toList) := by
  apply h.append
  apply word
  · exact Text.toList_decimal_ne_nil n
  · intro c hc
    rw [isSmall, Text.isDigit_of_mem_decimal hc, Bool.or_true]

/-- What is left of a name that is cut, without the separators then at its end. -/
theorem cut (hseparator : isSmall separator = false) (h : Joined separator cs) (n : Nat) :
    Joined separator (Text.dropEndWhile (· == separator) (cs.take (n + 1))) := by
  have hkept : ∀ {c : Char}, isSmall c = true → ∀ cs,
      Text.dropEndWhile (· == separator) (c :: cs) =
        c :: Text.dropEndWhile (· == separator) cs := by
    intro c hc
    apply dropEndWhile_cons_of_neg
    rw [beq_eq_false_iff_ne]
    rintro rfl
    rw [hseparator] at hc
    exact Bool.false_ne_true hc
  -- The induction is on the name, for cuts anywhere in it.
  induction h generalizing n with
  | @single c hc =>
      rw [List.take_of_length_le (by simp), hkept hc]
      exact .single hc
  | @letter c cs hc h ih =>
      rw [List.take_succ_cons, hkept hc]
      cases n with
      | zero => exact .single hc
      | succ n => exact .letter hc (ih n)
  | @separated c cs hc h ih =>
      rw [List.take_succ_cons, hkept hc]
      cases n with
      | zero => exact .single hc
      | succ n =>
          rw [List.take_succ_cons]
          cases n with
          | zero =>
              rw [List.take_zero, dropEndWhile_cons]
              simpa [Text.dropEndWhile_nil] using Joined.single hc
          | succ n =>
              rw [dropEndWhile_cons_of_ne_nil (ih n).ne_nil]
              exact .separated hc (ih n)

end Joined

/-! ### Names -/

theorem joined_map_toLower {separator : Char} {word : List Char} (hne : word ≠ [])
    (hkept : ∀ c ∈ word, isKept c = true) : Joined separator (word.map Char.toLower) := by
  apply Joined.word
  · exact fun hempty => hne (List.map_eq_nil_iff.1 hempty)
  · exact List.forall_mem_map.2 fun c hc => isSmall_toLower (hkept c hc)

/-- Words of kept characters, in lower case and joined. -/
theorem joined_intercalate {separator : Char} (hseparator : separator.toLower = separator) :
    ∀ {words : List (List Char)}, Words words → words ≠ [] →
      Joined separator (([separator].intercalate words).map Char.toLower)
  | [], _, hne => absurd rfl hne
  | [word], hwords, _ => by
      obtain ⟨hne, hkept⟩ := hwords word List.mem_cons_self
      rw [List.intercalate_singleton]
      exact joined_map_toLower hne hkept
  | word :: next :: rest, hwords, _ => by
      obtain ⟨hne, hkept⟩ := hwords word List.mem_cons_self
      have hrest : Words (next :: rest) := fun w hw => hwords w (List.mem_cons_of_mem _ hw)
      have ih := joined_intercalate hseparator hrest (List.cons_ne_nil next rest)
      rw [List.intercalate_cons_cons, List.append_assoc, List.singleton_append, List.map_append,
        List.map_cons, hseparator]
      exact (joined_map_toLower hne hkept).append ih

/-- A text without a usable character leaves nothing, any other leaves words. -/
theorem lowered_eq_nil_or_joined {separator : Char} (hseparator : separator.toLower = separator)
    (cs : List Char) : (joinRuns separator cs).map Char.toLower = [] ∨
      Joined separator ((joinRuns separator cs).map Char.toLower) := by
  rw [joinRuns]
  cases hruns : runs cs with
  | nil => exact Or.inl rfl
  | cons word rest =>
      have hwords : Words (word :: rest) := hruns ▸ words_runs cs
      exact Or.inr (joined_intercalate hseparator hwords (List.cons_ne_nil word rest))

theorem dashed_eq_nil_or_joined (cs : List Char) : dashed cs = [] ∨ Joined '-' (dashed cs) :=
  lowered_eq_nil_or_joined (by decide) cs

/-- A slug is empty, or made of words. -/
theorem slug_eq_empty_or_joined (s : String) : slug s = "" ∨ Joined '-' (slug s).toList := by
  rw [slug, String.toList_ofList, cutSlug]
  rcases dashed_eq_nil_or_joined s.toList with hnone | hwords
  · rw [hnone]
    exact Or.inl rfl
  · right
    split
    · exact hwords
    · exact hwords.cut (by decide) 99

theorem length_dropEndWhile_le {α : Type} (p : α → Bool) (xs : List α) :
    (Text.dropEndWhile p xs).length ≤ xs.length := by
  have hsublist : (xs.reverse.dropWhile p).Sublist xs.reverse := List.dropWhile_sublist p
  have hlength := hsublist.length_le
  rw [List.length_reverse] at hlength
  rwa [Text.dropEndWhile, List.length_reverse]

theorem length_slug_le (s : String) : (slug s).length ≤ maxSlugLength := by
  rw [slug, String.length_ofList, cutSlug]
  split
  · next hshort => exact hshort
  · exact Nat.le_trans (length_dropEndWhile_le _ _) (List.length_take_le _ _)

end Portfolio.Naming
