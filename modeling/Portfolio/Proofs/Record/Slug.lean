/-
Module: Portfolio.Proofs.Record.Slug
Purpose: The slugs of an entity's pages: made of small letters, digits and dashes, and
  no slug given twice.
Main exports: Record.freeSlug_not_mem, Record.nodup_slugs, Record.word_of_mem_pagesFrom
-/
import Mathlib.Data.List.Forall2
import Mathlib.Data.List.Nodup
import Portfolio.Proofs.Naming.Spelling
import Portfolio.Proofs.Text.Numeral
import Portfolio.Record.Page

namespace Portfolio.Record

open Naming (Word)

/-! ### Numbered slugs -/

/-- What stands behind the last separator is determined by the whole. -/
theorem eq_of_append_cons_eq {α : Type} {separator : α} {xs ys us vs : List α}
    (h : xs ++ separator :: us = ys ++ separator :: vs) (hu : separator ∉ us)
    (hv : separator ∉ vs) : us = vs := by
  rcases List.append_eq_append_iff.1 h with ⟨middle, -, htail⟩ | ⟨middle, -, htail⟩
  · cases middle with
    | nil => exact (List.cons_eq_cons.1 htail).2
    | cons _ middle =>
        rw [List.cons_append, List.cons_eq_cons] at htail
        exact absurd (htail.2 ▸ List.mem_append_right _ List.mem_cons_self) hu
  · cases middle with
    | nil => exact (List.cons_eq_cons.1 htail).2.symm
    | cons _ middle =>
        rw [List.cons_append, List.cons_eq_cons] at htail
        exact absurd (htail.2 ▸ List.mem_append_right _ List.mem_cons_self) hv

/-- The number of a numbered slug can be read off. -/
theorem numberedSlug_injective (base : String) : Function.Injective (numberedSlug base) := by
  intro n m h
  have hlist := congrArg String.toList h
  simp only [numberedSlug, String.toList_append] at hlist
  have hdash : "-".toList = ['-'] := rfl
  rw [hdash, List.singleton_append, List.singleton_append] at hlist
  have hdigits := eq_of_append_cons_eq hlist (Text.not_mem_decimal (by decide) n)
    (Text.not_mem_decimal (by decide) m)
  exact Text.decimal_injective (String.toList_injective hdigits)

/-! ### Free slugs -/

/-- A search that ends at a used slug has passed only used ones. -/
theorem mem_of_searchSlug_mem {used : List String} {base : String} {fuel n : Nat}
    (h : searchSlug used base fuel n ∈ used) :
    ∀ i ≤ fuel, numberedSlug base (n + i) ∈ used := by
  induction fuel generalizing n with
  | zero =>
      intro i hi
      rw [Nat.le_zero.1 hi]
      exact h
  | succ fuel ih =>
      rw [searchSlug] at h
      split at h
      · next hfirst =>
          intro i hi
          cases i with
          | zero => simpa using hfirst
          | succ i =>
              have hstep := ih h i (by omega)
              rwa [Nat.add_assoc, Nat.add_comm 1 i] at hstep
      · next hfirst => exact absurd h (by simpa using hfirst)

/-- There are more candidates than used slugs, so the search finds a free one. -/
theorem freeSlug_not_mem (used : List String) (base : String) : freeSlug used base ∉ used := by
  intro h
  rw [freeSlug] at h
  split at h
  · have hall := mem_of_searchSlug_mem h
    have hnodup : ((List.range (used.length + 1)).map fun i => numberedSlug base (2 + i)).Nodup :=
      List.nodup_range.map fun i j hij => Nat.add_left_cancel (numberedSlug_injective base hij)
    have hused :
        ((List.range (used.length + 1)).map fun i => numberedSlug base (2 + i)) ⊆ used := by
      intro s hs
      obtain ⟨i, hi, rfl⟩ := List.mem_map.1 hs
      exact hall i (by simpa [Nat.lt_succ_iff] using hi)
    have hlength := hnodup.length_le_of_subset hused
    rw [List.length_map, List.length_range] at hlength
    omega
  · next hfree => exact hfree (by simpa using h)

/-! ### Spelling -/

/-- The slug of an item is always the slug of some text. -/
theorem exists_eq_slug (item : Item) (entity : Entity) (title : String) :
    ∃ s, slug item entity title = Naming.slug s := by
  rw [slug]
  cases hfound : List.find? _ _ with
  | none => exact ⟨title, rfl⟩
  | some s =>
      have hs := List.mem_of_find?_eq_some hfound
      simp only [List.mem_append, Option.mem_toList, Option.map_eq_some_iff] at hs
      rcases hs with ⟨carried, -, rfl⟩ | ⟨v, -, rfl⟩
      · exact ⟨carried, rfl⟩
      · exact ⟨scalarText v, rfl⟩

theorem spelled_slug (item : Item) (entity : Entity) (title : String) :
    Naming.Spelled '-' (slug item entity title).toList := by
  obtain ⟨s, hs⟩ := exists_eq_slug item entity title
  rw [hs]
  exact Naming.spelled_slug s

theorem word_baseSlug {s : String} (h : Naming.Spelled '-' s.toList) (itemId : String) :
    Word '-' (baseSlug s itemId) := by
  rw [baseSlug]
  split
  · dsimp only
    split
    · exact ⟨by decide, Naming.spelled_of_all (by decide)⟩
    · next hfilled => exact ⟨by simpa using hfilled, Naming.spelled_slug itemId⟩
  · next hfilled => exact ⟨by simpa using hfilled, h⟩

theorem word_numberedSlug {base : String} (h : Word '-' base) (n : Nat) :
    Word '-' (numberedSlug base n) := by
  constructor
  · intro hempty
    simp [numberedSlug] at hempty
  · rw [numberedSlug, String.toList_append, String.toList_ofList, String.toList_append]
    apply Naming.Spelled.append
    · apply h.spelled.of_subset
      intro c hc
      exact List.mem_of_mem_take (Naming.dropEndWhile_subset _ _ hc)
    · intro c hc
      rcases List.mem_append.1 hc with hc | hc
      · exact Or.inr (List.mem_singleton.1 hc)
      · exact Or.inl (by simp [Naming.isSmall, Text.isDigit_of_mem_decimal hc])

theorem word_searchSlug {used : List String} {base : String} (h : Word '-' base)
    (fuel n : Nat) : Word '-' (searchSlug used base fuel n) := by
  induction fuel generalizing n with
  | zero => exact word_numberedSlug h n
  | succ fuel ih =>
      rw [searchSlug]
      split
      · exact ih (n + 1)
      · exact word_numberedSlug h n

theorem word_freeSlug {used : List String} {base : String} (h : Word '-' base) :
    Word '-' (freeSlug used base) := by
  rw [freeSlug]
  split
  · exact word_searchSlug h used.length 2
  · exact h

/-! ### Pages -/

theorem pagesFrom_cons (entity : Entity) (used : List String) (listed : Nat) (item : Item)
    (items : List Item) : ∃ status position, pagesFrom entity used listed (item :: items) =
      let free := freeSlug used (baseSlug (slug item entity (title item entity)) item.id)
      ⟨item, status, free, position⟩ :: pagesFrom entity (free :: used) position items :=
  ⟨_, _, rfl⟩

/-- Every item of an entity has one page, which shows its status. -/
theorem forall₂_pagesFrom (entity : Entity) :
    ∀ (items : List Item) (used : List String) (listed : Nat),
      List.Forall₂ (fun item p => p.item = item ∧ p.status = .ofEditorial item.metadata.status)
        items (pagesFrom entity used listed items)
  | [], _, _ => .nil
  | _ :: items, _, _ => .cons ⟨rfl, rfl⟩ (forall₂_pagesFrom entity items _ _)

/-- No slug of a page is among those used before. -/
theorem slug_not_mem_used {entity : Entity} :
    ∀ {items : List Item} {used : List String} {listed : Nat},
      ∀ p ∈ pagesFrom entity used listed items, p.slug ∉ used
  | [], _, _, p, hp => by simp [pagesFrom] at hp
  | item :: items, used, listed, p, hp => by
      obtain ⟨status, position, hpages⟩ := pagesFrom_cons entity used listed item items
      rw [hpages, List.mem_cons] at hp
      rcases hp with rfl | hp
      · exact freeSlug_not_mem _ _
      · exact fun hused => slug_not_mem_used p hp (List.mem_cons_of_mem _ hused)

/-- No slug is given twice. -/
theorem nodup_slugs (entity : Entity) :
    ∀ (items : List Item) (used : List String) (listed : Nat),
      ((pagesFrom entity used listed items).map (·.slug)).Nodup
  | [], _, _ => List.nodup_nil
  | item :: items, used, listed => by
      obtain ⟨status, position, hpages⟩ := pagesFrom_cons entity used listed item items
      rw [hpages, List.map_cons, List.nodup_cons]
      refine ⟨?_, nodup_slugs entity items _ _⟩
      intro hmem
      obtain ⟨p, hp, hslug⟩ := List.mem_map.1 hmem
      exact slug_not_mem_used p hp (hslug ▸ List.mem_cons_self)

theorem word_of_mem_pagesFrom {entity : Entity} :
    ∀ {items : List Item} {used : List String} {listed : Nat},
      ∀ p ∈ pagesFrom entity used listed items, Word '-' p.slug
  | [], _, _, p, hp => by simp [pagesFrom] at hp
  | item :: items, used, listed, p, hp => by
      obtain ⟨status, position, hpages⟩ := pagesFrom_cons entity used listed item items
      rw [hpages, List.mem_cons] at hp
      rcases hp with rfl | hp
      · exact word_freeSlug (word_baseSlug (spelled_slug _ _ _) _)
      · exact word_of_mem_pagesFrom p hp

end Portfolio.Record
