/-
Module: Portfolio.Proofs.Record.Allocation
Purpose: How the pages of an entity come by their slugs. A page keeps the slug it would like
  if no page before it has it, and otherwise takes the first numbered form that is free; later
  items change nothing for those before them.
Main exports: Record.Allocated, Record.allocated_freeSlug, Record.allocated_pages,
  Record.forall₂_pages_files, Record.files_append, Record.slugs_allocated
-/
import Portfolio.Proofs.Naming.Joined
import Portfolio.Proofs.Record.Slug
import Portfolio.Proofs.Validation.Acceptance

namespace Portfolio.Record

open Naming (Joined)

/-! ### Searching -/

/-- The slug that an item is given when some are in use: the one it would like, or else that
slug with the least number from two on that gives a free one. The numbers tried are at most
one more than the slugs in use. -/
inductive Allocated (used : List String) (base : String) : String → Prop where
  | own : base ∉ used → Allocated used base base
  | numbered {n : Nat} : base ∈ used → 2 ≤ n → n - 1 ≤ used.length + 1 →
      numberedSlug base n ∉ used → (∀ m, 2 ≤ m → m < n → numberedSlug base m ∈ used) →
        Allocated used base (numberedSlug base n)

/-- A search ends at the first number whose slug is free, or where its steps are used up. -/
theorem searchSlug_eq (used : List String) (base : String) (fuel n : Nat) :
    ∃ k, n ≤ k ∧ k ≤ n + fuel ∧ searchSlug used base fuel n = numberedSlug base k ∧
      ∀ m, n ≤ m → m < k → numberedSlug base m ∈ used := by
  induction fuel generalizing n with
  | zero => exact ⟨n, Nat.le_refl n, Nat.le_refl n, rfl, by omega⟩
  | succ fuel ih =>
      rw [searchSlug]
      split
      · next htaken =>
          obtain ⟨k, hlower, hupper, hfound, hbefore⟩ := ih (n + 1)
          refine ⟨k, by omega, by omega, hfound, fun m hm hlt => ?_⟩
          rcases Nat.eq_or_lt_of_le hm with rfl | hnext
          · exact List.contains_iff_mem.1 htaken
          · exact hbefore m hnext hlt
      · exact ⟨n, Nat.le_refl n, Nat.le_add_right n _, rfl, by omega⟩

theorem allocated_freeSlug (used : List String) (base : String) :
    Allocated used base (freeSlug used base) := by
  have hfree := freeSlug_not_mem used base
  rw [freeSlug] at hfree ⊢
  split
  · next htaken =>
      rw [if_pos htaken] at hfree
      obtain ⟨n, hlower, hupper, hfound, hbefore⟩ := searchSlug_eq used base used.length 2
      rw [hfound] at hfree ⊢
      exact .numbered (List.contains_iff_mem.1 htaken) hlower (by omega) hfree hbefore
  · next hown => exact .own fun hmem => hown (List.contains_iff_mem.2 hmem)

/-- The order of the slugs in use makes no difference. -/
theorem Allocated.perm {used used' : List String} {base free : String}
    (h : Allocated used base free) (hperm : used.Perm used') : Allocated used' base free := by
  cases h with
  | own hown => exact .own fun hmem => hown (hperm.mem_iff.2 hmem)
  | @numbered n htaken hlower hupper hfree hbefore =>
      exact .numbered (hperm.mem_iff.1 htaken) hlower (hperm.length_eq ▸ hupper)
        (fun hmem => hfree (hperm.mem_iff.2 hmem))
        fun m hm hlt => hperm.mem_iff.1 (hbefore m hm hlt)

/-! ### Shape -/

/-- Words that fit a slug. -/
structure Fits (s : String) : Prop where
  short : s.length ≤ Naming.maxSlugLength
  joined : Joined '-' s.toList

theorem fits_of_slug {s : String} (h : Naming.slug s ≠ "") : Fits (Naming.slug s) :=
  ⟨Naming.length_slug_le s, (Naming.slug_eq_empty_or_joined s).resolve_left h⟩

/-- The slug that an item would like. -/
def wantedSlug (entity : Entity) (item : Item) : String :=
  baseSlug (slug item entity (title item entity)) item.id

theorem fits_wantedSlug (entity : Entity) (item : Item) : Fits (wantedSlug entity item) := by
  obtain ⟨s, hs⟩ := exists_eq_slug item entity (title item entity)
  rw [wantedSlug, hs, baseSlug]
  split
  · dsimp only
    split
    · exact ⟨by decide, .letter rfl (.letter rfl (.letter rfl (.single rfl)))⟩
    · next hfilled => exact fits_of_slug (by simpa using hfilled)
  · next hfilled => exact fits_of_slug (by simpa using hfilled)

/-- A number of up to ten digits leaves room for a part of the slug it stands behind. -/
theorem fits_numberedSlug {base : String} (h : Joined '-' base.toList) {n : Nat}
    (hn : n < 2 ^ 31) : Fits (numberedSlug base n) := by
  have hdigits : (Text.decimal n).length ≤ 10 := Text.length_decimal_le (by decide) (by omega)
  have hsuffix : ("-" ++ Text.decimal n).length = (Text.decimal n).length + 1 := by
    rw [String.length_append, Nat.add_comm]
    rfl
  have hroom : ∃ k, Naming.maxSlugLength - ("-" ++ Text.decimal n).length = k + 1 :=
    ⟨98 - (Text.decimal n).length, by rw [hsuffix, Naming.maxSlugLength]; omega⟩
  obtain ⟨k, hk⟩ := hroom
  rw [numberedSlug, hk]
  constructor
  · have hkept := Naming.length_dropEndWhile_le (· == '-') (base.toList.take (k + 1))
    have htaken := List.length_take_le (k + 1) base.toList
    rw [String.length_append, String.length_ofList, hsuffix]
    rw [hsuffix] at hk
    omega
  · have hdash : "-".toList = ['-'] := rfl
    rw [String.toList_append, String.toList_ofList, String.toList_append, hdash,
      List.singleton_append]
    exact (h.cut (by decide) k).numbered n

/-- The numbers that are tried fit 32 bits, one more included, if the slugs in use leave room
for them; what is given then fits. -/
theorem Allocated.fits {used : List String} {base free : String} (h : Allocated used base free)
    (hbase : Fits base) (hused : used.length + 3 < 2 ^ 31) : Fits free := by
  cases h with
  | own _ => exact hbase
  | numbered _ _ hupper _ _ => exact fits_numberedSlug hbase.joined (by omega)

/-! ### Pages -/

theorem map_item_pages (entity : Entity) (items : List Item) :
    (pages entity items).map (·.item) = items := by
  have hitems := (forall₂_pagesFrom entity items [] 0).imp fun _ _ h => h.1.symm
  rw [← List.forall₂_map_right_iff, List.forall₂_eq_eq_eq] at hitems
  exact hitems.symm

/-- Every page has the slug allocated to it after those of the pages before it. -/
theorem allocated_pagesFrom {entity : Entity} :
    ∀ {items : List Item} {used : List String} {listed : Nat} {front back : List Page} {p : Page},
      pagesFrom entity used listed items = front ++ p :: back →
        Allocated ((front.map (·.slug)).reverse ++ used) (wantedSlug entity p.item) p.slug
  | [], _, _, _, _, _, h => by simp [pagesFrom] at h
  | item :: items, used, listed, [], back, p, h => by
      obtain ⟨status, position, hpages⟩ := pagesFrom_cons entity used listed item items
      rw [hpages, List.nil_append, List.cons_eq_cons] at h
      obtain ⟨rfl, -⟩ := h
      exact allocated_freeSlug used _
  | item :: items, used, listed, q :: front, back, p, h => by
      obtain ⟨status, position, hpages⟩ := pagesFrom_cons entity used listed item items
      rw [hpages, List.cons_append, List.cons_eq_cons] at h
      obtain ⟨rfl, hrest⟩ := h
      have hp := allocated_pagesFrom hrest
      rwa [List.map_cons, List.reverse_cons, List.append_assoc, List.singleton_append]

theorem allocated_pages {entity : Entity} {items : List Item} {front back : List Page} {p : Page}
    (h : pages entity items = front ++ p :: back) :
    Allocated (front.map (·.slug)) (wantedSlug entity p.item) p.slug := by
  have hp := allocated_pagesFrom h
  rw [List.append_nil] at hp
  exact hp.perm (List.reverse_perm _)

/-- The files are one for each page, at the path that its status, slug and number make. -/
theorem forall₂_pages_files (settings : ContentSettings) (entity : Entity) (items : List Item) :
    List.Forall₂ (fun p f => f.path = pagePath entity (pageFolder p.status p.slug p.position))
      (pages entity items) (files settings entity items) := by
  rw [files, List.forall₂_map_right_iff, List.forall₂_same]
  exact fun _ _ => rfl

/-- More items at the end give more pages at the end. -/
theorem pagesFrom_append (entity : Entity) (more : List Item) :
    ∀ (items : List Item) (used : List String) (listed : Nat),
      pagesFrom entity used listed items <+: pagesFrom entity used listed (items ++ more)
  | [], _, _ => List.nil_prefix
  | _ :: items, _, _ => (List.prefix_cons_inj _).2 (pagesFrom_append entity more items _ _)

/-- More items at the end leave the files of those before them as they are. -/
theorem files_append (settings : ContentSettings) (entity : Entity) (items more : List Item) :
    files settings entity items <+: files settings entity (items ++ more) :=
  (pagesFrom_append entity more items [] 0).map _

/-- Slugs are allocated one by one. For fewer items than a counter of 32 bits can take, every
item has a slug of words that fits, no two items share one, and each has the slug that it would
like or the least numbered form of it that no item before it has; the numbers tried stay within
32 bits, and are at most one more than the items before. Each page has its own file, whose path is
made from the slug. Items that are added later change no file of those before. -/
theorem slugs_allocated (entity : Entity) {items : List Item}
    (h : items.length < 2 ^ 31 - 2) :
    (pages entity items).map (·.item) = items ∧
      ((pages entity items).map (·.slug)).Nodup ∧
      (∀ p ∈ pages entity items, p.slug ≠ "" ∧ Fits p.slug) ∧
      (∀ front p back, pages entity items = front ++ p :: back →
        Allocated (front.map (·.slug)) (wantedSlug entity p.item) p.slug ∧
          front.length + 3 < 2 ^ 31) ∧
      (∀ settings, List.Forall₂
        (fun p f => f.path = pagePath entity (pageFolder p.status p.slug p.position))
        (pages entity items) (files settings entity items)) ∧
      ∀ settings more, files settings entity items <+: files settings entity (items ++ more) := by
  have hitems : (pages entity items).map (·.item) = items := map_item_pages entity items
  have hroom : ∀ front p back, pages entity items = front ++ p :: back →
      front.length + 3 < 2 ^ 31 := by
    intro front p back hpages
    have hlength := congrArg List.length hitems
    rw [List.length_map, hpages, List.length_append, List.length_cons] at hlength
    omega
  refine ⟨hitems, nodup_slugs entity items [] 0, fun p hp => ?_,
    fun front p back hpages => ⟨allocated_pages hpages, hroom front p back hpages⟩,
    fun settings => forall₂_pages_files settings entity items,
    fun settings => files_append settings entity items⟩
  obtain ⟨front, back, hpages⟩ := List.append_of_mem hp
  refine ⟨(word_of_mem_pagesFrom p hp).filled, ?_⟩
  apply (allocated_pages hpages).fits (fits_wantedSlug entity p.item)
  rw [List.length_map]
  exact hroom front p back hpages

/-- An item of a title and a status. -/
def sampleTitled (title : String) (status : EditorialStatus) : Item :=
  { fields := .ofList [("title", .text title)], metadata := { status := status } }

/-- Four items. The slug that the third would like is the one that the second is given, and the
fourth has no letter or digit to make one from. -/
def sampleEncores : List Item :=
  [sampleTitled "Encore" .published, sampleTitled "encore!" .draft,
    sampleTitled "Encore 2" .archived, sampleTitled "?" .published]

theorem slugs_allocated_sampleEncores :
    sampleEncores.length < 2 ^ 31 - 2 ∧
      (pages Validation.sampleGig sampleEncores).map (·.slug) =
        ["encore", "encore-2", "encore-2-2", "item"] ∧
      ((pages Validation.sampleGig sampleEncores).map (·.slug)).Nodup ∧
      (files {} Validation.sampleGig sampleEncores).map (·.path) =
        ["content/live-gigs/1_encore/live-gig.txt",
          "content/live-gigs/_drafts/encore-2/live-gig.txt",
          "content/live-gigs/encore-2-2/live-gig.txt", "content/live-gigs/2_item/live-gig.txt"] ∧
      ∀ settings more, files settings Validation.sampleGig sampleEncores <+:
        files settings Validation.sampleGig (sampleEncores ++ more) := by
  have hlength : sampleEncores.length < 2 ^ 31 - 2 := by decide
  obtain ⟨-, hnodup, -, -, -, hfiles⟩ := slugs_allocated Validation.sampleGig hlength
  exact ⟨hlength, by decide +kernel, hnodup, by decide +kernel, hfiles⟩

end Portfolio.Record
