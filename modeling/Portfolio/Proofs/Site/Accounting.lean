/-
Module: Portfolio.Proofs.Site.Accounting
Purpose: Items on their way into a site. Every item of an entity that the schema has goes to one
  file, every other item to one entry of the list of skipped items, in the order of the
  entities' ids; the counts agree with both.
Main exports: Site.itemsById, Site.IsRecordOf, Site.forall₂_files, Site.skipped_ofItems,
  Site.get?_counts, Site.items_accounted
-/
import Mathlib.Data.List.Forall2
import Portfolio.Proofs.Site.Build

namespace Portfolio.Site

/-! ### Items by id -/

/-- All items, each with the id it stands under: id by id, and under one id in their own
order. -/
def itemsById (entries : List (String × List Item)) : List (String × Item) :=
  entries.flatMap fun entry => entry.2.map fun item => (entry.1, item)

@[simp] theorem itemsById_nil : itemsById [] = [] := rfl

@[simp] theorem itemsById_cons (id : String) (items : List Item)
    (entries : List (String × List Item)) :
    itemsById ((id, items) :: entries) = items.map (fun item => (id, item)) ++ itemsById entries :=
  rfl

/-- Items under some of the ids only. -/
theorem filter_itemsById (p : String → Bool) (entries : List (String × List Item)) :
    (itemsById entries).filter (fun entry => p entry.1) =
      itemsById (entries.filter fun entry => p entry.1) := by
  induction entries with
  | nil => rfl
  | cons entry rest ih =>
      obtain ⟨id, items⟩ := entry
      rw [itemsById_cons, List.filter_append, ih, List.filter_map, List.filter_cons]
      cases hid : p id with
      | true => simp [Function.comp_def, hid]
      | false => simp [Function.comp_def, hid]

theorem length_itemsById (entries : List (String × List Item)) :
    (itemsById entries).length = (entries.map (·.2)).flatten.length := by
  induction entries with
  | nil => rfl
  | cons entry rest ih =>
      obtain ⟨id, items⟩ := entry
      rw [itemsById_cons, List.length_append, List.length_map, ih, List.map_cons,
        List.flatten_cons, List.length_append]

/-- The ids of the items never go back. -/
theorem pairwise_itemsById {entries : List (String × List Item)} (h : KeysSorted entries) :
    (itemsById entries).Pairwise fun a b => a.1 ≤ b.1 := by
  rw [itemsById, List.pairwise_flatMap]
  constructor
  · intro entry _
    rw [List.pairwise_map]
    exact List.pairwise_of_forall fun _ _ => String.le_refl _
  · apply h.imp
    intro a b hlt x hx y hy
    obtain ⟨item, -, rfl⟩ := List.mem_map.1 hx
    obtain ⟨item', -, rfl⟩ := List.mem_map.1 hy
    exact String.not_lt.1 (String.lt_asymm hlt)

/-- The schema has an entity with the id. -/
def Known (schema : Schema) (id : String) : Prop := ∃ e ∈ schema.entities, e.id = id

theorem isSome_entity?_iff {schema : Schema} {id : String} :
    (schema.entity? id).isSome = true ↔ Known schema id := by
  rw [Schema.entity?, List.find?_isSome]
  simp [Known]

instance (schema : Schema) : DecidablePred (Known schema) := fun _ =>
  decidable_of_iff _ isSome_entity?_iff

theorem decide_known (schema : Schema) (id : String) :
    decide (Known schema id) = (schema.entity? id).isSome := by
  rw [Bool.eq_iff_iff, decide_eq_true_iff, isSome_entity?_iff]

/-! ### Files -/

/-- A file is the record of an item, in a folder of its entity that shows the status of the
item. -/
def IsRecordOf (settings : ContentSettings) (schema : Schema) (entry : String × Item)
    (file : File) : Prop :=
  ∃ e slug position, schema.entity? entry.1 = some e ∧
    file = .ofText (Record.pagePath e (Record.pageFolder
      (.ofEditorial entry.2.metadata.status) slug position)) (Record.text settings entry.2 e)

/-- Every item of an entity has one file, in the order of the items. -/
theorem forall₂_records (settings : ContentSettings) {schema : Schema} {id : String} {e : Entity}
    (h : schema.entity? id = some e) (items : List Item) :
    List.Forall₂ (IsRecordOf settings schema) (items.map fun item => (id, item))
      (Record.files settings e items) := by
  rw [List.forall₂_map_left_iff, Record.files, List.forall₂_map_right_iff]
  apply (Record.forall₂_pagesFrom e items [] 0).imp
  rintro item p ⟨rfl, hstatus⟩
  refine ⟨e, p.slug, p.position, h, ?_⟩
  rw [← hstatus]
  rfl

theorem length_files (settings : ContentSettings) (e : Entity) (items : List Item) :
    (Record.files settings e items).length = items.length := by
  rw [Record.files, List.length_map]
  exact (Record.forall₂_pagesFrom e items [] 0).length_eq.symm

/-- The items of known entities have one file each. -/
theorem forall₂_files (settings : ContentSettings) (schema : Schema)
    (content : SortedMap (List Item)) :
    List.Forall₂ (IsRecordOf settings schema)
      ((itemsById content.entries).filter fun entry => Known schema entry.1)
      (ContentPart.ofItems settings schema content).files := by
  rw [files_ofItems, knownItems, filter_itemsById fun id => decide (Known schema id)]
  induction content.entries with
  | nil => exact .nil
  | cons entry rest ih =>
      obtain ⟨id, items⟩ := entry
      rw [List.filter_cons, List.filterMap_cons]
      dsimp only
      rw [decide_known]
      cases hfound : schema.entity? id with
      | none => exact ih
      | some e => exact List.rel_append (forall₂_records settings hfound items) ih

/-! ### Skipped items -/

/-- The items of other entities are skipped, each with its id and that of the entity. -/
theorem skipped_ofItems (settings : ContentSettings) (schema : Schema)
    (content : SortedMap (List Item)) :
    (ContentPart.ofItems settings schema content).skipped =
      ((itemsById content.entries).filter fun entry => ¬ Known schema entry.1).map fun entry =>
        ⟨entry.1, entry.2.id, "no entity '" ++ entry.1 ++ "' in schema"⟩ := by
  rw [filter_itemsById fun id => decide ¬ Known schema id, ContentPart.ofItems]
  dsimp only
  induction content.entries with
  | nil => rfl
  | cons entry rest ih =>
      obtain ⟨id, items⟩ := entry
      rw [List.flatMap_cons, ih, List.filter_cons, decide_not, decide_known]
      cases schema.entity? id with
      | some e => rfl
      | none => simp [skippedItems, Function.comp_def]

/-! ### Counts -/

/-- The counts of files by entity id. -/
theorem entries_counts (settings : ContentSettings) (schema : Schema)
    (content : SortedMap (List Item)) :
    (ContentPart.ofItems settings schema content).counts.entries =
      (knownItems schema content).map fun known => (known.2.1, known.2.2.length) := by
  have hcounts : (ContentPart.ofItems settings schema content).counts.entries =
      sortEntries ((knownItems schema content).map fun known =>
        (known.2.1, known.2.2.length)) := by
    simp only [ContentPart.ofItems, SortedMap.ofList, List.map_map, Function.comp_def,
      length_files]
  rw [hcounts, sortEntries_eq_self]
  rw [KeysSorted, List.pairwise_map, knownItems, List.pairwise_filterMap]
  apply content.sorted.imp
  intro a b hlt x hx y hy
  obtain ⟨e, -, rfl⟩ := Option.map_eq_some_iff.1 hx
  obtain ⟨e', -, rfl⟩ := Option.map_eq_some_iff.1 hy
  exact hlt

/-- The ids of known entities have the number of their items, and no others have one. -/
theorem get?_counts (settings : ContentSettings) (schema : Schema)
    (content : SortedMap (List Item)) (id : String) :
    (ContentPart.ofItems settings schema content).counts.get? id =
      if Known schema id then (content.get? id).map List.length else none := by
  rw [SortedMap.get?, entries_counts, knownItems, SortedMap.get?]
  induction content.entries with
  | nil => simp
  | cons entry rest ih =>
      obtain ⟨key, items⟩ := entry
      simp only [List.filterMap_cons, lookup_cons_eq_ite]
      cases hfound : schema.entity? key with
      | none =>
          have hkey : ¬ Known schema key := by simp [← isSome_entity?_iff, hfound]
          rw [Option.map_none]
          dsimp only
          rw [ih]
          by_cases hid : id = key
          · simp [hid, hkey]
          · rw [if_neg hid]
      | some e =>
          have hkey : Known schema key := by simp [← isSome_entity?_iff, hfound]
          rw [Option.map_some]
          dsimp only
          rw [List.map_cons, lookup_cons_eq_ite, ih]
          by_cases hid : id = key
          · simp [hid, hkey]
          · rw [if_neg hid, if_neg hid]

/-- The number of items counted is the number of files. -/
theorem itemCount_ofItems (settings : ContentSettings) (schema : Schema)
    (content : SortedMap (List Item)) :
    (ContentPart.ofItems settings schema content).itemCount =
      (ContentPart.ofItems settings schema content).files.length := by
  rw [ContentPart.itemCount, SortedMap.values, entries_counts, List.map_map,
    ← List.sum_eq_foldl_nat, files_ofItems, List.length_flatMap]
  simp only [Function.comp_def, length_files]

/-- Every item has a file or is skipped. -/
theorem length_files_add_skipped (settings : ContentSettings) (schema : Schema)
    (content : SortedMap (List Item)) :
    (ContentPart.ofItems settings schema content).files.length +
        (ContentPart.ofItems settings schema content).skipped.length =
      content.values.flatten.length := by
  have hparts := List.length_eq_length_filter_add (fun entry => decide (Known schema entry.1))
    (l := itemsById content.entries)
  rw [← (forall₂_files settings schema content).length_eq, skipped_ofItems, List.length_map,
    SortedMap.values, ← length_itemsById, hparts]
  simp only [decide_not]

/-- No item is lost or written twice, whatever the schema. The items are taken in byte order of
their entities' ids. Those of an entity that the schema has are written to one file each, those
of others are skipped one by one, and both keep that order. The counts hold the ids of the
entities that the schema has, with the numbers of their items; all items are written or
skipped, and those that are counted are those written. -/
theorem items_accounted (settings : ContentSettings) (schema : Schema) (c : Collection) :
    let part := ContentPart.ofItems settings schema c.content
    (itemsById c.content.entries).Pairwise (fun a b => a.1 ≤ b.1) ∧
      List.Forall₂ (IsRecordOf settings schema)
        ((itemsById c.content.entries).filter fun entry => Known schema entry.1) part.files ∧
      part.skipped =
        ((itemsById c.content.entries).filter fun entry => ¬ Known schema entry.1).map
          (fun entry => ⟨entry.1, entry.2.id, "no entity '" ++ entry.1 ++ "' in schema"⟩) ∧
      (∀ id, part.counts.get? id =
        if Known schema id then (c.content.get? id).map List.length else none) ∧
      part.files.length + part.skipped.length = c.itemCount ∧
      part.itemCount = part.files.length :=
  ⟨pairwise_itemsById c.content.sorted, forall₂_files settings schema c.content,
    skipped_ofItems settings schema c.content, get?_counts settings schema c.content,
    length_files_add_skipped settings schema c.content,
    itemCount_ofItems settings schema c.content⟩

end Portfolio.Site
