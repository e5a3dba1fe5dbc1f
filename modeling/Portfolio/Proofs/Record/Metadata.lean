/-
Module: Portfolio.Proofs.Record.Metadata
Purpose: Where the metadata of an item stand in its record: behind the title and the fields, and
  only under keys that these leave free. A field with a value keeps its key, and a field without
  one can lose it.
Main exports: Record.contentEntries, Record.addedMetadata, Record.entries_eq,
  Record.metadata_fills_unset, Record.author_stands_in
-/
import Portfolio.Proofs.Record.Reading

namespace Portfolio.Record

/-! ### Entries behind others -/

/-- Which keys are taken matters, and not in which order. -/
theorem firstByKey_congr {keys others : List String} (h : ∀ key, key ∈ keys ↔ key ∈ others)
    (es : List Entry) : firstByKey keys es = firstByKey others es := by
  induction es generalizing keys others with
  | nil => rfl
  | cons e rest ih =>
      have htaken : keys.contains e.key = others.contains e.key := by
        rw [Bool.eq_iff_iff, List.contains_iff_mem, List.contains_iff_mem, h]
      have hnext : ∀ key, key ∈ e.key :: keys ↔ key ∈ e.key :: others := by
        intro key
        rw [List.mem_cons, List.mem_cons, h]
      rw [firstByKey, firstByKey, htaken, ih h, ih hnext]

/-- Entries behind others find the keys of these taken. -/
theorem firstByKey_append (keys : List String) (es more : List Entry) :
    firstByKey keys (es ++ more) =
      firstByKey keys es ++ firstByKey (keys ++ es.map Entry.key) more := by
  induction es generalizing keys with
  | nil => simp [firstByKey]
  | cons e rest ih =>
      rw [List.cons_append, firstByKey, firstByKey]
      by_cases hkey : e.key ∈ keys
      · have hkeys : ∀ key, key ∈ keys ++ rest.map Entry.key ↔
            key ∈ keys ++ (e :: rest).map Entry.key := by
          intro key
          by_cases heq : key = e.key
          · simp [heq, hkey]
          · simp [heq]
        rw [if_pos (by simpa using hkey), if_pos (by simpa using hkey), ih,
          firstByKey_congr hkeys]
      · have hkeys : ∀ key, key ∈ e.key :: (keys ++ rest.map Entry.key) ↔
            key ∈ keys ++ (e :: rest).map Entry.key := by
          intro key
          simp [or_left_comm]
        rw [if_neg (by simpa using hkey), if_neg (by simpa using hkey), ih, List.cons_append,
          List.cons_append, firstByKey_congr hkeys]

/-- Of entries with keys of their own those are kept whose key is free. -/
theorem firstByKey_of_nodup (keys : List String) {es : List Entry}
    (h : (es.map Entry.key).Nodup) :
    firstByKey keys es = es.filter fun e => !keys.contains e.key := by
  induction es generalizing keys with
  | nil => rfl
  | cons e rest ih =>
      obtain ⟨hfirst, hrest⟩ := List.nodup_cons.1 h
      rw [firstByKey]
      by_cases hkey : e.key ∈ keys
      · rw [if_pos (by simpa using hkey), List.filter_cons_of_neg (by simpa using hkey),
          ih keys hrest]
      · rw [if_neg (by simpa using hkey), List.filter_cons_of_pos (by simpa using hkey),
          ih (e.key :: keys) hrest]
        apply congrArg (e :: ·)
        apply List.filter_congr
        intro other hother
        have hne : other.key ≠ e.key := by
          intro heq
          exact hfirst (heq ▸ List.mem_map_of_mem hother)
        simp [hne]

/-! ### The metadata of a record -/

/-- The entries that the title and the fields give a record. -/
def contentEntries (settings : ContentSettings) (item : Item) (entity : Entity) : List Entry :=
  firstByKey [] (titleEntries item entity ++ fieldEntries settings item entity)

/-- The entries that the metadata of the item give a record: those whose key neither the title
nor a field with a value has. -/
def addedMetadata (settings : ContentSettings) (item : Item) (entity : Entity) : List Entry :=
  (metadataEntries settings item).filter fun e =>
    !((titleEntries item entity ++ fieldEntries settings item entity).map Entry.key).contains e.key

theorem keys_metadataEntries_sublist (settings : ContentSettings) (item : Item) :
    ((metadataEntries settings item).map Entry.key).Sublist
      ["created", "updated", "author", "published"] := by
  have hkeys : Naming.key "Created" = "created" ∧ Naming.key "Updated" = "updated" ∧
      Naming.key "Author" = "author" ∧ Naming.key "Published" = "published" := by decide
  unfold metadataEntries
  split
  · cases hname : item.metadata.author <;> cases htime : item.metadata.publishedAt <;>
      simp [Entry.key, hkeys, hname, htime]
  · exact List.nil_sublist _

/-- The entries of a record are those of its content, and behind them the metadata. -/
theorem entries_eq (settings : ContentSettings) (item : Item) (entity : Entity) :
    entries settings item entity =
      contentEntries settings item entity ++ addedMetadata settings item entity := by
  have hnodup : ((metadataEntries settings item).map Entry.key).Nodup :=
    (keys_metadataEntries_sublist settings item).nodup (by decide)
  rw [entries, plannedEntries, firstByKey_append, firstByKey_of_nodup _ hnodup, List.nil_append]
  rfl

/-! ### Keys of fields -/

section
variable {settings : ContentSettings} {item : Item} {entity : Entity} {f : Field}

/-- The title does not take the key of a field. -/
theorem key_ne_of_mem_titleEntries (hf : f ∈ entity.fields) {e : Entry}
    (he : e ∈ titleEntries item entity) : e.key ≠ Naming.key f.name := by
  unfold titleEntries at he
  split at he
  · simp at he
  · next hnot =>
      obtain rfl := List.mem_singleton.1 he
      intro (hkey : Naming.key "Title" = Naming.key f.name)
      have htitle : Naming.key "Title" = "title" := by decide
      apply hnot
      exact List.any_eq_true.2 ⟨f, hf, beq_iff_eq.2 (hkey.symm.trans htitle)⟩

/-- The key of a field is taken by the fields with that key that have a value. -/
theorem key_mem_keys_iff (hf : f ∈ entity.fields) :
    Naming.key f.name ∈ (titleEntries item entity ++ fieldEntries settings item entity).map
        Entry.key ↔
      ∃ g ∈ entity.fields, Naming.key g.name = Naming.key f.name ∧ item.value? g.name ≠ none := by
  simp only [List.mem_map, List.mem_append, or_and_right, exists_or, fieldEntries,
    List.mem_filterMap, Option.map_eq_some_iff]
  constructor
  · rintro (⟨e, he, hkey⟩ | ⟨e, ⟨g, hg, v, hv, rfl⟩, hkey⟩)
    · exact absurd hkey (key_ne_of_mem_titleEntries hf he)
    · exact ⟨g, hg, (key_label_entry g.name _).symm.trans hkey, by simp [hv]⟩
  · rintro ⟨g, hg, hkey, hvalue⟩
    obtain ⟨v, hv⟩ := Option.ne_none_iff_exists'.1 hvalue
    exact Or.inr ⟨_, ⟨g, hg, v, hv, rfl⟩, (key_label_entry g.name _).trans hkey⟩

/-- Metadata stand under the key of a field exactly if they have that key, and no field of that
key has a value. -/
theorem key_mem_addedMetadata_iff (hf : f ∈ entity.fields) :
    (∃ e ∈ addedMetadata settings item entity, e.key = Naming.key f.name) ↔
      Naming.key f.name ∈ (metadataEntries settings item).map Entry.key ∧
        ∀ g ∈ entity.fields, Naming.key g.name = Naming.key f.name → item.value? g.name = none := by
  have hfree : Naming.key f.name ∉ (titleEntries item entity ++
        fieldEntries settings item entity).map Entry.key ↔
      ∀ g ∈ entity.fields, Naming.key g.name = Naming.key f.name → item.value? g.name = none := by
    rw [key_mem_keys_iff hf]
    simp
  rw [← hfree, addedMetadata, List.mem_map]
  constructor
  · rintro ⟨e, he, hkey⟩
    obtain ⟨hmem, hnot⟩ := List.mem_filter.1 he
    refine ⟨⟨e, hmem, hkey⟩, ?_⟩
    rw [← hkey]
    simpa only [Bool.not_eq_true', List.contains_eq_mem, decide_eq_false_iff_not] using hnot
  · rintro ⟨⟨e, hmem, hkey⟩, hnot⟩
    refine ⟨e, List.mem_filter.2 ⟨hmem, ?_⟩, hkey⟩
    rw [← hkey] at hnot
    simpa only [Bool.not_eq_true', List.contains_eq_mem, decide_eq_false_iff_not] using hnot

/-- Under the key of a field the first value of the fields of that key is read, or else the
metadata of that key. -/
theorem filter_read_text (hf : f ∈ entity.fields) :
    (read (text settings item entity)).filter (·.1 == Naming.key f.name) =
      (((fieldEntries settings item entity ++ metadataEntries settings item).filter
        (·.key == Naming.key f.name)).take 1).map fun e => (e.key, written e.body) := by
  have htitle : (titleEntries item entity).filter (·.key == Naming.key f.name) = [] := by
    apply List.filter_eq_nil_iff.2
    intro e he
    simpa using key_ne_of_mem_titleEntries hf he
  have hplanned : (meant settings item entity).filter (·.1 == Naming.key f.name) =
      ((fieldEntries settings item entity ++ metadataEntries settings item).filter
        (·.key == Naming.key f.name)).map fun e => (e.key, e.body) := by
    rw [← map_plannedEntries, List.filter_map, plannedEntries, List.append_assoc,
      List.filter_append]
    simp only [Function.comp_def, htitle, List.nil_append]
  rw [read_text, List.filter_map]
  simp only [Function.comp_def]
  rw [filter_keepFirst, hplanned, ← List.map_take, List.map_map]
  rfl

end

/-- A record is its content with the metadata behind it. Metadata stand under the key of a field
exactly if they have that key and no field of that key has a value, and are never read where one
has. -/
theorem metadata_fills_unset (settings : ContentSettings) (item : Item) (entity : Entity) :
    entries settings item entity =
        contentEntries settings item entity ++ addedMetadata settings item entity ∧
      ∀ f ∈ entity.fields,
        ((∃ e ∈ addedMetadata settings item entity, e.key = Naming.key f.name) ↔
          Naming.key f.name ∈ (metadataEntries settings item).map Entry.key ∧
            ∀ g ∈ entity.fields,
              Naming.key g.name = Naming.key f.name → item.value? g.name = none) ∧
        (read (text settings item entity)).filter (·.1 == Naming.key f.name) =
          (((fieldEntries settings item entity ++ metadataEntries settings item).filter
            (·.key == Naming.key f.name)).take 1).map fun e => (e.key, written e.body) :=
  ⟨entries_eq settings item entity,
    fun _ hf => ⟨key_mem_addedMetadata_iff hf, filter_read_text hf⟩⟩

/-- A gig with a field for its author. -/
def billedGig : Entity :=
  { id := "gig", name := "Gig", pluralName := "Gigs"
    fields := [.named "title" .text [], .named "author" .text []] }

/-- A gig that Ada entered. -/
def enteredByAda (fields : List (String × Value)) : Item :=
  { id := "gig-1"
    fields := .ofList fields
    metadata := {
      createdAt := "2024-03-01T12:00:00Z", updatedAt := "2024-03-02T09:30:00Z"
      author := some "Ada" } }

def quartetGig : Item :=
  enteredByAda [("author", .text "The Quartet"), ("title", .text "Jazz Night")]

/-- With a value the field keeps its key. -/
theorem metadata_fills_unset_quartetGig :
    (¬ ∃ e ∈ addedMetadata {} quartetGig billedGig, e.key = "author") ∧
      (read (text {} quartetGig billedGig)).filter (·.1 == "author") =
        [("author", " The Quartet")] := by
  obtain ⟨-, hfields⟩ := metadata_fills_unset {} quartetGig billedGig
  obtain ⟨hstands, hread⟩ := hfields (.named "author" .text []) (by simp [billedGig])
  have hkey : Naming.key (Field.named "author" .text []).name = "author" := by decide
  rw [hkey] at hstands hread
  constructor
  · rw [hstands]
    decide +kernel
  · rw [hread]
    decide +kernel

/-- Without a value the author of the item stands in for the field. -/
theorem author_stands_in :
    (enteredByAda [("title", .text "Jazz Night")]).value? "author" = none ∧
      (∃ e ∈ addedMetadata {} (enteredByAda [("title", .text "Jazz Night")]) billedGig,
        ∃ f ∈ billedGig.fields, e.key = Naming.key f.name) ∧
      (read (text {} (enteredByAda [("title", .text "Jazz Night")]) billedGig)).filter
          (·.1 == "author") = [("author", " Ada")] := by
  decide +kernel

end Portfolio.Record
