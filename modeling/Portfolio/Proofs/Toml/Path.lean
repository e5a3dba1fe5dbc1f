/-
Module: Portfolio.Proofs.Toml.Path
Purpose: Layering, path by path. At the end of each path of keys the upper tree decides; where
  it has nothing and nothing in the way, the lower one does.
Main exports: Toml.follow?, Toml.leaf?, Toml.Spares, Toml.Ordered.layer,
  Toml.leaf?_layer_iff, Toml.layer_layer, Toml.layered_by_path
-/
import Portfolio.Proofs.Toml.Layering

namespace Portfolio.Toml

variable {t base overlay v : Toml} {key : String} {path : List String}

/-! ### Paths -/

def isTable : Toml → Bool
  | .table _ => true
  | _ => false

/-- The value under a key. Only tables have keys. -/
def child? (key : String) : Toml → Option Toml
  | .table entries => entries.lookup key
  | _ => none

/-- The value that a path of keys leads to. -/
def follow? : Toml → List String → Option Toml
  | t, [] => some t
  | t, key :: path => (t.child? key).bind fun child => child.follow? path

/-- The value at the end of a path, unless it is a table. -/
def leaf? (t : Toml) (path : List String) : Option Toml :=
  (t.follow? path).filter fun v => !v.isTable

/-- A tree that has nothing at a path, nor a value other than a table on the way to it. -/
structure Spares (t : Toml) (path : List String) : Prop where
  absent : t.follow? path = none
  unblocked : ∀ before, before <+: path → before ≠ path → t.leaf? before = none

theorem isTable_iff : t.isTable = true ↔ ∃ entries, t = .table entries := by
  cases t with
  | table entries => simp [isTable]
  | text _ | integer _ | float _ | boolean _ | moment _ | array _ => simp [isTable]

theorem isTable_of_child? (h : t.child? key = some v) : t.isTable = true := by
  cases t with
  | table _ => rfl
  | text _ | integer _ | float _ | boolean _ | moment _ | array _ => cases h

@[simp] theorem leaf?_nil : t.leaf? [] = if t.isTable then none else some t := by
  rw [leaf?, follow?, Option.filter_some]
  cases t.isTable <;> rfl

@[simp] theorem leaf?_cons :
    t.leaf? (key :: path) = (t.child? key).bind fun child => child.leaf? path := by
  rw [leaf?, follow?]
  cases t.child? key with
  | none => rfl
  | some child => rfl

theorem not_spares_nil : ¬ t.Spares [] := by
  rintro ⟨habsent, -⟩
  cases habsent

/-- A table spares a path if its child spares the rest of it. -/
theorem spares_cons_iff : t.Spares (key :: path) ↔
    t.isTable = true ∧ ∀ child, t.child? key = some child → child.Spares path := by
  constructor
  · rintro ⟨habsent, hunblocked⟩
    constructor
    · have hroot := hunblocked [] List.nil_prefix (List.cons_ne_nil key path).symm
      simpa using hroot
    · intro child hchild
      rw [follow?, hchild] at habsent
      refine ⟨habsent, fun before hprefix hne => ?_⟩
      have hprefix' : key :: before <+: key :: path := List.cons_prefix_cons.2 ⟨rfl, hprefix⟩
      have hbefore := hunblocked (key :: before) hprefix' (by simpa using hne)
      rwa [leaf?_cons, hchild] at hbefore
  · rintro ⟨htable, hspares⟩
    constructor
    · rw [follow?, Option.bind_eq_none_iff]
      exact fun child hchild => (hspares child hchild).absent
    · intro before hprefix hne
      cases before with
      | nil => simp [htable]
      | cons other before =>
          obtain ⟨rfl, hrest⟩ := List.cons_prefix_cons.1 hprefix
          rw [leaf?_cons, Option.bind_eq_none_iff]
          intro child hchild
          exact (hspares child hchild).unblocked before hrest (by simpa using hne)

/-! ### Children of a layered tree -/

theorem Ordered.child (h : Ordered t) (hchild : t.child? key = some v) : Ordered v := by
  cases h with
  | table hkeys hentries =>
      exact hentries (key, v) ((lookup_eq_some_iff_mem hkeys.nodup).1 hchild)
  | text _ | integer _ | float _ | boolean _ | moment _ | array _ => cases hchild

/-- What is no table covers all that is under it. -/
theorem layer_of_not_table (h : overlay.isTable = false) : base.layer overlay = overlay := by
  cases overlay with
  | table _ => cases h
  | text _ | integer _ | float _ | boolean _ | moment _ | array _ => rw [layer]

/-- What is no table is covered by all that is over it. -/
theorem layer_of_not_table_base (h : base.isTable = false) (t : Toml) : base.layer t = t := by
  apply layer_eq_overlay
  rintro entries rfl
  cases h

theorem isTable_layer : (base.layer overlay).isTable = overlay.isTable := by
  cases overlay with
  | table entries =>
      cases base with
      | table under => rw [layer]; rfl
      | text _ | integer _ | float _ | boolean _ | moment _ | array _ => rw [layer]; simp
  | text _ | integer _ | float _ | boolean _ | moment _ | array _ => rw [layer]

/-- Under a key of the upper table stands its value, over what the lower tree has there. Under
any other key stands what the lower tree has there. -/
theorem child?_layer (h : Ordered overlay) (htable : overlay.isTable = true) (key : String) :
    (base.layer overlay).child? key =
      ((overlay.child? key).map fun v => (base.child? key).elim v fun under => under.layer v).or
        (base.child? key) := by
  obtain ⟨entries, rfl⟩ := isTable_iff.1 htable
  obtain ⟨hkeys, -⟩ := ordered_table_iff.1 h
  cases base with
  | table under =>
      rw [layer]
      exact lookup_layerEntries hkeys.nodup key
  | text _ | integer _ | float _ | boolean _ | moment _ | array _ =>
      rw [layer_of_not_table_base rfl]
      simp [child?]

/-! ### Leaves of a layered tree -/

/-- The leaf at the end of a path is that of the upper tree, or else that of the lower tree if
the upper one spares the path. -/
theorem leaf?_layer_iff (h : Ordered overlay) {leaf : Toml} :
    (base.layer overlay).leaf? path = some leaf ↔
      overlay.leaf? path = some leaf ∨ overlay.Spares path ∧ base.leaf? path = some leaf := by
  -- The induction is on the path, from the roots of both trees down.
  induction path generalizing base overlay with
  | nil =>
      rw [leaf?_nil, isTable_layer, leaf?_nil, or_iff_left fun hspares => not_spares_nil hspares.1]
      cases htable : overlay.isTable with
      | true => rfl
      | false => rw [layer_of_not_table htable]
  | cons key path ih =>
      rw [leaf?_cons, leaf?_cons, leaf?_cons, spares_cons_iff]
      cases hchild : overlay.child? key with
      | some v =>
          have htable := isTable_of_child? hchild
          have hv := h.child hchild
          rw [child?_layer h htable, hchild]
          cases hunder : base.child? key with
          | none => simp
          | some under => simp [htable, ih hv]
      | none =>
          cases htable : overlay.isTable with
          | true => simp [child?_layer h htable, hchild]
          | false => simp [layer_of_not_table htable, hchild]

/-! ### Layering twice -/

/-- Layering keeps the keys in order, at every depth. -/
theorem Ordered.layer (hbase : Ordered base) (hoverlay : Ordered overlay) :
    Ordered (base.layer overlay) := by
  -- The induction is on the upper tree, over any lower one.
  induction hoverlay generalizing base with
  | @table entries hkeys hentries ih =>
      cases hbase with
      | @table under hunderKeys hunder =>
          rw [Toml.layer]
          refine .table (keysSorted_layerEntries hunderKeys entries) fun e he => ?_
          rw [(layerEntries_perm hunderKeys hkeys).mem_iff, List.mem_append] at he
          rcases he with he | he
          · exact hunder e (mem_untouched.1 he).1
          · obtain ⟨upper, hupper, rfl⟩ := List.mem_map.1 he
            cases hlookup : under.lookup upper.1 with
            | none => simpa [layerOver, hlookup] using hentries upper hupper
            | some lower =>
                have hlower : (upper.1, lower) ∈ under :=
                  (lookup_eq_some_iff_mem hunderKeys.nodup).1 hlookup
                simpa [layerOver, hlookup] using ih upper hupper (hunder _ hlower)
      | text _ | integer _ | float _ | boolean _ | moment _ | array _ =>
          rw [layer_of_not_table_base rfl]
          exact .table hkeys hentries
  | text _ | integer _ | float _ | boolean _ | moment _ =>
      rw [layer_of_not_table rfl]
      constructor
  | array hitems _ =>
      rw [layer_of_not_table rfl]
      exact .array hitems

/-- Tables in order are known by what stands under their keys. -/
theorem Ordered.eq_of_child? {t u : Toml} (ht : Ordered t) (hu : Ordered u)
    (htTable : t.isTable = true) (huTable : u.isTable = true)
    (h : ∀ key, t.child? key = u.child? key) : t = u := by
  obtain ⟨entries, rfl⟩ := isTable_iff.1 htTable
  obtain ⟨others, rfl⟩ := isTable_iff.1 huTable
  obtain ⟨hkeys, -⟩ := ordered_table_iff.1 ht
  obtain ⟨hothers, -⟩ := ordered_table_iff.1 hu
  have hmaps : (⟨entries, hkeys⟩ : SortedMap Toml) = ⟨others, hothers⟩ := SortedMap.ext_get? h
  exact congrArg (fun m => Toml.table m.entries) hmaps

/-- Laying a tree over another a second time changes nothing. -/
theorem layer_layer (hbase : Ordered base) (hoverlay : Ordered overlay) :
    (base.layer overlay).layer overlay = base.layer overlay := by
  induction hoverlay generalizing base with
  | @table entries hkeys hentries ih =>
      have hoverlay : Ordered (.table entries) := .table hkeys hentries
      have hlayered := hbase.layer hoverlay
      apply (hlayered.layer hoverlay).eq_of_child? hlayered isTable_layer isTable_layer
      intro key
      rw [child?_layer hoverlay rfl]
      cases hchild : (Toml.table entries).child? key with
      | none => rfl
      | some v =>
          have hmem : (key, v) ∈ entries := (lookup_eq_some_iff_mem hkeys.nodup).1 hchild
          rw [child?_layer hoverlay rfl, hchild]
          apply congrArg some
          cases hunder : base.child? key with
          | some under => exact ih (key, v) hmem (hbase.child hunder)
          | none =>
              -- Over a leaf stands the value itself, so it is also itself over itself.
              have hself := ih (key, v) hmem (.boolean false)
              rwa [layer_of_not_table_base (show (Toml.boolean false).isTable = false from rfl) v]
                at hself
  | text _ | integer _ | float _ | boolean _ | moment _ | array _ =>
      rw [layer_of_not_table rfl, layer_of_not_table rfl]

/-- A tree over another is again a tree in order, whose leaves are those of the upper one, and
those of the lower one at the paths that the upper one spares. An empty table covers nothing of
a table, and the same tree over both changes nothing. -/
theorem layered_by_path (hbase : Ordered base) (hoverlay : Ordered overlay) :
    Ordered (base.layer overlay) ∧
    (∀ path leaf, (base.layer overlay).leaf? path = some leaf ↔
      overlay.leaf? path = some leaf ∨ overlay.Spares path ∧ base.leaf? path = some leaf) ∧
    (base.isTable = true → base.layer (.table []) = base) ∧
    (base.layer overlay).layer overlay = base.layer overlay := by
  refine ⟨hbase.layer hoverlay, fun path leaf => leaf?_layer_iff hoverlay, fun htable => ?_,
    layer_layer hbase hoverlay⟩
  obtain ⟨entries, rfl⟩ := isTable_iff.1 htable
  rw [layer, layerEntries]

/-- Settings with values and tables at several depths. -/
def houseSettings : Toml := .table [
  ("blueprints", .table [
    ("options", .table [("delete", .boolean true), ("read", .boolean true)]),
    ("tabs", .boolean true)]),
  ("site", .text "Gigs"),
  ("theme", .table [("reset", .boolean true)])]

/-- Settings with tables in place of values, and a value in place of a table. -/
def tourSettings : Toml := .table [
  ("blueprints", .table [
    ("options", .table [("delete", .boolean false)]),
    ("tabs", .table [])]),
  ("site", .table [("title", .text "Tour")]),
  ("theme", .boolean false)]

theorem layered_by_path_tourSettings :
    let layered := houseSettings.layer tourSettings
    Ordered houseSettings ∧ Ordered tourSettings ∧ Ordered layered ∧
    layered.leaf? ["blueprints", "options", "delete"] = some (.boolean false) ∧
    layered.leaf? ["blueprints", "options", "read"] = some (.boolean true) ∧
    layered.leaf? ["site", "title"] = some (.text "Tour") ∧
    layered.leaf? ["blueprints", "tabs"] = none ∧
    layered.leaf? ["theme", "reset"] = none ∧
    houseSettings.layer (.table []) = houseSettings ∧
    layered.layer tourSettings = layered := by
  have hhouse : Ordered houseSettings := by simp +decide [houseSettings, KeysSorted]
  have htour : Ordered tourSettings := by simp +decide [tourSettings, KeysSorted]
  obtain ⟨hordered, hleaves, hempty, htwice⟩ := layered_by_path hhouse htour
  refine ⟨hhouse, htour, hordered, ?_, ?_, ?_, ?_, ?_, hempty rfl, htwice⟩
  · exact (hleaves _ _).2 (Or.inl rfl)
  · apply (hleaves _ _).2
    right
    refine ⟨?_, rfl⟩
    simp [spares_cons_iff, tourSettings, isTable, child?, lookup_cons_eq_ite]
  · exact (hleaves _ _).2 (Or.inl rfl)
  · rw [Option.eq_none_iff_forall_ne_some]
    intro leaf hleaf
    rcases (hleaves _ _).1 hleaf with hupper | ⟨hspares, -⟩
    · cases hupper
    · cases hspares.absent
  · rw [Option.eq_none_iff_forall_ne_some]
    intro leaf hleaf
    rcases (hleaves _ _).1 hleaf with hupper | ⟨hspares, -⟩
    · cases hupper
    · cases hspares.unblocked ["theme"] ⟨["reset"], rfl⟩ (by decide)

end Portfolio.Toml
