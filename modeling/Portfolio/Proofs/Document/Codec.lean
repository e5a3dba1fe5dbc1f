/-
Module: Portfolio.Proofs.Document.Codec
Purpose: Which values come back from what is written of them, codec by codec. Rearranged maps
  make no difference.
Main exports: Document.Codec.Restores, Document.Codec.Yields, Document.Codec.Settles,
  Document.Codec.list_restores, Document.Codec.map_restores, Document.Codec.choice_restores
-/
import Portfolio.Document.Codec
import Portfolio.Proofs.Document.Arrangement

namespace Portfolio.Document.Codec

open Value (Rearranges)

variable {α β : Type}

/-- What is written of `x` reads as `x` again, however its maps are rearranged. -/
def Restores (c : Codec Value α) (x : α) : Prop :=
  ∀ f, Rearranges f → c.read (f (c.write x)) = .ok x

/-- A value that comes back and is not written as null, so it is not taken for absent. -/
structure Present (c : Codec Value α) (x : α) : Prop where
  restores : c.Restores x
  not_null : (c.write x).isNull = false

/-- An optional part that comes back if it is there. -/
def PresentIn (c : Codec Value α) (part : Option α) : Prop := ∀ x ∈ part, c.Present x

theorem presentIn_none {c : Codec Value α} : c.PresentIn none := by
  intro x hx
  cases hx

/-- All that is read has a property. -/
def Yields (c : Codec Value α) (Q : α → Prop) : Prop := ∀ tree x, c.read tree = .ok x → Q x

theorem Yields.imp {c : Codec Value α} {Q R : α → Prop} (h : c.Yields Q)
    (himp : ∀ x, Q x → R x) : c.Yields R :=
  fun tree x hread => himp x (h tree x hread)

/-- What was read and is written reads as the same value again, from the entries as they are
written and from their normal form. -/
structure Settles (c : Codec Value α) : Prop where
  stable : c.Stable
  stable_sorted : ∀ tree x, c.read tree = .ok x → c.read (c.write x).sorted = .ok x

theorem Settles.of_yields {c : Codec Value α} (h : c.Yields c.Restores) : c.Settles where
  stable tree x hread := h tree x hread id Value.rearranges_id
  stable_sorted tree x hread := h tree x hread Value.sorted Value.rearranges_sorted

/-! ### Texts, booleans and numbers -/

@[simp] theorem text_restores (s : String) : (text : Codec Value String).Restores s := by
  intro f hf
  rw [show (text : Codec Value String).write s = .text s from rfl, hf.text]
  rfl

@[simp] theorem text_presentIn (part : Option String) :
    (text : Codec Value String).PresentIn part :=
  fun s _ => ⟨text_restores s, rfl⟩

@[simp] theorem bool_restores (b : Bool) : (bool : Codec Value Bool).Restores b := by
  intro f hf
  rw [show (bool : Codec Value Bool).write b = .bool b from rfl, hf.bool]
  rfl

@[simp] theorem bool_presentIn (part : Option Bool) : (bool : Codec Value Bool).PresentIn part :=
  fun b _ => ⟨bool_restores b, rfl⟩

/-- A number within the bound is read. -/
theorem readWhole_ofNat {bound n : Nat} (wanted : String) (h : n < bound) :
    readWhole bound wanted (.ofNat n) = .ok n := by
  have hrange : (0 : Int) ≤ n ∧ (n : Int) < bound := ⟨Int.natCast_nonneg n, by exact_mod_cast h⟩
  rw [Value.ofNat, readWhole, if_pos hrange, Int.toNat_natCast]

@[simp] theorem uint32_restores (n : UInt32) : uint32.Restores n := by
  intro f hf
  have hparse : ∀ v, uint32.read v = (readWhole (Nat.pow 2 32) "u32" v).map UInt32.ofNat :=
    fun _ => rfl
  rw [show uint32.write n = .ofNat n.toNat from rfl, Value.ofNat, hf.number, ← Value.ofNat, hparse,
    readWhole_ofNat "u32" n.toNat_lt, Except.map, UInt32.ofNat_toNat]

@[simp] theorem uint32_presentIn (part : Option UInt32) : uint32.PresentIn part :=
  fun n _ => ⟨uint32_restores n, rfl⟩

@[simp] theorem uint64_restores (n : UInt64) : uint64.Restores n := by
  intro f hf
  have hparse : ∀ v, uint64.read v = (readWhole (Nat.pow 2 64) "u64" v).map UInt64.ofNat :=
    fun _ => rfl
  rw [show uint64.write n = .ofNat n.toNat from rfl, Value.ofNat, hf.number, ← Value.ofNat, hparse,
    readWhole_ofNat "u64" n.toNat_lt, Except.map, UInt64.ofNat_toNat]

@[simp] theorem uint64_presentIn (part : Option UInt64) : uint64.PresentIn part :=
  fun n _ => ⟨uint64_restores n, rfl⟩

/-- Only integers are rounded, and what is written is none. -/
@[simp] theorem double_restores (x : Double) : double.Restores x := by
  intro f hf
  rw [show double.write x = .number (.double x) from rfl, hf.number]
  rfl

@[simp] theorem double_presentIn (part : Option Double) : double.PresentIn part :=
  fun x _ => ⟨double_restores x, rfl⟩

/-! ### Values -/

theorem value_restores {v : Value} (h : v.sorted = v) : value.Restores v := by
  intro f hf
  rw [show value.read (f (value.write v)) = .ok (f v).sorted from rfl, hf.sorted, h]

theorem value_yields : value.Yields value.Restores := by
  intro tree x hread
  cases hread
  exact value_restores (Value.sorted_sorted tree)

/-- A value that is not null is not written as null. -/
theorem value_present (tree v : Value) (hnull : tree.isNull = false)
    (hread : value.read tree = .ok v) : value.Present v := by
  refine ⟨value_yields tree v hread, ?_⟩
  cases hread
  exact (Value.isNull_sorted tree).trans hnull

/-! ### Readers in steps -/

/-- A reader in two steps succeeds if both do. -/
theorem bind_eq_ok_iff {x : Except Failure α} {next : α → Except Failure β} {b : β} :
    x >>= next = .ok b ↔ ∃ a, x = .ok a ∧ next a = .ok b := by
  cases x with
  | error e => simp [bind, Except.bind]
  | ok a => simp [bind, Except.bind]

theorem map_eq_ok_iff {x : Except Failure α} {g : α → β} {b : β} :
    x.map g = .ok b ↔ ∃ a, x = .ok a ∧ g a = b := by
  cases x with
  | error e => simp [Except.map]
  | ok a => simp [Except.map]

/-! ### Lists -/

/-- All items are read, in the order they stand. -/
theorem mapM_eq_filterMap {step : β → Except Failure α} {items : List β}
    (h : ∀ item ∈ items, ∃ x, step item = .ok x) :
    items.mapM step = .ok (items.filterMap fun item => (step item).toOption) := by
  induction items with
  | nil => rfl
  | cons item items ih =>
      rw [List.forall_mem_cons] at h
      obtain ⟨⟨x, hx⟩, hrest⟩ := h
      rw [List.mapM_cons, hx, ih hrest, List.filterMap_cons, hx]
      rfl

/-- Items in another order are read as the same values in that order. -/
theorem exists_mapM_of_perm {step : β → Except Failure α} {write : α → β} {items : List β}
    {xs : List α} (hperm : items.Perm (xs.map write)) (h : ∀ x ∈ xs, step (write x) = .ok x) :
    ∃ ys, items.mapM step = .ok ys ∧ ys.Perm xs := by
  have hread : ∀ item ∈ items, ∃ x, step item = .ok x := by
    intro item hitem
    obtain ⟨x, hx, rfl⟩ := List.mem_map.1 (hperm.mem_iff.1 hitem)
    exact ⟨x, h x hx⟩
  have hall : (xs.map write).filterMap (fun item => (step item).toOption) = xs := by
    have hsome : ∀ x ∈ xs, (step (write x)).toOption = some x := fun x hx => by
      rw [h x hx]
      rfl
    rw [List.filterMap_map]
    exact (List.filterMap_congr hsome).trans List.filterMap_some
  refine ⟨_, mapM_eq_filterMap hread, ?_⟩
  have hmoved := hperm.filterMap fun item => (step item).toOption
  rwa [hall] at hmoved

theorem mapM_map_of_forall {step : β → Except Failure α} {write : α → β} {xs : List α}
    (h : ∀ x ∈ xs, step (write x) = .ok x) : (xs.map write).mapM step = .ok xs := by
  induction xs with
  | nil => rfl
  | cons x xs ih =>
      rw [List.forall_mem_cons] at h
      rw [List.map_cons, List.mapM_cons, h.1, ih h.2]
      rfl

theorem exists_of_mem_mapM {step : β → Except Failure α} :
    ∀ {items : List β} {xs : List α}, items.mapM step = .ok xs →
      ∀ x ∈ xs, ∃ item, step item = .ok x
  | [], xs, h => by
      cases h
      exact fun _ hx => absurd hx List.not_mem_nil
  | item :: items, xs, h => by
      rw [List.mapM_cons] at h
      obtain ⟨y, hfirst, hmore⟩ := bind_eq_ok_iff.1 h
      obtain ⟨ys, hrest, hall⟩ := bind_eq_ok_iff.1 hmore
      cases hall
      intro x hx
      rcases List.mem_cons.1 hx with rfl | hx
      · exact ⟨item, hfirst⟩
      · exact exists_of_mem_mapM hrest x hx

@[simp] theorem list_restores {item : Codec Value α} {xs : List α} (h : ∀ x ∈ xs, item.Restores x) :
    (list item).Restores xs := by
  intro f hf
  rw [show (list item).write xs = .list (xs.map item.write) from rfl, hf.list, List.map_map]
  exact mapM_map_of_forall fun x hx => h x hx f hf

theorem list_yields {item : Codec Value α} {Q : α → Prop} (h : item.Yields Q) :
    (list item).Yields fun xs => ∀ x ∈ xs, Q x := by
  intro tree xs hread x hx
  cases tree with
  | list items =>
      obtain ⟨v, hv⟩ := exists_of_mem_mapM hread x hx
      exact h v x hv
  | null | bool _ | number _ | text _ | map _ => cases hread

/-! ### Maps -/

theorem readEntries_eq_mapM (item : Value → Except Failure α) (entries : List (String × Value)) :
    readEntries item entries = entries.mapM fun e => (item e.2).map fun x => (e.1, x) := by
  induction entries with
  | nil => rfl
  | cons e es ih =>
      rw [readEntries, List.mapM_cons, ih]
      cases item e.2 with
      | error _ => rfl
      | ok x => rfl

@[simp] theorem map_restores {item : Codec Value α} {m : SortedMap α}
    (h : ∀ e ∈ m.entries, item.Restores e.2) : (map item).Restores m := by
  intro f hf
  obtain ⟨entries, heq, hperm⟩ := hf.map (m.entries.map fun e => (e.1, item.write e.2))
  have hkeys : ((m.entries.map fun e => (e.1, item.write e.2)).map (·.1)).Nodup := by
    rw [List.map_map]
    exact m.sorted.nodup
  have hmoved : entries.Perm (m.entries.map fun e => (e.1, f (item.write e.2))) := by
    have hentries := hperm hkeys
    rw [List.map_map] at hentries
    exact hentries
  have hread : ∀ e ∈ m.entries,
      (item.read (f (item.write e.2))).map (fun x => (e.1, x)) = .ok e :=
    fun e he => by rw [h e he f hf, Except.map]
  have hall : ∃ xs, entries.mapM (fun e => (item.read e.2).map fun x => (e.1, x)) = .ok xs ∧
      xs.Perm m.entries :=
    exists_mapM_of_perm hmoved hread
  obtain ⟨xs, hxs, hsame⟩ := hall
  have hparse : (map item).read (.map entries) =
      (readEntries item.read entries).map SortedMap.ofList := rfl
  rw [show (map item).write m = .map (m.entries.map fun e => (e.1, item.write e.2)) from rfl, heq,
    hparse, readEntries_eq_mapM, hxs]
  exact congrArg Except.ok (SortedMap.ext (sortEntries_eq_of_perm m.sorted hsame))

theorem map_yields {item : Codec Value α} {Q : α → Prop} (h : item.Yields Q) :
    (map item).Yields fun m => ∀ e ∈ m.entries, Q e.2 := by
  intro tree m hread e he
  cases tree with
  | map entries =>
      obtain ⟨xs, hxs, rfl⟩ := map_eq_ok_iff.1 hread
      rw [readEntries_eq_mapM] at hxs
      obtain ⟨x, hx⟩ := exists_of_mem_mapM hxs e (mem_of_mem_sortEntries he)
      obtain ⟨y, hy, rfl⟩ := map_eq_ok_iff.1 hx
      exact h x.2 y hy
  | null | bool _ | number _ | text _ | list _ => cases hread

/-! ### Choices -/

theorem choice_restores {names : List (String × α)} {other : Option α} {write : α → String}
    {x : α} (h : (names.lookup (write x)).or other = some x) :
    (choice names other write).Restores x := by
  intro f hf
  rw [show (choice names other write).write x = .text (write x) from rfl, hf.text]
  cases hlookup : names.lookup (write x) with
  | some y =>
      rw [hlookup, Option.some_or] at h
      simp only [choice, readChoice, hlookup, Option.some.inj h]
  | none =>
      rw [hlookup, Option.none_or] at h
      simp only [choice, readChoice, hlookup, h]

end Portfolio.Document.Codec
