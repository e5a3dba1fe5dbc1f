/-
Module: Portfolio.Proofs.Document.Defaults
Purpose: Documents whose members all have a default: any entries with known keys make one, in
  any order, and a document comes back from its own entries.
Main exports: Document.Shape.Lenient, Document.Shape.Lenient.readEntries_eq_ok_iff,
  Document.Shape.Lenient.readEntries_eq_ok_iff_of_perm, Document.Shape.Lenient.readEntries_entries
-/
import Portfolio.Proofs.Document.Shape

namespace Portfolio.Document

open Codec (bind_eq_ok_iff map_eq_ok_iff)

variable {τ α β : Type}

/-- All that is written reads as what it was written of. -/
def Codec.RoundTrips (c : Codec τ α) : Prop := ∀ x, c.read (c.write x) = .ok x

namespace Member

/-- Reads what is written of members of `x` into `y`, one after the other. -/
def copyAll (x : α) : List (Member τ α) → α → Except Failure α
  | [], y => .ok y
  | m :: ms, y => (m.write x).elim (copyAll x ms y) fun tree => m.read tree y >>= copyAll x ms

@[simp] theorem copyAll_nil (x y : α) : copyAll x ([] : List (Member τ α)) y = .ok y := rfl

@[simp] theorem copyAll_defaulted {name : String} {codec : Codec τ β} {get : α → β}
    {set : β → α → α} {ms : List (Member τ α)} (h : codec.RoundTrips) (x y : α) :
    copyAll x (defaulted name codec get set :: ms) y = copyAll x ms (set (get x) y) := by
  change assign codec.read set (codec.write (get x)) y >>= copyAll x ms = _
  rw [assign, h]
  rfl

/-- The member may be absent, and has no other names. -/
structure Lenient (m : Member τ α) : Prop where
  optional : m.required = false
  unaliased : m.aliases = []

@[simp] theorem lenient_defaulted {name : String} {codec : Codec τ β} {get : α → β}
    {set : β → α → α} : (defaulted name codec get set).Lenient where
  optional := rfl
  unaliased := rfl

end Member

namespace Shape

/-- A document without any of the members is the default one. -/
structure Lenient (shape : Shape τ α) : Prop extends shape.Sound where
  members_lenient : ∀ m ∈ shape.members, m.Lenient

theorem Lenient.proper {shape : Shape τ α} (h : shape.Lenient) (key : String) :
    shape.Proper key := by
  intro m hfind
  have hanswers : m.answersTo key = true := by simpa using List.find?_some hfind
  rw [answersTo_iff, (h.members_lenient m (List.mem_of_find?_eq_some hfind)).unaliased,
    List.mem_singleton] at hanswers
  exact hanswers.symm

/-- Entries make a document if their keys are allowed and each of them is read. -/
theorem Lenient.readEntries_eq_ok_iff {shape : Shape τ α} (h : shape.Lenient)
    {entries : List (String × τ)} (hdistinct : (entries.map (·.1)).Nodup) {z : α} :
    shape.readEntries entries = .ok z ↔
      (∀ e ∈ entries, shape.Allows e.1) ∧
        entries.foldlM shape.applyEntry shape.blank = .ok z := by
  have hmissing : ∀ seen : List String,
      shape.members.find? (fun m => m.required && !seen.contains m.name) = none := by
    intro seen
    rw [List.find?_eq_none]
    intro m hm
    simp [(h.members_lenient m hm).optional]
  have hsteps : ∀ seen, entries.foldlM shape.readEntry (shape.blank, []) = .ok (z, seen) ↔ _ :=
    fun _ => foldlM_readEntry_eq_ok_iff (fun e _ => h.proper e.1) hdistinct
      fun _ _ => List.not_mem_nil
  rw [readEntries, bind_eq_ok_iff]
  constructor
  · rintro ⟨⟨x, seen⟩, hfold, hend⟩
    simp only [hmissing] at hend
    cases hend
    obtain ⟨hallows, hread, -⟩ := (hsteps seen).1 hfold
    exact ⟨hallows, hread⟩
  · rintro ⟨hallows, hread⟩
    refine ⟨_, (hsteps _).2 ⟨hallows, hread, rfl⟩, ?_⟩
    simp only [hmissing]
    rfl

/-- The order of the entries makes no difference. -/
theorem Lenient.readEntries_eq_ok_iff_of_perm {shape : Shape τ α} (h : shape.Lenient)
    {entries entries' : List (String × τ)} (hperm : entries.Perm entries')
    (hdistinct : (entries.map (·.1)).Nodup) {z : α} :
    shape.readEntries entries = .ok z ↔ shape.readEntries entries' = .ok z := by
  have hdistinct' : (entries'.map (·.1)).Nodup := (hperm.map (·.1)).nodup_iff.1 hdistinct
  have hcommute := h.pairwise_stepsCommute (fun e _ => h.proper e.1) hdistinct
  rw [h.readEntries_eq_ok_iff hdistinct, h.readEntries_eq_ok_iff hdistinct',
    foldlM_eq_ok_iff_of_perm hperm hcommute]
  simp only [hperm.mem_iff]

/-- Reading the entries of `x` copies its members one by one. -/
theorem Sound.foldlM_applyEntry {shape : Shape τ α} (h : shape.Sound) (x : α) :
    ∀ {ms : List (Member τ α)}, (∀ m ∈ ms, m ∈ shape.members) → ∀ y,
      (Member.writtenEntries ms x).foldlM shape.applyEntry y = Member.copyAll x ms y
  | [], _, _ => rfl
  | m :: ms, hmem, y => by
      rw [List.forall_mem_cons] at hmem
      rw [Member.writtenEntries, List.filterMap_cons, Member.writtenEntry, Member.copyAll]
      cases hwrite : m.write x with
      | none => exact h.foldlM_applyEntry x hmem.2 y
      | some tree =>
          have hstep : shape.applyEntry y (m.name, tree) = m.read tree y := by
            rw [applyEntry, h.find?_name hmem.1]
          rw [Option.map_some, List.foldlM_cons, hstep]
          exact bind_congr fun z => h.foldlM_applyEntry x hmem.2 z

theorem Lenient.allows_entries {shape : Shape τ α} (h : shape.Lenient) (x : α) :
    ∀ e ∈ shape.entries x, shape.Allows e.1 := by
  intro e he
  obtain ⟨m, hm, hname, -⟩ := exists_member_of_mem_entries he
  exact hname ▸ h.allows_name hm

/-- A document comes back from its entries if copying its members one by one gives it. -/
theorem Lenient.readEntries_entries {shape : Shape τ α} (h : shape.Lenient) {x : α}
    (hcopy : Member.copyAll x shape.members shape.blank = .ok x) :
    shape.readEntries (shape.entries x) = .ok x := by
  rw [h.readEntries_eq_ok_iff (h.nodup_keys x)]
  exact ⟨h.allows_entries x, (h.foldlM_applyEntry x (fun _ hm => hm) shape.blank).trans hcopy⟩

end Shape

end Portfolio.Document
