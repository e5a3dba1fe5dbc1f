/-
Module: Portfolio.Proofs.Template.Trail
Purpose: The names of snippets. A snippet is named by the keys that lead to its structure,
  so snippets of sound fields have names of their own.
Main exports: Template.DeepKeys, Template.below_of_mem_snippets, Template.nodup_trails
-/
import Portfolio.Proofs.Storage.Path
import Portfolio.Proofs.Validation.Acceptance
import Portfolio.Template.Page

namespace Portfolio.Template

open Naming (Word)
open Storage (segments)
open Validation (Callable Holds KeysSound)

/-! ### Keys -/

/-- All lists inside a list of fields have sound keys. -/
def DeepKeys (fields : List Field) : Prop := ∀ list, Holds fields list → KeysSound list

theorem DeepKeys.nested {fields : List Field} (h : DeepKeys fields) {f : Field}
    (hf : f ∈ fields) (hkind : f.kind = .structured) : DeepKeys f.nested :=
  fun list hlist => h list (Holds.trans (.nested .self hf hkind) hlist)

theorem DeepKeys.tail {f : Field} {fs : List Field} (h : DeepKeys (f :: fs)) : DeepKeys fs := by
  intro list hlist
  rcases hlist.head with rfl | ⟨g, hg, hkind, hinner⟩
  · obtain ⟨hcallable, hdistinct⟩ := h (f :: list) .self
    exact ⟨fun g hg => hcallable g (List.mem_cons_of_mem _ hg), (List.nodup_cons.1 hdistinct).2⟩
  · exact h.nested (List.mem_cons_of_mem _ hg) hkind list hinner

/-- A key that can be called is a word. -/
theorem word_key {name : String} (h : Callable (Naming.key name)) :
    Word '_' (Naming.key name) := by
  refine ⟨?_, Naming.spelled_key name⟩
  intro hempty
  obtain ⟨c, hc, -⟩ := h
  rw [hempty] at hc
  exact List.not_mem_nil (List.mem_of_mem_head? hc)

/-! ### Trails -/

theorem segments_inside (scope : Scope) (f : FieldSpec) (h : Callable (Naming.key f.name)) :
    segments (scope.inside f).path = segments scope.path ++ [Naming.key f.name] := by
  have hslash : '/' ∉ (Naming.key f.name).toList := (word_key h).not_mem (by decide) (by decide)
  rw [Scope.inside, Storage.segments_append, Storage.segments_of_not_mem hslash]

/-- A trail below a scope: the keys of the fields that lead to a structure. -/
def Below (scope : Scope) (key : String) (trail : List String) : Prop :=
  ∃ rest, trail = segments scope.path ++ key :: rest ∧ ∀ k ∈ key :: rest, Word '_' k

/-- What is below the inside of a field is below the field. -/
theorem Below.of_inside {scope : Scope} {f : FieldSpec} {key : String} {trail : List String}
    (hf : Callable (Naming.key f.name)) (h : Below (scope.inside f) key trail) :
    Below scope (Naming.key f.name) trail := by
  obtain ⟨rest, rfl, hwords⟩ := h
  refine ⟨key :: rest, ?_, List.forall_mem_cons.2 ⟨word_key hf, hwords⟩⟩
  rw [segments_inside scope f hf, List.append_assoc, List.singleton_append]

/-- Trails through different keys differ. -/
theorem Below.key_eq {scope : Scope} {key key' : String} {trail : List String}
    (h : Below scope key trail) (h' : Below scope key' trail) : key = key' := by
  obtain ⟨rest, rfl, -⟩ := h
  obtain ⟨rest', heq, -⟩ := h'
  exact (List.cons_eq_cons.1 (List.append_cancel_left heq)).1

mutual

/-- The snippets of a field are below its key. -/
theorem below_of_mem_snippets : ∀ (scope : Scope) (f : Field),
    Callable (Naming.key f.name) → (f.kind = .structured → DeepKeys f.nested) →
      ∀ s ∈ snippets scope f, Below scope (Naming.key f.name) (segments s.name)
  | scope, ⟨spec, nested⟩ => by
      intro hkey hnested s hs
      rw [snippets] at hs
      split at hs
      · next hshown =>
          rcases List.mem_cons.1 hs with rfl | hs
          · exact ⟨[], segments_inside scope spec hkey, by simpa using word_key hkey⟩
          · obtain ⟨g, -, hbelow⟩ :=
              below_of_mem_snippetsOfAll (scope.inside spec) nested (hnested hshown.1) s hs
            exact hbelow.of_inside hkey
      · simp at hs

/-- The snippets of a list of fields are below the key of one of them. -/
theorem below_of_mem_snippetsOfAll : ∀ (scope : Scope) (fields : List Field),
    DeepKeys fields → ∀ s ∈ snippetsOfAll scope fields,
      ∃ f ∈ fields, Below scope (Naming.key f.name) (segments s.name)
  | _, [] => by
      intro _ s hs
      simp [snippetsOfAll] at hs
  | scope, f :: fs => by
      intro hkeys s hs
      rw [snippetsOfAll, List.mem_append] at hs
      rcases hs with hs | hs
      · have hcallable := (hkeys (f :: fs) .self).callable f List.mem_cons_self
        have hnested := hkeys.nested (f := f) List.mem_cons_self
        exact ⟨f, List.mem_cons_self, below_of_mem_snippets scope f hcallable hnested s hs⟩
      · obtain ⟨g, hg, hbelow⟩ := below_of_mem_snippetsOfAll scope fs hkeys.tail s hs
        exact ⟨g, List.mem_cons_of_mem _ hg, hbelow⟩

end

mutual

/-- The snippets of a field have trails of their own. -/
theorem nodup_trails : ∀ (scope : Scope) (f : Field),
    Callable (Naming.key f.name) → (f.kind = .structured → DeepKeys f.nested) →
      ((snippets scope f).map fun s => segments s.name).Nodup
  | scope, ⟨spec, nested⟩ => by
      intro hkey hnested
      rw [snippets]
      split
      · next hshown =>
          rw [List.map_cons, List.nodup_cons]
          refine ⟨?_, nodup_trailsOfAll (scope.inside spec) nested (hnested hshown.1)⟩
          -- The snippets inside are named by longer trails.
          intro hmem
          obtain ⟨s, hs, heq⟩ := List.mem_map.1 hmem
          obtain ⟨g, -, rest, htrail, -⟩ :=
            below_of_mem_snippetsOfAll (scope.inside spec) nested (hnested hshown.1) s hs
          rw [htrail] at heq
          simp at heq
      · exact List.nodup_nil

/-- The snippets of a list of fields have trails of their own. -/
theorem nodup_trailsOfAll : ∀ (scope : Scope) (fields : List Field), DeepKeys fields →
    ((snippetsOfAll scope fields).map fun s => segments s.name).Nodup
  | _, [] => fun _ => List.nodup_nil
  | scope, f :: fs => by
      intro hkeys
      have hcallable := (hkeys (f :: fs) .self).callable f List.mem_cons_self
      have hnested := hkeys.nested (f := f) List.mem_cons_self
      rw [snippetsOfAll, List.map_append, List.nodup_append]
      refine ⟨nodup_trails scope f hcallable hnested, nodup_trailsOfAll scope fs hkeys.tail, ?_⟩
      -- Trails of different fields part at their keys.
      intro trail htrail other hother heq
      obtain ⟨s, hs, rfl⟩ := List.mem_map.1 htrail
      obtain ⟨t, ht, rfl⟩ := List.mem_map.1 hother
      have hbelow := below_of_mem_snippets scope f hcallable hnested s hs
      obtain ⟨g, hg, hbelow'⟩ := below_of_mem_snippetsOfAll scope fs hkeys.tail t ht
      rw [← heq] at hbelow'
      have hdistinct := (hkeys (f :: fs) .self).distinct
      rw [List.map_cons, List.nodup_cons] at hdistinct
      exact hdistinct.1 (List.mem_map.2 ⟨g, hg, hbelow'.key_eq hbelow⟩)

end

end Portfolio.Template
