/-
Module: Portfolio.Proofs.Site.Generation
Purpose: Generating a site into a store in memory. All files are written, or none; every
  item is counted once, as written or as skipped.
Main exports: Site.itemCount_add_skipped, Site.generate_all_or_nothing
-/
import Mathlib.Data.List.Dedup
import Portfolio.Proofs.Site.Accounting
import Portfolio.Site.Generate

namespace Portfolio.Site

open Storage (Memory)
open Validation (Acceptable)

/-! ### Counting -/

/-- Every item is counted or skipped. -/
theorem itemCount_add_skipped (settings : ContentSettings) (schema : Schema)
    (content : SortedMap (List Item)) :
    (ContentPart.ofItems settings schema content).itemCount +
        (ContentPart.ofItems settings schema content).skipped.length =
      content.values.flatten.length := by
  rw [itemCount_ofItems, length_files_add_skipped]

theorem itemCount_contentOf (input : Input) :
    (contentOf input).values.flatten.length = input.content.elim 0 Collection.itemCount := by
  rw [contentOf]
  cases input.content with
  | none => rfl
  | some c => rfl

/-! ### Generating -/

/-- A site that is built and written is generated. -/
theorem generate_of_build {config : Config} {input : Input} {store after : Memory}
    {m : Manifest} (hbuild : build config input = .ok m)
    (hwrite : Storage.writeAll m.files store = (.ok (), after)) :
    generate config input store = (.ok (.ofManifest config.site m), after) := by
  rw [generate, hbuild]
  dsimp only
  rw [hwrite]

/-- A site is generated whole or not at all. Without errors in its schema its files replace
those at their paths and nothing else; the summary counts distinct paths, and accounts for
every item and every warning. -/
theorem generate_all_or_nothing (config : Config) (input : Input) (store : Memory) :
    (∀ e, (generate config input store).1 ≠ .error (.storage e)) ∧
      (((Validation.report input.schema).valid = false ∧
          generate config input store =
            (.error (.build (.invalidSchema
              (Validation.report input.schema).errorMessages)), store)) ∨
        ((Validation.report input.schema).valid = true ∧
          ∃ m summary after, build config input = .ok m ∧
            generate config input store = (.ok summary, after) ∧
            store.Overridden m.files after ∧
            (∀ f ∈ m.files, f.path ≠ "" ∧ f.path.startsWith "/" = false ∧
              ∀ s ∈ Storage.segments f.path, s ≠ "..") ∧
            summary.fileCount = (m.files.map (·.path)).dedup.length ∧
            summary.itemCount + m.skipped.length = input.content.elim 0 Collection.itemCount ∧
            summary.warnings =
              (Validation.report input.schema).warnings.map Validation.Issue.text ++
                m.skipped.map Manifest.skippedText)) := by
  cases hvalid : (Validation.report input.schema).valid with
  | false =>
      have hgenerate : generate config input store = (.error (.build (.invalidSchema
          (Validation.report input.schema).errorMessages)), store) := by
        rw [generate, build_of_invalid hvalid]
      rw [hgenerate]
      exact ⟨by simp, Or.inl ⟨rfl, rfl⟩⟩
  | true =>
      have hacceptable := (Validation.report_valid_iff input.schema).1 hvalid
      have hsafe : ∀ f ∈ siteFiles config input, Storage.isSafe f.path = true :=
        fun f hf => (filed_of_mem_siteFiles hacceptable f hf).isSafe
      have hnodup := @nodup_paths config input hacceptable
      obtain ⟨after, hwrite, hoverridden⟩ :=
        @Storage.overridden_writeAll (siteFiles config input) store hsafe hnodup
      have hgenerate : generate config input store =
          (.ok (.ofManifest config.site (siteManifest config input)), after) :=
        generate_of_build (build_of_valid hvalid) hwrite
      rw [hgenerate]
      refine ⟨by simp, Or.inr ⟨rfl, siteManifest config input, _, after, build_of_valid hvalid,
        rfl, hoverridden, fun f hf => Storage.isSafe_iff.1 (hsafe f hf), ?_, ?_, rfl⟩⟩
      · rw [siteManifest, hnodup.dedup, List.length_map]
        rfl
      · rw [← itemCount_contentOf]
        exact itemCount_add_skipped config.content input.schema (contentOf input)

theorem generate_sampleInput :
    ∃ m summary after, build {} sampleInput = .ok m ∧
      generate {} sampleInput ({} : Memory) = (.ok summary, after) ∧
      Memory.Overridden {} m.files after ∧ summary.itemCount + m.skipped.length = 3 := by
  have hvalid : (Validation.report sampleInput.schema).valid = true := by decide +kernel
  rcases (generate_all_or_nothing {} sampleInput {}).2 with
    ⟨hinvalid, -⟩ | ⟨-, m, summary, after, hbuild, hgenerate, hoverridden, -, -, hcount, -⟩
  · rw [hvalid] at hinvalid
    cases hinvalid
  · exact ⟨m, summary, after, hbuild, hgenerate, hoverridden, hcount⟩

end Portfolio.Site
