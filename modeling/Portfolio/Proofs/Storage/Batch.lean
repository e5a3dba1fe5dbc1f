/-
Module: Portfolio.Proofs.Storage.Batch
Purpose: Batches of files: when a batch may be written, and what a store in memory holds
  afterwards.
Main exports: mem_repeatedPaths, Storage.checkAll_eq, Storage.Memory.Overridden,
  Storage.overridden_writeAll
-/
import Portfolio.Proofs.SortedMap
import Portfolio.Storage.Memory

namespace Portfolio

/-! ### Repeated paths -/

/-- The scan finds what was seen before or occurs twice. -/
theorem mem_laterPaths {files : List File} {seen : List String} {path : String} :
    path ∈ laterPaths seen files ↔
      path ∈ seen ∧ path ∈ files.map (·.path) ∨ 2 ≤ (files.map (·.path)).count path := by
  induction files generalizing seen with
  | nil => simp [laterPaths]
  | cons f fs ih =>
      have htwice : 2 ≤ (fs.map (·.path)).count path + 1 ↔ path ∈ fs.map (·.path) := by
        rw [← List.one_le_count_iff]
        omega
      rw [laterPaths, List.map_cons]
      split
      · next hseen =>
          have hmem : f.path ∈ seen := by simpa using hseen
          rw [List.mem_cons, ih]
          by_cases hpath : path = f.path
          · subst hpath
            simp [hmem]
          · have hne : ¬ f.path = path := fun heq => hpath heq.symm
            simp [hpath, hne]
      · next hseen =>
          have hfree : f.path ∉ seen := by simpa using hseen
          rw [ih]
          by_cases hpath : path = f.path
          · subst hpath
            rw [List.count_cons_self, htwice]
            simp only [hfree, List.mem_cons, true_or, true_and, false_and, false_or]
            rw [or_iff_left_iff_imp, ← List.one_le_count_iff]
            exact fun h => by omega
          · have hne : ¬ f.path = path := fun heq => hpath heq.symm
            simp [hpath, hne]

/-- The paths listed are those that occur more than once. -/
theorem mem_repeatedPaths {files : List File} {path : String} :
    path ∈ repeatedPaths files ↔ 2 ≤ (files.map (·.path)).count path := by
  rw [repeatedPaths, mem_keys_sortEntries, List.map_map]
  simp [Function.comp_def, mem_laterPaths]

/-- They stand in byte order, each once. -/
theorem pairwise_repeatedPaths (files : List File) :
    (repeatedPaths files).Pairwise (· < ·) := by
  rw [repeatedPaths, List.pairwise_map]
  exact keysSorted_sortEntries _

/-- No path is repeated if all are distinct. -/
theorem repeatedPaths_eq_nil_iff {files : List File} :
    repeatedPaths files = [] ↔ (files.map (·.path)).Nodup := by
  rw [List.eq_nil_iff_forall_not_mem, List.nodup_iff_count_le_one]
  refine forall_congr' fun path => ?_
  rw [mem_repeatedPaths]
  omega

/-- The first path listed is the least. -/
theorem le_of_repeatedPaths_eq_cons {files : List File} {path : String} {rest : List String}
    (h : repeatedPaths files = path :: rest) {other : String}
    (hother : 2 ≤ (files.map (·.path)).count other) : path ≤ other := by
  have hsorted := pairwise_repeatedPaths files
  rw [h, List.pairwise_cons] at hsorted
  rw [← mem_repeatedPaths, h, List.mem_cons] at hother
  rcases hother with rfl | hmem
  · exact String.le_refl _
  · exact String.not_lt.1 (String.lt_asymm (hsorted.1 other hmem))

namespace Storage

/-! ### Checks -/

/-- The first file that is not safe decides. -/
theorem forM_check (files : List File) :
    (files.forM fun f => check f.path) =
      match files.find? fun f => !isSafe f.path with
      | some f => .error (.unsafePath f.path)
      | none => .ok () := by
  induction files with
  | nil => rfl
  | cons f fs ih =>
      rw [List.forM, List.find?_cons, check]
      cases isSafe f.path with
      | false => rfl
      | true => exact ih

/-- A batch is checked for safe paths first and for repeated ones then. -/
theorem checkAll_eq (files : List File) :
    checkAll files =
      match files.find? fun f => !isSafe f.path with
      | some f => .error (.unsafePath f.path)
      | none =>
          match repeatedPaths files with
          | [] => .ok ()
          | path :: _ => .error (.repeatedPath path) := by
  rw [checkAll, forM_check]
  cases files.find? fun f => !isSafe f.path with
  | some f => rfl
  | none =>
      cases repeatedPaths files with
      | nil => rfl
      | cons path _ => rfl

/-- Files with distinct safe paths may be written together. -/
theorem checkAll_eq_ok {files : List File} (hsafe : ∀ f ∈ files, isSafe f.path = true)
    (hnodup : (files.map (·.path)).Nodup) : checkAll files = .ok () := by
  have hfind : files.find? (fun f => !isSafe f.path) = none := by
    rw [List.find?_eq_none]
    intro f hf
    simp [hsafe f hf]
  rw [checkAll_eq, hfind, repeatedPaths_eq_nil_iff.2 hnodup]

/-- Only files with distinct safe paths may be written together. -/
theorem of_checkAll_eq_ok {files : List File} (h : checkAll files = .ok ()) :
    (∀ f ∈ files, isSafe f.path = true) ∧ (files.map (·.path)).Nodup := by
  rw [checkAll_eq] at h
  cases hfind : files.find? fun f => !isSafe f.path with
  | some f =>
      rw [hfind] at h
      cases h
  | none =>
      rw [hfind] at h
      rw [List.find?_eq_none] at hfind
      cases hrepeated : repeatedPaths files with
      | cons path rest =>
          rw [hrepeated] at h
          cases h
      | nil => exact ⟨by simpa using hfind, repeatedPaths_eq_nil_iff.1 hrepeated⟩

/-! ### Stores in memory -/

/-- A store holds the files, each under its own path, and at all other paths what another
store holds. -/
structure Memory.Overridden (before : Memory) (files : List File) (after : Memory) : Prop where
  written : ∀ f ∈ files, after.get? f.path = some f
  kept : ∀ path, path ∉ files.map (·.path) → after.get? path = before.get? path

theorem get?_put (f : File) (store : Memory) (path : String) :
    (Store.put f store).2.get? path = if path = f.path then some f else store.get? path :=
  SortedMap.get?_insert store.files f.path path f

/-- Files with distinct paths are all put into a store in memory. -/
theorem overridden_putAll {files : List File} {before : Memory}
    (hnodup : (files.map (·.path)).Nodup) :
    ∃ after, putAll files before = (.ok (), after) ∧ before.Overridden files after := by
  induction files generalizing before with
  | nil => exact ⟨before, rfl, by simp, fun _ _ => rfl⟩
  | cons f fs ih =>
      rw [List.map_cons, List.nodup_cons] at hnodup
      obtain ⟨hnot, hnodup⟩ := hnodup
      have hrest : ∃ after, putAll fs (Store.put f before).2 = (.ok (), after) ∧
          Memory.Overridden (Store.put f before).2 fs after := ih hnodup
      obtain ⟨after, hput, hwritten, hkept⟩ := hrest
      refine ⟨after, hput, ?_, ?_⟩
      · rw [List.forall_mem_cons]
        refine ⟨?_, hwritten⟩
        rw [hkept f.path hnot, get?_put, if_pos rfl]
      · intro path hpath
        rw [List.map_cons, List.mem_cons, not_or] at hpath
        rw [hkept path hpath.2, get?_put, if_neg hpath.1]

/-- Files with distinct safe paths are all written to a store in memory. -/
theorem overridden_writeAll {files : List File} {before : Memory}
    (hsafe : ∀ f ∈ files, isSafe f.path = true) (hnodup : (files.map (·.path)).Nodup) :
    ∃ after, writeAll files before = (.ok (), after) ∧ before.Overridden files after := by
  rw [writeAll, checkAll_eq_ok hsafe hnodup]
  exact overridden_putAll hnodup

end Storage

end Portfolio
