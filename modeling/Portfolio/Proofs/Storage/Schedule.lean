/-
Module: Portfolio.Proofs.Storage.Schedule
Purpose: Batches whose files are written at once. A store in memory takes one file at a time,
  in an order that nobody chooses; every order leaves the same store, and a batch that is
  refused leaves the store as it was.
Main exports: Storage.Step, Storage.Underway, Storage.Underway.of_steps,
  Storage.writeAll_atomic
-/
import Mathlib.Logic.Relation
import Portfolio.Proofs.Storage.Batch
import Portfolio.Proofs.Storage.Path

namespace Portfolio.Storage

open Relation (ReflTransGen)

/-! ### Refused paths -/

/-- A path that no store takes: it is empty, starts at the root, or goes up. -/
def Escapes (path : String) : Prop :=
  path = "" ∨ path.startsWith "/" = true ∨ ".." ∈ segments path

theorem isSafe_eq_false_iff {path : String} : isSafe path = false ↔ Escapes path := by
  rw [← Bool.not_eq_true, isSafe_iff, Escapes]
  constructor
  · intro h
    by_contra hnone
    rw [not_or, not_or, Bool.not_eq_true] at hnone
    obtain ⟨hempty, hroot, hup⟩ := hnone
    exact h ⟨hempty, hroot, fun s hs heq => hup (heq ▸ hs)⟩
  · rintro (rfl | hroot | hup) ⟨hempty, hstart, hsegments⟩
    · exact hempty rfl
    · rw [hstart] at hroot
      cases hroot
    · exact hsegments ".." hup rfl

theorem not_escapes_iff {path : String} : ¬ Escapes path ↔ isSafe path = true := by
  rw [← isSafe_eq_false_iff, Bool.not_eq_false]

/-! ### Steps -/

/-- One of the files that are still to be written is written, no matter which. -/
inductive Step {σ : Type} [Store σ] : List File × σ → List File × σ → Prop where
  | write {front back : List File} {f : File} {store next : σ} :
      write f store = (.ok (), next) → Step (front ++ f :: back, store) (front ++ back, next)

/-- A store in memory takes every file with a safe path. -/
theorem write_memory {f : File} (h : isSafe f.path = true) (store : Memory) :
    write f store = (.ok (), (Store.put f store).2) := by
  rw [write, check, if_pos h]
  rfl

namespace Memory

variable {before after after' : Memory} {files : List File}

/-- One more file may be written under a new path. -/
theorem Overridden.put (h : before.Overridden files after) {f : File}
    (hnew : f.path ∉ files.map (·.path)) :
    before.Overridden (f :: files) (Store.put f after).2 := by
  constructor
  · rw [List.forall_mem_cons]
    refine ⟨by rw [get?_put, if_pos rfl], fun g hg => ?_⟩
    have hpath : ¬ g.path = f.path := fun heq => hnew (heq ▸ List.mem_map_of_mem hg)
    rw [get?_put, if_neg hpath, h.written g hg]
  · intro path hpath
    rw [List.map_cons, List.mem_cons, not_or] at hpath
    rw [get?_put, if_neg hpath.1, h.kept path hpath.2]

/-- The order of the files makes no difference. -/
theorem Overridden.perm {files' : List File} (h : before.Overridden files after)
    (hperm : files.Perm files') : before.Overridden files' after where
  written f hf := h.written f (hperm.mem_iff.2 hf)
  kept path hpath := h.kept path fun hmem => hpath ((hperm.map (·.path)).mem_iff.1 hmem)

/-- What a store holds after a batch is fixed by the batch and the store before. -/
theorem Overridden.unique (h : before.Overridden files after)
    (h' : before.Overridden files after') : after = after' := by
  have hsame : ∀ path, after.files.get? path = after'.files.get? path := by
    intro path
    by_cases hpath : path ∈ files.map (·.path)
    · obtain ⟨f, hf, rfl⟩ := List.mem_map.1 hpath
      exact (h.written f hf).trans (h'.written f hf).symm
    · exact (h.kept path hpath).trans (h'.kept path hpath).symm
  cases after
  cases after'
  exact congrArg Memory.mk (SortedMap.ext_get? hsame)

end Memory

/-! ### Runs -/

/-- A batch on its way: the store holds the files written so far over what it held before, and
these and the files still to be written are the batch. -/
def Underway (files : List File) (before : Memory) (state : List File × Memory) : Prop :=
  ∃ written, (written ++ state.1).Perm files ∧ before.Overridden written state.2

namespace Underway

variable {files : List File} {before : Memory} {state state' : List File × Memory}

theorem start (files : List File) (before : Memory) : Underway files before (files, before) :=
  ⟨[], List.Perm.refl _, by simp, fun _ _ => rfl⟩

/-- A batch stays on its way with every file that is written. -/
theorem step (hsafe : ∀ f ∈ files, isSafe f.path = true) (hnodup : (files.map (·.path)).Nodup)
    (h : Underway files before state) (hstep : Step state state') :
    Underway files before state' := by
  obtain ⟨written, hperm, hoverridden⟩ := h
  cases hstep with
  | @write front back f store next hwrite =>
      have hmoved : (f :: (written ++ (front ++ back))).Perm (written ++ (front ++ f :: back)) := by
        rw [← List.append_assoc, ← List.append_assoc]
        exact List.perm_middle.symm
      have hall := hmoved.trans hperm
      have hnew : f.path ∉ written.map (·.path) := by
        have hdistinct := (hall.map (·.path)).nodup_iff.2 hnodup
        rw [List.map_cons, List.nodup_cons, List.map_append, List.mem_append, not_or] at hdistinct
        exact hdistinct.1.1
      rw [write_memory (hsafe f (hall.mem_iff.1 List.mem_cons_self))] at hwrite
      cases hwrite
      exact ⟨f :: written, hall, hoverridden.put hnew⟩

/-- A batch is on its way in every state that it can reach. -/
theorem of_steps (hsafe : ∀ f ∈ files, isSafe f.path = true)
    (hnodup : (files.map (·.path)).Nodup)
    (h : ReflTransGen Step (files, before) state) : Underway files before state := by
  induction h with
  | refl => exact start files before
  | tail _ hstep ih => exact step hsafe hnodup ih hstep

/-- All files still to be written can be written next. -/
theorem exists_write (hsafe : ∀ f ∈ files, isSafe f.path = true)
    (h : Underway files before state) :
    ∀ f ∈ state.1, ∃ next, write f state.2 = (.ok (), next) := by
  obtain ⟨written, hperm, -⟩ := h
  intro f hf
  exact ⟨_, write_memory (hsafe f (hperm.mem_iff.1 (List.mem_append_right _ hf))) state.2⟩

/-- When nothing is left to be written, the store holds the whole batch. -/
theorem overridden {after : Memory} (h : Underway files before ([], after)) :
    before.Overridden files after := by
  obtain ⟨written, hperm, hoverridden⟩ := h
  rw [List.append_nil] at hperm
  exact hoverridden.perm hperm

end Underway

/-! ### Batches -/

/-- A batch is written whole or not at all. The first path that escapes refuses it, and then
the least path that stands twice; the store is left alone. Otherwise all files are written:
in whatever order they are taken, no write fails on the way, and the store that is left holds
the files of the batch, and under all other paths what it held before. -/
theorem writeAll_atomic (files : List File) (before : Memory) :
    (∃ front f back, files = front ++ f :: back ∧ Escapes f.path ∧
        (∀ g ∈ front, ¬ Escapes g.path) ∧
        writeAll files before = (.error (.unsafePath f.path), before)) ∨
      (∀ f ∈ files, ¬ Escapes f.path) ∧
        ((∃ path, 2 ≤ (files.map (·.path)).count path ∧
            (∀ other, 2 ≤ (files.map (·.path)).count other → path ≤ other) ∧
            writeAll files before = (.error (.repeatedPath path), before)) ∨
          (files.map (·.path)).Nodup ∧ ∃ after,
            writeAll files before = (.ok (), after) ∧ before.Overridden files after ∧
            ∀ pending store, ReflTransGen Step (files, before) (pending, store) →
              (∀ f ∈ pending, ∃ next, write f store = (.ok (), next)) ∧
                (pending = [] → store = after)) := by
  have hchecked := checkAll_eq files
  cases hfind : files.find? fun f => !isSafe f.path with
  | some f =>
      rw [hfind] at hchecked
      rw [List.find?_eq_some_iff_append] at hfind
      obtain ⟨hrefused, front, back, hfiles, hfront⟩ := hfind
      left
      refine ⟨front, f, back, hfiles, isSafe_eq_false_iff.1 (by simpa using hrefused), ?_, ?_⟩
      · intro g hg
        exact not_escapes_iff.2 (by simpa using hfront g hg)
      · rw [writeAll, hchecked]
  | none =>
      rw [hfind] at hchecked
      rw [List.find?_eq_none] at hfind
      have hsafe : ∀ f ∈ files, isSafe f.path = true := by simpa using hfind
      right
      refine ⟨fun f hf => not_escapes_iff.2 (hsafe f hf), ?_⟩
      cases hrepeated : repeatedPaths files with
      | cons path rest =>
          rw [hrepeated] at hchecked
          have hmem : path ∈ repeatedPaths files := by
            rw [hrepeated]
            exact List.mem_cons_self
          left
          exact ⟨path, mem_repeatedPaths.1 hmem, fun _ => le_of_repeatedPaths_eq_cons hrepeated,
            by rw [writeAll, hchecked]⟩
      | nil =>
          have hnodup := repeatedPaths_eq_nil_iff.1 hrepeated
          obtain ⟨after, hwrite, hoverridden⟩ := @overridden_writeAll files before hsafe hnodup
          right
          refine ⟨hnodup, after, hwrite, hoverridden, fun pending store hsteps => ?_⟩
          have hunderway := Underway.of_steps hsafe hnodup hsteps
          refine ⟨hunderway.exists_write hsafe, ?_⟩
          rintro rfl
          exact hunderway.overridden.unique hoverridden

def robots : File := .ofText "robots.txt" "User-agent: *\n"

def dottedRobots : File := .ofText "./robots.txt" ""

def indexPage : File := .ofText "index.php" "<?php\n"

/-- Three files may be written from the last to the first, and every order ends the same. The
first two paths differ for a store in memory. -/
theorem writeAll_atomic_robots :
    ∃ after, writeAll [robots, dottedRobots, indexPage] ({} : Memory) = (.ok (), after) ∧
      ReflTransGen Step ([robots, dottedRobots, indexPage], ({} : Memory)) ([], after) ∧
      ∀ store, ReflTransGen Step ([robots, dottedRobots, indexPage], ({} : Memory)) ([], store) →
        store = after := by
  have hrobots : isSafe robots.path = true := isSafe_of_segments (by decide) (by decide)
  have hdotted : isSafe dottedRobots.path = true := isSafe_of_segments (by decide) (by decide)
  have hindex : isSafe indexPage.path = true := isSafe_of_segments (by decide) (by decide)
  have hnodup : ([robots, dottedRobots, indexPage].map (·.path)).Nodup := by decide
  have hlast : Step ([robots, dottedRobots, indexPage], ({} : Memory)) ([robots, dottedRobots], _) :=
    @Step.write _ _ [robots, dottedRobots] [] _ _ _ (write_memory hindex _)
  have hmiddle : ∀ store : Memory, Step ([robots, dottedRobots], store) ([robots], _) :=
    fun store => @Step.write _ _ [robots] [] _ _ _ (write_memory hdotted store)
  have hfirst : ∀ store : Memory, Step ([robots], store) ([], _) :=
    fun store => @Step.write _ _ [] [] _ _ _ (write_memory hrobots store)
  have hbackwards := ((ReflTransGen.single hlast).tail (hmiddle _)).tail (hfirst _)
  rcases writeAll_atomic [robots, dottedRobots, indexPage] {} with
    ⟨front, f, back, hfiles, hescapes, -⟩ | ⟨-, ⟨path, htwice, -⟩ | ⟨-, after, hwrite, -, hruns⟩⟩
  · have hf : f ∈ [robots, dottedRobots, indexPage] :=
      hfiles ▸ List.mem_append_right _ List.mem_cons_self
    simp only [List.mem_cons, List.not_mem_nil, or_false] at hf
    rcases hf with rfl | rfl | rfl
    · exact absurd hescapes (not_escapes_iff.2 hrobots)
    · exact absurd hescapes (not_escapes_iff.2 hdotted)
    · exact absurd hescapes (not_escapes_iff.2 hindex)
  · have honce := List.nodup_iff_count_le_one.1 hnodup path
    omega
  · have hend := (hruns [] _ hbackwards).2 rfl
    exact ⟨after, hwrite, hend ▸ hbackwards, fun store hrun => (hruns [] store hrun).2 rfl⟩

end Portfolio.Storage
