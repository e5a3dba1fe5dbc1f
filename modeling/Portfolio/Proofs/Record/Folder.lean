/-
Module: Portfolio.Proofs.Record.Folder
Purpose: What the path of a page shows. Whether the page is a draft, listed or unlisted, its
  slug, and its number in the listing can all be read off, and the listed pages of an entity
  are numbered without gaps.
Main exports: Record.Shown, Record.readPath, Record.readPath_path, Record.numbers_pagesFrom,
  Record.path_shows_page
-/
import Portfolio.Proofs.Record.Allocation
import Portfolio.Proofs.Storage.Path

namespace Portfolio.Record

open Naming (Word)
open Storage (segments segments_append segments_of_not_mem segments_append_of_not_mem)

/-! ### Reading a path -/

/-- What the path of a page shows. Only listed pages show a number. -/
structure Shown where
  status : PageStatus
  slug : String
  number : Option Nat := none
  deriving DecidableEq, Repr

/-- Reads the folder of a page that is no draft. Digits and an underscore in front mean that
it is listed. -/
def readFolder (folder : String) : Shown :=
  let digits := folder.toList.takeWhile Char.isDigit
  match digits, folder.toList.dropWhile Char.isDigit with
  | _ :: _, '_' :: slug =>
      { status := .listed, slug := String.ofList slug, number := (String.ofList digits).toNat? }
  | _, _ => { status := .unlisted, slug := folder }

/-- Reads the path of a page below the folder of its collection. Drafts have a folder of
their own there. -/
def readPath (path : String) : Option Shown :=
  match segments path with
  | [_, _, folder, slug, _] =>
      if folder = "_drafts" then some { status := .draft, slug := slug } else none
  | [_, _, folder, _] => some (readFolder folder)
  | _ => none

/-- What the path of a page should show. -/
def Page.shown (p : Page) : Shown where
  status := p.status
  slug := p.slug
  number := if p.status = .listed then some p.position else none

theorem underscore_not_mem {slug : String} (h : Word '-' slug) : '_' ∉ slug.toList :=
  h.not_mem (by decide) (by decide)

theorem slash_not_mem {s : String} (h : Word '-' s) : '/' ∉ s.toList :=
  h.not_mem (by decide) (by decide)

theorem readFolder_listed (position : Nat) (slug : String) :
    readFolder (pageFolder .listed slug position) =
      { status := .listed, slug := slug, number := some position } := by
  have hunderscore : "_".toList = ['_'] := rfl
  have hfolder : (pageFolder .listed slug position).toList =
      (Text.decimal position).toList ++ '_' :: slug.toList := by
    rw [pageFolder, String.toList_append, String.toList_append, hunderscore, List.append_assoc,
      List.singleton_append]
  have hdigits : (pageFolder .listed slug position).toList.takeWhile Char.isDigit =
      (Text.decimal position).toList := by
    rw [hfolder, List.takeWhile_append_of_pos fun _ => Text.isDigit_of_mem_decimal,
      List.takeWhile_cons_of_neg (by decide), List.append_nil]
  have hrest : (pageFolder .listed slug position).toList.dropWhile Char.isDigit =
      '_' :: slug.toList := by
    rw [hfolder, List.dropWhile_append_of_pos fun _ => Text.isDigit_of_mem_decimal,
      List.dropWhile_cons_of_neg (by decide)]
  have hnumber : (String.ofList (Text.decimal position).toList).toNat? = some position := by
    rw [String.ofList_toList]
    exact Nat.toNat?_repr position
  obtain ⟨digit, digits, hcons⟩ :=
    List.exists_cons_of_ne_nil (Text.toList_decimal_ne_nil position)
  rw [readFolder, hdigits, hrest]
  rw [hcons] at hnumber ⊢
  simp only [hnumber, String.ofList_toList]

/-- A slug without a number in front has no underscore to be taken for one. -/
theorem readFolder_unlisted {slug : String} (h : Word '-' slug) :
    readFolder slug = { status := .unlisted, slug := slug } := by
  rw [readFolder]
  split
  · next hrest =>
      have hmem : '_' ∈ slug.toList.dropWhile Char.isDigit := hrest ▸ List.mem_cons_self
      exact absurd ((List.dropWhile_sublist _).subset hmem) (underscore_not_mem h)
  · rfl

/-- The segments of a page's path. -/
theorem segments_pagePath (entity : Entity) (folder : String) :
    segments (pagePath entity folder) =
      ["content", Naming.collection entity.pluralName entity.id] ++ segments folder ++
        [Naming.template entity.id ++ ".txt"] := by
  have hcontent : "content/" = "content" ++ "/" := rfl
  have hcollection := slash_not_mem (Naming.word_collection entity.pluralName entity.id)
  have htemplate := segments_of_not_mem (slash_not_mem (Naming.word_template entity.id))
  apply segments_append_of_not_mem _ (by decide)
  rw [segments_append, segments_append, hcontent, segments_append, htemplate,
    segments_of_not_mem hcollection, segments_of_not_mem (by decide)]
  rfl

/-- The path of a page shows what it should. -/
theorem readPath_path (entity : Entity) {p : Page} (h : Word '-' p.slug) :
    readPath (p.path entity) = some p.shown := by
  have hslug : segments p.slug = [p.slug] := segments_of_not_mem (slash_not_mem h)
  rw [readPath, Page.path, segments_pagePath, Page.shown]
  cases hstatus : p.status with
  | draft =>
      have hdrafts : "_drafts/" = "_drafts" ++ "/" := rfl
      have hfolder : segments (pageFolder .draft p.slug p.position) = ["_drafts", p.slug] := by
        rw [pageFolder, hdrafts, segments_append, hslug, segments_of_not_mem (by decide)]
        rfl
      rw [hfolder]
      rfl
  | listed =>
      have hfolder : segments (pageFolder .listed p.slug p.position) =
          [pageFolder .listed p.slug p.position] := by
        apply segments_of_not_mem
        rw [pageFolder, String.toList_append, String.toList_append, List.mem_append,
          List.mem_append, not_or, not_or]
        exact ⟨⟨Text.not_mem_decimal (by decide) _, by decide⟩, slash_not_mem h⟩
      rw [hfolder]
      exact congrArg some (readFolder_listed p.position p.slug)
  | unlisted =>
      rw [pageFolder, hslug]
      exact congrArg some (readFolder_unlisted h)

/-! ### Numbers -/

/-- Only published items are listed. -/
theorem ofEditorial_eq_listed_iff (status : EditorialStatus) :
    PageStatus.ofEditorial status = .listed ↔ status = .published := by
  cases status with
  | draft => exact iff_of_false (by decide) (by decide)
  | published => exact iff_of_true rfl rfl
  | archived => exact iff_of_false (by decide) (by decide)
  | other => exact iff_of_false (by decide) (by decide)

/-- The listed pages have the numbers after those of the pages listed before, in order. -/
theorem numbers_pagesFrom (entity : Entity) (items : List Item) (used : List String)
    (listed : Nat) :
    (pagesFrom entity used listed items).filterMap (·.shown.number) =
      List.range' (listed + 1)
        (items.countP fun item => item.metadata.status = .published) := by
  induction items generalizing used listed with
  | nil => rfl
  | cons item items ih =>
      rw [pagesFrom, List.countP_cons]
      rw [List.filterMap_cons, ih, Page.shown]
      simp only [ofEditorial_eq_listed_iff]
      by_cases hpublished : item.metadata.status = .published
      · simp only [hpublished, if_true, decide_true]
        rw [List.range'_succ]
      · simp only [hpublished, if_false, decide_false, Bool.false_eq_true, Nat.add_zero]

/-! ### Files -/

/-- The path of a page is all that is needed to know who sees it and where. From the path of
each file of an entity's items the same reader has the status of the page, its slug, and its
number if it is listed; the status is that of the item, and only published items are listed.
The numbers of the listed files are one, two, and so on up to the number of published items, in
the order of the items. -/
theorem path_shows_page (settings : ContentSettings) (entity : Entity) (items : List Item) :
    let shown := (files settings entity items).map fun f => readPath f.path
    shown = (pages entity items).map (fun p => some p.shown) ∧
      List.Forall₂ (fun item p => p.item = item ∧
        p.shown.status = .ofEditorial item.metadata.status ∧
          (p.shown.status = .listed ↔ item.metadata.status = .published))
        items (pages entity items) ∧
      shown.filterMap (fun s => s.bind (·.number)) =
        List.range' 1 (items.countP fun item => item.metadata.status = .published) := by
  have hshown : (files settings entity items).map (fun f => readPath f.path) =
      (pages entity items).map fun p => some p.shown := by
    rw [files, List.map_map]
    apply List.map_congr_left
    intro p hp
    have hpath : (File.ofText (p.path entity) (text settings p.item entity)).path =
        p.path entity := rfl
    rw [Function.comp_apply, hpath, readPath_path entity (word_of_mem_pagesFrom p hp)]
  dsimp only
  rw [hshown]
  refine ⟨rfl, ?_, ?_⟩
  · apply (forall₂_pagesFrom entity items [] 0).imp
    rintro item p ⟨hitem, hstatus⟩
    refine ⟨hitem, hstatus, ?_⟩
    rw [Page.shown, hstatus, ofEditorial_eq_listed_iff]
  · rw [List.filterMap_map]
    exact numbers_pagesFrom entity items [] 0

end Portfolio.Record
