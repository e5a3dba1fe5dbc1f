/-
Module: Portfolio.Record.Page
Purpose: Where the records of an entity's items are written: the folder of a page shows
  its status and its place in the listing, and its slug is unique in the entity.
Main exports: Record.PageStatus, Record.pageFolder, Record.pagePath, Record.freeSlug,
  Record.files
-/
import Portfolio.File
import Portfolio.Record.Basic

namespace Portfolio.Record

/-- Who sees a page. -/
inductive PageStatus where
  | draft
  | listed
  | unlisted
  deriving DecidableEq, Repr, Inhabited

namespace PageStatus

/-- The status of the page of an item. Items of unknown status stay drafts. -/
def ofEditorial : EditorialStatus → PageStatus
  | .draft | .other => .draft
  | .published => .listed
  | .archived => .unlisted

def name : PageStatus → String
  | .draft => "draft"
  | .listed => "listed"
  | .unlisted => "unlisted"

end PageStatus

/-- The folder of a page inside its collection. Listed pages carry their number. -/
def pageFolder (status : PageStatus) (slug : String) (position : Nat) : String :=
  match status with
  | .draft => "_drafts/" ++ slug
  | .listed => Text.decimal position ++ "_" ++ slug
  | .unlisted => slug

def pagePath (entity : Entity) (folder : String) : String :=
  "content/" ++ Naming.collection entity.pluralName entity.id ++ "/" ++ folder ++ "/" ++
    Naming.template entity.id ++ ".txt"

/-! ### Unique slugs -/

/-- The slug that an item would like: its own, or else one from its id. -/
def baseSlug (slug itemId : String) : String :=
  if slug.isEmpty then
    let fromId := Naming.slug itemId
    if fromId.isEmpty then "item" else fromId
  else slug

/-- A slug with a number behind it, cut to fit the greatest length. -/
def numberedSlug (base : String) (n : Nat) : String :=
  let suffix := "-" ++ Text.decimal n
  let kept := base.toList.take (Naming.maxSlugLength - suffix.length)
  String.ofList (Text.dropEndWhile (· == '-') kept) ++ suffix

/-- The first numbered slug from `n` on that is not used. Among more candidates than
there are used slugs, one is free. -/
def searchSlug (used : List String) (base : String) : Nat → Nat → String
  | 0, n => numberedSlug base n
  | fuel + 1, n =>
      let candidate := numberedSlug base n
      if used.contains candidate then searchSlug used base fuel (n + 1) else candidate

/-- A slug that is not used: the one liked best, or else the first of its numbered forms
from two on. -/
def freeSlug (used : List String) (base : String) : String :=
  if used.contains base then searchSlug used base used.length 2 else base

/-! ### Files -/

/-- One item with its slug, and its number if it is listed. -/
structure Page where
  item : Item
  status : PageStatus
  slug : String
  position : Nat
  deriving Repr, Inhabited

/-- The pages of items, given the slugs used and the number of listed pages before
them. -/
def pagesFrom (entity : Entity) (used : List String) (listed : Nat) : List Item → List Page
  | [] => []
  | item :: items =>
      let status := PageStatus.ofEditorial item.metadata.status
      let base := baseSlug (slug item entity (title item entity)) item.id
      let free := freeSlug used base
      let listed := if status = .listed then listed + 1 else listed
      ⟨item, status, free, listed⟩ :: pagesFrom entity (free :: used) listed items

/-- The pages of an entity's items. -/
def pages (entity : Entity) (items : List Item) : List Page := pagesFrom entity [] 0 items

/-- The path of a page. -/
def Page.path (entity : Entity) (p : Page) : String :=
  pagePath entity (pageFolder p.status p.slug p.position)

/-- The files of an entity's items, one for each, in the same order. -/
def files (settings : ContentSettings) (entity : Entity) (items : List Item) : List File :=
  (pages entity items).map fun p => .ofText (p.path entity) (text settings p.item entity)

end Portfolio.Record
