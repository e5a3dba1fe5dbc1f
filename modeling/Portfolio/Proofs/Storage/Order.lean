/-
Module: Portfolio.Proofs.Storage.Order
Purpose: Batches written to a folder of a disk. Whether all files of a batch can be written
  does not depend on their order; what the folder holds afterwards does not either, unless two
  files of different bytes go to one place.
Main exports: Storage.runs_iff_putAll, Storage.Directory.Fits, Storage.Directory.Imprinted,
  Storage.Directory.Imprinted.unique, Storage.writeAll_ordered
-/
import Mathlib.Data.List.Pairwise
import Portfolio.Proofs.Storage.Disk
import Portfolio.Proofs.Storage.Schedule

namespace Portfolio.Storage

open Relation (ReflTransGen)

/-! ### Orders -/

section Orders

variable {σ : Type} [Store σ] {files written pending order : List File} {f : File}
  {before store next after : σ}

theorem write_of_isSafe (h : isSafe f.path = true) (store : σ) :
    write f store = Store.put f store := by
  rw [write, check, if_pos h]

theorem put_of_write (h : write f store = (.ok (), next)) : Store.put f store = (.ok (), next) := by
  by_cases hsafe : isSafe f.path = true
  · rw [write_of_isSafe hsafe] at h
    exact h
  · rw [write, check, if_neg hsafe] at h
    cases h

/-- Files are put one after the other. -/
theorem putAll_cons_eq_ok_iff :
    putAll (f :: files) before = (.ok (), after) ↔
      ∃ next, Store.put f before = (.ok (), next) ∧ putAll files next = (.ok (), after) := by
  rw [putAll]
  cases Store.put f before with
  | mk result first =>
      cases result with
      | error e =>
          refine iff_of_false (fun h => ?_) ?_
          · cases h
          · rintro ⟨next, h, -⟩
            cases h
      | ok =>
          constructor
          · intro h
            exact ⟨first, rfl, h⟩
          · rintro ⟨next, h, hrest⟩
            cases h
            exact hrest

theorem putAll_concat (hwritten : putAll written before = (.ok (), store))
    (hput : Store.put f store = (.ok (), next)) :
    putAll (written ++ [f]) before = (.ok (), next) := by
  induction written generalizing before with
  | nil =>
      cases hwritten
      exact putAll_cons_eq_ok_iff.2 ⟨next, hput, rfl⟩
  | cons g written ih =>
      obtain ⟨first, hfirst, hrest⟩ := putAll_cons_eq_ok_iff.1 hwritten
      exact putAll_cons_eq_ok_iff.2 ⟨first, hfirst, ih hrest⟩

/-- What a batch has reached was written in some order. -/
theorem exists_putAll_of_steps (h : ReflTransGen Step (files, before) (pending, store)) :
    ∃ written, (written ++ pending).Perm files ∧ putAll written before = (.ok (), store) := by
  suffices hstate : ∀ state : List File × σ, ReflTransGen Step (files, before) state →
      ∃ written, (written ++ state.1).Perm files ∧ putAll written before = (.ok (), state.2) from
    hstate _ h
  intro state hsteps
  induction hsteps with
  | refl => exact ⟨[], List.Perm.refl _, rfl⟩
  | tail _ hstep ih =>
      obtain ⟨written, hperm, hwritten⟩ := ih
      cases hstep with
      | @write front back f store next hwrite =>
          refine ⟨written ++ [f], ?_, putAll_concat hwritten (put_of_write hwrite)⟩
          have hmoved : (f :: (front ++ back)).Perm (front ++ f :: back) := List.perm_middle.symm
          rw [List.append_assoc, List.singleton_append]
          exact (hmoved.append_left written).trans hperm

/-- Files with safe paths may be written in any order in which a store takes them. -/
theorem steps_of_putAll (hsafe : ∀ f ∈ files, isSafe f.path = true) (hperm : order.Perm files)
    (h : putAll order before = (.ok (), after)) :
    ReflTransGen Step (files, before) ([], after) := by
  induction order generalizing files before with
  | nil =>
      cases h
      rw [List.nil_perm.1 hperm]
  | cons f order ih =>
      have hmem : f ∈ files := hperm.mem_iff.1 List.mem_cons_self
      obtain ⟨front, back, rfl⟩ := List.append_of_mem hmem
      obtain ⟨next, hput, hputs⟩ := putAll_cons_eq_ok_iff.1 h
      have hfirst : Step (front ++ f :: back, before) (front ++ back, next) :=
        .write ((write_of_isSafe (hsafe f hmem) before).trans hput)
      have hrest : order.Perm (front ++ back) := (hperm.trans List.perm_middle).cons_inv
      apply ReflTransGen.head hfirst
      apply ih _ hrest hputs
      intro g hg
      apply hsafe g
      rw [List.mem_append] at hg ⊢
      exact hg.imp_right (List.mem_cons_of_mem f)

/-- A batch is written whole exactly when a store takes its files in some order. -/
theorem runs_iff_putAll (hsafe : ∀ f ∈ files, isSafe f.path = true) :
    ReflTransGen Step (files, before) ([], after) ↔
      ∃ order, order.Perm files ∧ putAll order before = (.ok (), after) := by
  constructor
  · intro h
    obtain ⟨order, hperm, hput⟩ := exists_putAll_of_steps h
    rw [List.append_nil] at hperm
    exact ⟨order, hperm, hput⟩
  · rintro ⟨order, hperm, hput⟩
    exact steps_of_putAll hsafe hperm hput

end Orders

/-! ### Folders of a disk -/

namespace Directory

variable {before next after after' : Directory} {files files' : List File} {f g : File}

/-- The path of a file as the disk sees it. -/
def way (store : Directory) (f : File) : String := store.root ++ "/" ++ f.path

/-- A folder has room for a batch: it takes each of the files, and none of them where another
needs a folder. -/
structure Fits (before : Directory) (files : List File) : Prop where
  accepts : ∀ f ∈ files, before.disk.Accepts (before.way f)
  apart : files.Pairwise fun f g => Disk.Apart (before.way f) (before.way g)

/-- A folder holds what it held before, and the files of a batch in their order over it. -/
structure Imprinted (before : Directory) (files : List File) (after : Directory) : Prop where
  root : after.root = before.root
  nodes : ∀ key, after.disk.nodes.get? key =
    files.foldl (fun node f => Disk.imprint (before.way f) f key node) (before.disk.nodes.get? key)

theorem put_of_writeAt {result : Except StorageError Unit} {disk : Disk}
    (h : before.disk.writeAt (before.way f) f = (result, disk)) :
    Store.put f before = (result, ⟨before.root, disk⟩) := by
  rw [way] at h
  rw [Store.put, instStoreDirectory]
  dsimp only
  rw [h]

theorem put_of_accepts (h : before.disk.Accepts (before.way f)) :
    ∃ next, Store.put f before = (.ok (), next) ∧ before.Imprinted [f] next := by
  obtain ⟨disk, hwrite, hnodes⟩ := Disk.writeAt_of_accepts h f
  refine ⟨⟨before.root, disk⟩, put_of_writeAt hwrite, rfl, fun key => ?_⟩
  rw [List.foldl_cons, List.foldl_nil]
  exact hnodes key

theorem accepts_of_put (h : Store.put f before = (.ok (), next)) :
    before.disk.Accepts (before.way f) := by
  cases hwrite : before.disk.writeAt (before.way f) f with
  | mk result disk =>
      rw [put_of_writeAt hwrite] at h
      cases h
      exact Disk.accepts_of_writeAt hwrite

theorem Imprinted.way (h : before.Imprinted files after) (f : File) : after.way f = before.way f := by
  rw [Directory.way, h.root, Directory.way]

theorem Imprinted.cons (hfirst : before.Imprinted [f] next) (hrest : next.Imprinted files after) :
    before.Imprinted (f :: files) after where
  root := hrest.root.trans hfirst.root
  nodes key := by
    rw [hrest.nodes, hfirst.nodes, List.foldl_cons, List.foldl_cons, List.foldl_nil]
    simp only [hfirst.way]

/-- A batch fits in exactly if its first file does and then the others do. -/
theorem fits_cons_iff (h : before.disk.Accepts (before.way f)) (hnext : before.Imprinted [f] next) :
    before.Fits (f :: files) ↔ next.Fits files := by
  have haccepts : ∀ g, next.disk.Accepts (next.way g) ↔
      before.disk.Accepts (before.way g) ∧ Disk.Apart (before.way f) (before.way g) := by
    intro g
    rw [hnext.way]
    apply Disk.accepts_iff_of_imprint h
    intro key
    rw [hnext.nodes, List.foldl_cons, List.foldl_nil]
  have hway : (fun g g' => Disk.Apart (next.way g) (next.way g')) =
      fun g g' => Disk.Apart (before.way g) (before.way g') := by
    funext g g'
    rw [hnext.way, hnext.way]
  constructor
  · rintro ⟨hall, hapart⟩
    rw [List.pairwise_cons] at hapart
    rw [List.forall_mem_cons] at hall
    refine ⟨fun g hg => (haccepts g).2 ⟨hall.2 g hg, hapart.1 g hg⟩, ?_⟩
    rw [hway]
    exact hapart.2
  · rintro ⟨hall, hapart⟩
    rw [hway] at hapart
    refine ⟨List.forall_mem_cons.2 ⟨h, fun g hg => ((haccepts g).1 (hall g hg)).1⟩, ?_⟩
    exact List.pairwise_cons.2 ⟨fun g hg => ((haccepts g).1 (hall g hg)).2, hapart⟩

/-- A batch that fits in is written. -/
theorem putAll_of_fits (h : before.Fits files) :
    ∃ after, putAll files before = (.ok (), after) ∧ before.Imprinted files after := by
  induction files generalizing before with
  | nil => exact ⟨before, rfl, rfl, fun _ => rfl⟩
  | cons f files ih =>
      have haccepts := h.accepts f List.mem_cons_self
      obtain ⟨next, hput, hnext⟩ := put_of_accepts haccepts
      have hrest := (fits_cons_iff haccepts hnext).1 h
      obtain ⟨after, hputs, hafter⟩ := ih hrest
      exact ⟨after, putAll_cons_eq_ok_iff.2 ⟨next, hput, hputs⟩, hnext.cons hafter⟩

/-- When some files have been written, the others fit in if all of them fitted in before. -/
theorem fits_append_iff (h : putAll files before = (.ok (), next)) :
    before.Fits (files ++ files') ↔ next.Fits files' := by
  induction files generalizing before with
  | nil =>
      cases h
      exact Iff.rfl
  | cons f files ih =>
      obtain ⟨first, hput, hputs⟩ := putAll_cons_eq_ok_iff.1 h
      have haccepts := accepts_of_put hput
      obtain ⟨first', hput', hfirst⟩ := put_of_accepts haccepts
      cases hput.symm.trans hput'
      exact (fits_cons_iff haccepts hfirst).trans (ih hputs)

/-- A batch that is written fits in. -/
theorem fits_of_putAll (h : putAll files before = (.ok (), after)) : before.Fits files := by
  have hnone : after.Fits [] := ⟨fun _ hf => absurd hf List.not_mem_nil, List.Pairwise.nil⟩
  rw [← List.append_nil files]
  exact (fits_append_iff h).2 hnone

/-- The order of a batch does not matter for whether it fits in. -/
theorem Fits.perm (h : before.Fits files) (hperm : files'.Perm files) : before.Fits files' where
  accepts f hf := h.accepts f (hperm.mem_iff.1 hf)
  apart := (hperm.pairwise_iff Disk.Apart.symm).2 h.apart

theorem Fits.apart_of_mem (h : before.Fits files) (hf : f ∈ files) (hg : g ∈ files) :
    Disk.Apart (before.way f) (before.way g) := by
  have hsymm : Std.Symm fun f g => Disk.Apart (before.way f) (before.way g) :=
    ⟨fun _ _ => Disk.Apart.symm⟩
  have hself : ∀ f ∈ files, Disk.Apart (before.way f) (before.way f) :=
    fun f hf => ⟨(h.accepts f hf).apart, (h.accepts f hf).apart⟩
  exact List.Pairwise.forall_of_forall hself h.apart hf hg

/-- What a folder holds after a batch does not depend on the order, if files under one key have
the same bytes. -/
theorem Imprinted.unique (hfits : before.Fits files) (hperm : files'.Perm files)
    (hbytes : ∀ f ∈ files, ∀ g ∈ files,
      Disk.fileKey (before.way f) = Disk.fileKey (before.way g) → f.bytes = g.bytes)
    (h : before.Imprinted files after) (h' : before.Imprinted files' after') : after' = after := by
  have hnodes : after'.disk.nodes = after.disk.nodes := by
    apply SortedMap.ext_get?
    intro key
    rw [h.nodes, h'.nodes]
    apply hperm.foldl_eq'
    intro f hf g hg node
    have hmem := hperm.mem_iff.1 hf
    have hmem' := hperm.mem_iff.1 hg
    exact Disk.imprint_comm (hfits.apart_of_mem hmem' hmem) (hbytes g hmem' f hmem) key node
  have hdisk : after'.disk = after.disk := congrArg Disk.mk hnodes
  cases after
  cases after'
  exact congrArg₂ Directory.mk (h'.root.trans h.root.symm) hdisk

/-- The last file of a batch stands under its key. -/
theorem Imprinted.last (h : before.Imprinted (files ++ [f]) after) :
    ∃ executable, after.disk.nodes.get? (Disk.fileKey (before.way f)) =
      some (.file f.bytes executable) := by
  rw [h.nodes, List.foldl_concat, Disk.imprint, if_pos rfl]
  exact ⟨_, rfl⟩

/-! ### Places -/

/-- Where the paths of files start. -/
def base (store : Directory) : Place :=
  (Disk.start (store.root ++ "/")).arrival (resolve store.root)

theorem start_way (store : Directory) (f : File) :
    Disk.start (store.way f) = Disk.start (store.root ++ "/") := by
  have hstart : (store.way f).startsWith "/" = (store.root ++ "/").startsWith "/" := by
    rw [Bool.eq_iff_iff, String.startsWith_string_iff, String.startsWith_string_iff, way,
      String.toList_append, String.toList_append]
    cases store.root.toList with
    | nil => simp
    | cons c cs => simp
  rw [Disk.start, Disk.start, hstart]

/-- A file with a safe path goes to the place that its path names, seen from the folder. -/
theorem fileKey_way (h : before.disk.Accepts (before.way f)) (hsafe : isSafe f.path = true) :
    Disk.fileKey (before.way f) = Place.path (before.base ++ resolve f.path) := by
  have hup : ".." ∉ resolve f.path :=
    fun hmem => (isSafe_iff.1 hsafe).2.2 ".." (mem_resolve.1 hmem).1 rfl
  rw [Disk.fileKey_of_named h.named, start_way, way, resolve_append, Place.arrival_append,
    Place.arrival_eq_append hup, base]

theorem resolve_ne_nil (h : before.disk.Accepts (before.way f)) : resolve f.path ≠ [] := by
  have hstep := (Disk.splitLast_named h.named).2.1
  rw [way, lastSegment_append] at hstep
  exact List.ne_nil_of_mem (mem_resolve.2 ⟨lastSegment_mem f.path, hstep⟩)

/-- Two files go to one key exactly if their paths are resolved alike. -/
theorem fileKey_eq_iff (hf : before.disk.Accepts (before.way f))
    (hg : before.disk.Accepts (before.way g)) (hfsafe : isSafe f.path = true)
    (hgsafe : isSafe g.path = true) :
    Disk.fileKey (before.way f) = Disk.fileKey (before.way g) ↔
      resolve f.path = resolve g.path := by
  have hnames : ∀ path, ∀ name ∈ resolve path, '/' ∉ name.toList :=
    fun path name hname => (mem_resolve.1 hname).2.slash
  rw [fileKey_way hf hfsafe, fileKey_way hg hgsafe]
  constructor
  · intro h
    exact Place.path_append_injective (resolve_ne_nil hf) (resolve_ne_nil hg) (hnames _) (hnames _) h
  · intro h
    rw [h]

end Directory

/-! ### Batches -/

section Batches

variable {files pending pending' : List File} {before store store' last : Directory}

/-- A folder that a batch has reached holds those files of it that are written. -/
theorem exists_imprinted_of_steps (h : ReflTransGen Step (files, before) (pending, store)) :
    ∃ written, (written ++ pending).Perm files ∧ before.Fits written ∧
      before.Imprinted written store := by
  obtain ⟨written, hperm, hput⟩ := exists_putAll_of_steps h
  have hfits := Directory.fits_of_putAll hput
  obtain ⟨store', hput', hstore⟩ := Directory.putAll_of_fits hfits
  cases hput.symm.trans hput'
  exact ⟨written, hperm, hfits, hstore⟩

/-- Which files are written decides what a folder holds, and their order does not, if files that
go to one place have the same bytes. -/
theorem store_eq_of_steps (hsafe : ∀ f ∈ files, isSafe f.path = true)
    (hbytes : ∀ f ∈ files, ∀ g ∈ files, resolve f.path = resolve g.path → f.bytes = g.bytes)
    (h : ReflTransGen Step (files, before) (pending, store))
    (h' : ReflTransGen Step (files, before) (pending', store')) (hpending : pending.Perm pending') :
    store = store' := by
  obtain ⟨written, hperm, hfits, hstore⟩ := exists_imprinted_of_steps h
  obtain ⟨written', hperm', hfits', hstore'⟩ := exists_imprinted_of_steps h'
  have hwritten : written.Perm written' := by
    rw [← List.perm_append_right_iff pending]
    exact hperm.trans (hperm'.symm.trans (hpending.symm.append_left written'))
  have hmem : ∀ f ∈ written', f ∈ files :=
    fun f hf => hperm'.mem_iff.1 (List.mem_append_left pending' hf)
  apply hstore'.unique hfits' hwritten _ hstore
  intro f hf g hg hkey
  apply hbytes f (hmem f hf) g (hmem g hg)
  exact (Directory.fileKey_eq_iff (hfits'.accepts f hf) (hfits'.accepts g hg)
    (hsafe f (hmem f hf)) (hsafe g (hmem g hg))).1 hkey

/-- If every order ends the same, the end holds each file of the batch, as it may be the last. -/
theorem exists_node_of_ends {f : File} (hsafe : ∀ f ∈ files, isSafe f.path = true)
    (hfits : before.Fits files)
    (hends : ∀ other, ReflTransGen Step (files, before) ([], other) → other = last)
    (hf : f ∈ files) :
    ∃ executable, last.disk.nodes.get? (Disk.fileKey (before.way f)) =
      some (.file f.bytes executable) := by
  have hperm : (files.erase f ++ [f]).Perm files :=
    (List.perm_append_singleton f _).trans (List.perm_cons_erase hf).symm
  obtain ⟨other, hput, hother⟩ := Directory.putAll_of_fits (hfits.perm hperm)
  rw [← hends other (steps_of_putAll hsafe hperm hput)]
  exact hother.last

/-- Paths without empty segments and single dots lead to different places if they differ. -/
theorem nodup_resolve (hnodup : (files.map (·.path)).Nodup)
    (hplain : ∀ f ∈ files, "" ∉ segments f.path ∧ "." ∉ segments f.path) :
    (files.map fun f => resolve f.path).Nodup := by
  have hresolve : (files.map fun f => resolve f.path) = (files.map (·.path)).map segments := by
    rw [List.map_map]
    apply List.map_congr_left
    intro f hf
    exact resolve_eq_segments (hplain f hf).1 (hplain f hf).2
  rw [hresolve]
  exact hnodup.map segments_injective

end Batches

/-- Files that may be written together and whose paths have no empty segments and no single dots
go to different places; which of them are written then decides what the folder holds, and in
what order does not. In general, a batch that can be written in one order is written in every
order, no file is refused on the way, and all orders leave the same folder exactly if files that
go to one place have the same bytes. -/
theorem writeAll_ordered {files : List File} (hchecked : checkAll files = .ok ()) :
    ((∀ f ∈ files, "" ∉ segments f.path ∧ "." ∉ segments f.path) →
        (files.map fun f => resolve f.path).Nodup ∧
          ∀ (before store store' : Directory) (pending pending' : List File),
            ReflTransGen Step (files, before) (pending, store) →
            ReflTransGen Step (files, before) (pending', store') →
            pending.Perm pending' → store = store') ∧
      ∀ before : Directory, (∃ last, ReflTransGen Step (files, before) ([], last)) →
        ∃ after, writeAll files before = (.ok (), after) ∧
          (∀ pending store, ReflTransGen Step (files, before) (pending, store) →
            ∀ f ∈ pending, ∃ next, write f store = (.ok (), next)) ∧
          ((∀ last, ReflTransGen Step (files, before) ([], last) → last = after) ↔
            ∀ f ∈ files, ∀ g ∈ files, resolve f.path = resolve g.path → f.bytes = g.bytes) := by
  obtain ⟨hsafe, hnodup⟩ := of_checkAll_eq_ok hchecked
  refine ⟨fun hplain => ?_, ?_⟩
  · have hdistinct := nodup_resolve hnodup hplain
    have hsame : ∀ f ∈ files, ∀ g ∈ files, resolve f.path = resolve g.path → f.bytes = g.bytes :=
      fun f hf g hg hresolve =>
        congrArg File.bytes (List.inj_on_of_nodup_map hdistinct hf hg hresolve)
    exact ⟨hdistinct, fun _ _ _ _ _ h h' => store_eq_of_steps hsafe hsame h h'⟩
  · rintro before ⟨last, hrun⟩
    obtain ⟨order, hperm, hput⟩ := (runs_iff_putAll hsafe).1 hrun
    have hfits : before.Fits files := (Directory.fits_of_putAll hput).perm hperm.symm
    obtain ⟨after, hputs, -⟩ := Directory.putAll_of_fits hfits
    refine ⟨after, ?_, ?_, ?_, ?_⟩
    · rw [writeAll, hchecked]
      exact hputs
    · intro pending store hsteps f hf
      obtain ⟨written, hall, hwritten⟩ := exists_putAll_of_steps hsteps
      have hrest := (Directory.fits_append_iff hwritten).1 (hfits.perm hall)
      obtain ⟨next, hnext, -⟩ := Directory.put_of_accepts (hrest.accepts f hf)
      have hmem := hall.mem_iff.1 (List.mem_append_right written hf)
      exact ⟨next, (write_of_isSafe (hsafe f hmem) store).trans hnext⟩
    · intro hends f hf g hg hresolve
      have hkey := (Directory.fileKey_eq_iff (hfits.accepts f hf) (hfits.accepts g hg)
        (hsafe f hf) (hsafe g hg)).2 hresolve
      obtain ⟨executable, hnode⟩ := exists_node_of_ends hsafe hfits hends hf
      obtain ⟨executable', hnode'⟩ := exists_node_of_ends hsafe hfits hends hg
      rw [hkey, hnode'] at hnode
      exact (Node.file.inj (Option.some.inj hnode)).1.symm
    · intro hbytes last hlast
      have hafter := steps_of_putAll hsafe (List.Perm.refl files) hputs
      exact store_eq_of_steps hsafe hbytes hlast hafter (List.Perm.refl [])

/-- An empty disk takes a file if all names on its path can be names. -/
theorem Disk.accepts_empty {path : String} (hnamed : (splitLast path).2 ≠ none)
    (hnames : ∀ key ∈ fileKey path :: folderKeys path, isName (lastSegment key) = true)
    (hapart : fileKey path ∉ folderKeys path) : ({} : Disk).Accepts path :=
  ⟨hnamed, fun key hkey => hnames key (List.mem_cons_of_mem _ hkey),
    hnames _ List.mem_cons_self, hapart⟩

/-- A folder in which nothing has been written. -/
def freshSite : Directory := { root := "site" }

/-- Any of three files fit in there. -/
theorem fits_freshSite {files : List File}
    (h : ∀ f ∈ files, f ∈ [robots, dottedRobots, indexPage]) : freshSite.Fits files := by
  have hways : ∀ f ∈ [robots, dottedRobots, indexPage],
      (Disk.splitLast (freshSite.way f)).2 ≠ none ∧
        Disk.folderKeys (freshSite.way f) = ["site"] ∧
        Disk.fileKey (freshSite.way f) ∉ ["site"] ∧
        ∀ key ∈ [Disk.fileKey (freshSite.way f), "site"], isName (lastSegment key) = true := by
    decide +kernel
  have hapart : ∀ f ∈ files, ∀ g ∈ files,
      Disk.fileKey (freshSite.way f) ∉ Disk.folderKeys (freshSite.way g) := by
    intro f hf g hg
    rw [(hways g (h g hg)).2.1]
    exact (hways f (h f hf)).2.2.1
  constructor
  · intro f hf
    obtain ⟨hnamed, hfolders, -, hnames⟩ := hways f (h f hf)
    apply Disk.accepts_empty hnamed _ (hapart f hf f hf)
    rw [hfolders]
    exact hnames
  · apply List.pairwise_of_forall_mem_list
    exact fun f hf g hg => ⟨hapart f hf g hg, hapart g hg f hf⟩

/-- They may be written together if their paths differ. -/
theorem checkAll_of_mem {files : List File}
    (h : ∀ f ∈ files, f ∈ [robots, dottedRobots, indexPage])
    (hnodup : (files.map (·.path)).Nodup) : checkAll files = .ok () := by
  have hsegments : ∀ f ∈ [robots, dottedRobots, indexPage],
      "" ∉ segments f.path ∧ ".." ∉ segments f.path := by decide
  apply checkAll_eq_ok _ hnodup
  exact fun f hf => isSafe_of_segments (hsegments f (h f hf)).1 (hsegments f (h f hf)).2

/-- Two files at different places leave one folder in both orders. -/
theorem writeAll_ordered_robots :
    checkAll [robots, indexPage] = .ok () ∧
      ([robots, indexPage].map fun f => resolve f.path).Nodup ∧
      ∃ after, writeAll [robots, indexPage] freshSite = (.ok (), after) ∧
        ∀ last, ReflTransGen Step ([robots, indexPage], freshSite) ([], last) → last = after := by
  have hmem : ∀ f ∈ [robots, indexPage], f ∈ [robots, dottedRobots, indexPage] := by decide
  have hplain : ∀ f ∈ [robots, indexPage], "" ∉ segments f.path ∧ "." ∉ segments f.path := by
    decide
  have hchecked := checkAll_of_mem hmem (by decide)
  obtain ⟨hdistinct, -⟩ := (writeAll_ordered hchecked).1 hplain
  obtain ⟨last, hput, -⟩ := Directory.putAll_of_fits (fits_freshSite hmem)
  have hrun := steps_of_putAll (of_checkAll_eq_ok hchecked).1 (List.Perm.refl _) hput
  obtain ⟨after, hwrite, -, hends⟩ := (writeAll_ordered hchecked).2 freshSite ⟨last, hrun⟩
  refine ⟨hchecked, hdistinct, after, hwrite, hends.2 ?_⟩
  intro f hf g hg hresolve
  exact congrArg File.bytes (List.inj_on_of_nodup_map hdistinct hf hg hresolve)

/-- One file may be named twice, with and without a dot, and the order of the two then decides
what the folder holds. -/
theorem robots_dottedRobots_race :
    checkAll [robots, dottedRobots] = .ok () ∧
      resolve robots.path = resolve dottedRobots.path ∧
      ∃ last last', ReflTransGen Step ([robots, dottedRobots], freshSite) ([], last) ∧
        ReflTransGen Step ([robots, dottedRobots], freshSite) ([], last') ∧ last ≠ last' := by
  have hmem : ∀ f ∈ [robots, dottedRobots], f ∈ [robots, dottedRobots, indexPage] := by decide
  have hchecked := checkAll_of_mem hmem (by decide)
  have hsafe := (of_checkAll_eq_ok hchecked).1
  have hfits := fits_freshSite hmem
  have hswap : [dottedRobots, robots].Perm [robots, dottedRobots] := List.Perm.swap _ _ _
  obtain ⟨last, hput, hlast⟩ := Directory.putAll_of_fits hfits
  obtain ⟨last', hput', hlast'⟩ := Directory.putAll_of_fits (hfits.perm hswap)
  refine ⟨hchecked, by decide, last, last', steps_of_putAll hsafe (List.Perm.refl _) hput,
    steps_of_putAll hsafe hswap hput', ?_⟩
  rintro rfl
  have hkey : Disk.fileKey (freshSite.way dottedRobots) = Disk.fileKey (freshSite.way robots) := by
    decide +kernel
  obtain ⟨executable, hnode⟩ := @Directory.Imprinted.last _ _ [robots] dottedRobots hlast
  obtain ⟨executable', hnode'⟩ := @Directory.Imprinted.last _ _ [dottedRobots] robots hlast'
  rw [hkey, hnode'] at hnode
  have hbytes : robots.bytes = dottedRobots.bytes := (Node.file.inj (Option.some.inj hnode)).1
  exact absurd hbytes (by decide +kernel)

end Portfolio.Storage
