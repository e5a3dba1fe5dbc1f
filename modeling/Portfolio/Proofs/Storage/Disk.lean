/-
Module: Portfolio.Proofs.Storage.Disk
Purpose: What one write does to a disk. A path leads through folders to a file; the disk takes
  the file exactly if there is room for all of them, and every key then holds what the path
  and the file say.
Main exports: Storage.resolve, Storage.Place.path_append_injective, Storage.Disk.HasRoom,
  Storage.Disk.Accepts, Storage.Disk.imprint, Storage.Disk.writeAt_of_accepts,
  Storage.Disk.accepts_of_writeAt, Storage.Disk.accepts_iff_of_imprint, Storage.Disk.imprint_comm
-/
import Portfolio.Proofs.SortedMap
import Portfolio.Proofs.Storage.Path
import Portfolio.Storage.Disk

namespace Portfolio.Storage

/-! ### Steps of a path -/

/-- The segments of a path that are steps. Empty segments and single dots are none. -/
def resolve (path : String) : List String :=
  (segments path).filter fun name => name != "" && name != "."

/-- A segment that is a step. -/
structure IsStep (name : String) : Prop where
  slash : '/' ∉ name.toList
  filled : name ≠ ""
  away : name ≠ "."

theorem slash_not_mem_of_mem_segments {path name : String} (h : name ∈ segments path) :
    '/' ∉ name.toList := by
  rw [segments, List.mem_map] at h
  obtain ⟨piece, hpiece, rfl⟩ := h
  rw [String.toList_ofList]
  intro hslash
  simpa using Naming.eq_false_of_mem_splitOnP path.toList piece hpiece '/' hslash

theorem mem_resolve {path name : String} :
    name ∈ resolve path ↔ name ∈ segments path ∧ IsStep name := by
  rw [resolve, List.mem_filter, Bool.and_eq_true, bne_iff_ne, bne_iff_ne]
  refine and_congr_right fun hmem => ?_
  exact ⟨fun h => ⟨slash_not_mem_of_mem_segments hmem, h.1, h.2⟩, fun h => ⟨h.filled, h.away⟩⟩

/-- A path without empty segments and single dots is resolved as it stands. -/
theorem resolve_eq_segments {path : String} (hfilled : "" ∉ segments path)
    (haway : "." ∉ segments path) : resolve path = segments path := by
  rw [resolve, List.filter_eq_self]
  intro name hname
  rw [Bool.and_eq_true, bne_iff_ne, bne_iff_ne]
  exact ⟨fun h => hfilled (h ▸ hname), fun h => haway (h ▸ hname)⟩

theorem resolve_append (front back : String) :
    resolve (front ++ "/" ++ back) = resolve front ++ resolve back := by
  rw [resolve, segments_append, List.filter_append]
  rfl

/-- The last segment of a path. -/
def lastSegment (path : String) : String := (segments path).getLast?.getD ""

theorem segments_eq_dropLast_concat (path : String) :
    segments path = (segments path).dropLast ++ [lastSegment path] := by
  rw [lastSegment, List.getLast?_eq_some_getLast (segments_ne_nil path), Option.getD_some,
    List.dropLast_concat_getLast]

theorem lastSegment_mem (path : String) : lastSegment path ∈ segments path := by
  rw [segments_eq_dropLast_concat]
  exact List.mem_concat_self

theorem lastSegment_append (front back : String) :
    lastSegment (front ++ "/" ++ back) = lastSegment back := by
  rw [lastSegment, segments_append, List.getLast?_append_of_ne_nil _ (segments_ne_nil back),
    lastSegment]

/-! ### Keys of places -/

namespace Place

theorem path_append {place : Place} (h : place ≠ []) (name : String) :
    path (place ++ [name]) = place.path ++ "/" ++ name := by
  induction place with
  | nil => exact absurd rfl h
  | cons first rest ih =>
      cases rest with
      | nil => rfl
      | cons second rest =>
          have hrest : String.intercalate "/" (second :: (rest ++ [name])) =
              String.intercalate "/" (second :: rest) ++ "/" ++ name := ih (List.cons_ne_nil _ _)
          rw [path, path, List.cons_append, List.cons_append, String.intercalate_cons_cons,
            String.intercalate_cons_cons, hrest]
          simp only [String.append_assoc]

/-- Names add their segments to the path of a place. -/
theorem segments_path_append {place : Place} (h : place ≠ []) {names : List String}
    (hnames : ∀ name ∈ names, '/' ∉ name.toList) :
    segments (path (place ++ names)) = segments place.path ++ names := by
  induction names generalizing place with
  | nil => rw [List.append_nil, List.append_nil]
  | cons name names ih =>
      rw [List.forall_mem_cons] at hnames
      have hinner : place ++ [name] ≠ [] :=
        List.append_ne_nil_of_right_ne_nil _ (List.cons_ne_nil _ _)
      rw [List.append_cons, ih hinner hnames.2, path_append h, segments_append,
        segments_of_not_mem hnames.1, List.append_assoc, List.singleton_append]

theorem segments_path {names : List String} (hne : names ≠ [])
    (hnames : ∀ name ∈ names, '/' ∉ name.toList) : segments (path names) = names := by
  obtain ⟨name, names, rfl⟩ := List.exists_cons_of_ne_nil hne
  rw [List.forall_mem_cons] at hnames
  have hpath : path [name] = name := rfl
  have h := segments_path_append (List.cons_ne_nil name []) hnames.2
  rw [hpath, segments_of_not_mem hnames.1] at h
  exact h

/-- Different ways from one place lead to different keys. -/
theorem path_append_injective {place : Place} {names names' : List String}
    (hne : names ≠ []) (hne' : names' ≠ []) (hnames : ∀ name ∈ names, '/' ∉ name.toList)
    (hnames' : ∀ name ∈ names', '/' ∉ name.toList)
    (h : path (place ++ names) = path (place ++ names')) : names = names' := by
  have hsegments := congrArg segments h
  by_cases hplace : place = []
  · rw [hplace, List.nil_append, List.nil_append, segments_path hne hnames,
      segments_path hne' hnames'] at hsegments
    exact hsegments
  · rw [segments_path_append hplace hnames, segments_path_append hplace hnames'] at hsegments
    exact List.append_cancel_left hsegments

theorem lastSegment_path {name : String} (h : '/' ∉ name.toList) (place : Place) :
    lastSegment (path (place ++ [name])) = name := by
  have hplain : ∀ n ∈ [name], '/' ∉ n.toList := List.forall_mem_singleton.2 h
  rw [lastSegment]
  by_cases hplace : place = []
  · rw [hplace, List.nil_append, segments_path (List.cons_ne_nil _ _) hplain]
    rfl
  · rw [segments_path_append hplace hplain, List.getLast?_concat]
    rfl

theorem isAbove_append {name : String} (hempty : name ≠ "") (hup : name ≠ "..")
    (place : Place) : isAbove (place ++ [name]) = false := by
  rw [isAbove, List.all_append, Bool.or_eq_false_iff]
  refine ⟨by simp [hup], ?_⟩
  rw [beq_eq_false_iff_ne]
  intro h
  obtain ⟨-, hname⟩ := List.append_inj' (h.trans (List.nil_append [""]).symm) rfl
  exact hempty (List.head_eq_of_cons_eq hname)

/-! ### Ways -/

/-- Where steps lead. -/
def arrival (place : Place) : List String → Place
  | [] => place
  | name :: names =>
      if name = ".." then arrival place.up names else arrival (place ++ [name]) names

/-- The keys of the folders that steps lead into. -/
def entered (place : Place) : List String → List String
  | [] => []
  | name :: names =>
      if name = ".." then entered place.up names
      else path (place ++ [name]) :: entered (place ++ [name]) names

theorem arrival_append (place : Place) (front back : List String) :
    arrival place (front ++ back) = arrival (arrival place front) back := by
  induction front generalizing place with
  | nil => rfl
  | cons name names ih =>
      rw [List.cons_append, arrival, arrival]
      split
      · exact ih place.up
      · exact ih (place ++ [name])

/-- Steps that never go up lead to the place of their names. -/
theorem arrival_eq_append {names : List String} (h : ".." ∉ names) (place : Place) :
    arrival place names = place ++ names := by
  induction names generalizing place with
  | nil => rw [arrival, List.append_nil]
  | cons name names ih =>
      rw [List.mem_cons, not_or] at h
      rw [arrival, if_neg (Ne.symm h.1), ih h.2, List.append_assoc, List.singleton_append]

end Place

namespace Disk

variable {disk disk' : Disk} {place : Place} {names : List String}

/-! ### Room -/

/-- Under a key there is room for a folder, or for a file: one stands there, or nothing does and
something of the name can be made. -/
def HasRoom (disk : Disk) (folder : Bool) (key : String) : Prop :=
  match disk.nodes.get? key with
  | some .folder => folder = true
  | some (.file ..) => folder = false
  | none => isName (lastSegment key) = true

theorem get?_set (disk : Disk) (place : Place) (node : Node) (key : String) :
    (disk.set place node).nodes.get? key =
      if key = place.path then some node else disk.nodes.get? key :=
  SortedMap.get?_insert disk.nodes place.path key node

/-- Making a folder where there is room for it leaves the room for folders as it was. -/
theorem hasRoom_set_folder (h : disk.HasRoom true place.path) (key : String) :
    (disk.set place .folder).HasRoom true key ↔ disk.HasRoom true key := by
  rw [HasRoom, get?_set]
  by_cases hkey : key = place.path
  · rw [if_pos hkey, hkey]
    exact iff_of_true rfl h
  · rw [if_neg hkey, HasRoom]

theorem node?_append {name : String} (hstep : IsStep name) (hup : name ≠ "..") (disk : Disk)
    (place : Place) :
    disk.node? (place ++ [name]) = disk.nodes.get? (Place.path (place ++ [name])) := by
  rw [node?, Place.isAbove_append hstep.filled hup, if_neg Bool.false_ne_true]

/-! ### Folders -/

theorem makeFolders_up (disk : Disk) (place : Place) (names : List String) :
    disk.makeFolders place (".." :: names) = disk.makeFolders place.up names := by
  rw [makeFolders, if_neg (by decide), if_pos rfl]

theorem set_folder_eq_self (h : disk.nodes.get? place.path = some .folder) :
    disk.set place .folder = disk := by
  have hnodes : (disk.set place .folder).nodes = disk.nodes := by
    apply SortedMap.ext_get?
    intro key
    rw [get?_set]
    split
    · next hkey => rw [hkey, h]
    · rfl
  exact congrArg Disk.mk hnodes

/-- A step down depends on what stands under the key of the name. -/
theorem makeFolders_down {name : String} (hstep : IsStep name) (hup : name ≠ "..") (disk : Disk)
    (place : Place) (names : List String) :
    disk.makeFolders place (name :: names) =
      match disk.nodes.get? (Place.path (place ++ [name])) with
      | some .folder => disk.makeFolders (place ++ [name]) names
      | some (.file ..) => (none, disk)
      | none =>
          if isName name then
            (disk.set (place ++ [name]) .folder).makeFolders (place ++ [name]) names
          else (none, disk) := by
  have hskip : ¬ (name = "" ∨ name = ".") := not_or.2 ⟨hstep.filled, hstep.away⟩
  rw [← node?_append hstep hup]
  exact (if_neg hskip).trans (if_neg hup)

/-- A step down leaves a folder where there is room for one. -/
theorem makeFolders_into {name : String} (hstep : IsStep name) (hup : name ≠ "..")
    (hroom : disk.HasRoom true (Place.path (place ++ [name]))) (names : List String) :
    disk.makeFolders place (name :: names) =
      (disk.set (place ++ [name]) .folder).makeFolders (place ++ [name]) names := by
  rw [makeFolders_down hstep hup]
  rw [HasRoom, Place.lastSegment_path hstep.slash] at hroom
  cases hnode : disk.nodes.get? (Place.path (place ++ [name])) with
  | none =>
      rw [hnode] at hroom
      exact if_pos hroom
  | some node =>
      rw [hnode] at hroom
      cases node with
      | folder => rw [set_folder_eq_self hnode]
      | file bytes executable => cases hroom

/-- A step down where there is no room for a folder fails. -/
theorem makeFolders_blocked {name : String} (hstep : IsStep name) (hup : name ≠ "..")
    (hroom : ¬ disk.HasRoom true (Place.path (place ++ [name]))) (names : List String) :
    disk.makeFolders place (name :: names) = (none, disk) := by
  rw [makeFolders_down hstep hup]
  rw [HasRoom, Place.lastSegment_path hstep.slash] at hroom
  cases hnode : disk.nodes.get? (Place.path (place ++ [name])) with
  | none =>
      rw [hnode] at hroom
      exact if_neg hroom
  | some node =>
      rw [hnode] at hroom
      cases node with
      | folder => exact absurd rfl hroom
      | file bytes executable => rfl

/-- Where there is room for all of them, the folders on a way are made. -/
theorem makeFolders_of_hasRoom (hnames : ∀ name ∈ names, IsStep name)
    (hroom : ∀ key ∈ place.entered names, disk.HasRoom true key) :
    ∃ disk', disk.makeFolders place names = (some (place.arrival names), disk') ∧
      ∀ key, disk'.nodes.get? key =
        if key ∈ place.entered names then some .folder else disk.nodes.get? key := by
  induction names generalizing place disk with
  | nil => exact ⟨disk, rfl, fun key => by rw [Place.entered, if_neg List.not_mem_nil]⟩
  | cons name names ih =>
      rw [List.forall_mem_cons] at hnames
      rw [Place.arrival]
      rw [Place.entered] at hroom ⊢
      by_cases hup : name = ".."
      · rw [if_pos hup] at hroom ⊢
        rw [if_pos hup, hup, makeFolders_up]
        exact ih hnames.2 hroom
      · rw [if_neg hup, List.forall_mem_cons] at hroom
        rw [if_neg hup, if_neg hup, makeFolders_into hnames.1 hup hroom.1]
        have hrest : ∀ key ∈ Place.entered (place ++ [name]) names,
            (disk.set (place ++ [name]) .folder).HasRoom true key :=
          fun key hkey => (hasRoom_set_folder hroom.1 key).2 (hroom.2 key hkey)
        obtain ⟨disk', hmade, hnodes⟩ := ih hnames.2 hrest
        refine ⟨disk', hmade, fun key => ?_⟩
        rw [hnodes, get?_set]
        simp only [List.mem_cons]
        by_cases hkey : key = Place.path (place ++ [name])
        · simp [hkey]
        · simp [hkey]

/-- Folders are made only on a way with room for all of them. -/
theorem hasRoom_of_makeFolders (hnames : ∀ name ∈ names, IsStep name) {last : Place}
    (h : disk.makeFolders place names = (some last, disk')) :
    ∀ key ∈ place.entered names, disk.HasRoom true key := by
  induction names generalizing place disk with
  | nil => exact fun key hkey => absurd hkey List.not_mem_nil
  | cons name names ih =>
      rw [List.forall_mem_cons] at hnames
      rw [Place.entered]
      by_cases hup : name = ".."
      · rw [if_pos hup]
        rw [hup, makeFolders_up] at h
        exact ih hnames.2 h
      · rw [if_neg hup, List.forall_mem_cons]
        by_cases hroom : disk.HasRoom true (Place.path (place ++ [name]))
        · rw [makeFolders_into hnames.1 hup hroom] at h
          exact ⟨hroom, fun key hkey =>
            (hasRoom_set_folder hroom key).1 (ih hnames.2 h key hkey)⟩
        · rw [makeFolders_blocked hnames.1 hup hroom] at h
          cases h

/-! ### Files -/

/-- The keys of the folders that a path leads through. -/
def folderKeys (path : String) : List String := (start path).entered (splitLast path).1

/-- The place of the file that a path leads to. -/
def filePlace (path : String) : Place :=
  (start path).arrival (splitLast path).1 ++ [lastSegment path]

/-- The key of the file that a path leads to. -/
def fileKey (path : String) : String := (filePlace path).path

/-- A disk takes a file at a path: the path ends in a name, and there is room for the folders
and, apart from these, for the file. -/
structure Accepts (disk : Disk) (path : String) : Prop where
  named : (splitLast path).2 ≠ none
  folders : ∀ key ∈ folderKeys path, disk.HasRoom true key
  file : disk.HasRoom false (fileKey path)
  apart : fileKey path ∉ folderKeys path

/-- What stands there is a file that can be run. -/
def isExecutable : Option Node → Bool
  | some (.file _ executable) => executable
  | _ => false

/-- What stands under a key when a file has been written at a path. A file that could be run
before can be run after. -/
def imprint (path : String) (file : File) (key : String) (before : Option Node) : Option Node :=
  if key = fileKey path then
    some (.file file.bytes (isExecutable before || file.executable))
  else if key ∈ folderKeys path then some .folder
  else before

/-- What has a name at the end does not end in an empty segment or in dots. -/
theorem splitLast_named {path : String} (h : (splitLast path).2 ≠ none) :
    (splitLast path).2 = some (lastSegment path) ∧ IsStep (lastSegment path) ∧
      lastSegment path ≠ ".." := by
  have hlast : (splitLast path).2 =
      if lastSegment path = "" ∨ lastSegment path = "." ∨ lastSegment path = ".." then none
      else some (lastSegment path) := rfl
  rw [hlast] at h ⊢
  split at h
  · exact absurd rfl h
  · next hdots =>
      rw [not_or, not_or] at hdots
      have hslash := slash_not_mem_of_mem_segments (lastSegment_mem path)
      exact ⟨if_neg (by simpa using hdots), ⟨hslash, hdots.1, hdots.2.1⟩, hdots.2.2⟩

theorem isStep_of_mem_splitLast {path name : String} (h : name ∈ (splitLast path).1) :
    IsStep name :=
  (mem_resolve.1 (List.dropLast_subset _ h)).2

/-- A path with a name at the end leads where its steps lead. -/
theorem resolve_of_named {path : String} (h : (splitLast path).2 ≠ none) :
    resolve path = (splitLast path).1 ++ [lastSegment path] := by
  obtain ⟨-, hstep, -⟩ := splitLast_named h
  have hresolve : resolve path =
      (segments path).dropLast.filter (fun name => name != "" && name != ".") ++
        [lastSegment path] := by
    rw [resolve, segments_eq_dropLast_concat, List.filter_append, List.dropLast_concat]
    simp [hstep.filled, hstep.away]
  have hfolders : (splitLast path).1 = (resolve path).dropLast := rfl
  rw [hfolders, hresolve, List.dropLast_concat]

theorem fileKey_of_named {path : String} (h : (splitLast path).2 ≠ none) :
    fileKey path = Place.path ((start path).arrival (resolve path)) := by
  have hup : ".." ∉ [lastSegment path] := by
    rw [List.mem_singleton]
    exact (splitLast_named h).2.2.symm
  rw [resolve_of_named h, Place.arrival_append, Place.arrival_eq_append hup, fileKey, filePlace]

theorem lastSegment_fileKey {path : String} (h : (splitLast path).2 ≠ none) :
    lastSegment (fileKey path) = lastSegment path :=
  Place.lastSegment_path (splitLast_named h).2.1.slash _

section Writing

variable {path : String} {made : Disk}

/-- When the folders are made, a write depends on what stands under the key of the file. -/
theorem writeAt_of_made (hnamed : (splitLast path).2 ≠ none)
    (hmade : disk.makeFolders (start path) (splitLast path).1 =
      (some ((start path).arrival (splitLast path).1), made)) (file : File) :
    writeAt path file disk =
      match made.nodes.get? (fileKey path) with
      | some .folder => (.error (.blocked path), made)
      | some (.file _ executable) =>
          (.ok (), made.set (filePlace path) (.file file.bytes (executable || file.executable)))
      | none =>
          if isName (lastSegment path) then
            (.ok (), made.set (filePlace path) (.file file.bytes file.executable))
          else (.error (.blocked path), made) := by
  obtain ⟨hlast, hstep, hup⟩ := splitLast_named hnamed
  rw [writeAt]
  dsimp only
  rw [hmade, hlast]
  dsimp only
  rw [node?_append hstep hup]
  rfl

/-- The file is written where there is room for it. -/
theorem writeAt_into (hnamed : (splitLast path).2 ≠ none)
    (hmade : disk.makeFolders (start path) (splitLast path).1 =
      (some ((start path).arrival (splitLast path).1), made))
    (hroom : made.HasRoom false (fileKey path)) (file : File) :
    writeAt path file disk =
      (.ok (), made.set (filePlace path) (.file file.bytes
        (isExecutable (made.nodes.get? (fileKey path)) || file.executable))) := by
  rw [writeAt_of_made hnamed hmade]
  rw [HasRoom, lastSegment_fileKey hnamed] at hroom
  cases hnode : made.nodes.get? (fileKey path) with
  | none =>
      rw [hnode] at hroom
      exact if_pos hroom
  | some node =>
      rw [hnode] at hroom
      cases node with
      | folder => cases hroom
      | file bytes executable => rfl

/-- A write that succeeds has had room for the file. -/
theorem hasRoom_of_writeAt {file : File} (hnamed : (splitLast path).2 ≠ none)
    (hmade : disk.makeFolders (start path) (splitLast path).1 =
      (some ((start path).arrival (splitLast path).1), made))
    (h : writeAt path file disk = (.ok (), disk')) : made.HasRoom false (fileKey path) := by
  rw [writeAt_of_made hnamed hmade] at h
  rw [HasRoom, lastSegment_fileKey hnamed]
  cases hnode : made.nodes.get? (fileKey path) with
  | none =>
      rw [hnode] at h
      by_contra hname
      rw [if_neg hname] at h
      cases h
  | some node =>
      rw [hnode] at h
      cases node with
      | folder => cases h
      | file bytes executable => rfl

/-- When the folders of a path are made, there is room for its file if there was before and the
file is apart from them. -/
theorem hasRoom_iff_of_made
    (hnodes : ∀ key, made.nodes.get? key =
      if key ∈ folderKeys path then some .folder else disk.nodes.get? key) :
    made.HasRoom false (fileKey path) ↔
      fileKey path ∉ folderKeys path ∧ disk.HasRoom false (fileKey path) := by
  rw [HasRoom, hnodes]
  by_cases hkey : fileKey path ∈ folderKeys path
  · rw [if_pos hkey]
    exact iff_of_false Bool.noConfusion fun h => h.1 hkey
  · rw [if_neg hkey]
    exact (and_iff_right hkey).symm

/-- A disk that takes a file holds it afterwards, and its folders. -/
theorem writeAt_of_accepts (h : disk.Accepts path) (file : File) :
    ∃ disk', writeAt path file disk = (.ok (), disk') ∧
      ∀ key, disk'.nodes.get? key = imprint path file key (disk.nodes.get? key) := by
  obtain ⟨made, hmade, hnodes⟩ :=
    makeFolders_of_hasRoom (fun _ => isStep_of_mem_splitLast) h.folders
  rw [← folderKeys] at hnodes
  have hroom := (hasRoom_iff_of_made hnodes).2 ⟨h.apart, h.file⟩
  refine ⟨_, writeAt_into h.named hmade hroom file, fun key => ?_⟩
  rw [get?_set, hnodes, if_neg h.apart, hnodes, imprint, fileKey]
  by_cases hkey : key = (filePlace path).path
  · rw [if_pos hkey, if_pos hkey, hkey]
  · rw [if_neg hkey, if_neg hkey]

/-- Only a disk that takes a file is written. -/
theorem accepts_of_writeAt {file : File} (h : writeAt path file disk = (.ok (), disk')) :
    disk.Accepts path := by
  have hwrite := h
  rw [writeAt] at hwrite
  dsimp only at hwrite
  cases hmade : disk.makeFolders (start path) (splitLast path).1 with
  | mk folder made =>
      rw [hmade] at hwrite
      cases folder with
      | none => cases hwrite
      | some folder =>
          have hfolders := hasRoom_of_makeFolders (fun _ => isStep_of_mem_splitLast) hmade
          obtain ⟨made', hmade', hnodes⟩ :=
            makeFolders_of_hasRoom (fun _ => isStep_of_mem_splitLast) hfolders
          cases hmade.symm.trans hmade'
          have hnamed : (splitLast path).2 ≠ none := by
            intro hnone
            rw [hnone] at hwrite
            cases hwrite
          obtain ⟨hapart, hfile⟩ :=
            (hasRoom_iff_of_made hnodes).1 (hasRoom_of_writeAt hnamed hmade h)
          exact ⟨hnamed, hfolders, hfile, hapart⟩

end Writing

/-! ### Two writes -/

/-- Neither of two paths leads through the file of the other. -/
def Apart (path path' : String) : Prop :=
  fileKey path ∉ folderKeys path' ∧ fileKey path' ∉ folderKeys path

theorem Apart.symm {path path' : String} (h : Apart path path') : Apart path' path := And.symm h

/-- A write takes the room for folders from the key of its file, and the room for files from the
keys of its folders. -/
theorem hasRoom_iff_of_imprint {path : String} {file : File} (h : disk.Accepts path)
    (hafter : ∀ key, disk'.nodes.get? key = imprint path file key (disk.nodes.get? key))
    (folder : Bool) (key : String) :
    disk'.HasRoom folder key ↔
      disk.HasRoom folder key ∧ (key = fileKey path → folder = false) ∧
        (key ∈ folderKeys path → folder = true) := by
  rw [HasRoom, hafter, imprint]
  by_cases hfile : key = fileKey path
  · rw [if_pos hfile, hfile]
    constructor
    · rintro rfl
      exact ⟨h.file, fun _ => rfl, fun hmem => absurd hmem h.apart⟩
    · rintro ⟨-, hkind, -⟩
      exact hkind rfl
  · rw [if_neg hfile]
    by_cases hfolder : key ∈ folderKeys path
    · rw [if_pos hfolder]
      constructor
      · rintro rfl
        exact ⟨h.folders key hfolder, fun heq => absurd heq hfile, fun _ => rfl⟩
      · rintro ⟨-, -, hkind⟩
        exact hkind hfolder
    · rw [if_neg hfolder]
      exact (and_iff_left ⟨fun heq => absurd heq hfile, fun hmem => absurd hmem hfolder⟩).symm

/-- After a write a disk takes those files that it took before and that are apart from it. -/
theorem accepts_iff_of_imprint {path : String} {file : File} (h : disk.Accepts path)
    (hafter : ∀ key, disk'.nodes.get? key = imprint path file key (disk.nodes.get? key))
    (path' : String) : disk'.Accepts path' ↔ disk.Accepts path' ∧ Apart path path' := by
  have hroom := hasRoom_iff_of_imprint h hafter
  constructor
  · intro h'
    refine ⟨⟨h'.named, fun key hkey => ((hroom true key).1 (h'.folders key hkey)).1,
      ((hroom false _).1 h'.file).1, h'.apart⟩, fun hmem => ?_, fun hmem => ?_⟩
    · cases ((hroom true _).1 (h'.folders _ hmem)).2.1 rfl
    · cases ((hroom false _).1 h'.file).2.2 hmem
  · rintro ⟨h', hapart⟩
    refine ⟨h'.named, fun key hkey => ?_, ?_, h'.apart⟩
    · exact (hroom true key).2
        ⟨h'.folders key hkey, fun heq => absurd (heq ▸ hkey) hapart.1, fun _ => rfl⟩
    · exact (hroom false _).2 ⟨h'.file, fun _ => rfl, fun hmem => absurd hmem hapart.2⟩

/-- The order of two writes matters only for files of different bytes under one key. -/
theorem imprint_comm {path path' : String} {file file' : File} (hapart : Apart path path')
    (hbytes : fileKey path = fileKey path' → file.bytes = file'.bytes) (key : String)
    (before : Option Node) :
    imprint path file key (imprint path' file' key before) =
      imprint path' file' key (imprint path file key before) := by
  by_cases hfile : key = fileKey path
  · subst hfile
    by_cases hfile' : fileKey path = fileKey path'
    · simp [imprint, hfile', hbytes hfile', isExecutable, Bool.or_right_comm]
    · simp [imprint, hfile', hapart.1]
  · by_cases hfile' : key = fileKey path'
    · subst hfile'
      simp [imprint, hfile, hapart.2]
    · simp only [imprint, if_neg hfile, if_neg hfile']
      split
      · simp
      · rfl

end Disk

end Portfolio.Storage
