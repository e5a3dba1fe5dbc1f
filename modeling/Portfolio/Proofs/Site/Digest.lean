/-
Module: Portfolio.Proofs.Site.Digest
Purpose: What the digest of a site tells apart. A zero byte closes every path and every body, so
  the bytes that are hashed fix the pieces between zero bytes and nothing more: files without
  zero bytes are told apart, and a body with zero bytes can pass for several files.
Main exports: Site.Manifest.contents, Site.Manifest.digestBytes_eq_iff_pieces,
  Site.Manifest.digest_identifies_zeroFree, Site.Manifest.digest_hides_page
-/
import Portfolio.Proofs.Site.Build

namespace Portfolio

theorem utf8Bytes_injective : Function.Injective utf8Bytes := by
  intro s t h
  have harray : s.toUTF8.data = t.toUTF8.data := Array.toList_inj.1 h
  exact String.toByteArray_inj.1 (ByteArray.ext harray)

namespace Site.Manifest

/-- What the files of a site are, to a reader: their paths and the bytes of their bodies, in
order. -/
def contents (files : List File) : List (String × List UInt8) :=
  files.map fun f => (f.path, f.bytes)

/-- The paths and bodies cut at their zero bytes, in order. -/
def pieces (files : List File) : List (List UInt8) :=
  files.flatMap fun f => (utf8Bytes f.path).splitOn 0 ++ f.bytes.splitOn 0

/-- No path and no body has a zero byte. -/
def ZeroFree (files : List File) : Prop :=
  ∀ f ∈ files, (0 : UInt8) ∉ utf8Bytes f.path ∧ (0 : UInt8) ∉ f.bytes

instance (files : List File) : Decidable (ZeroFree files) :=
  inferInstanceAs (Decidable (∀ f ∈ files, _ ∧ _))

theorem pieces_cons (f : File) (fs : List File) :
    pieces (f :: fs) = (utf8Bytes f.path).splitOn 0 ++ f.bytes.splitOn 0 ++ pieces fs := rfl

theorem digestBytes_append (files more : List File) :
    digestBytes (files ++ more) = digestBytes files ++ digestBytes more :=
  List.flatMap_append

theorem digestBytes_cons (f : File) (fs : List File) :
    digestBytes (f :: fs) = utf8Bytes f.path ++ 0 :: (f.bytes ++ 0 :: digestBytes fs) := by
  simp [digestBytes]

/-- The bytes cut at the zeros are the pieces, and an empty one behind the last zero. -/
theorem splitOn_digestBytes (files : List File) :
    (digestBytes files).splitOn 0 = pieces files ++ [[]] := by
  induction files with
  | nil => rfl
  | cons f fs ih =>
      rw [digestBytes_cons, List.splitOn_append_cons_self, List.splitOn_append_cons_self, ih,
        pieces_cons, List.append_assoc, List.append_assoc]

/-- The bytes that are hashed are the same exactly if the pieces are. -/
theorem digestBytes_eq_iff_pieces {files files' : List File} :
    digestBytes files = digestBytes files' ↔ pieces files = pieces files' := by
  constructor
  · intro h
    have hsplit := congrArg (List.splitOn 0) h
    rw [splitOn_digestBytes, splitOn_digestBytes] at hsplit
    exact List.append_cancel_right hsplit
  · intro h
    have hsplit : (digestBytes files).splitOn 0 = (digestBytes files').splitOn 0 := by
      rw [splitOn_digestBytes, splitOn_digestBytes, h]
    have hjoin := congrArg (List.intercalate [(0 : UInt8)]) hsplit
    rwa [List.intercalate_splitOn, List.intercalate_splitOn] at hjoin

/-- Without zero bytes the pieces are the paths and the bodies. -/
theorem pieces_of_zeroFree {files : List File} (h : ZeroFree files) :
    pieces files = files.flatMap fun f => [utf8Bytes f.path, f.bytes] := by
  induction files with
  | nil => rfl
  | cons f fs ih =>
      obtain ⟨hfirst, hrest⟩ := List.forall_mem_cons.1 h
      rw [pieces_cons, List.splitOn_eq_singleton hfirst.1, List.splitOn_eq_singleton hfirst.2,
        ih hrest, List.flatMap_cons]
      rfl

/-- Paths and bodies one after the other tell which path goes with which body. -/
theorem contents_eq_of_flatMap_eq :
    ∀ {files files' : List File},
      (files.flatMap fun f => [utf8Bytes f.path, f.bytes]) =
        (files'.flatMap fun f => [utf8Bytes f.path, f.bytes]) → contents files = contents files'
  | [], [], _ => rfl
  | [], _ :: _, h => by cases h
  | _ :: _, [], h => by cases h
  | f :: fs, f' :: fs', h => by
      rw [List.flatMap_cons, List.flatMap_cons] at h
      obtain ⟨hpath, hrest⟩ := List.cons_eq_cons.1 h
      obtain ⟨hbody, hrest⟩ := List.cons_eq_cons.1 hrest
      have hcontents : contents fs = contents fs' := contents_eq_of_flatMap_eq hrest
      rw [contents, List.map_cons, utf8Bytes_injective hpath, hbody, ← contents, hcontents]
      rfl

/-- The bytes that are hashed fix the paths and bodies cut at their zero bytes, and only these.
So they tell lists of files apart whose paths and bodies have no zero byte. -/
theorem digest_identifies_zeroFree (m m' : Manifest) :
    (digestBytes m.files = digestBytes m'.files ↔ pieces m.files = pieces m'.files) ∧
      (ZeroFree m.files → ZeroFree m'.files → digestBytes m.files = digestBytes m'.files →
        contents m.files = contents m'.files) := by
  refine ⟨digestBytes_eq_iff_pieces, fun h h' hbytes => ?_⟩
  rw [digestBytes_eq_iff_pieces, pieces_of_zeroFree h, pieces_of_zeroFree h'] at hbytes
  exact contents_eq_of_flatMap_eq hbytes

/-- A text and its bytes are hashed alike, and exchanged bodies are not. -/
theorem digest_identifies_zeroFree_texts :
    contents [.ofText "a" "x"] = contents [{ path := "a", body := .binary [120] }] ∧
      digestBytes [.ofText "a" "x", .ofText "b" "y"] ≠
        digestBytes [.ofText "a" "y", .ofText "b" "x"] := by
  constructor
  · exact (digest_identifies_zeroFree { files := [.ofText "a" "x"] }
      { files := [{ path := "a", body := .binary [120] }] }).2
      (by decide) (by decide) (by decide)
  · intro h
    have hcontents := (digest_identifies_zeroFree
      { files := [.ofText "a" "x", .ofText "b" "y"] }
      { files := [.ofText "a" "y", .ofText "b" "x"] }).2
      (by decide) (by decide) h
    revert hcontents
    decide

/-! ### A page hidden in another -/

/-- Notes have one field, which is written in lines of its own. -/
def noteSchema : Schema :=
  { entities := [{
      id := "note", name := "Note", pluralName := "Notes"
      fields := [.named "body" .markdown []] }] }

def noteSettings : Config := { content := { includeMetadata := false } }

/-- A site with these notes. -/
def noteInput (notes : List Item) : Input :=
  { schema := noteSchema, content := some { content := .ofList [("note", notes)] } }

/-- The files of the notes themselves. -/
def noteFiles (notes : List Item) : List File :=
  (ContentPart.ofItems noteSettings.content noteSchema (contentOf (noteInput notes))).files

def twoNotes : List Item :=
  [{ id := "a", fields := .ofList [("body", .text "x")] }, { id := "b" }]

/-- The first of the two notes, with the record of the second behind its own. -/
def nestedNote : List Item :=
  [{ id := "a"
     fields := .ofList [("body", .text "x\n\x00content/notes/_drafts/b/note.txt\x00Title: b")] }]

/-- The files around the notes do not depend on them. -/
theorem siteFiles_noteInput : ∃ front back, ∀ notes,
    siteFiles noteSettings (noteInput notes) = front ++ noteFiles notes ++ back := by
  let schema := SchemaPart.ofSchema noteSettings noteSchema
  refine ⟨Scaffold.files noteSettings.site ++ schema.blueprints,
    schema.templates ++ (ThemePart.ofDesign noteSettings.theme {}).files, fun notes => ?_⟩
  exact List.append_assoc _ _ _

/-- Two sites with the same digest: in the first the second note has a file of its own, in the
other it stands inside the file of the first note. -/
theorem digest_hides_page :
    ∃ m m', build noteSettings (noteInput twoNotes) = .ok m ∧
      build noteSettings (noteInput nestedNote) = .ok m' ∧
      digestBytes m.files = digestBytes m'.files ∧ contents m.files ≠ contents m'.files := by
  have hvalid : (Validation.report noteSchema).valid = true := by decide +kernel
  obtain ⟨front, back, hfiles⟩ := siteFiles_noteInput
  refine ⟨_, _, build_of_valid hvalid, build_of_valid hvalid, ?_, ?_⟩
  · have hnotes : digestBytes (noteFiles twoNotes) = digestBytes (noteFiles nestedNote) := by
      decide +kernel
    change digestBytes (siteFiles _ _) = digestBytes (siteFiles _ _)
    rw [hfiles, hfiles, digestBytes_append, digestBytes_append front, hnotes,
      ← digestBytes_append front, ← digestBytes_append]
  · -- The first site has one file more.
    change contents (siteFiles _ _) ≠ contents (siteFiles _ _)
    intro hcontents
    have htwo : (noteFiles twoNotes).length = 2 := by decide +kernel
    have hone : (noteFiles nestedNote).length = 1 := by decide +kernel
    have hlength := congrArg List.length hcontents
    simp only [contents, hfiles, List.length_map, List.length_append, htwo, hone] at hlength
    omega

end Site.Manifest

end Portfolio
