/-
Module: Portfolio.Proofs.Document.Shape
Purpose: Reading documents with named members: when the order of the entries makes no
  difference, and what a reader depends on.
Main exports: Document.Shape.Sound, Document.Shape.foldlM_readEntry_eq_ok_iff,
  Document.Shape.Sound.pairwise_stepsCommute, Document.Shape.foldlM_eq_ok_iff_of_perm,
  Document.Shape.read_congr
-/
import Mathlib.Data.List.Pairwise
import Portfolio.Document.Shape
import Portfolio.Proofs.Document.Codec

namespace Portfolio.Document

open Codec (bind_eq_ok_iff map_eq_ok_iff presentIn_none)

variable {τ α β : Type}

/-! ### Reading a member -/

/-- Reads a part of a document and sets it. -/
def assign (parse : τ → Except Failure β) (set : β → α → α) (tree : τ) (x : α) :
    Except Failure α :=
  (parse tree).map fun y => set y x

/-- Reads a part that may be null. -/
def orNull (parse : Value → Except Failure β) (tree : Value) : Except Failure (Option β) :=
  if tree.isNull then .ok none else (parse tree).map some

/-- Only what is not null is read. -/
theorem orNull_presentIn {codec : Codec Value β}
    (h : ∀ tree y, tree.isNull = false → codec.read tree = .ok y → codec.Present y)
    (tree : Value) (part : Option β) (hread : orNull codec.read tree = .ok part) :
    codec.PresentIn part := by
  cases hnull : tree.isNull with
  | true =>
      rw [orNull, if_pos hnull] at hread
      cases hread
      exact presentIn_none
  | false =>
      rw [orNull, if_neg (by simp [hnull])] at hread
      obtain ⟨y, hy, rfl⟩ := map_eq_ok_iff.1 hread
      intro y' hy'
      cases hy'
      exact h tree y hnull hy

namespace Member

variable {name : String} {codec : Codec τ β} {get : α → β} {set : β → α → α}

@[simp] theorem read_needed : (needed name codec get set).read = assign codec.read set := rfl

@[simp] theorem read_defaulted : (defaulted name codec get set).read = assign codec.read set := rfl

@[simp] theorem read_listed {codec : Codec τ (List β)} {get : α → List β}
    {set : List β → α → α} : (listed name codec get set).read = assign codec.read set := rfl

@[simp] theorem read_optional {codec : Codec Value β} {get : α → Option β}
    {set : Option β → α → α} :
    (optional name codec get set).read = assign (orNull codec.read) set := by
  funext tree x
  cases hnull : tree.isNull with
  | true => simp [optional, assign, orNull, hnull, Except.map]
  | false =>
      cases hread : codec.read tree with
      | error _ => simp [optional, assign, orNull, hnull, hread, Except.map]
      | ok y => simp [optional, assign, orNull, hnull, hread, Except.map]

@[simp] theorem read_alsoNamed (other : String) (m : Member τ α) :
    (m.alsoNamed other).read = m.read := rfl

/-- The entry that a member writes of a document, if any. -/
def writtenEntry (m : Member τ α) (x : α) : Option (String × τ) :=
  (m.write x).map fun tree => (m.name, tree)

@[simp] theorem writtenEntry_needed (x : α) :
    (needed name codec get set).writtenEntry x = some (name, codec.write (get x)) := rfl

@[simp] theorem writtenEntry_defaulted (x : α) :
    (defaulted name codec get set).writtenEntry x = some (name, codec.write (get x)) := rfl

@[simp] theorem writtenEntry_listed {codec : Codec τ (List β)} {get : α → List β}
    {set : List β → α → α} (x : α) : (listed name codec get set).writtenEntry x =
      if (get x).isEmpty then none else some (name, codec.write (get x)) := by
  rw [writtenEntry, listed, apply_ite (Option.map _)]
  rfl

@[simp] theorem writtenEntry_optional {codec : Codec Value β} {get : α → Option β}
    {set : Option β → α → α} (x : α) :
    (optional name codec get set).writtenEntry x = (get x).map fun v => (name, codec.write v) := by
  rw [writtenEntry, optional, Option.map_map]
  rfl

/-- The entries that members write of a document. -/
def writtenEntries (ms : List (Member τ α)) (x : α) : List (String × τ) :=
  ms.filterMap (·.writtenEntry x)

theorem keys_writtenEntries_sublist (ms : List (Member τ α)) (x : α) :
    ((writtenEntries ms x).map (·.1)).Sublist (ms.map (·.name)) := by
  induction ms with
  | nil => exact List.Sublist.refl _
  | cons m ms ih =>
      rw [writtenEntries, List.filterMap_cons, writtenEntry]
      cases hwrite : m.write x with
      | none => exact ih.cons _
      | some tree => exact ih.cons_cons _

theorem names_sublist (ms : List (Member τ α)) :
    (ms.map (·.name)).Sublist (ms.flatMap fun m => m.name :: m.aliases) := by
  induction ms with
  | nil => exact List.Sublist.refl _
  | cons m ms ih =>
      rw [List.map_cons, List.flatMap_cons, List.cons_append]
      exact (ih.trans (List.sublist_append_right _ _)).cons_cons _

end Member

/-- Two readers of parts that do not overlap: it makes no difference which is run first. -/
def ReadsCommute (read read' : τ → α → Except Failure α) : Prop :=
  ∀ tree tree' x,
    (read tree x >>= read' tree').toOption = (read' tree' x >>= read tree).toOption

@[simp] theorem readsCommute_assign {γ : Type} {parse : τ → Except Failure β}
    {parse' : τ → Except Failure γ} {set : β → α → α} {set' : γ → α → α}
    (h : ∀ y y' x, set' y' (set y x) = set y (set' y' x)) :
    ReadsCommute (assign parse set) (assign parse' set') := by
  intro tree tree' x
  rw [assign, assign]
  cases hparse : parse tree with
  | error _ =>
      cases hparse' : parse' tree' with
      | error _ => rfl
      | ok y' => simp [bind, Except.bind, Except.map, assign, hparse, Except.toOption]
  | ok y =>
      cases hparse' : parse' tree' with
      | error _ => simp [bind, Except.bind, Except.map, assign, hparse', Except.toOption]
      | ok y' => simp [bind, Except.bind, Except.map, assign, hparse, hparse', h]

/-! ### Sound shapes -/

namespace Shape

theorem mem_entries_iff {shape : Shape τ α} {x : α} {entry : String × τ} :
    entry ∈ shape.entries x ↔ some entry ∈ shape.members.map (·.writtenEntry x) := by
  rw [List.mem_map]
  exact List.mem_filterMap

/-- Every entry of a document is written by a member, under its name. -/
theorem exists_member_of_mem_entries {shape : Shape τ α} {x : α} {e : String × τ}
    (he : e ∈ shape.entries x) : ∃ m ∈ shape.members, m.name = e.1 ∧ m.write x = some e.2 := by
  obtain ⟨m, hm, hwritten⟩ := List.mem_filterMap.1 he
  obtain ⟨tree, hwrite, rfl⟩ := Option.map_eq_some_iff.1 hwritten
  exact ⟨m, hm, rfl, hwrite⟩

/-- Members that write the same, one by one, write the same document. -/
theorem write_congr {shape : Shape Value α} {shape' : Shape Value β} {x : α} {x' : β}
    (h : shape.members.map (·.writtenEntry x) = shape'.members.map (·.writtenEntry x')) :
    shape.codec.write x = shape'.codec.write x' := by
  have hentries := congrArg (List.filterMap id) h
  rw [List.filterMap_map, List.filterMap_map] at hentries
  exact congrArg Value.map hentries

/-- No two members have a name in common, or overlap. -/
structure Sound (shape : Shape τ α) : Prop where
  names_distinct : (shape.members.flatMap fun m => m.name :: m.aliases).Nodup
  members_commute : shape.members.Pairwise fun m m' => ReadsCommute m.read m'.read

theorem answersTo_iff {m : Member τ α} {key : String} :
    m.answersTo key = true ↔ key ∈ m.name :: m.aliases := by
  simp [Member.answersTo]

theorem find?_answersTo {ms : List (Member τ α)}
    (h : (ms.flatMap fun m => m.name :: m.aliases).Nodup) {m : Member τ α} (hm : m ∈ ms) :
    ms.find? (·.answersTo m.name) = some m := by
  induction ms with
  | nil => exact absurd hm List.not_mem_nil
  | cons first rest ih =>
      rw [List.flatMap_cons, List.nodup_append] at h
      obtain ⟨-, hrest, hapart⟩ := h
      rcases List.mem_cons.1 hm with rfl | hm
      · exact List.find?_cons_of_pos (answersTo_iff.2 List.mem_cons_self)
      · have hname : m.name ∈ rest.flatMap fun m => m.name :: m.aliases :=
          List.mem_flatMap.2 ⟨m, hm, List.mem_cons_self⟩
        rw [List.find?_cons_of_neg, ih hrest hm]
        intro hanswers
        exact hapart m.name (answersTo_iff.1 hanswers) m.name hname rfl

/-- A member of a sound shape is found by its name. -/
theorem Sound.find?_name {shape : Shape τ α} (h : shape.Sound) {m : Member τ α}
    (hm : m ∈ shape.members) : shape.members.find? (·.answersTo m.name) = some m :=
  find?_answersTo h.names_distinct hm

/-- No two entries of a sound shape have the same key. -/
theorem Sound.nodup_keys {shape : Shape τ α} (h : shape.Sound) (x : α) :
    ((shape.entries x).map (·.1)).Nodup :=
  h.names_distinct.sublist
    ((Member.keys_writtenEntries_sublist shape.members x).trans (Member.names_sublist _))

/-! ### Entries one by one -/

/-- The key is not another name of a member. -/
def Proper (shape : Shape τ α) (key : String) : Prop :=
  ∀ m, shape.members.find? (·.answersTo key) = some m → m.name = key

theorem Sound.proper_name {shape : Shape τ α} (h : shape.Sound) {m : Member τ α}
    (hm : m ∈ shape.members) : shape.Proper m.name := by
  intro m' hfind
  rw [h.find?_name hm] at hfind
  cases hfind
  rfl

/-- The key may stand in a document: it names a member, or other keys are passed over. -/
def Allows (shape : Shape τ α) (key : String) : Prop :=
  (shape.members.find? (·.answersTo key)).isSome ∨ shape.closed = false

theorem Sound.allows_name {shape : Shape τ α} (h : shape.Sound) {m : Member τ α}
    (hm : m ∈ shape.members) : shape.Allows m.name :=
  .inl (by rw [h.find?_name hm, Option.isSome_some])

/-- The keys of entries that name a member. -/
def memberKeys (shape : Shape τ α) (entries : List (String × τ)) : List String :=
  (entries.map (·.1)).filter fun key => (shape.members.find? (·.answersTo key)).isSome

theorem Sound.mem_memberKeys {shape : Shape τ α} (h : shape.Sound) {m : Member τ α}
    (hm : m ∈ shape.members) {entries : List (String × τ)} (hkey : m.name ∈ entries.map (·.1)) :
    m.name ∈ shape.memberKeys entries :=
  List.mem_filter.2 ⟨hkey, by rw [h.find?_name hm, Option.isSome_some]⟩

/-- What an entry does to a document in which its member has not been read. -/
def applyEntry (shape : Shape τ α) (x : α) (entry : String × τ) : Except Failure α :=
  match shape.members.find? (·.answersTo entry.1) with
  | none => .ok x
  | some m => m.read entry.2 x

theorem memberKeys_singleton (shape : Shape τ α) (e : String × τ) : shape.memberKeys [e] =
    if (shape.members.find? (·.answersTo e.1)).isSome then [e.1] else [] := by
  rw [memberKeys, List.map_singleton, List.filter_singleton, Bool.cond_eq_ite]

theorem readEntry_eq_ok_iff {shape : Shape τ α} {e : String × τ} (hproper : shape.Proper e.1)
    {seen seen' : List String} (hfresh : e.1 ∉ seen) {x y : α} :
    shape.readEntry (x, seen) e = .ok (y, seen') ↔
      shape.Allows e.1 ∧ shape.applyEntry x e = .ok y ∧ seen' = shape.memberKeys [e] ++ seen := by
  rw [readEntry, applyEntry, Allows, memberKeys_singleton, eq_comm (a := seen')]
  cases hfind : shape.members.find? (·.answersTo e.1) with
  | none =>
      cases hclosed : shape.closed with
      | true => simp [fail]
      | false => simp
  | some m =>
      have hname : m.name = e.1 := hproper m hfind
      cases hread : m.read e.2 x with
      | error _ => simp [hname, hfresh, hread]
      | ok y' => simp [hname, hfresh, hread]

/-- Entries of distinct members are read one by one, and the names of the members are kept. -/
theorem foldlM_readEntry_eq_ok_iff {shape : Shape τ α} {entries : List (String × τ)}
    (hproper : ∀ e ∈ entries, shape.Proper e.1) (hdistinct : (entries.map (·.1)).Nodup)
    {seen seen' : List String} (hfresh : ∀ e ∈ entries, e.1 ∉ seen) {x z : α} :
    entries.foldlM shape.readEntry (x, seen) = .ok (z, seen') ↔
      (∀ e ∈ entries, shape.Allows e.1) ∧ entries.foldlM shape.applyEntry x = .ok z ∧
        seen' = (shape.memberKeys entries).reverse ++ seen := by
  induction entries generalizing x seen with
  | nil =>
      simp [memberKeys, pure, Except.pure, eq_comm]
  | cons e rest ih =>
      rw [List.forall_mem_cons] at hproper hfresh
      rw [List.map_cons, List.nodup_cons] at hdistinct
      have hkeys : shape.memberKeys (e :: rest) = shape.memberKeys [e] ++ shape.memberKeys rest := by
        rw [memberKeys, memberKeys, memberKeys, ← List.filter_append, ← List.map_append,
          List.singleton_append]
      have hsingle : (shape.memberKeys [e]).reverse = shape.memberKeys [e] := by
        rw [memberKeys_singleton]
        split
        · rfl
        · rfl
      have hfresh' : ∀ a ∈ rest, a.1 ∉ shape.memberKeys [e] ++ seen := by
        intro a ha hmem
        rcases List.mem_append.1 hmem with hmem | hmem
        · have heq : a.1 = e.1 := List.mem_singleton.1 (List.mem_filter.1 hmem).1
          exact hdistinct.1 (List.mem_map.2 ⟨a, ha, heq⟩)
        · exact hfresh.2 a ha hmem
      rw [List.foldlM_cons, List.foldlM_cons, bind_eq_ok_iff, bind_eq_ok_iff, List.forall_mem_cons,
        hkeys, List.reverse_append, hsingle, List.append_assoc]
      constructor
      · rintro ⟨⟨y, seen₁⟩, hstep, hrest⟩
        obtain ⟨hallows, happly, rfl⟩ := (readEntry_eq_ok_iff hproper.1 hfresh.1).1 hstep
        obtain ⟨hallowsRest, hrest, hseen⟩ := (ih hproper.2 hdistinct.2 hfresh').1 hrest
        exact ⟨⟨hallows, hallowsRest⟩, ⟨y, happly, hrest⟩, hseen⟩
      · rintro ⟨⟨hallows, hallowsRest⟩, ⟨y, happly, hrest⟩, hseen⟩
        exact ⟨(y, _), (readEntry_eq_ok_iff hproper.1 hfresh.1).2 ⟨hallows, happly, rfl⟩,
          (ih hproper.2 hdistinct.2 hfresh').2 ⟨hallowsRest, hrest, hseen⟩⟩

/-! ### The order of entries -/

/-- Two steps give the same together in either order. -/
def StepsCommute {ι : Type} (step : α → ι → Except Failure α) (a b : ι) : Prop :=
  ∀ x, (step x a >>= (step · b)).toOption = (step x b >>= (step · a)).toOption

theorem StepsCommute.symm {ι : Type} {step : α → ι → Except Failure α} {a b : ι}
    (h : StepsCommute step a b) : StepsCommute step b a :=
  fun x => (h x).symm

theorem eq_ok_of_toOption_eq {r s : Except Failure α} (h : r.toOption = s.toOption) {x : α}
    (hr : r = .ok x) : s = .ok x := by
  cases s with
  | error _ => rw [hr] at h; cases h
  | ok y => rw [hr] at h; cases h; rfl

theorem foldlM_eq_ok_of_perm {ι : Type} {step : α → ι → Except Failure α} {steps steps' : List ι}
    (hperm : steps.Perm steps') (hcommute : steps.Pairwise (StepsCommute step)) {x z : α}
    (h : steps.foldlM step x = .ok z) : steps'.foldlM step x = .ok z := by
  induction hperm generalizing x with
  | nil => exact h
  | cons a _ ih =>
      rw [List.foldlM_cons, bind_eq_ok_iff] at h ⊢
      obtain ⟨y, hy, hrest⟩ := h
      exact ⟨y, hy, ih (List.pairwise_cons.1 hcommute).2 hrest⟩
  | swap a b l =>
      have hswap := (List.pairwise_cons.1 hcommute).1 a List.mem_cons_self
      rw [List.foldlM_cons, bind_eq_ok_iff] at h
      obtain ⟨y, hy, hrest⟩ := h
      rw [List.foldlM_cons, bind_eq_ok_iff] at hrest
      obtain ⟨w, hw, hrest⟩ := hrest
      have hboth : (step x b >>= (step · a)) = .ok w := bind_eq_ok_iff.2 ⟨y, hy, hw⟩
      obtain ⟨y', hy', hw'⟩ := bind_eq_ok_iff.1 (eq_ok_of_toOption_eq (hswap x) hboth)
      rw [List.foldlM_cons, bind_eq_ok_iff]
      refine ⟨y', hy', ?_⟩
      rw [List.foldlM_cons, bind_eq_ok_iff]
      exact ⟨w, hw', hrest⟩
  | trans hfirst _ ih ih' =>
      -- The steps in between commute as well.
      exact ih' ((hfirst.pairwise_iff StepsCommute.symm).1 hcommute) (ih hcommute h)

/-- Steps that commute may be taken in any order. -/
theorem foldlM_eq_ok_iff_of_perm {ι : Type} {step : α → ι → Except Failure α}
    {steps steps' : List ι} (hperm : steps.Perm steps')
    (hcommute : steps.Pairwise (StepsCommute step)) {x z : α} :
    steps.foldlM step x = .ok z ↔ steps'.foldlM step x = .ok z :=
  ⟨foldlM_eq_ok_of_perm hperm hcommute,
    foldlM_eq_ok_of_perm hperm.symm ((hperm.pairwise_iff StepsCommute.symm).1 hcommute)⟩

/-- Entries with distinct keys, none of them another name, may be read in any order. -/
theorem Sound.pairwise_stepsCommute {shape : Shape τ α} (h : shape.Sound)
    {entries : List (String × τ)} (hproper : ∀ e ∈ entries, shape.Proper e.1)
    (hdistinct : (entries.map (·.1)).Nodup) : entries.Pairwise (StepsCommute shape.applyEntry) := by
  rw [List.Nodup, List.pairwise_map] at hdistinct
  apply hdistinct.imp_of_mem
  intro e e' he he' hne x
  have hsymm : Std.Symm fun m m' : Member τ α => ReadsCommute m.read m'.read :=
    ⟨fun m m' hcommute tree tree' y => (hcommute tree' tree y).symm⟩
  cases hfind : shape.members.find? (·.answersTo e.1) with
  | none =>
      simp only [applyEntry, hfind]
      exact congrArg Except.toOption (bind_pure _).symm
  | some m =>
      cases hfind' : shape.members.find? (·.answersTo e'.1) with
      | none =>
          simp only [applyEntry, hfind']
          exact congrArg Except.toOption (bind_pure _)
      | some m' =>
          have hmembers : m ≠ m' := by
            rintro rfl
            exact hne ((hproper e he m hfind).symm.trans (hproper e' he' m hfind'))
          simp only [applyEntry, hfind, hfind']
          exact h.members_commute.forall (List.mem_of_find?_eq_some hfind)
            (List.mem_of_find?_eq_some hfind') hmembers e.2 e'.2 x

end Shape

/-! ### What a reader depends on -/

/-- A member as a reader sees it. -/
def Member.reader (m : Member Value α) : Member Value α := { m with write := fun _ => none }

namespace Shape

/-- A shape as a reader sees it. -/
def reader (shape : Shape Value α) : Shape Value α :=
  { shape with members := shape.members.map Member.reader }

theorem readEntry_reader (shape : Shape Value α) : shape.reader.readEntry = shape.readEntry := by
  funext state entry
  have hnames : shape.reader.members.map (·.name) = shape.members.map (·.name) := by
    rw [reader, List.map_map]
    rfl
  have hfind : shape.reader.members.find? (·.answersTo entry.1) =
      (shape.members.find? (·.answersTo entry.1)).map Member.reader := by
    rw [reader, List.find?_map]
    rfl
  rw [readEntry, readEntry, hfind, hnames]
  cases shape.members.find? (·.answersTo entry.1) with
  | none => rfl
  | some m => rfl

theorem readPositions_reader (shape : Shape Value α) :
    ∀ (ms : List (Member Value α)) (position : Nat) (items : List Value) (x : α),
      shape.reader.readPositions position (ms.map Member.reader) items x =
        shape.readPositions position ms items x
  | [], _, _, _ => rfl
  | m :: ms, position, [], x => by
      have hlength : shape.reader.lengthText = shape.lengthText := by
        rw [lengthText, lengthText, reader, List.length_map]
      rw [List.map_cons, readPositions, readPositions, hlength, readPositions_reader shape ms]
      rfl
  | m :: ms, position, v :: vs, x => by
      rw [List.map_cons, readPositions, readPositions]
      simp only [readPositions_reader shape ms]
      rfl

theorem read_reader (shape : Shape Value α) : shape.reader.read = shape.read := by
  have hmissing : ∀ seen : List String,
      shape.reader.members.find? (fun m => m.required && !seen.contains m.name) =
        (shape.members.find? fun m => m.required && !seen.contains m.name).map Member.reader := by
    intro seen
    rw [reader, List.find?_map]
    rfl
  funext tree
  rw [read, read]
  split
  · rw [readEntries, readEntries, readEntry_reader]
    congr 1
    funext state
    simp only [hmissing]
    cases shape.members.find? fun m => m.required && !state.2.contains m.name with
    | none => rfl
    | some m => rfl
  · rw [readItems, readItems, show shape.reader.members = shape.members.map Member.reader from rfl,
      readPositions_reader]
    rfl
  · rfl

/-- How the members are written makes no difference to reading. -/
theorem read_congr {shape shape' : Shape Value α} (h : shape.reader = shape'.reader) :
    shape.read = shape'.read := by
  rw [← read_reader shape, h, read_reader]

end Shape

end Portfolio.Document
