/-
Module: Portfolio.Proofs.Document.RoundTrip
Purpose: When documents with named members come back from what is written of them. It is
  enough to look at the members one by one, in the order they are listed.
Main exports: Document.Member.Restored, Document.Shape.Sound.restores, Document.ReadKeeps,
  Document.Shape.yields, Document.Shape.Sound.yields_restores
-/
import Portfolio.Proofs.Document.Shape

namespace Portfolio.Document

open Codec (bind_eq_ok_iff map_eq_ok_iff)
open Value (Rearranges)

variable {α β : Type}

/-! ### Documents that come back -/

namespace Member

/-- Reading what each of the members writes of `x`, in order, leads from the document `y`
to the document `z`. -/
inductive Restored (x : α) : List (Member Value α) → α → α → Prop where
  | nil (y : α) : Restored x [] y y
  | written {m : Member Value α} {ms : List (Member Value α)} {tree : Value} {y y' z : α} :
      m.write x = some tree → (∀ f, Rearranges f → m.read (f tree) y = .ok y') →
        Restored x ms y' z → Restored x (m :: ms) y z
  | absent {m : Member Value α} {ms : List (Member Value α)} {y z : α} :
      m.write x = none → m.required = false → Restored x ms y z → Restored x (m :: ms) y z

variable {x y z : α} {ms : List (Member Value α)} {name : String}

/-- A written member leads one step on, to the document that reading it gives. -/
theorem restored_cons_of_written {m : Member Value α} {tree : Value} {y' : α}
    (hwrite : m.write x = some tree) (hread : ∀ f, Rearranges f → m.read (f tree) y = .ok y') :
    Restored x (m :: ms) y z ↔ Restored x ms y' z := by
  constructor
  · intro h
    cases h with
    | written hwrite' hread' hrest =>
        rw [hwrite] at hwrite'
        cases hwrite'
        have hsame := (hread id Value.rearranges_id).symm.trans (hread' id Value.rearranges_id)
        cases hsame
        exact hrest
    | absent hwrite' _ _ =>
        rw [hwrite] at hwrite'
        cases hwrite'
  · exact .written hwrite hread

theorem restored_cons_of_absent {m : Member Value α} (hwrite : m.write x = none)
    (hoptional : m.required = false) : Restored x (m :: ms) y z ↔ Restored x ms y z := by
  constructor
  · intro h
    cases h with
    | written hwrite' _ _ =>
        rw [hwrite] at hwrite'
        cases hwrite'
    | absent _ _ hrest => exact hrest
  · exact .absent hwrite hoptional

/-! One rule for each kind of member: a list of members is worked off by `simp`, given that
the parts come back. -/

@[simp] theorem restored_nil_iff : Restored x [] y z ↔ y = z := by
  constructor
  · rintro ⟨⟩
    rfl
  · rintro rfl
    exact .nil y

@[simp] theorem restored_needed_iff {codec : Codec Value β} {get : α → β} {set : β → α → α}
    (h : codec.Restores (get x)) :
    Restored x (needed name codec get set :: ms) y z ↔ Restored x ms (set (get x) y) z := by
  refine restored_cons_of_written rfl fun f hf => ?_
  rw [read_needed, assign, h f hf, Except.map]

@[simp] theorem restored_defaulted_iff {codec : Codec Value β} {get : α → β} {set : β → α → α}
    (h : codec.Restores (get x)) :
    Restored x (defaulted name codec get set :: ms) y z ↔ Restored x ms (set (get x) y) z := by
  refine restored_cons_of_written rfl fun f hf => ?_
  rw [read_defaulted, assign, h f hf, Except.map]

/-- An empty list is not written, so it has to be the default. -/
@[simp] theorem restored_listed_iff {codec : Codec Value (List β)} {get : α → List β}
    {set : List β → α → α} (h : codec.Restores (get x)) (hblank : set [] y = y) :
    Restored x (listed name codec get set :: ms) y z ↔ Restored x ms (set (get x) y) z := by
  cases hget : get x with
  | nil =>
      rw [hblank]
      exact restored_cons_of_absent (by simp [listed, hget]) rfl
  | cons item items =>
      have hwrite : (listed name codec get set).write x = some (codec.write (get x)) := by
        simp [listed, hget]
      refine restored_cons_of_written hwrite fun f hf => ?_
      rw [read_listed, assign, h f hf, Except.map, hget]

/-- The same for an absent part. One that is there is not written as null. -/
@[simp] theorem restored_optional_iff {codec : Codec Value β} {get : α → Option β}
    {set : Option β → α → α} (h : codec.PresentIn (get x)) (hblank : set none y = y) :
    Restored x (optional name codec get set :: ms) y z ↔ Restored x ms (set (get x) y) z := by
  cases hget : get x with
  | none =>
      rw [hblank]
      exact restored_cons_of_absent (by simp [optional, hget]) rfl
  | some v =>
      obtain ⟨hrestores, hnull⟩ := h v hget
      have hwrite : (optional name codec get set).write x = some (codec.write v) := by
        simp [optional, hget]
      refine restored_cons_of_written hwrite fun f hf => ?_
      rw [read_optional, assign, orNull, hf.isNull_eq, hnull, hrestores f hf]
      rfl

@[simp] theorem restored_alsoNamed_iff {m : Member Value α} {other : String} :
    Restored x (m.alsoNamed other :: ms) y z ↔ Restored x (m :: ms) y z := by
  constructor
  · intro h
    cases h with
    | written hwrite hread hrest => exact .written hwrite hread hrest
    | absent hwrite hoptional hrest => exact .absent hwrite hoptional hrest
  · intro h
    cases h with
    | written hwrite hread hrest => exact .written hwrite hread hrest
    | absent hwrite hoptional hrest => exact .absent hwrite hoptional hrest

/-- The entries that are written lead from `y` to `z` in the order of the members. -/
theorem Restored.foldlM_applyEntry {shape : Shape Value α} (h : Restored x ms y z)
    {f : Value → Value} (hf : Rearranges f)
    (hnames : ∀ m ∈ ms, shape.members.find? (·.answersTo m.name) = some m) :
    ((writtenEntries ms x).map fun e => (e.1, f e.2)).foldlM shape.applyEntry y = .ok z := by
  induction h with
  | nil y => rfl
  | @written m ms tree y y' z hwrite hread _ ih =>
      rw [List.forall_mem_cons] at hnames
      have hstep : shape.applyEntry y (m.name, f tree) = .ok y' := by
        rw [Shape.applyEntry, hnames.1]
        exact hread f hf
      rw [writtenEntries, List.filterMap_cons, writtenEntry, hwrite, Option.map_some, List.map_cons,
        List.foldlM_cons, hstep]
      exact ih hnames.2
  | @absent m ms y z hwrite _ _ ih =>
      rw [List.forall_mem_cons] at hnames
      rw [writtenEntries, List.filterMap_cons, writtenEntry, hwrite, Option.map_none]
      exact ih hnames.2

/-- Members that have to be there are written. -/
theorem Restored.required_written (h : Restored x ms y z) :
    ∀ m ∈ ms, m.required = true → m.name ∈ (writtenEntries ms x).map (·.1) := by
  induction h with
  | nil y => exact fun _ hm => absurd hm List.not_mem_nil
  | @written m ms tree y y' z hwrite _ _ ih =>
      rw [writtenEntries, List.filterMap_cons, writtenEntry, hwrite, Option.map_some, List.map_cons]
      intro a ha hrequired
      rcases List.mem_cons.1 ha with rfl | ha
      · exact List.mem_cons_self
      · exact List.mem_cons_of_mem _ (ih a ha hrequired)
  | @absent m ms y z hwrite hoptional _ ih =>
      rw [writtenEntries, List.filterMap_cons, writtenEntry, hwrite, Option.map_none]
      intro a ha hrequired
      rcases List.mem_cons.1 ha with rfl | ha
      · rw [hoptional] at hrequired
        cases hrequired
      · exact ih a ha hrequired

end Member

namespace Shape

/-- Read in any order, the entries of a document give the document, and all members are seen
that have to be there. -/
theorem Sound.foldlM_entries {shape : Shape Value α} (h : shape.Sound) {x : α}
    (hx : Member.Restored x shape.members shape.blank x) {f : Value → Value} (hf : Rearranges f)
    {entries : List (String × Value)}
    (hperm : entries.Perm ((shape.entries x).map fun e => (e.1, f e.2))) :
    ∃ seen, entries.foldlM shape.readEntry (shape.blank, []) = .ok (x, seen) ∧
      ∀ m ∈ shape.members, m.required = true → m.name ∈ seen := by
  have hkeys : (entries.map (·.1)).Perm ((shape.entries x).map (·.1)) := by
    have hmap := hperm.map (·.1)
    rw [List.map_map] at hmap
    exact hmap
  have hdistinct : (entries.map (·.1)).Nodup := hkeys.nodup_iff.2 (h.nodup_keys x)
  have hmember : ∀ e ∈ entries, ∃ m ∈ shape.members, m.name = e.1 := by
    intro e he
    exact List.mem_map.1 ((Member.keys_writtenEntries_sublist shape.members x).subset
      (hkeys.mem_iff.1 (List.mem_map_of_mem he)))
  have hproper : ∀ e ∈ entries, shape.Proper e.1 := by
    intro e he
    obtain ⟨m, hm, hname⟩ := hmember e he
    exact hname ▸ h.proper_name hm
  have hallows : ∀ e ∈ entries, shape.Allows e.1 := by
    intro e he
    obtain ⟨m, hm, hname⟩ := hmember e he
    exact hname ▸ h.allows_name hm
  have hinorder := hx.foldlM_applyEntry hf fun m hm => h.find?_name hm
  have hfold : entries.foldlM shape.applyEntry shape.blank = .ok x :=
    (foldlM_eq_ok_iff_of_perm hperm (h.pairwise_stepsCommute hproper hdistinct)).2 hinorder
  refine ⟨_, (foldlM_readEntry_eq_ok_iff hproper hdistinct fun _ _ => List.not_mem_nil).2
    ⟨hallows, hfold, rfl⟩, ?_⟩
  intro m hm hrequired
  rw [List.append_nil, List.mem_reverse]
  exact h.mem_memberKeys hm (hkeys.mem_iff.2 (hx.required_written m hm hrequired))

/-- A document comes back from what is written of it if its members do, one by one. -/
theorem Sound.restores {shape : Shape Value α} (h : shape.Sound) {x : α}
    (hx : Member.Restored x shape.members shape.blank x) : shape.codec.Restores x := by
  intro f hf
  obtain ⟨entries, heq, hperm⟩ := hf.map (shape.entries x)
  obtain ⟨seen, hfold, hseen⟩ := h.foldlM_entries hx hf (hperm (h.nodup_keys x))
  have hmissing : shape.members.find? (fun m => m.required && !seen.contains m.name) = none := by
    rw [List.find?_eq_none]
    intro m hm
    cases hrequired : m.required with
    | false => simp
    | true => simpa using hseen m hm hrequired
  change shape.read (f (.map (shape.entries x))) = .ok x
  rw [heq]
  change shape.readEntries entries = .ok x
  rw [readEntries, hfold]
  simp only [bind, Except.bind, hmissing]
  rfl

end Shape

/-! ### What reading yields -/

/-- Reading a member keeps a property of the document. -/
def ReadKeeps (read : Value → α → Except Failure α) (P : α → Prop) : Prop :=
  ∀ tree x y, P x → read tree x = .ok y → P y

/-- A member that sets a part, of which something is known. -/
theorem readKeeps_part {parse : Value → Except Failure β} {set : β → α → α} {P : α → Prop}
    {Q : β → Prop} (hparse : ∀ tree y, parse tree = .ok y → Q y)
    (hset : ∀ y x, P x → Q y → P (set y x)) : ReadKeeps (assign parse set) P := by
  intro tree x z hx hz
  obtain ⟨y, hy, rfl⟩ := map_eq_ok_iff.1 hz
  exact hset y x hx (hparse tree y hy)

/-- A member that the property does not look at. -/
@[simp] theorem readKeeps_aside {parse : Value → Except Failure β} {set : β → α → α}
    {P : α → Prop} (hset : ∀ y x, P x → P (set y x)) : ReadKeeps (assign parse set) P :=
  readKeeps_part (fun _ _ _ => trivial) fun y x hx _ => hset y x hx

namespace Shape

theorem keeps_foldlM_readEntry {shape : Shape Value α} {P : α → Prop}
    (hkeeps : ∀ m ∈ shape.members, ReadKeeps m.read P) {entries : List (String × Value)}
    {x z : α} {seen seen' : List String} (hx : P x)
    (h : entries.foldlM shape.readEntry (x, seen) = .ok (z, seen')) : P z := by
  induction entries generalizing x seen with
  | nil =>
      cases h
      exact hx
  | cons e rest ih =>
      rw [List.foldlM_cons, bind_eq_ok_iff] at h
      obtain ⟨⟨y, seen⟩, hy, hrest⟩ := h
      refine ih ?_ hrest
      rw [readEntry] at hy
      cases hfind : shape.members.find? (·.answersTo e.1) with
      | none =>
          simp only [hfind] at hy
          split at hy
          · cases hy
          · cases hy
            exact hx
      | some m =>
          simp only [hfind] at hy
          split at hy
          · cases hy
          · cases hread : m.read e.2 x with
            | error _ => simp only [hread] at hy; cases hy
            | ok y' =>
                simp only [hread] at hy
                cases hy
                exact hkeeps m (List.mem_of_find?_eq_some hfind) e.2 x y hx hread

theorem keeps_readPositions {shape : Shape Value α} {P : α → Prop} :
    ∀ {ms : List (Member Value α)} {position : Nat} {items rest : List Value} {x z : α},
      (∀ m ∈ ms, ReadKeeps m.read P) → P x →
        shape.readPositions position ms items x = .ok (z, rest) → P z
  | [], _, _, _, _, _, _, hx, h => by
      cases h
      exact hx
  | m :: ms, _, [], _, _, _, hkeeps, hx, h => by
      rw [readPositions] at h
      split at h
      · cases h
      · exact keeps_readPositions (List.forall_mem_cons.1 hkeeps).2 hx h
  | m :: ms, _, v :: vs, _, x, _, hkeeps, hx, h => by
      rw [readPositions, bind_eq_ok_iff] at h
      obtain ⟨y, hy, hrest⟩ := h
      rw [List.forall_mem_cons] at hkeeps
      exact keeps_readPositions hkeeps.2 (hkeeps.1 v x y hx hy) hrest

/-- A property of the blank document that all members keep holds of all that is read. -/
theorem yields {shape : Shape Value α} {P : α → Prop} (hblank : P shape.blank)
    (hkeeps : ∀ m ∈ shape.members, ReadKeeps m.read P) : shape.codec.Yields P := by
  intro tree x h
  cases tree with
  | map entries =>
      have hread : shape.readEntries entries = .ok x := h
      rw [readEntries, bind_eq_ok_iff] at hread
      obtain ⟨⟨y, seen⟩, hy, hend⟩ := hread
      cases hmissing : shape.members.find? fun m => m.required && !seen.contains m.name with
      | some m => simp only [hmissing] at hend; cases hend
      | none =>
          simp only [hmissing] at hend
          cases hend
          exact keeps_foldlM_readEntry hkeeps hblank hy
  | list items =>
      have hread : shape.readItems items = .ok x := h
      rw [readItems, bind_eq_ok_iff] at hread
      obtain ⟨⟨y, rest⟩, hy, hend⟩ := hread
      simp only at hend
      split at hend
      · cases hend
        exact keeps_readPositions hkeeps hblank hy
      · cases hend
  | null | bool _ | text _ => cases h
  | number n =>
      cases n with
      | int _ | double _ => cases h

/-- All that is read comes back, if a property that reading yields makes the members come
back. -/
theorem Sound.yields_restores {shape : Shape Value α} (h : shape.Sound) (P : α → Prop)
    (hblank : P shape.blank) (hkeeps : ∀ m ∈ shape.members, ReadKeeps m.read P)
    (hrestored : ∀ x, P x → Member.Restored x shape.members shape.blank x) :
    shape.codec.Yields shape.codec.Restores :=
  (yields hblank hkeeps).imp fun x hx => h.restores (hrestored x hx)

end Shape

end Portfolio.Document
