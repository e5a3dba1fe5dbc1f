/-
Module: Portfolio.Proofs.Schema.Field
Purpose: Fields come back from what is written of them, nested to any depth.
Main exports: FieldKind.name_ofName, FieldSpec.restores, Field.codec_yields
-/
import Portfolio.Proofs.Document.RoundTrip
import Portfolio.Schema.Codec

namespace Portfolio

open Document (Shape Member Codec orNull_presentIn readKeeps_part)
open Document.Codec
open Value (Rearranges)

/-! ### Parts of a field -/

/-- A kind keeps the name that it was read from. -/
theorem FieldKind.name_ofName (s : String) : (FieldKind.ofName s).name = s := by
  have hnames : ∀ entry ∈ FieldKind.known, entry.2.name = entry.1 := by decide
  rw [FieldKind.ofName]
  cases hlookup : FieldKind.known.lookup s with
  | none => rfl
  | some kind =>
      obtain ⟨before, after, hknown, -⟩ := List.lookup_eq_some_iff.1 hlookup
      have hmem : (s, kind) ∈ FieldKind.known := by
        rw [hknown]
        exact List.mem_append_right _ List.mem_cons_self
      exact hnames (s, kind) hmem

theorem FieldKind.codec_yields : FieldKind.codec.Yields FieldKind.codec.Restores := by
  intro tree kind hread f hf
  obtain ⟨s, -, rfl⟩ := map_eq_ok_iff.1 hread
  rw [show FieldKind.codec.write (FieldKind.ofName s) = .text (FieldKind.ofName s).name from rfl,
    FieldKind.name_ofName, hf.text]
  rfl

theorem FieldKind.text_restores : FieldKind.codec.Restores .text :=
  FieldKind.codec_yields (.text "text") .text rfl

@[simp] theorem Width.codec_presentIn (part : Option Width) : Width.codec.PresentIn part := by
  intro w _
  refine ⟨choice_restores ?_, rfl⟩
  cases w with
  | full | half | third | quarter => rfl

theorem Choice.sound : Choice.shape.Sound where
  names_distinct := by decide
  members_commute := by simp [Choice.shape]

theorem Choice.codec_yields : Choice.shape.codec.Yields Choice.shape.codec.Restores := by
  refine Choice.sound.yields_restores (fun x => Codec.value.Restores x.value) ?_ ?_ ?_
  · exact value_restores (by decide)
  · simp [Choice.shape, readKeeps_part value_yields]
  · intro x hvalue
    simp [Choice.shape, hvalue]

theorem CustomRule.sound : CustomRule.shape.Sound where
  names_distinct := by decide
  members_commute := by simp [CustomRule.shape]

theorem CustomRule.codec_yields :
    CustomRule.shape.codec.Yields CustomRule.shape.codec.Restores := by
  refine CustomRule.sound.yields_restores (fun x => Codec.value.PresentIn x.params) ?_ ?_ ?_
  · exact presentIn_none
  · simp [CustomRule.shape, readKeeps_part (orNull_presentIn value_present)]
  · intro x hparams
    simp [CustomRule.shape, hparams]

theorem ValidationRules.sound : ValidationRules.shape.Sound where
  names_distinct := by decide
  members_commute := by simp [ValidationRules.shape]

theorem ValidationRules.codec_yields :
    ValidationRules.shape.codec.Yields ValidationRules.shape.codec.Restores := by
  refine ValidationRules.sound.yields_restores
    (fun x => ∀ rule ∈ x.custom, CustomRule.shape.codec.Restores rule) ?_ ?_ ?_
  · exact List.forall_mem_nil _
  · simp [ValidationRules.shape, readKeeps_part (list_yields CustomRule.codec_yields)]
  · intro x hcustom
    simp [ValidationRules.shape, list_restores hcustom]

/-! ### Options and fields around their nested fields -/

/-- Options whose choices and default value come back. All other parts do anyway. -/
structure FieldOptions.Settled (o : FieldOptions) : Prop where
  choices : ∀ choice ∈ o.choices, Choice.shape.codec.Restores choice
  default : Codec.value.PresentIn o.defaultValue

section

variable {ρ : Type} {nested : Codec Value ρ}

theorem FieldOptions.sound : (FieldOptions.shape nested).Sound where
  names_distinct := by simp [FieldOptions.shape, Member.optional, Member.listed, Member.needed]
  members_commute := by simp [FieldOptions.shape]

theorem FieldOptions.yields_settled :
    (FieldOptions.shape nested).codec.Yields fun x => x.1.Settled := by
  have hchoices : (FieldOptions.shape nested).codec.Yields
      fun x => ∀ choice ∈ x.1.choices, Choice.shape.codec.Restores choice := by
    refine Shape.yields (List.forall_mem_nil _) ?_
    simp [FieldOptions.shape, readKeeps_part (list_yields Choice.codec_yields)]
  have hdefault : (FieldOptions.shape nested).codec.Yields
      fun x => Codec.value.PresentIn x.1.defaultValue := by
    refine Shape.yields presentIn_none ?_
    simp [FieldOptions.shape, readKeeps_part (orNull_presentIn value_present)]
  exact fun tree x hread => ⟨hchoices tree x hread, hdefault tree x hread⟩

theorem FieldOptions.yields_nested {Q : ρ → Prop} (h : nested.Yields Q) :
    (FieldOptions.shape nested).codec.Yields fun x => ∀ f ∈ x.2, Q f := by
  refine Shape.yields (List.forall_mem_nil _) ?_
  simp [FieldOptions.shape, readKeeps_part (list_yields h)]

theorem FieldOptions.restores {x : FieldOptions × List ρ} (h : x.1.Settled)
    (hnested : ∀ f ∈ x.2, nested.Restores f) : (FieldOptions.shape nested).codec.Restores x := by
  apply FieldOptions.sound.restores
  simp [FieldOptions.shape, list_restores h.choices, h.default, list_restores hnested]

/-- A field whose kind, options and rules come back. All other parts do anyway. -/
structure FieldSpec.Settled (f : FieldSpec) : Prop where
  kind : FieldKind.codec.Restores f.kind
  options : f.options.Settled
  validation : ValidationRules.shape.codec.PresentIn f.validation

theorem FieldSpec.sound : (FieldSpec.shape nested).Sound where
  names_distinct := by simp [FieldSpec.shape, Member.optional, Member.defaulted, Member.needed]
  members_commute := by simp [FieldSpec.shape]

theorem FieldSpec.yields_settled :
    (FieldSpec.shape nested).codec.Yields fun x => x.1.Settled := by
  have hkind : (FieldSpec.shape nested).codec.Yields
      fun x => FieldKind.codec.Restores x.1.kind := by
    refine Shape.yields FieldKind.text_restores ?_
    simp [FieldSpec.shape, readKeeps_part FieldKind.codec_yields]
  have hoptions : (FieldSpec.shape nested).codec.Yields fun x => x.1.options.Settled := by
    refine Shape.yields ⟨List.forall_mem_nil _, presentIn_none⟩ ?_
    simp [FieldSpec.shape, readKeeps_part FieldOptions.yields_settled]
  have hvalidation : (FieldSpec.shape nested).codec.Yields
      fun x => ValidationRules.shape.codec.PresentIn x.1.validation := by
    refine Shape.yields presentIn_none ?_
    have hpresent : ∀ tree y, tree.isNull = false →
        ValidationRules.shape.codec.read tree = .ok y → ValidationRules.shape.codec.Present y :=
      fun tree y _ hread => ⟨ValidationRules.codec_yields tree y hread, rfl⟩
    simp [FieldSpec.shape, readKeeps_part (orNull_presentIn hpresent)]
  exact fun tree x hread =>
    ⟨hkind tree x hread, hoptions tree x hread, hvalidation tree x hread⟩

theorem FieldSpec.yields_nested {Q : ρ → Prop} (h : nested.Yields Q) :
    (FieldSpec.shape nested).codec.Yields fun x => ∀ f ∈ x.2, Q f := by
  refine Shape.yields (List.forall_mem_nil _) ?_
  simp [FieldSpec.shape, readKeeps_part (FieldOptions.yields_nested h)]

theorem FieldSpec.restores {x : FieldSpec × List ρ} (h : x.1.Settled)
    (hnested : ∀ f ∈ x.2, nested.Restores f) : (FieldSpec.shape nested).codec.Restores x := by
  have hoptions : (FieldOptions.shape nested).codec.Restores (x.1.options, x.2) :=
    FieldOptions.restores h.options hnested
  apply FieldSpec.sound.restores
  simp [FieldSpec.shape, h.kind, hoptions, h.validation]

/-- Nested fields are written as trees, and the trees as they are. -/
theorem Field.write_options_map (nested : Codec Value ρ) (o : FieldOptions) (fields : List ρ) :
    (FieldOptions.shape ⟨.ok, id⟩).codec.write (o, fields.map nested.write) =
      (FieldOptions.shape nested).codec.write (o, fields) := by
  have hlist : (Codec.list ⟨.ok, id⟩).write (fields.map nested.write) =
      (Codec.list nested).write fields := by
    simp [Codec.list]
  apply Shape.write_congr
  simp [FieldOptions.shape, hlist]

theorem Field.write_spec_map (nested : Codec Value ρ) (f : FieldSpec) (fields : List ρ) :
    (FieldSpec.shape ⟨.ok, id⟩).codec.write (f, fields.map nested.write) =
      (FieldSpec.shape nested).codec.write (f, fields) := by
  have hoptions := Field.write_options_map nested f.options fields
  apply Shape.write_congr
  simp [FieldSpec.shape, hoptions]

/-- How nested fields are written makes no difference to reading. -/
theorem FieldOptions.read_congr {nested' : Codec Value ρ} (h : nested.read = nested'.read) :
    (FieldOptions.shape nested).codec.read = (FieldOptions.shape nested').codec.read := by
  apply Shape.read_congr
  cases nested
  cases nested'
  cases h
  rfl

theorem FieldSpec.read_congr {nested' : Codec Value ρ} (h : nested.read = nested'.read) :
    (FieldSpec.shape nested).codec.read = (FieldSpec.shape nested').codec.read := by
  have hoptions := FieldOptions.read_congr h
  apply Shape.read_congr
  simp [Shape.reader, FieldSpec.shape, Member.reader, Member.defaulted, Member.needed, hoptions]

end

/-! ### Fields -/

namespace Field

mutual

/-- How many fields are nested in each other, the outermost included. -/
def height : Field → Nat
  | ⟨_, nested⟩ => heightOf nested + 1

/-- The greatest height of any field. -/
def heightOf : List Field → Nat
  | [] => 0
  | f :: fs => max (height f) (heightOf fs)

end

theorem height_le_heightOf {f : Field} {fields : List Field} (h : f ∈ fields) :
    f.height ≤ heightOf fields := by
  induction fields with
  | nil => exact absurd h List.not_mem_nil
  | cons g gs ih =>
      rw [heightOf]
      rcases List.mem_cons.1 h with rfl | h
      · exact Nat.le_max_left _ _
      · exact Nat.le_trans (ih h) (Nat.le_max_right _ _)

/-- Fields nested up to some levels. -/
def levelCodec (levels : Nat) : Codec Value Field := ⟨read levels, toValue⟩

theorem toValues_eq_map (fields : List Field) : toValues fields = fields.map toValue := by
  induction fields with
  | nil => rfl
  | cons f fs ih => rw [toValues, List.map_cons, ih]

theorem read_succ (levels : Nat) (v : Value) :
    read (levels + 1) v =
      ((FieldSpec.shape (levelCodec levels)).codec.read v).map fun x => ⟨x.1, x.2⟩ := by
  have hread : (FieldSpec.shape ⟨read levels, fun _ => .null⟩).codec.read =
      (FieldSpec.shape (levelCodec levels)).codec.read :=
    FieldSpec.read_congr rfl
  rw [read, hread]

theorem toValue_mk (levels : Nat) (spec : FieldSpec) (nested : List Field) :
    toValue ⟨spec, nested⟩ = (FieldSpec.shape (levelCodec levels)).codec.write (spec, nested) := by
  rw [toValue, toValues_eq_map]
  exact write_spec_map (levelCodec levels) spec nested

/-- The field comes back from readers that go deep enough for it. -/
def ComesBack (f : Field) : Prop :=
  ∀ levels, f.height ≤ levels → (levelCodec levels).Restores f

theorem comesBack_mk {spec : FieldSpec} {nested : List Field} (h : spec.Settled)
    (hnested : ∀ f ∈ nested, ComesBack f) : ComesBack ⟨spec, nested⟩ := by
  intro levels hlevels f hf
  rw [height] at hlevels
  cases levels with
  | zero => omega
  | succ levels =>
      have hbelow : ∀ g ∈ nested, (levelCodec levels).Restores g := by
        intro g hg
        have hheight := height_le_heightOf hg
        exact hnested g hg levels (by omega)
      have hspec : (FieldSpec.shape (levelCodec levels)).codec.Restores (spec, nested) :=
        FieldSpec.restores h hbelow
      change read (levels + 1) (f (toValue ⟨spec, nested⟩)) = .ok ⟨spec, nested⟩
      rw [read_succ, toValue_mk levels, hspec f hf]
      rfl

/-- By induction on the levels, as the reader goes down. -/
theorem levelCodec_yields (levels : Nat) : (levelCodec levels).Yields ComesBack := by
  induction levels with
  | zero =>
      intro tree f hread
      cases hread
  | succ levels ih =>
      intro tree f hread
      have hspec : read (levels + 1) tree = .ok f := hread
      rw [read_succ, map_eq_ok_iff] at hspec
      obtain ⟨x, hx, rfl⟩ := hspec
      exact comesBack_mk (FieldSpec.yields_settled tree x hx)
        (FieldSpec.yields_nested ih tree x hx)

/-- What a nested field is written as is nested less deep than what the field is. -/
theorem depth_nested {f : Value → Value} (hf : Rearranges f) (spec : FieldSpec)
    {nested : List Field} {g : Field} (hg : g ∈ nested) :
    (f g.toValue).depth < (f (toValue ⟨spec, nested⟩)).depth := by
  have hfilled : nested ≠ [] := List.ne_nil_of_mem hg
  have hfields : ("fields", (Codec.list (levelCodec 0)).write nested) ∈
      (FieldOptions.shape (levelCodec 0)).entries (spec.options, nested) := by
    rw [Shape.mem_entries_iff]
    simp [FieldOptions.shape, hfilled]
  have hoptions : ("options", (FieldOptions.shape (levelCodec 0)).codec.write
      (spec.options, nested)) ∈ (FieldSpec.shape (levelCodec 0)).entries (spec, nested) := by
    rw [Shape.mem_entries_iff]
    simp [FieldSpec.shape]
  have hitem : (f g.toValue).depth < (f ((Codec.list (levelCodec 0)).write nested)).depth :=
    hf.depth_item (List.mem_map_of_mem hg)
  have hlist := hf.depth_entry (FieldOptions.sound.nodup_keys _) hfields
  have hmap := hf.depth_entry (FieldSpec.sound.nodup_keys _) hoptions
  rw [toValue_mk 0]
  exact Nat.lt_trans hitem (Nat.lt_trans hlist hmap)

mutual

/-- The depth of what is written bounds the levels. -/
theorem height_le_depth {f : Value → Value} (hf : Rearranges f) :
    ∀ g : Field, g.height ≤ (f g.toValue).depth + 1
  | ⟨spec, nested⟩ => by
      have hnested : heightOf nested ≤ (f (toValue ⟨spec, nested⟩)).depth := by
        apply heightOf_le_depth hf nested
        exact fun g hg => depth_nested hf spec hg
      rw [height]
      omega

theorem heightOf_le_depth {f : Value → Value} (hf : Rearranges f) :
    ∀ (fields : List Field) {bound : Nat}, (∀ g ∈ fields, (f g.toValue).depth < bound) →
      heightOf fields ≤ bound
  | [], _, _ => Nat.zero_le _
  | g :: gs, bound, h => by
      rw [List.forall_mem_cons] at h
      have hfirst := height_le_depth hf g
      have hrest := heightOf_le_depth hf gs h.2
      rw [heightOf]
      omega

end

theorem codec_yields : Field.codec.Yields Field.codec.Restores := by
  intro tree g hread f hf
  have hback : ComesBack g := levelCodec_yields (tree.depth + 1) tree g hread
  exact hback _ (height_le_depth hf g) f hf

end Field

end Portfolio
