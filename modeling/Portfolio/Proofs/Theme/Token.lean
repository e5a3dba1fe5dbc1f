/-
Module: Portfolio.Proofs.Theme.Token
Purpose: The declarations of token groups: one for each leaf of a group, in depth-first order of
  the keys, in the fixed order of the sections.
Main exports: Theme.Leaf, Theme.Enumerates, Theme.enumerates_leaves, Theme.Lines,
  Theme.tokens_declared_once
-/
import Portfolio.Design.Basic
import Portfolio.Proofs.Document.RoundTrip
import Portfolio.Theme.Tokens

namespace Portfolio.Theme

open Document (Shape Codec readKeeps_part readKeeps_aside)

/-! ### Leaves -/

/-- A value with a text of its own: neither null nor a map. -/
def IsLeaf (v : Value) : Prop := v ≠ .null ∧ ∀ entries, v ≠ .map entries

/-- The keys of a path lead from the entries of a map, through nested maps, to a leaf. -/
inductive Leaf : List (String × Value) → List String → Value → Prop where
  | here {entries : List (String × Value)} {key : String} {v : Value} :
      (key, v) ∈ entries → IsLeaf v → Leaf entries [key] v
  | inside {entries inner : List (String × Value)} {key : String} {path : List String}
      {v : Value} :
      (key, .map inner) ∈ entries → Leaf inner path v → Leaf entries (key :: path) v

/-- A list of paths and values that holds every leaf of a map once, in depth-first order of the
keys: a path comes before another if its key is the lesser one where they part. -/
structure Enumerates (entries : List (String × Value)) (leaves : List (List String × Value)) :
    Prop where
  mem_iff : ∀ path v, (path, v) ∈ leaves ↔ Leaf entries path v
  increasing : leaves.Pairwise fun a b => a.1 < b.1

mutual

/-- The leaves of a value, with the keys that lead to them. -/
def leaves : Value → List (List String × Value)
  | .null => []
  | .map entries => entryLeaves entries
  | .bool b => [([], .bool b)]
  | .number n => [([], .number n)]
  | .text s => [([], .text s)]
  | .list items => [([], .list items)]

/-- The leaves of the entries of a map. -/
def entryLeaves : List (String × Value) → List (List String × Value)
  | [] => []
  | (key, v) :: es => (leaves v).map (fun leaf => (key :: leaf.1, leaf.2)) ++ entryLeaves es

end

/-! ### Every leaf is listed -/

theorem not_isLeaf_null : ¬ IsLeaf .null := fun h => h.1 rfl

theorem not_isLeaf_map (entries : List (String × Value)) : ¬ IsLeaf (.map entries) :=
  fun h => h.2 entries rfl

theorem not_leaf_nil {path : List String} {v : Value} : ¬ Leaf [] path v := by
  rintro (⟨hmem, -⟩ | ⟨hmem, -⟩)
  · exact List.not_mem_nil hmem
  · exact List.not_mem_nil hmem

/-- A leaf stands at the first entry, inside of it, or in the entries after it. -/
theorem leaf_cons_iff {key : String} {w : Value} {es : List (String × Value)}
    {path : List String} {v : Value} :
    Leaf ((key, w) :: es) path v ↔
      (path = [key] ∧ v = w ∧ IsLeaf w) ∨
      (∃ inner rest, w = .map inner ∧ path = key :: rest ∧ Leaf inner rest v) ∨
      Leaf es path v := by
  constructor
  · rintro (⟨hmem, hleaf⟩ | ⟨hmem, hinner⟩)
    · rcases List.mem_cons.1 hmem with heq | hmem
      · cases heq
        exact .inl ⟨rfl, rfl, hleaf⟩
      · exact .inr (.inr (.here hmem hleaf))
    · rcases List.mem_cons.1 hmem with heq | hmem
      · cases heq
        exact .inr (.inl ⟨_, _, rfl, rfl, hinner⟩)
      · exact .inr (.inr (.inside hmem hinner))
  · rintro (⟨rfl, rfl, hleaf⟩ | ⟨inner, rest, rfl, rfl, hinner⟩ | hrest)
    · exact .here List.mem_cons_self hleaf
    · exact .inside List.mem_cons_self hinner
    · cases hrest with
      | here hmem hleaf => exact .here (List.mem_cons_of_mem _ hmem) hleaf
      | inside hmem hinner => exact .inside (List.mem_cons_of_mem _ hmem) hinner

mutual

/-- A value that is a leaf has itself as its only leaf, and a map those inside of it. -/
theorem mem_leaves_iff : ∀ {w : Value} {path : List String} {v : Value},
    (path, v) ∈ leaves w ↔
      (path = [] ∧ v = w ∧ IsLeaf w) ∨ ∃ inner, w = .map inner ∧ Leaf inner path v
  | .null, path, v => by simp [leaves, not_isLeaf_null]
  | .map entries, path, v => by
      rw [leaves, mem_entryLeaves_iff]
      simp [not_isLeaf_map]
  | .bool _, path, v => by simp [leaves, IsLeaf]
  | .number _, path, v => by simp [leaves, IsLeaf]
  | .text _, path, v => by simp [leaves, IsLeaf]
  | .list _, path, v => by simp [leaves, IsLeaf]

theorem mem_entryLeaves_iff : ∀ {entries : List (String × Value)} {path : List String}
    {v : Value}, (path, v) ∈ entryLeaves entries ↔ Leaf entries path v
  | [], path, v => by simp [entryLeaves, not_leaf_nil]
  | (key, w) :: es, path, v => by
      rw [entryLeaves, List.mem_append, mem_entryLeaves_iff, leaf_cons_iff, ← or_assoc]
      refine or_congr ?_ Iff.rfl
      rw [List.mem_map]
      constructor
      · rintro ⟨⟨rest, u⟩, hmem, heq⟩
        cases heq
        rcases mem_leaves_iff.1 hmem with ⟨rfl, rfl, hleaf⟩ | ⟨inner, rfl, hinner⟩
        · exact .inl ⟨rfl, rfl, hleaf⟩
        · exact .inr ⟨inner, rest, rfl, rfl, hinner⟩
      · rintro (⟨rfl, rfl, hleaf⟩ | ⟨inner, rest, rfl, rfl, hinner⟩)
        · exact ⟨([], v), mem_leaves_iff.2 (.inl ⟨rfl, rfl, hleaf⟩), rfl⟩
        · exact ⟨(rest, v), mem_leaves_iff.2 (.inr ⟨inner, rfl, hinner⟩), rfl⟩

end

/-! ### The order of the leaves -/

/-- The keys of a map increase, and those of every map in it. -/
def Normal (entries : List (String × Value)) : Prop :=
  KeysSorted entries ∧ ∀ e ∈ entries, e.2.sorted = e.2

/-- What is inside a map in normal form is so too. -/
theorem normal_of_sorted_map {entries : List (String × Value)}
    (h : (Value.map entries).sorted = .map entries) : Normal entries := by
  rw [Value.sorted, Value.map.injEq] at h
  rw [← h]
  exact ⟨keysSorted_sortEntries _, fun e he =>
    Value.sorted_of_mem_sortedEntries entries e (mem_of_mem_sortEntries he)⟩

theorem head_of_mem_entryLeaves {leaf : List String × Value} :
    ∀ {entries : List (String × Value)}, leaf ∈ entryLeaves entries →
      ∃ e ∈ entries, ∃ rest, leaf.1 = e.1 :: rest
  | [], h => absurd h List.not_mem_nil
  | (key, w) :: es, h => by
      rw [entryLeaves, List.mem_append, List.mem_map] at h
      rcases h with ⟨inner, -, rfl⟩ | h
      · exact ⟨_, List.mem_cons_self, inner.1, rfl⟩
      · obtain ⟨e, he, hpath⟩ := head_of_mem_entryLeaves h
        exact ⟨e, List.mem_cons_of_mem _ he, hpath⟩

mutual

theorem pairwise_leaves : ∀ {v : Value}, v.sorted = v →
    (leaves v).Pairwise fun a b => a.1 < b.1
  | .map entries, h => by
      rw [leaves]
      exact pairwise_entryLeaves (normal_of_sorted_map h)
  | .null, _ => .nil
  | .bool _, _ | .number _, _ | .text _, _ | .list _, _ => List.pairwise_singleton _ _

/-- The leaves under one key come before those under the keys after it. -/
theorem pairwise_entryLeaves : ∀ {entries : List (String × Value)}, Normal entries →
    (entryLeaves entries).Pairwise fun a b => a.1 < b.1
  | [], _ => .nil
  | (key, w) :: es, ⟨hkeys, hvalues⟩ => by
      obtain ⟨hfirst, hrest⟩ := List.pairwise_cons.1 hkeys
      rw [List.forall_mem_cons] at hvalues
      rw [entryLeaves, List.pairwise_append]
      refine ⟨?_, pairwise_entryLeaves ⟨hrest, hvalues.2⟩, ?_⟩
      · rw [List.pairwise_map]
        exact (pairwise_leaves hvalues.1).imp fun hlt => List.cons_lt_cons_iff.2 (.inr ⟨rfl, hlt⟩)
      · intro a ha b hb
        obtain ⟨inner, -, rfl⟩ := List.mem_map.1 ha
        obtain ⟨e, he, rest, hb⟩ := head_of_mem_entryLeaves hb
        rw [hb]
        exact List.cons_lt_cons_iff.2 (.inl (hfirst e he))

end

theorem enumerates_leaves {entries : List (String × Value)} (h : Normal entries) :
    Enumerates entries (entryLeaves entries) :=
  ⟨fun _ _ => mem_entryLeaves_iff, pairwise_entryLeaves h⟩

/-! ### The declarations of a group -/

/-- The name of a leaf's property: the group, then the keys as identifiers, with dashes between. -/
def leafName (group : String) (path : List String) : String :=
  String.intercalate "-" (group :: path.map Naming.cssIdent)

/-- The declaration of a leaf. -/
def leafDeclaration (group : String) (leaf : List String × Value) : Declaration :=
  customProperty (leafName group leaf.1) (valueText leaf.2)

/-- Names grow key by key on the way to a leaf. -/
theorem leafName_tokenName (name key : String) (path : List String) :
    leafName (tokenName name key) path = leafName name (key :: path) := rfl

mutual

theorem tokenDeclarations_eq_map (name : String) : ∀ v : Value,
    tokenDeclarations name v = (leaves v).map (leafDeclaration name)
  | .null => by rw [tokenDeclarations, leaves, List.map_nil]
  | .map entries => by rw [tokenDeclarations, leaves, entryDeclarations_eq_map name entries]
  | .bool _ | .number _ | .list _ => by
      rw [tokenDeclarations, leaves, List.map_singleton]
      rfl
  | .text s => by
      rw [tokenDeclarations, leaves, List.map_singleton, leafDeclaration, valueText]
      rfl

theorem entryDeclarations_eq_map (name : String) : ∀ entries : List (String × Value),
    entryDeclarations name entries = (entryLeaves entries).map (leafDeclaration name)
  | [] => by rw [entryDeclarations, entryLeaves, List.map_nil]
  | (key, v) :: es => by
      have hnames : leafDeclaration (tokenName name key) =
          leafDeclaration name ∘ fun leaf => (key :: leaf.1, leaf.2) := by
        funext leaf
        rw [Function.comp, leafDeclaration, leafDeclaration, leafName_tokenName]
      rw [entryDeclarations, entryLeaves, List.map_append, List.map_map, ← hnames,
        tokenDeclarations_eq_map (tokenName name key) v, entryDeclarations_eq_map name es]

end

/-! ### The sections of the root block -/

/-- A section of the root block: a token group, between the declarations of other parts. -/
structure TokenSection where
  title : String
  before : List Declaration
  group : String
  tokens : TokenGroup
  after : List Declaration

/-- The section has something to declare: a declaration of its own, or a leaf. -/
def TokenSection.Filled (s : TokenSection) : Prop :=
  s.before ≠ [] ∨ s.after ≠ [] ∨ ∃ path v, Leaf s.tokens.entries path v

/-- The sections of a design system in their fixed order. -/
def tokenSections (design : Design) : List TokenSection :=
  let typography := design.typography
  let spacing := design.spacing
  [⟨"Colors", [], "color", design.tokens.colors, []⟩,
    ⟨"Typography",
      [customProperty "font-heading" typography.headingFont,
        customProperty "font-body" typography.bodyFont,
        customProperty "font-size-base" (numberText typography.baseFontSize ++ "px"),
        customProperty "type-scale" (numberText typography.scale)],
      "font", design.tokens.fonts,
      typography.styles.entries.flatMap fun e => styleDeclarations e.1 e.2⟩,
    ⟨"Spacing",
      customProperty "spacing-unit" (numberText spacing.baseUnit ++ "px") ::
        stepDeclarations spacing,
      "spacing", design.tokens.spacing, []⟩,
    ⟨"Shadows", [], "shadow", design.tokens.shadows, []⟩,
    ⟨"Borders", [], "border", design.tokens.borders, []⟩,
    ⟨"Radii", [], "radius", design.tokens.radii, []⟩,
    ⟨"Z-index", [], "z", design.tokens.zIndex, []⟩,
    ⟨"Transitions", [], "transition", design.tokens.transitions, []⟩,
    ⟨"Breakpoints", [], "breakpoint", design.breakpoints, []⟩]

/-- A line of the root block. -/
inductive Line where
  | title (s : String)
  | declaration (d : Declaration)

def Line.render : Line → String
  | .title s => "  " ++ comment s
  | .declaration d => declarationLine d

/-- The lines that sections take: a section with something to declare has its title, then its
declarations with one for each leaf of the group. -/
inductive Lines : List TokenSection → List Line → Prop where
  | nil : Lines [] []
  | empty {s : TokenSection} {rest : List TokenSection} {lines : List Line} :
      ¬ s.Filled → Lines rest lines → Lines (s :: rest) lines
  | filled {s : TokenSection} {rest : List TokenSection} {lines : List Line}
      {leaves : List (List String × Value)} :
      s.Filled → Enumerates s.tokens.entries leaves → Lines rest lines →
        Lines (s :: rest)
          (.title s.title ::
            (s.before ++ leaves.map (leafDeclaration s.group) ++ s.after).map .declaration ++ lines)

/-- A section is titled if it has something to declare. -/
theorem Lines.title_mem_iff {ss : List TokenSection} {lines : List Line} (h : Lines ss lines)
    (title : String) : .title title ∈ lines ↔ ∃ s ∈ ss, s.title = title ∧ s.Filled := by
  induction h with
  | nil => simp
  | empty hempty _ ih =>
      rw [ih]
      simp only [List.mem_cons, or_and_right, exists_or, exists_eq_left]
      exact (or_iff_right fun h => hempty h.2).symm
  | filled hfilled _ _ ih =>
      rw [List.cons_append, List.mem_cons, List.mem_append, Line.title.injEq, ih]
      simp only [List.mem_cons, or_and_right, exists_or, exists_eq_left]
      simp [hfilled, eq_comm]

/-- The declarations of a section as the stylesheet makes them. -/
def TokenSection.toSection (s : TokenSection) : Section :=
  ⟨s.title, s.before ++ groupDeclarations s.group s.tokens ++ s.after⟩

theorem sections_eq_map (design : Design) :
    sections design = (tokenSections design).map TokenSection.toSection := by
  simp [sections, tokenSections, TokenSection.toSection, typographyDeclarations,
    spacingDeclarations]

theorem TokenSection.filled_iff (s : TokenSection) :
    s.Filled ↔ s.toSection.declarations ≠ [] := by
  have hleaves : (∃ path v, Leaf s.tokens.entries path v) ↔
      groupDeclarations s.group s.tokens ≠ [] := by
    rw [groupDeclarations, entryDeclarations_eq_map, ne_eq, List.map_eq_nil_iff,
      List.eq_nil_iff_forall_not_mem, not_forall]
    simp only [not_not, Prod.exists, mem_entryLeaves_iff]
  rw [Filled, hleaves, toSection, ne_eq, ne_eq, ne_eq, ne_eq, List.append_eq_nil_iff,
    List.append_eq_nil_iff]
  tauto

/-- Line by line, a section is written as the stylesheet renders it. -/
theorem render_toSection (s : TokenSection) :
    String.join ((.title s.title ::
      (s.before ++ (entryLeaves s.tokens.entries).map (leafDeclaration s.group) ++ s.after).map
        Line.declaration).map Line.render) = s.toSection.render := by
  rw [← entryDeclarations_eq_map, List.map_cons, String.join_cons, List.map_map]
  rfl

/-! ### The stylesheet -/

/-- The values of a token group are as documents give them: in each map the keys increase. -/
def NormalGroup (tokens : TokenGroup) : Prop := ∀ e ∈ tokens.entries, e.2.sorted = e.2

/-- The token groups of a design system, in the order of its sections. -/
def tokenGroups (design : Design) : List TokenGroup :=
  let t := design.tokens
  [t.colors, t.fonts, t.spacing, t.shadows, t.borders, t.radii, t.zIndex, t.transitions,
    design.breakpoints]

theorem map_tokens_tokenSections (design : Design) :
    (tokenSections design).map (·.tokens) = tokenGroups design := rfl

/-- All token groups of a design system are as documents give them. -/
def NormalTokens (design : Design) : Prop := ∀ tokens ∈ tokenGroups design, NormalGroup tokens

theorem normalGroup_empty : NormalGroup .empty := List.forall_mem_nil _

theorem codec_yields_normalGroup :
    (Codec.map .value : Codec Value TokenGroup).Yields NormalGroup := by
  have hvalue : Codec.value.Yields fun v => v.sorted = v := by
    intro tree v hread
    cases hread
    exact Value.sorted_sorted tree
  exact Codec.map_yields hvalue

/-- Design systems that are read from documents have normal tokens. -/
theorem codec_yields_normalTokens : Design.codec.Yields NormalTokens := by
  have htokens : DesignTokens.shape.codec.Yields fun t =>
      ∀ group ∈ [t.colors, t.fonts, t.spacing, t.shadows, t.borders, t.radii, t.zIndex,
        t.transitions], NormalGroup group := by
    refine Shape.yields (by simp [DesignTokens.shape, normalGroup_empty]) ?_
    simp only [DesignTokens.shape, List.forall_mem_cons]
    refine ⟨?_, ?_, ?_, ?_, ?_, ?_, ?_, ?_, List.forall_mem_nil _⟩
    all_goals
      refine readKeeps_part codec_yields_normalGroup fun y x hgroups hy => ?_
      simp_all
  refine Shape.yields (by simp [Design.shape, NormalTokens, tokenGroups, normalGroup_empty]) ?_
  simp only [Design.shape, List.forall_mem_cons]
  refine ⟨?_, ?_, ?_, ?_, ?_, List.forall_mem_nil _⟩
  · refine readKeeps_part htokens fun y x hgroups hy => ?_
    simp only [NormalTokens, tokenGroups, List.forall_mem_cons] at hgroups hy ⊢
    simp [hgroups, hy]
  · exact readKeeps_aside fun _ _ hgroups => hgroups
  · exact readKeeps_aside fun _ _ hgroups => hgroups
  · exact readKeeps_aside fun _ _ hgroups => hgroups
  · refine readKeeps_part codec_yields_normalGroup fun y x hgroups hy => ?_
    simp only [NormalTokens, tokenGroups, List.forall_mem_cons] at hgroups ⊢
    simp [hgroups, hy]

theorem exists_lines : ∀ {ss : List TokenSection},
    (∀ s ∈ ss, NormalGroup s.tokens) →
      ∃ lines, Lines ss lines ∧ String.join (lines.map Line.render) =
        String.join (((ss.map TokenSection.toSection).filter fun s =>
          !s.declarations.isEmpty).map Section.render)
  | [], _ => ⟨[], .nil, rfl⟩
  | s :: ss, h => by
      rw [List.forall_mem_cons] at h
      obtain ⟨lines, hlines, htext⟩ := exists_lines h.2
      by_cases hfilled : s.Filled
      · have henumerates : Enumerates s.tokens.entries (entryLeaves s.tokens.entries) :=
          enumerates_leaves ⟨s.tokens.sorted, h.1⟩
        refine ⟨_, .filled hfilled henumerates hlines, ?_⟩
        rw [List.map_cons, List.filter_cons_of_pos (by simpa using s.filled_iff.1 hfilled),
          List.map_cons, String.join_cons, List.map_append, String.join_append, htext,
          render_toSection]
      · refine ⟨lines, .empty hfilled hlines, ?_⟩
        rw [List.map_cons, List.filter_cons_of_neg, htext]
        simpa using mt s.filled_iff.2 hfilled

theorem nodup_titles (design : Design) : ((tokenSections design).map (·.title)).Nodup := by
  change ["Colors", "Typography", "Spacing", "Shadows", "Borders", "Radii", "Z-index",
    "Transitions", "Breakpoints"].Nodup
  decide

/-- The rule of the palette, behind its comment. -/
def paletteText (p : Palette) : String :=
  if p.isExtended then
    "\n" ++ comment "Palette" ++
      rootRule (String.join ((paletteDeclarations p).map declarationLine))
  else ""

/-- The root block declares every leaf of every token group once, section by section and in
depth-first order of the keys. A section has its title if it declares something. -/
theorem tokens_declared_once (design : Design) (h : NormalTokens design) :
    ∃ lines, Lines (tokenSections design) lines ∧
      themeCss design =
        comment "Design tokens" ++ rootRule (String.join (lines.map Line.render)) ++
          paletteText design.colors ∧
      ∀ s ∈ tokenSections design, .title s.title ∈ lines ↔ s.Filled := by
  rw [NormalTokens, ← map_tokens_tokenSections, List.forall_mem_map] at h
  obtain ⟨lines, hlines, htext⟩ := exists_lines h
  refine ⟨lines, hlines, ?_, ?_⟩
  · rw [htext, ← sections_eq_map]
    rfl
  · intro s hs
    rw [hlines.title_mem_iff]
    constructor
    · rintro ⟨s', hs', htitle, hfilled⟩
      rwa [List.inj_on_of_nodup_map (nodup_titles design) hs' hs htitle] at hfilled
    · intro hfilled
      exact ⟨s, hs, rfl, hfilled⟩

/-- A design system with maps inside of a group, one of them empty, and a token without a value. -/
def nestedTokens : Design where
  tokens := { colors := .ofList [
    ("brand", .map [("darkBlue", .text "#00f"), ("faint", .map []), ("primary", .text "#1d4ed8")]),
    ("unset", .null)] }

theorem tokens_declared_once_nested : NormalTokens nestedTokens ∧
    ∃ lines, Lines (tokenSections nestedTokens) lines ∧
      themeCss nestedTokens =
        comment "Design tokens" ++ rootRule (String.join (lines.map Line.render)) ++
          paletteText nestedTokens.colors ∧
      ∀ s ∈ tokenSections nestedTokens, .title s.title ∈ lines ↔ s.Filled := by
  have h : NormalTokens nestedTokens := by
    unfold NormalTokens NormalGroup
    decide +kernel
  exact ⟨h, tokens_declared_once nestedTokens h⟩

example : groupDeclarations "color" nestedTokens.tokens.colors =
    [customProperty "color-brand-dark-blue" "#00f",
      customProperty "color-brand-primary" "#1d4ed8"] := by
  decide +kernel

end Portfolio.Theme
