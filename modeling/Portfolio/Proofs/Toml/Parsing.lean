/-
Module: Portfolio.Proofs.Toml.Parsing
Purpose: What a text reads as is a tree in order: every line of a document inserts into tables
  that are in order, however far down.
Main exports: Toml.Tidy, Toml.KeepsTidy, Toml.keepsTidy_editAt, Toml.gives_readValue,
  Toml.ordered_of_parse
-/
import Portfolio.Proofs.Toml.Layering
import Portfolio.Toml.Parser

namespace Portfolio.Toml

/-! ### Growing tables -/

theorem itemsToToml_eq_map (items : List Node) : itemsToToml items = items.map Node.toToml := by
  induction items with
  | nil => rfl
  | cons node items ih => rw [itemsToToml, List.map_cons, ih]

theorem entriesToToml_eq_map (entries : Entries) :
    entriesToToml entries = entries.map fun e => (e.1, e.2.toToml) := by
  induction entries with
  | nil => rfl
  | cons e entries ih => rw [entriesToToml, List.map_cons, ih]

/-- The tables that are read off are in order. -/
def Tidy (entries : Entries) : Prop := Ordered (.table (entriesToToml entries))

theorem tidy_iff {entries : Entries} :
    Tidy entries ↔ KeysSorted entries ∧ ∀ e ∈ entries, Ordered e.2.toToml := by
  rw [Tidy, ordered_table_iff, entriesToToml_eq_map, KeysSorted, List.pairwise_map,
    List.forall_mem_map]
  rfl

theorem tidy_nil : Tidy [] := tidy_iff.2 ⟨List.Pairwise.nil, List.forall_mem_nil _⟩

theorem Tidy.insert {entries : Entries} (h : Tidy entries) (key : String) {node : Node}
    (hnode : Ordered node.toToml) : Tidy (insertSorted key node entries) := by
  obtain ⟨hkeys, hentries⟩ := tidy_iff.1 h
  refine tidy_iff.2 ⟨hkeys.insertSorted, fun e he => ?_⟩
  rcases mem_insertSorted he with rfl | he
  · exact hnode
  · exact hentries e he

theorem Tidy.of_lookup {entries : Entries} (h : Tidy entries) {key : String} {node : Node}
    (hlookup : entries.lookup key = some node) : Ordered node.toToml := by
  obtain ⟨hkeys, hentries⟩ := tidy_iff.1 h
  exact hentries _ ((lookup_eq_some_iff_mem hkeys.nodup).1 hlookup)

/-- The tables under headers of one name are in order if each of them is. -/
theorem ordered_tables_iff {items : List Node} :
    Ordered (Node.tables items).toToml ↔ ∀ node ∈ items, Ordered node.toToml := by
  rw [Node.toToml, ordered_array_iff, itemsToToml_eq_map, List.forall_mem_map]

/-- A change that leaves tables in order. -/
def KeepsTidy (edit : Origin → Entries → Option Entries) : Prop :=
  ∀ origin entries entries', Tidy entries → edit origin entries = some entries' → Tidy entries'

/-- A change further down leaves the tables on the way in order. -/
theorem keepsTidy_editAt {dotted : Bool} {edit : Origin → Entries → Option Entries}
    (hedit : KeepsTidy edit) : ∀ path, KeepsTidy (editAt dotted edit path)
  | [] => hedit
  | key :: path => by
      intro origin entries entries' h hchange
      rw [editAt] at hchange
      cases hlookup : entries.lookup key with
      | none =>
          simp only [hlookup] at hchange
          obtain ⟨inner, hinner, rfl⟩ := Option.map_eq_some_iff.1 hchange
          exact h.insert key (keepsTidy_editAt hedit path _ [] inner tidy_nil hinner)
      | some node =>
          have hnode : Ordered node.toToml := h.of_lookup hlookup
          cases node with
          | value t => simp [hlookup] at hchange
          | table made under =>
              simp only [hlookup] at hchange
              split at hchange
              · cases hchange
              · obtain ⟨inner, hinner, rfl⟩ := Option.map_eq_some_iff.1 hchange
                exact h.insert key (keepsTidy_editAt hedit path _ under inner hnode hinner)
          | tables items =>
              simp only [hlookup] at hchange
              rw [ordered_tables_iff] at hnode
              split at hchange
              · next made under hlast =>
                  -- Of several tables the last one grows.
                  have hunder : Tidy under := hnode _ (List.mem_of_getLast? hlast)
                  obtain ⟨inner, hinner, rfl⟩ := Option.map_eq_some_iff.1 hchange
                  refine h.insert key (ordered_tables_iff.2 ?_)
                  rw [List.forall_mem_append, List.forall_mem_singleton]
                  exact ⟨fun node hmem => hnode node (List.dropLast_subset items hmem),
                    keepsTidy_editAt hedit path _ under inner hunder hinner⟩
              · cases hchange

theorem keepsTidy_setFree {value : Toml} (hvalue : Ordered value) (plain : Bool) (key : String) :
    KeepsTidy (setFree plain key value) := by
  intro origin entries entries' h hchange
  rw [setFree] at hchange
  split at hchange
  · cases hchange
  · split at hchange
    · cases hchange
    · cases hchange
      exact h.insert key hvalue

theorem keepsTidy_addPair {value : Toml} (hvalue : Ordered value) (path : List String)
    (key : String) : KeepsTidy (addPair path key value) :=
  keepsTidy_editAt (keepsTidy_setFree hvalue path.isEmpty key) path

theorem keepsTidy_giveHeader (key : String) : KeepsTidy (giveHeader key) := by
  intro origin entries entries' h hchange
  rw [giveHeader] at hchange
  split at hchange
  · cases hchange
    exact h.insert key tidy_nil
  · next inner hlookup =>
      cases hchange
      have hinner : Tidy inner := h.of_lookup hlookup
      exact h.insert key hinner
  · cases hchange

theorem keepsTidy_addTable (key : String) : KeepsTidy (addTable key) := by
  intro origin entries entries' h hchange
  rw [addTable] at hchange
  split at hchange
  · cases hchange
    refine h.insert key (ordered_tables_iff.2 ?_)
    rw [List.forall_mem_singleton]
    exact tidy_nil
  · next items hlookup =>
      cases hchange
      refine h.insert key (ordered_tables_iff.2 ?_)
      rw [List.forall_mem_append, List.forall_mem_singleton]
      exact ⟨ordered_tables_iff.1 (h.of_lookup hlookup), tidy_nil⟩
  · cases hchange

/-! ### Values -/

/-- A reader all of whose results have a property. -/
def Gives {α : Type} (P : α → Prop) (read : List Char → Option (α × List Char)) : Prop :=
  ∀ cs x rest, read cs = some (x, rest) → P x

theorem ordered_of_readMoment {token : List Char} {t : Toml} (h : readMoment token = some t) :
    Ordered t := by
  obtain ⟨s, -, rfl⟩ := Option.map_eq_some_iff.1 h
  exact .moment s

theorem ordered_of_integer? {n : Int} {t : Toml} (h : integer? n = some t) : Ordered t := by
  rw [integer?] at h
  split at h
  · cases h
    exact .integer n
  · cases h

theorem ordered_of_baseInteger? {base : Nat} {cs : List Char} {t : Toml}
    (h : baseInteger? base cs = some t) : Ordered t := by
  obtain ⟨digits, -, hn⟩ := Option.bind_eq_some_iff.1 h
  exact ordered_of_integer? hn

theorem ordered_of_readInteger {token : List Char} {t : Toml} (h : readInteger token = some t) :
    Ordered t := by
  unfold readInteger at h
  split at h
  · exact ordered_of_baseInteger? h
  · exact ordered_of_baseInteger? h
  · exact ordered_of_baseInteger? h
  · obtain ⟨digits, -, hn⟩ := Option.bind_eq_some_iff.1 h
    exact ordered_of_integer? hn

theorem ordered_of_readFloat {token : List Char} {t : Toml} (h : readFloat token = some t) :
    Ordered t := by
  simp only [readFloat] at h
  split at h
  · cases h
    exact .float _
  · split at h
    · cases h
      exact .float _
    · split at h
      · cases h
      · obtain ⟨whole, -, h⟩ := Option.bind_eq_some_iff.1 h
        obtain ⟨places, -, h⟩ := Option.bind_eq_some_iff.1 h
        obtain ⟨shift, -, h⟩ := Option.bind_eq_some_iff.1 h
        split at h
        · cases h
        · cases h
          exact .float _

theorem ordered_of_ofToken {token : List Char} {t : Toml} (h : ofToken token = some t) :
    Ordered t := by
  rw [ofToken] at h
  split at h
  · cases h
    exact .boolean true
  · split at h
    · cases h
      exact .boolean false
    · simp only [Option.orElse_eq_orElse, Option.orElse_eq_or, Option.or_eq_some_iff] at h
      rcases h with h | ⟨-, h | ⟨-, h⟩⟩
      · exact ordered_of_readMoment h
      · exact ordered_of_readFloat h
      · exact ordered_of_readInteger h

theorem gives_readToken : Gives Ordered readToken := by
  intro cs t rest h
  have htoken : ∀ {token : List Char} {rest' : List Char},
      (ofToken token).map (fun t => (t, rest')) = some (t, rest) → Ordered t := by
    intro token rest' h
    obtain ⟨t', ht, heq⟩ := Option.map_eq_some_iff.1 h
    cases heq
    exact ordered_of_ofToken ht
  unfold readToken at h
  simp only at h
  split at h
  · split at h
    · obtain ⟨t', ht, heq⟩ := Option.map_eq_some_iff.1 h
      cases heq
      exact ordered_of_readMoment ht
    · exact htoken h
  · exact htoken h

section Item

variable {item : List Char → Option (Toml × List Char)} (hitem : Gives Ordered item)

include hitem

theorem gives_readItems (fuel : Nat) :
    Gives (fun ts => ∀ t ∈ ts, Ordered t) (readItems item fuel) := by
  induction fuel with
  | zero =>
      intro cs ts rest h
      cases h
  | succ fuel ih =>
      intro cs ts rest h
      rw [readItems] at h
      split at h
      · cases h
        exact List.forall_mem_nil _
      · obtain ⟨⟨t, rest'⟩, ht, h⟩ := Option.bind_eq_some_iff.1 h
        have hfirst : Ordered t := hitem _ t rest' ht
        simp only at h
        split at h
        · obtain ⟨⟨ts', rest''⟩, hts, heq⟩ := Option.bind_eq_some_iff.1 h
          cases heq
          exact List.forall_mem_cons.2 ⟨hfirst, ih _ _ _ hts⟩
        · cases h
          exact List.forall_mem_singleton.2 hfirst
        · cases h

theorem gives_readPair : Gives (fun pair => Ordered pair.2.2) (readPair item) := by
  intro cs pair rest h
  obtain ⟨⟨⟨path, key⟩, rest'⟩, -, h⟩ := Option.bind_eq_some_iff.1 h
  simp only at h
  split at h
  · obtain ⟨⟨t, rest''⟩, ht, heq⟩ := Option.bind_eq_some_iff.1 h
    cases heq
    exact hitem _ _ _ ht
  · cases h

theorem gives_readPairs (fuel : Nat) {entries : Entries} (h : Tidy entries) :
    Gives Tidy (readPairs item fuel entries) := by
  induction fuel generalizing entries with
  | zero =>
      intro cs entries' rest hpairs
      cases hpairs
  | succ fuel ih =>
      intro cs entries' rest hpairs
      rw [readPairs] at hpairs
      obtain ⟨⟨⟨path, key, t⟩, rest'⟩, hpair, hpairs⟩ := Option.bind_eq_some_iff.1 hpairs
      obtain ⟨grown, hadd, hpairs⟩ := Option.bind_eq_some_iff.1 hpairs
      have ht : Ordered t := gives_readPair hitem cs (path, key, t) rest' hpair
      have hgrown : Tidy grown := keepsTidy_addPair ht path key .header entries grown h hadd
      split at hpairs
      · exact ih hgrown _ entries' rest hpairs
      · cases hpairs
        exact hgrown
      · cases hpairs

end Item

theorem ordered_of_asText {read : Option (String × List Char)} {t : Toml} {rest : List Char}
    (h : read.map (fun (s, rest) => (.text s, rest)) = some (t, rest)) : Ordered t := by
  obtain ⟨⟨s, rest'⟩, -, heq⟩ := Option.map_eq_some_iff.1 h
  cases heq
  exact .text s

/-- A value that is read is in order, whatever its nesting. -/
theorem gives_readValue (levels : Nat) : Gives Ordered (readValue levels) := by
  intro cs t rest h
  unfold readValue at h
  split at h
  · exact ordered_of_asText h
  · exact ordered_of_asText h
  · exact ordered_of_asText h
  · exact ordered_of_asText h
  · split at h
    · cases h
    · next levels =>
        obtain ⟨⟨ts, rest'⟩, hts, heq⟩ := Option.map_eq_some_iff.1 h
        cases heq
        exact .array (gives_readItems (gives_readValue levels) _ _ ts rest hts)
  · split at h
    · cases h
    · next levels =>
        split at h
        · cases h
          exact tidy_nil
        · obtain ⟨⟨entries, rest'⟩, hentries, heq⟩ := Option.map_eq_some_iff.1 h
          cases heq
          exact gives_readPairs (gives_readValue levels) _ tidy_nil _ entries rest hentries
  · exact gives_readToken cs t rest h

/-! ### Documents -/

/-- What a line leaves is what its change gives. -/
theorem tidy_of_change {change : Option Entries} {current : List String} {cs rest : List Char}
    {p : Progress} (hchange : ∀ entries, change = some entries → Tidy entries)
    (h : (do return ((⟨← change, current⟩ : Progress), ← skipLineEnd cs)) = some (p, rest)) :
    Tidy p.entries := by
  obtain ⟨entries, hentries, h⟩ := Option.bind_eq_some_iff.1 h
  obtain ⟨rest', -, heq⟩ := Option.bind_eq_some_iff.1 h
  cases heq
  exact hchange entries hentries

/-- A line leaves the tables in order. -/
theorem tidy_readLine {p p' : Progress} {cs rest : List Char} (h : Tidy p.entries)
    (hline : readLine p cs = some (p', rest)) : Tidy p'.entries := by
  unfold readLine at hline
  split at hline
  · obtain ⟨⟨⟨path, key⟩, rest'⟩, -, hline⟩ := Option.bind_eq_some_iff.1 hline
    simp only at hline
    split at hline
    · exact tidy_of_change
        (keepsTidy_editAt (keepsTidy_addTable key) path .header p.entries · h) hline
    · cases hline
  · obtain ⟨⟨⟨path, key⟩, rest'⟩, -, hline⟩ := Option.bind_eq_some_iff.1 hline
    simp only at hline
    split at hline
    · exact tidy_of_change
        (keepsTidy_editAt (keepsTidy_giveHeader key) path .header p.entries · h) hline
    · cases hline
  · obtain ⟨⟨⟨path, key, t⟩, rest'⟩, hpair, hline⟩ := Option.bind_eq_some_iff.1 hline
    have ht : Ordered t := gives_readPair (gives_readValue maxNesting) cs (path, key, t) _ hpair
    exact tidy_of_change
      (keepsTidy_editAt (keepsTidy_addPair ht path key) p.current .header p.entries · h) hline

/-- And so do all lines of a text. -/
theorem tidy_readLines {fuel : Nat} {p p' : Progress} {cs : List Char} (h : Tidy p.entries)
    (hlines : readLines fuel p cs = some p') : Tidy p'.entries := by
  induction fuel generalizing p cs with
  | zero => cases hlines
  | succ fuel ih =>
      rw [readLines] at hlines
      split at hlines
      · cases hlines
        exact h
      · obtain ⟨⟨p₁, rest⟩, hline, hlines⟩ := Option.bind_eq_some_iff.1 hlines
        exact ih (tidy_readLine h hline) hlines

/-- What a text reads as is in order. -/
theorem ordered_of_parse {s : String} {t : Toml} (h : parse s = some t) : Ordered t := by
  obtain ⟨p, hlines, heq⟩ := Option.bind_eq_some_iff.1 h
  cases heq
  exact tidy_readLines tidy_nil hlines

end Portfolio.Toml
