/-
Module: Portfolio.SortedMap
Purpose: Finite maps with text keys, listed in byte order of the keys, and the
  insertion into key-sorted lists that they rest on.
Main exports: SortedMap, SortedMap.insert, SortedMap.get?, SortedMap.ofList
-/

namespace Portfolio

/-- Puts a key into a list sorted by key. The value of a key already present is
replaced. -/
def insertSorted {α : Type} (key : String) (value : α) :
    List (String × α) → List (String × α)
  | [] => [(key, value)]
  | (k, v) :: rest =>
      if key < k then (key, value) :: (k, v) :: rest
      else if key = k then (key, value) :: rest
      else (k, v) :: insertSorted key value rest

/-- The entries in byte order of their keys. Of a repeated key the last value
counts. -/
def sortEntries {α : Type} (entries : List (String × α)) : List (String × α) :=
  entries.foldl (fun sorted entry => insertSorted entry.1 entry.2 sorted) []

/-- The keys strictly increase, so none occurs twice. -/
def KeysSorted {α : Type} (entries : List (String × α)) : Prop :=
  entries.Pairwise fun a b => a.1 < b.1

theorem mem_insertSorted {α : Type} {key : String} {value : α} {e : String × α} :
    ∀ {entries : List (String × α)}, e ∈ insertSorted key value entries →
      e = (key, value) ∨ e ∈ entries
  | [], h => by simpa [insertSorted] using h
  | (k, v) :: rest, h => by
      unfold insertSorted at h
      split at h
      · simpa using h
      · split at h
        · rcases List.mem_cons.1 h with h | h
          · exact .inl h
          · exact .inr (List.mem_cons_of_mem _ h)
        · rcases List.mem_cons.1 h with h | h
          · exact .inr (h ▸ List.mem_cons_self)
          · exact (mem_insertSorted h).imp_right (List.mem_cons_of_mem _)

/-- Insertion keeps the keys sorted. -/
theorem KeysSorted.insertSorted {α : Type} {key : String} {value : α} :
    ∀ {entries : List (String × α)}, KeysSorted entries →
      KeysSorted (insertSorted key value entries)
  | [], _ => by simp [Portfolio.insertSorted, KeysSorted]
  | (k, v) :: rest, h => by
      have hrest := List.pairwise_cons.1 h
      unfold Portfolio.insertSorted
      split
      · next hlt =>
          refine List.pairwise_cons.2 ⟨fun e he => ?_, h⟩
          rcases List.mem_cons.1 he with he | he
          · exact he ▸ hlt
          · exact String.lt_trans hlt (hrest.1 e he)
      · split
        · next heq =>
            subst heq
            exact List.pairwise_cons.2 ⟨hrest.1, hrest.2⟩
        · next hlt hne =>
            refine List.pairwise_cons.2 ⟨fun e he => ?_, KeysSorted.insertSorted hrest.2⟩
            rcases mem_insertSorted he with he | he
            · subst he
              have hle : k ≤ key := String.not_lt.1 hlt
              rcases Decidable.em (k < key) with hk | hk
              · exact hk
              · exact absurd (String.le_antisymm hle (String.not_lt.1 hk)) fun e => hne e.symm
            · exact hrest.1 e he

/-- Sorting entries sorts their keys. -/
theorem keysSorted_sortEntries {α : Type} (entries : List (String × α)) :
    KeysSorted (sortEntries entries) := by
  suffices h : ∀ (es acc : List (String × α)), KeysSorted acc →
      KeysSorted (es.foldl (fun sorted entry => insertSorted entry.1 entry.2 sorted) acc) from
    h entries [] List.Pairwise.nil
  intro es
  induction es with
  | nil => exact fun _ h => h
  | cons e es ih => exact fun acc h => ih _ h.insertSorted

/-- A finite map with text keys. Its entries stand in byte order of the keys, and
no key stands twice. -/
structure SortedMap (α : Type) where
  entries : List (String × α)
  sorted : KeysSorted entries

namespace SortedMap

variable {α : Type}

/-- The map without entries. -/
def empty : SortedMap α := ⟨[], List.Pairwise.nil⟩

instance : Inhabited (SortedMap α) := ⟨empty⟩

instance [Repr α] : Repr (SortedMap α) := ⟨fun m => reprPrec m.entries⟩

/-- Two maps with the same entries are the same map. -/
@[ext] theorem ext {m n : SortedMap α} (h : m.entries = n.entries) : m = n := by
  cases m; cases n; simp_all

instance [DecidableEq α] : DecidableEq (SortedMap α) := fun m n =>
  if h : m.entries = n.entries then isTrue (ext h) else isFalse fun e => h (e ▸ rfl)

/-- The map with a key set to a value. -/
def insert (m : SortedMap α) (key : String) (value : α) : SortedMap α :=
  ⟨insertSorted key value m.entries, m.sorted.insertSorted⟩

/-- The map of a list of entries, where the last value of a key counts. -/
def ofList (entries : List (String × α)) : SortedMap α :=
  ⟨sortEntries entries, keysSorted_sortEntries entries⟩

def get? (m : SortedMap α) (key : String) : Option α := m.entries.lookup key

/-- The keys in byte order. -/
def keys (m : SortedMap α) : List String := m.entries.map (·.1)

/-- The values in byte order of their keys. -/
def values (m : SortedMap α) : List α := m.entries.map (·.2)

def size (m : SortedMap α) : Nat := m.entries.length

def isEmpty (m : SortedMap α) : Bool := m.entries.isEmpty

end SortedMap

end Portfolio
