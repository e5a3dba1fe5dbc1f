/-
Module: Portfolio.Proofs.Storage.Path
Purpose: Paths as segments: how segments join and split, what lower case does to them,
  and which of them make a path safe.
Main exports: Storage.segments_append, Storage.segments_of_not_mem, Storage.segments_injective,
  Storage.segments_lowerAscii, Storage.isSafe_of_segments
-/
import Mathlib.Data.List.Nodup
import Portfolio.Proofs.Naming.Spelling
import Portfolio.Record.Value
import Portfolio.Storage.Basic

namespace Portfolio.Storage

open Record (lowerAscii)

/-! ### Splitting and joining -/

@[simp]
theorem segments_append (front back : String) :
    segments (front ++ "/" ++ back) = segments front ++ segments back := by
  have hslash : "/".toList = ['/'] := rfl
  rw [segments, String.toList_append, String.toList_append, hslash, List.append_assoc,
    List.singleton_append, List.splitOn_append_cons_self, List.map_append]
  rfl

theorem segments_of_not_mem {s : String} (h : '/' ∉ s.toList) : segments s = [s] := by
  rw [segments, List.splitOn_eq_singleton h, List.map_singleton, String.ofList_toList]

/-- A path is its segments. -/
theorem segments_injective : Function.Injective segments := by
  intro p q h
  have hpieces : p.toList.splitOn '/' = q.toList.splitOn '/' :=
    List.map_injective_iff.2 (fun _ _ => String.ofList_injective) h
  have hp : ['/'].intercalate (p.toList.splitOn '/') = p.toList := List.intercalate_splitOn '/'
  have hq : ['/'].intercalate (q.toList.splitOn '/') = q.toList := List.intercalate_splitOn '/'
  apply String.toList_injective
  rw [← hp, hpieces, hq]

theorem segments_ne_nil (path : String) : segments path ≠ [] := by
  simp [segments]

theorem splitOn_append_of_not_mem {α : Type} [DecidableEq α] {separator : α} {ys : List α}
    (hys : separator ∉ ys) : ∀ {xs : List α} {front : List (List α)} {last : List α},
      xs.splitOn separator = front ++ [last] →
        (xs ++ ys).splitOn separator = front ++ [last ++ ys]
  | [], front, last, h => by
      obtain ⟨rfl, rfl⟩ : front = [] ∧ last = [] := by
        simpa [List.singleton_eq_append_iff] using h
      exact List.splitOn_eq_singleton hys
  | x :: xs, front, last, h => by
      obtain ⟨first, rest, hsplit⟩ := List.exists_cons_of_ne_nil (List.splitOn_ne_nil separator xs)
      have ih := @splitOn_append_of_not_mem _ _ _ _ hys xs
      rw [List.cons_append, List.splitOn_cons_eq_if_modifyHead]
      rw [List.splitOn_cons_eq_if_modifyHead] at h
      split at h
      · next hx =>
          rw [if_pos hx]
          cases front with
          | nil => simp [hsplit] at h
          | cons piece front =>
              rw [List.cons_append, List.cons_eq_cons] at h
              rw [ih h.2, h.1, List.cons_append]
      · next hx =>
          rw [if_neg hx]
          rw [hsplit, List.modifyHead_cons] at h
          cases front with
          | nil =>
              obtain ⟨rfl, rfl⟩ := List.cons_eq_cons.1 h
              rw [@ih [] first hsplit]
              rfl
          | cons piece front =>
              rw [List.cons_append, List.cons_eq_cons] at h
              rw [@ih (first :: front) last (by rw [hsplit, h.2]; rfl), ← h.1]
              rfl

/-- An ending without a slash goes to the last segment. -/
theorem segments_append_of_not_mem {path ending key : String} {outer : List String}
    (hpath : segments path = outer ++ [key]) (hending : '/' ∉ ending.toList) :
    segments (path ++ ending) = outer ++ [key ++ ending] := by
  have hpieces : path.toList.splitOn '/' = outer.map String.toList ++ [key.toList] := by
    have hmap := congrArg (List.map String.toList) hpath
    simpa [segments, Function.comp_def] using hmap
  rw [segments, String.toList_append, splitOn_append_of_not_mem hending hpieces]
  simp [Function.comp_def, String.ofList_append]

/-! ### Lower case -/

theorem toLower_eq_slash_iff (c : Char) : c.toLower = '/' ↔ c = '/' := by
  constructor
  · by_cases hc : Naming.isKept c = true
    · exact Naming.of_isKept (P := fun c => c.toLower = '/' → c = '/') (by decide) hc
    · rw [Naming.toLower_of_not_isKept hc]
      exact id
  · rintro rfl
    rfl

theorem splitOn_map_toLower (cs : List Char) :
    (cs.map Char.toLower).splitOn '/' = (cs.splitOn '/').map (List.map Char.toLower) := by
  induction cs with
  | nil => rfl
  | cons c cs ih =>
      rw [List.map_cons, List.splitOn_cons_eq_if_modifyHead, List.splitOn_cons_eq_if_modifyHead,
        ih]
      by_cases hc : c = '/'
      · rw [hc]
        rfl
      · obtain ⟨first, rest, hsplit⟩ := List.exists_cons_of_ne_nil (List.splitOn_ne_nil '/' cs)
        have hlower : ¬ c.toLower = '/' := fun h => hc ((toLower_eq_slash_iff c).1 h)
        rw [hsplit]
        simp [hc, hlower]

/-- Lower case keeps the segments of a path apart. -/
theorem segments_lowerAscii (path : String) :
    segments (lowerAscii path) = (segments path).map lowerAscii := by
  rw [segments, lowerAscii, String.toList_ofList, splitOn_map_toLower, segments, List.map_map,
    List.map_map]
  apply List.map_congr_left
  intro piece _
  simp [lowerAscii]

/-! ### Safe paths -/

theorem all_isInner_parts (parts : List String) :
    (parts.filterMap Component.ofPart?).all Component.isInner = true ↔ ∀ s ∈ parts, s ≠ ".." := by
  rw [List.all_eq_true, List.forall_mem_filterMap]
  refine forall₂_congr fun s _ => ?_
  simp only [Component.ofPart?]
  split
  · next hskipped =>
      have hne : s ≠ ".." := by
        rintro rfl
        simp at hskipped
      simp [hne]
  · split
    · next hup => simp [Component.isInner, hup]
    · next hne => simp [Component.isInner, hne]

/-- A path that does not start at the root goes up only through a segment of two dots. -/
theorem all_isInner_components {path : String} (h : path.startsWith "/" = false) :
    (components path).all Component.isInner = true ↔ ∀ s ∈ segments path, s ≠ ".." := by
  rw [components, if_neg (by simp [h])]
  split
  · next parts hparts =>
      have hdot : ("." : String) ≠ ".." := by decide
      rw [hparts, List.all_cons, List.forall_mem_cons, Component.isInner, Bool.true_and,
        all_isInner_parts, and_iff_right hdot]
  · exact all_isInner_parts _

theorem isSafe_iff {path : String} :
    isSafe path = true ↔
      path ≠ "" ∧ path.startsWith "/" = false ∧ ∀ s ∈ segments path, s ≠ ".." := by
  have hsafe : isSafe path = true ↔ path ≠ "" ∧ path.startsWith "/" = false ∧
      (components path).all Component.isInner = true := by
    simp [isSafe, and_assoc]
  rw [hsafe]
  exact and_congr_right fun _ => and_congr_right all_isInner_components

/-- A path is safe if no segment of it is empty or leads up. -/
theorem isSafe_of_segments {path : String} (hfilled : "" ∉ segments path)
    (hup : ".." ∉ segments path) : isSafe path = true := by
  have hempty : path ≠ "" := by
    rintro rfl
    exact hfilled (by decide)
  have hstart : path.startsWith "/" = false := by
    rw [String.startsWith_string_eq_false_iff]
    rintro ⟨rest, hrest⟩
    have hpath : path = "" ++ "/" ++ String.ofList rest := by
      apply String.toList_injective
      simpa using hrest.symm
    rw [hpath, segments_append] at hfilled
    exact hfilled (List.mem_append_left _ (by decide))
  refine isSafe_iff.2 ⟨hempty, hstart, ?_⟩
  rintro s hs rfl
  exact hup hs

end Portfolio.Storage
