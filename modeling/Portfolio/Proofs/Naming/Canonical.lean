/-
Module: Portfolio.Proofs.Naming.Canonical
Purpose: The names of generated things are normal forms. One pass over a text writes its name;
  what comes out has the shape of a name, and exactly the texts of that shape stay as they are.
Main exports: Naming.pass, Naming.joinRuns_eq_pass, Naming.pass_of_joined, Naming.Canonical,
  Naming.names_canonical
-/
import Portfolio.Proofs.Naming.Joined

namespace Portfolio.Naming

variable {separator c d : Char} {cs : List Char}

/-! ### One pass -/

/-- The joined runs of a text, written from left to right. A pass knows whether it has written
anything, and whether it has skipped anything since: a separator is due only behind a run. -/
def pass (separator : Char) (started skipped : Bool) : List Char → List Char
  | [] => []
  | c :: cs =>
      if isKept c then
        let rest := c :: pass separator true false cs
        if started && skipped then separator :: rest else rest
      else pass separator started true cs

theorem runs_cons_of_skipped (hc : isKept c = false) (cs : List Char) :
    runs (c :: cs) = runs cs := by
  rw [runs, List.splitOnP_cons_eq_if_modifyHead, if_pos (by simp [hc]), List.filter_cons_of_neg]
  · rfl
  · simp

/-- A run ends at a skipped character. -/
theorem runs_cons_of_skipped_next (hc : isKept c = true) (hd : isKept d = false)
    (cs : List Char) : runs (c :: d :: cs) = [c] :: runs cs := by
  rw [runs, List.splitOnP_cons_eq_if_modifyHead, if_neg (by simp [hc]),
    List.splitOnP_cons_eq_if_modifyHead, if_pos (by simp [hd]), List.modifyHead_cons,
    List.filter_cons_of_pos (by simp)]
  rfl

/-- A run goes on with a kept character. -/
theorem exists_runs_cons (hc : isKept c = true) (hd : isKept d = true) (cs : List Char) :
    ∃ run rest, runs (d :: cs) = run :: rest ∧ runs (c :: d :: cs) = (c :: run) :: rest := by
  obtain ⟨piece, pieces, hsplit⟩ :=
    List.exists_cons_of_ne_nil (List.splitOnP_ne_nil (fun c => !isKept c) cs)
  refine ⟨d :: piece, pieces.filter fun run => !run.isEmpty, ?_, ?_⟩
  · simp [runs, List.splitOnP_cons_eq_if_modifyHead, hd, hsplit]
  · simp [runs, List.splitOnP_cons_eq_if_modifyHead, hc, hd, hsplit]

theorem joinRuns_cons_of_skipped (hc : isKept c = false) (cs : List Char) :
    joinRuns separator (c :: cs) = joinRuns separator cs := by
  rw [joinRuns, runs_cons_of_skipped hc, joinRuns]

theorem joinRuns_singleton (hc : isKept c = true) : joinRuns separator [c] = [c] := by
  simp [joinRuns, runs, List.splitOnP_cons_eq_if_modifyHead, hc]

theorem joinRuns_cons_of_kept (hc : isKept c = true) (hd : isKept d = true) (cs : List Char) :
    joinRuns separator (c :: d :: cs) = c :: joinRuns separator (d :: cs) := by
  obtain ⟨run, rest, hnext, hruns⟩ := exists_runs_cons hc hd cs
  rw [joinRuns, joinRuns, hruns, hnext]
  cases rest with
  | nil => simp
  | cons other rest => simp [List.intercalate_cons_cons]

/-- What is written of a text that stands behind a run. -/
def behindRun (separator : Char) : List Char → List Char
  | [] => []
  | c :: cs => separator :: c :: cs

theorem joinRuns_cons_of_skipped_next (hc : isKept c = true) (hd : isKept d = false)
    (cs : List Char) :
    joinRuns separator (c :: d :: cs) = c :: behindRun separator (joinRuns separator cs) := by
  rw [joinRuns, runs_cons_of_skipped_next hc hd, joinRuns]
  cases hruns : runs cs with
  | nil => simp [behindRun]
  | cons run rest =>
      obtain ⟨hne, -⟩ := words_runs cs run (hruns ▸ List.mem_cons_self)
      obtain ⟨first, word, rfl⟩ := List.exists_cons_of_ne_nil hne
      cases rest with
      | nil => simp [List.intercalate_cons_cons, behindRun]
      | cons other rest => simp [List.intercalate_cons_cons, behindRun]

/-- What a pass writes from each of its states on: before the first run, between runs, and inside
a run. -/
theorem pass_eq (separator : Char) (cs : List Char) :
    (∀ skipped, pass separator false skipped cs = joinRuns separator cs) ∧
    pass separator true true cs = behindRun separator (joinRuns separator cs) ∧
    ∀ c, isKept c = true → c :: pass separator true false cs = joinRuns separator (c :: cs) := by
  -- Inside a run the statement needs the character before: it decides whether the run goes on.
  induction cs with
  | nil => exact ⟨fun _ => rfl, rfl, fun c hc => (joinRuns_singleton hc).symm⟩
  | cons d cs ih =>
      obtain ⟨hahead, hbetween, hinside⟩ := ih
      cases hd : isKept d with
      | true =>
          have hrun := hinside d hd
          refine ⟨fun skipped => ?_, ?_, fun c hc => ?_⟩
          · rw [pass, if_pos hd, ← hrun]
            rfl
          · rw [pass, if_pos hd, ← hrun]
            rfl
          · rw [pass, if_pos hd, joinRuns_cons_of_kept hc hd, ← hrun]
            rfl
      | false =>
          have hskip : ¬ isKept d = true := by simp [hd]
          refine ⟨fun skipped => ?_, ?_, fun c hc => ?_⟩
          · rw [pass, if_neg hskip, hahead, joinRuns_cons_of_skipped hd]
          · rw [pass, if_neg hskip, hbetween, joinRuns_cons_of_skipped hd]
          · rw [pass, if_neg hskip, hbetween, joinRuns_cons_of_skipped_next hc hd]

/-- The runs of a text can be joined in one pass. -/
theorem joinRuns_eq_pass (separator : Char) (cs : List Char) :
    joinRuns separator cs = pass separator false false cs :=
  ((pass_eq separator cs).1 false).symm

/-! ### Names stay -/

/-- A pass over a name writes the name again, behind a separator if one is due. -/
theorem pass_of_joined (hseparator : isKept separator = false) (h : Joined separator cs)
    (started skipped : Bool) :
    pass separator started skipped cs = if started && skipped then separator :: cs else cs := by
  induction h generalizing started skipped with
  | single hc => rw [pass, if_pos (isKept_of_isSmall hc), pass]
  | letter hc _ ih =>
      rw [pass, if_pos (isKept_of_isSmall hc), ih]
      rfl
  | separated hc _ ih =>
      have hskip : ¬ isKept separator = true := by simp [hseparator]
      rw [pass, if_pos (isKept_of_isSmall hc), pass, if_neg hskip, ih]
      rfl

theorem joinRuns_of_joined (hseparator : isKept separator = false) (h : Joined separator cs) :
    joinRuns separator cs = cs := by
  rw [joinRuns_eq_pass, pass_of_joined hseparator h]
  rfl

namespace Joined

theorem map_toLower (hseparator : separator.toLower = separator) (h : Joined separator cs) :
    cs.map Char.toLower = cs := by
  induction h with
  | single hc => rw [List.map_cons, toLower_of_isSmall hc, List.map_nil]
  | letter hc _ ih => rw [List.map_cons, toLower_of_isSmall hc, ih]
  | separated hc _ ih =>
      rw [List.map_cons, List.map_cons, toLower_of_isSmall hc, hseparator, ih]

/-- A name has no capitals to split at. -/
theorem splitCapitals (hseparator : separator.isUpper = false) (h : Joined separator cs)
    (afterSmall : Bool) : Naming.splitCapitals afterSmall cs = cs := by
  induction h generalizing afterSmall with
  | single hc => simp [Naming.splitCapitals, isUpper_of_isSmall hc]
  | letter hc _ ih => simp [Naming.splitCapitals, isUpper_of_isSmall hc, ih]
  | separated hc _ ih => simp [Naming.splitCapitals, isUpper_of_isSmall hc, hseparator, ih]

end Joined

theorem dashed_of_joined (h : Joined '-' cs) : dashed cs = cs := by
  rw [dashed, joinRuns_of_joined (by decide) h, h.map_toLower (by decide)]

/-! ### Normal forms -/

/-- A function that brings every text into a shape, and has nothing to do where a text has the
shape already. -/
structure Canonical (f : String → String) (Shape : String → Prop) : Prop where
  shaped (s : String) : Shape (f s)
  eq_self_iff (s : String) : f s = s ↔ Shape s
  idempotent (s : String) : f (f s) = f s

theorem Canonical.of_kept {f : String → String} {Shape : String → Prop}
    (hshaped : ∀ s, Shape (f s)) (hkept : ∀ s, Shape s → f s = s) : Canonical f Shape where
  shaped := hshaped
  eq_self_iff s := ⟨fun h => h ▸ hshaped s, hkept s⟩
  idempotent s := hkept (f s) (hshaped s)

theorem canonical_slug :
    Canonical slug fun s => (s = "" ∨ Joined '-' s.toList) ∧ s.length ≤ maxSlugLength := by
  apply Canonical.of_kept
  · exact fun s => ⟨slug_eq_empty_or_joined s, length_slug_le s⟩
  · rintro s ⟨rfl | hwords, hlength⟩
    · rfl
    · rw [slug, dashed_of_joined hwords, cutSlug, if_pos, String.ofList_toList]
      exact hlength

theorem joined_template (id : String) : Joined '-' (template id).toList := by
  rw [template]
  split
  · exact .word (by decide) (List.all_eq_true.1 (by decide))
  · next hne =>
      rw [String.toList_ofList]
      exact (dashed_eq_nil_or_joined id.toList).resolve_left hne

theorem canonical_template : Canonical template fun s => Joined '-' s.toList := by
  apply Canonical.of_kept joined_template
  intro s hwords
  rw [template, dashed_of_joined hwords]
  split
  · next hnone => exact absurd hnone hwords.ne_nil
  · exact String.ofList_toList

theorem canonical_key : Canonical key fun s => s = "" ∨ Joined '_' s.toList := by
  apply Canonical.of_kept
  · intro s
    rw [key, String.toList_ofList, String.ofList_eq_empty_iff]
    exact lowered_eq_nil_or_joined (by decide) s.toList
  · rintro s (rfl | hwords)
    · rfl
    · rw [key, joinRuns_of_joined (by decide) hwords, hwords.map_toLower (by decide),
        String.ofList_toList]

theorem canonical_cssIdent : Canonical cssIdent fun s => s = "" ∨ Joined '-' s.toList := by
  apply Canonical.of_kept
  · intro s
    rw [cssIdent, String.toList_ofList, String.ofList_eq_empty_iff]
    exact dashed_eq_nil_or_joined _
  · rintro s (rfl | hwords)
    · rfl
    · rw [cssIdent, hwords.splitCapitals (by decide), dashed_of_joined hwords,
        String.ofList_toList]

theorem toLower_label (name : String) : (label name).toLower = key name := by
  change (label name).map Char.toLower = key name
  rw [← String.toList_inj, String.toList_map, map_toLower_label]

/-- The names of generated things are normal forms, and all texts of their shape are names. Slugs
are short, templates are never empty, and a label stands for the key of its field. -/
theorem names_canonical :
    Canonical slug (fun s => (s = "" ∨ Joined '-' s.toList) ∧ s.length ≤ maxSlugLength) ∧
    Canonical template (fun s => Joined '-' s.toList) ∧
    Canonical key (fun s => s = "" ∨ Joined '_' s.toList) ∧
    Canonical cssIdent (fun s => s = "" ∨ Joined '-' s.toList) ∧
    ∀ name, key (label name) = key name ∧ (label name).toLower = key name :=
  ⟨canonical_slug, canonical_template, canonical_key, canonical_cssIdent,
    fun name => ⟨key_label name, toLower_label name⟩⟩

end Portfolio.Naming
