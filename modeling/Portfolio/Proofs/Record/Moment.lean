/-
Module: Portfolio.Proofs.Record.Moment
Purpose: Dates and times of day in records. A value that means a moment is written in the one
  form of it, every other value as it is, and what is written is written the same again.
Main exports: Record.Means, Record.WrittenOnce, Record.moments_canonical
-/
import Portfolio.Proofs.Calendar.Reading
import Portfolio.Proofs.Number.Text
import Portfolio.Record.Value

namespace Portfolio.Record

open Calendar (Moment Clock WritesMoment WritesMinute IsFraction isOffset readMoment? readTime?)

/-! ### What values mean -/

/-- The moments that values mean: a text the one that is read from it, whatever its form, and a
number that many seconds since 1970. -/
inductive Means : Value → Moment → Prop where
  | text {s : String} {m : Moment} : readMoment? s = some m → Means (.text s) m
  | number {n : Number} {seconds : Int} {m : Moment} :
      n.asInt64 = some seconds → m.isValid = true → m.clock.second ≤ 59 →
        m.unixSeconds = seconds → Means (.number n) m

theorem means_text_iff (s : String) (m : Moment) : Means (.text s) m ↔ readMoment? s = some m := by
  constructor
  · rintro ⟨h⟩
    exact h
  · exact Means.text

theorem means_number_iff (n : Number) (m : Moment) :
    Means (.number n) m ↔ n.asInt64.bind Calendar.ofUnixSeconds? = some m := by
  rw [Option.bind_eq_some_iff]
  constructor
  · intro h
    cases h with
    | number hseconds hvalid hsecond hcount =>
        exact ⟨_, hseconds, (Calendar.ofUnixSeconds?_eq_some_iff _ _).2 ⟨hvalid, hsecond, hcount⟩⟩
  · rintro ⟨seconds, hseconds, hmoment⟩
    obtain ⟨hvalid, hsecond, hcount⟩ := (Calendar.ofUnixSeconds?_eq_some_iff _ _).1 hmoment
    exact .number hseconds hvalid hsecond hcount

theorem isValid_of_means {v : Value} {m : Moment} (h : Means v m) : m.isValid = true := by
  cases h with
  | text hread => exact Calendar.isValid_of_readMoment? hread
  | number _ hvalid _ _ => exact hvalid

/-! ### Writing once -/

/-- The value is written as a moment if it means one, and then as the only one it means. Otherwise
it is written as `input`. Either text is written as it is. -/
structure WrittenOnce (v : Value) (input : String) : Prop where
  written : (∀ m, ¬ Means v m) ∧ momentText v = input ∨
    ∃ m, Means v m ∧ (∀ m', Means v m' → m' = m) ∧ WritesMoment m (momentText v).toList
  kept : momentText (.text (momentText v)) = momentText v

/-- A moment is read from its text, with a fraction and an offset behind it too, and is written
as that text. -/
theorem momentText_append {m : Moment} (hvalid : m.isValid = true) {fraction offset : List Char}
    (hfraction : IsFraction fraction)
    (hoffset : offset = [] ∨ (0 ≤ m.date.year ∧ m.date.year ≤ 9999) ∧ isOffset offset = true) :
    momentText (.text (m.text ++ String.ofList (fraction ++ offset))) = m.text := by
  have hread := Calendar.readMoment?_written hvalid (Calendar.writesMoment_text hvalid) hfraction
    hoffset
  rw [String.ofList_append, String.ofList_toList] at hread
  rw [momentText, momentOfText, hread]

theorem momentText_text {m : Moment} (hvalid : m.isValid = true) :
    momentText (.text m.text) = m.text := by
  have htext := @momentText_append m hvalid [] [] (Or.inl rfl) (Or.inl rfl)
  rwa [List.append_nil, String.ofList_nil, String.append_empty] at htext

theorem momentText_of_unread {s : String} (h : readMoment? s = none) :
    momentText (.text s) = s := by
  rw [momentText, momentOfText, h]

/-- Writing by a reading gives texts that are written once, if what is not read as a value is not
read as a text. -/
theorem writtenOnce_of_reading {v : Value} {input : String} {reading : Option Moment}
    (hmeans : ∀ m, Means v m ↔ reading = some m)
    (hwritten : momentText v = reading.elim input Moment.text)
    (hunread : reading = none → readMoment? input = none) : WrittenOnce v input := by
  cases reading with
  | none =>
      refine ⟨Or.inl ⟨fun m hm => ?_, hwritten⟩, ?_⟩
      · exact absurd ((hmeans m).1 hm) (Option.some_ne_none m).symm
      · rw [hwritten, Option.elim_none, momentText_of_unread (hunread rfl)]
  | some m =>
      have hm : Means v m := (hmeans m).2 rfl
      have hvalid := isValid_of_means hm
      refine ⟨Or.inr ⟨m, hm, fun m' hm' => ?_, ?_⟩, ?_⟩
      · exact (Option.some.inj ((hmeans m').1 hm')).symm
      · rw [hwritten]
        exact Calendar.writesMoment_text hvalid
      · rw [hwritten, Option.elim_some, momentText_text hvalid]

theorem writtenOnce_text (s : String) : WrittenOnce (.text s) s := by
  apply writtenOnce_of_reading (means_text_iff s) _ id
  rw [momentText, momentOfText]
  cases readMoment? s <;> rfl

/-- The text of a number is never read as a moment, since it has no minus sign behind a digit. -/
theorem readMoment?_number (n : Number) : readMoment? (n.text .json) = none := by
  by_contra hread
  obtain ⟨m, hm⟩ := Option.ne_none_iff_exists'.1 hread
  obtain ⟨d, hd, hpart⟩ := Calendar.showsDate_of_readMoment? hm
  have hnumber := minusApart_number (by decide : '-' ∉ NumberStyle.json.plus.toList) n
  have happart := List.IsChain.infix hnumber hpart
  rw [List.isChain_pair] at happart
  exact absurd hd (by rw [happart rfl]; decide)

theorem writtenOnce_number (n : Number) : WrittenOnce (.number n) (n.text .json) := by
  apply writtenOnce_of_reading (means_number_iff n) _ fun _ => readMoment?_number n
  rw [momentText]
  cases n.asInt64.bind Calendar.ofUnixSeconds? <;> rfl

/-! ### Times of day -/

theorem timeText_eq (s : String) : timeText (.text s) = (readTime? s).elim s Clock.text := by
  have htext : scalarText (.text s) = s := rfl
  rw [timeText, htext]
  cases readTime? s <;> rfl

/-- A text is written as hour and minute of the time of day that is read from it, if any, and
otherwise as it is. -/
theorem timeText_text (s : String) :
    readTime? s = none ∧ timeText (.text s) = s ∨
      ∃ c, readTime? s = some c ∧ WritesMinute c (timeText (.text s)).toList := by
  rw [timeText_eq]
  cases hread : readTime? s with
  | none => exact Or.inl ⟨rfl, rfl⟩
  | some c =>
      have hvalid := Calendar.isValid_of_readTime? hread
      exact Or.inr ⟨c, rfl, Calendar.writesMinute_text hvalid⟩

/-- Hour and minute are written again as they are. -/
theorem timeText_timeText (s : String) :
    timeText (.text (timeText (.text s))) = timeText (.text s) := by
  rw [timeText_eq s]
  cases hread : readTime? s with
  | none => rw [Option.elim_none, timeText_eq s, hread, Option.elim_none]
  | some c =>
      have hvalid := Calendar.isValid_of_readTime? hread
      rw [Option.elim_some, timeText_eq c.text, Calendar.readTime?_text hvalid]
      rfl

/-- Dates and times of day have one written form. A text or a number that means a moment is written
as that moment, any other as it is, and what is written is written the same again; fractions of a
second and offsets are dropped. The same goes for hour and minute of a time of day. -/
theorem moments_canonical (s : String) (n : Number) :
    WrittenOnce (.text s) s ∧ WrittenOnce (.number n) (n.text .json) ∧
      (∀ (m : Moment) (fraction offset : List Char), m.isValid = true → IsFraction fraction →
        (offset = [] ∨ (0 ≤ m.date.year ∧ m.date.year ≤ 9999) ∧ isOffset offset = true) →
          momentText (.text (m.text ++ String.ofList (fraction ++ offset))) = m.text) ∧
      (readTime? s = none ∧ timeText (.text s) = s ∨
        ∃ c, readTime? s = some c ∧ WritesMinute c (timeText (.text s)).toList) ∧
      timeText (.text (timeText (.text s))) = timeText (.text s) := by
  refine ⟨writtenOnce_text s, writtenOnce_number n, ?_, timeText_text s, timeText_timeText s⟩
  intro m fraction offset hvalid hfraction hoffset
  exact momentText_append hvalid hfraction hoffset

/-- A leap second with a fraction and an offset: both are dropped. -/
theorem moments_canonical_leapSecond :
    let m : Moment := ⟨⟨2016, 12, 31⟩, ⟨23, 59, 60⟩⟩
    m.isValid = true ∧ IsFraction ['.', '2', '5'] ∧
      ((0 ≤ m.date.year ∧ m.date.year ≤ 9999) ∧ isOffset ['-', '0', '5', ':', '0', '0'] = true) ∧
      momentText (.text "2016-12-31 23:59:60.25-05:00") = "2016-12-31 23:59:60" := by
  have hfraction : IsFraction ['.', '2', '5'] :=
    Or.inr ⟨['2', '5'], by decide, by simp, rfl⟩
  refine ⟨by decide, hfraction, ⟨by decide, by decide⟩, ?_⟩
  exact (moments_canonical "" (.int 0)).2.2.1 ⟨⟨2016, 12, 31⟩, ⟨23, 59, 60⟩⟩ ['.', '2', '5']
    ['-', '0', '5', ':', '0', '0'] (by decide) hfraction (Or.inr ⟨by decide, by decide⟩)

end Portfolio.Record
