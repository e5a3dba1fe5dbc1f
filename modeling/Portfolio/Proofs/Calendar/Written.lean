/-
Module: Portfolio.Proofs.Calendar.Written
Purpose: The written form of years, dates, times of day and moments, and that a moment of the
  calendar is written in it.
Main exports: Calendar.WritesYear, Calendar.WritesMoment, Calendar.WritesMinute,
  Calendar.IsFraction, Calendar.writesMoment_text, Calendar.writesMinute_text
-/
import Portfolio.Proofs.Calendar.Day
import Portfolio.Proofs.Text.Numeral

namespace Portfolio.Calendar

open Text (Numeral)

/-! ### Written forms -/

/-- A year of four digits, or of at least four behind its sign. -/
inductive WritesYear : Int → List Char → Prop where
  | plain {n : Nat} {digits : List Char} :
      Numeral 4 n digits → WritesYear n digits
  | after {n width : Nat} {digits : List Char} :
      9999 < n → 4 ≤ width → Numeral width n digits → WritesYear n ('+' :: digits)
  | before {n width : Nat} {digits : List Char} :
      0 < n → 4 ≤ width → Numeral width n digits → WritesYear (-n) ('-' :: digits)

/-- A year, and two digits each for month and day. -/
def WritesDate (d : Date) (cs : List Char) : Prop :=
  ∃ year month day, WritesYear d.year year ∧ Numeral 2 d.month month ∧ Numeral 2 d.day day ∧
    cs = year ++ '-' :: month ++ '-' :: day

/-- Two digits each for hour, minute and second. -/
def WritesClock (c : Clock) (cs : List Char) : Prop :=
  ∃ hour minute second, Numeral 2 c.hour hour ∧ Numeral 2 c.minute minute ∧
    Numeral 2 c.second second ∧ cs = hour ++ ':' :: minute ++ ':' :: second

/-- A date and a time of day with a space between them. -/
def WritesMoment (m : Moment) (cs : List Char) : Prop :=
  ∃ date clock, WritesDate m.date date ∧ WritesClock m.clock clock ∧ cs = date ++ ' ' :: clock

/-- Hour and minute. -/
def WritesMinute (c : Clock) (cs : List Char) : Prop :=
  ∃ hour minute, Numeral 2 c.hour hour ∧ Numeral 2 c.minute minute ∧ cs = hour ++ ':' :: minute

/-- A point and digits, or nothing. -/
def IsFraction (cs : List Char) : Prop :=
  cs = [] ∨ ∃ digits ≠ [], (∀ c ∈ digits, c.isDigit = true) ∧ cs = '.' :: digits

/-! ### Writing -/

theorem numeral_padded {n width : Nat} (hwidth : 0 < width) (h : n < 10 ^ width) :
    Numeral width n (Text.padZeros width (Text.decimal n)).toList := by
  have hdigits := Text.numeral_padZeros width n
  rwa [Nat.max_eq_left (Text.length_decimal_le hwidth h)] at hdigits

theorem numeral_pairText {n : Nat} (h : n < 100) : Numeral 2 n (pairText n).toList :=
  numeral_padded (by decide) h

theorem writesYear_yearText (year : Int) : WritesYear year (yearText year).toList := by
  have hdigits := Text.numeral_padZeros 4 year.natAbs
  have hwidth : 4 ≤ max 4 (Text.decimal year.natAbs).length := Nat.le_max_left 4 _
  rw [yearText]
  split_ifs with hbefore hafter
  · obtain ⟨n, rfl⟩ : ∃ n : Nat, year = -(n : Int) := ⟨year.natAbs, by omega⟩
    rw [Int.natAbs_neg, Int.natAbs_natCast] at hdigits hwidth ⊢
    rw [String.toList_append]
    exact .before (by omega) hwidth hdigits
  · obtain ⟨n, rfl⟩ : ∃ n : Nat, year = (n : Int) := ⟨year.natAbs, by omega⟩
    rw [Int.natAbs_natCast] at hdigits hwidth ⊢
    rw [String.toList_append]
    exact .after (by omega) hwidth hdigits
  · obtain ⟨n, rfl⟩ : ∃ n : Nat, year = (n : Int) := ⟨year.natAbs, by omega⟩
    have hfour : n < 10 ^ 4 := by omega
    exact .plain (numeral_padded (by decide) hfour)

theorem writesMoment_text {m : Moment} (h : m.isValid = true) :
    WritesMoment m m.text.toList := by
  simp only [Moment.isValid, Clock.isValid, Date.isValid_iff, Bool.and_eq_true,
    decide_eq_true_eq] at h
  obtain ⟨⟨-, -, hmonth, -, hday⟩, hhour, hminute, hsecond⟩ := h
  have hdays := daysInMonth_le m.date.year m.date.month
  refine ⟨_, _, ⟨_, _, _, writesYear_yearText m.date.year, numeral_pairText (by omega),
    numeral_pairText (by omega), rfl⟩, ⟨_, _, _, numeral_pairText (by omega),
    numeral_pairText (by omega), numeral_pairText (by omega), rfl⟩, ?_⟩
  simp [Moment.text]

theorem writesMinute_text {c : Clock} (h : c.isValid = true) : WritesMinute c c.text.toList := by
  simp only [Clock.isValid, decide_eq_true_eq] at h
  refine ⟨_, _, numeral_pairText (by omega), numeral_pairText (by omega), ?_⟩
  simp [Clock.text]

end Portfolio.Calendar
