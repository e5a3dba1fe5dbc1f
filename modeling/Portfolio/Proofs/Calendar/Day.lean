/-
Module: Portfolio.Proofs.Calendar.Day
Purpose: Days as numbers. The days of the calendar are counted one by one, and the moment of a
  count of seconds since 1970 is the one that is counted with it.
Main exports: Calendar.Date.Proper, Calendar.Date.ordinal, Calendar.Date.next,
  Calendar.ordinal_next, Calendar.dateOfDays_eq_iff, Calendar.Moment.unixSeconds,
  Calendar.ofUnixSeconds?_eq_some_iff
-/
import Mathlib.Tactic.IntervalCases
import Portfolio.Calendar

namespace Portfolio.Calendar

/-! ### Counting days -/

/-- A day that the calendar has. -/
structure Date.Proper (d : Date) : Prop where
  month_pos : 1 ≤ d.month
  month_le : d.month ≤ 12
  day_pos : 1 ≤ d.day
  day_le : d.day ≤ daysInMonth d.year d.month

/-- The days from the first of January of the year one to that of a year. -/
def daysBeforeYear (year : Int) : Int :=
  365 * (year - 1) + (year - 1) / 4 - (year - 1) / 100 + (year - 1) / 400

/-- The days from the first of January to the first of a month. -/
def daysBeforeMonth (year : Int) (month : Nat) : Nat :=
  ((List.range' 1 (month - 1)).map (daysInMonth year)).sum

/-- The number of a day. The first of January of the year one has the number one. -/
def Date.ordinal (d : Date) : Int :=
  daysBeforeYear d.year + daysBeforeMonth d.year d.month + d.day

/-- The day after a day. -/
def Date.next (d : Date) : Date :=
  if d.day < daysInMonth d.year d.month then ⟨d.year, d.month, d.day + 1⟩
  else if d.month < 12 then ⟨d.year, d.month + 1, 1⟩
  else ⟨d.year + 1, 1, 1⟩

theorem isLeapYear_iff (year : Int) :
    isLeapYear year = true ↔ year % 4 = 0 ∧ (year % 100 ≠ 0 ∨ year % 400 = 0) := by
  simp [isLeapYear]

theorem daysBeforeYear_succ (year : Int) :
    daysBeforeYear (year + 1) =
      daysBeforeYear year + if isLeapYear year = true then 366 else 365 := by
  simp only [daysBeforeYear, isLeapYear_iff]
  split
  · omega
  · omega

theorem daysBeforeMonth_succ (year : Int) {month : Nat} (hmonth : 1 ≤ month) :
    daysBeforeMonth year (month + 1) = daysBeforeMonth year month + daysInMonth year month := by
  obtain ⟨m, rfl⟩ := Nat.exists_eq_add_of_le' hmonth
  simp [daysBeforeMonth, List.range'_concat, Nat.add_comm]

/-- All months together are the year. -/
theorem daysBeforeMonth_thirteen (year : Int) :
    daysBeforeMonth year 13 = if isLeapYear year = true then 366 else 365 := by
  cases hleap : isLeapYear year <;> simp [daysBeforeMonth, daysInMonth, List.range', hleap]

theorem daysInMonth_pos (year : Int) (month : Nat) : 1 ≤ daysInMonth year month := by
  simp only [daysInMonth]
  split_ifs <;> decide

theorem daysInMonth_le (year : Int) (month : Nat) : daysInMonth year month ≤ 31 := by
  simp only [daysInMonth]
  split_ifs <;> decide

theorem Date.Proper.next {d : Date} (h : d.Proper) : d.next.Proper := by
  obtain ⟨hpos, hle, -, -⟩ := h
  rw [Date.next]
  split_ifs with hday hmonth
  · exact ⟨hpos, hle, Nat.le_add_left 1 _, hday⟩
  · exact ⟨Nat.le_add_left 1 _, hmonth, Nat.le_refl 1, daysInMonth_pos _ _⟩
  · exact ⟨Nat.le_refl 1, Nat.le_add_left 1 11, Nat.le_refl 1, daysInMonth_pos _ _⟩

/-- The next day has the next number. -/
theorem ordinal_next {d : Date} (h : d.Proper) : d.next.ordinal = d.ordinal + 1 := by
  obtain ⟨hpos, hle, -, hday⟩ := h
  rw [Date.next]
  split_ifs with hbefore hmonth
  · simp only [Date.ordinal]
    omega
  · have hlast : d.day = daysInMonth d.year d.month := by omega
    simp only [Date.ordinal, daysBeforeMonth_succ d.year hpos]
    omega
  · have hmonth : d.month = 12 := by omega
    have hlast : d.day = daysInMonth d.year 12 := by
      rw [hmonth] at hbefore hday
      omega
    have hyear := daysBeforeYear_succ d.year
    have hmonths := daysBeforeMonth_succ d.year (by decide : 1 ≤ 12)
    have hfirst : daysBeforeMonth (d.year + 1) 1 = 0 := rfl
    rw [daysBeforeMonth_thirteen] at hmonths
    simp only [Date.ordinal, hmonth, hlast, hfirst, hyear]
    split at hmonths
    · next hleap =>
        rw [if_pos hleap]
        omega
    · next hleap =>
        rw [if_neg hleap]
        omega

/-- Every number is that of a day: counting on from a day before it reaches it. -/
theorem exists_ordinal_eq (n : Int) : ∃ d : Date, d.Proper ∧ d.ordinal = n := by
  have hcount (year : Int) (k : Nat) :
      ∃ d : Date, d.Proper ∧ d.ordinal = daysBeforeYear year + 1 + k := by
    induction k with
    | zero =>
        refine ⟨⟨year, 1, 1⟩,
          ⟨Nat.le_refl 1, Nat.le_add_left 1 11, Nat.le_refl 1, daysInMonth_pos _ _⟩, ?_⟩
        simp [Date.ordinal, daysBeforeMonth]
    | succ k ih =>
        obtain ⟨d, hd, hordinal⟩ := ih
        refine ⟨d.next, hd.next, ?_⟩
        rw [ordinal_next hd, hordinal, Int.natCast_succ, Int.add_assoc]
  have hbefore : daysBeforeYear (-n.natAbs) + 1 ≤ n := by
    simp only [daysBeforeYear]
    omega
  obtain ⟨d, hd, hordinal⟩ := hcount (-n.natAbs) (n - (daysBeforeYear (-n.natAbs) + 1)).toNat
  refine ⟨d, hd, ?_⟩
  omega

/-! ### Days from March on -/

/-- The days before a month, counted from March on. -/
def marchStart (month : Nat) : Nat := (153 * month + 2) / 5

/-- A month as counted from March on, which is zero. -/
def fromMarch (month : Nat) : Nat := (month + 9) % 12

theorem month_fromMarch {month : Nat} (hpos : 1 ≤ month) (hle : month ≤ 12) :
    (if fromMarch month < 10 then fromMarch month + 3 else fromMarch month - 9) = month := by
  interval_cases month <;> rfl

theorem monthFromMarch_eq {month day : Nat} (hpos : 1 ≤ day)
    (hle : marchStart month + day ≤ marchStart (month + 1)) :
    (5 * (marchStart month + day - 1) + 2) / 153 = month := by
  simp only [marchStart] at hle ⊢
  omega

theorem marchStart_add_daysInMonth_le (year : Int) {month : Nat} (hpos : 1 ≤ month)
    (hle : month ≤ 12) :
    marchStart (fromMarch month) + daysInMonth year month ≤ marchStart (fromMarch month + 1) := by
  interval_cases month <;> cases hleap : isLeapYear year <;>
    simp [daysInMonth, marchStart, fromMarch, hleap]

/-- Only the leap day is the last of 366 days. -/
theorem marchEnd_le (year : Int) {month : Nat} (hpos : 1 ≤ month) (hle : month ≤ 12) :
    marchStart (fromMarch month) + daysInMonth year month ≤ 365 ∨
      month = 2 ∧ isLeapYear year = true ∧
        marchStart (fromMarch month) + daysInMonth year month = 366 := by
  interval_cases month <;> cases hleap : isLeapYear year <;>
    simp [daysInMonth, marchStart, fromMarch, hleap]

theorem daysBeforeMonth_eq (year : Int) {month : Nat} (hpos : 1 ≤ month) (hle : month ≤ 12) :
    daysBeforeMonth year month + 306 = marchStart (fromMarch month) +
      if month ≤ 2 then 0 else if isLeapYear year = true then 366 else 365 := by
  interval_cases month <;> cases hleap : isLeapYear year <;>
    simp [daysBeforeMonth, daysInMonth, marchStart, fromMarch, List.range', hleap]

/-- The year of a day in an era of 400 years, where `rest` days of the year are over. -/
theorem yearOfEra_eq {year rest day : Nat} (hyear : year < 400)
    (hrest : rest < 365 ∨
      rest = 365 ∧ (year + 1) % 4 = 0 ∧ ((year + 1) % 100 ≠ 0 ∨ (year + 1) % 400 = 0))
    (hday : day = 365 * year + year / 4 - year / 100 + rest) :
    (day - day / 1460 + day / 36524 - day / 146096) / 365 = year := by
  -- The last day of the era alone is past the fourth century.
  have hcentury : day / 36524 - day / 146096 = year / 100 := by
    have hstart : 36524 * (year / 100) ≤ day := by omega
    have hend : day < 36524 * (year / 100 + 1) ∨ day = 146096 ∧ year / 100 = 3 := by omega
    omega
  have hfour : day / 1460 = year / 4 ∨ day / 1460 = year / 4 + 1 := by omega
  have hle : 365 * year ≤ day - day / 1460 + year / 100 := by omega
  have hlt : day - day / 1460 + year / 100 < 365 * (year + 1) := by omega
  omega

/-- The date after `rest` days of a year that starts in March. -/
def dateFromMarch (year : Int) (rest : Nat) : Date :=
  let months := (5 * rest + 2) / 153
  let month := if months < 10 then months + 3 else months - 9
  ⟨if month ≤ 2 then year + 1 else year, month, rest - marchStart months + 1⟩

theorem dateOfDays_eq (year : Int) {rest : Nat}
    (hrest : rest < 365 ∨ rest = 365 ∧ isLeapYear (year + 1) = true) :
    dateOfDays (365 * year + year / 4 - year / 100 + year / 400 + rest) =
      dateFromMarch year rest := by
  rw [isLeapYear_iff] at hrest
  obtain ⟨y, hy⟩ : ∃ y : Nat, (y : Int) = year % 400 := ⟨(year % 400).toNat, by omega⟩
  obtain ⟨day, hday⟩ : ∃ day : Nat, day = 365 * y + y / 4 - y / 100 + rest := ⟨_, rfl⟩
  have hdays : 365 * year + year / 4 - year / 100 + year / 400 + rest =
      146097 * (year / 400) + (day : Int) := by
    have hyear : year = 400 * (year / 400) + y := by omega
    have hfour : year / 4 = 100 * (year / 400) + (y / 4 : Nat) := by omega
    have hcentury : year / 100 = 4 * (year / 400) + (y / 100 : Nat) := by omega
    omega
  have hlt : day < 146097 := by omega
  have hera : (146097 * (year / 400) + (day : Int)) / 146097 = year / 400 := by omega
  have hdayOfEra : ((146097 * (year / 400) + (day : Int)) % 146097).toNat = day := by omega
  have hyearOfEra := yearOfEra_eq (by omega) (by omega) hday
  have hdayOfYear : day - (365 * y + y / 4 - y / 100) = rest := by omega
  have hyear : (y : Int) + year / 400 * 400 = year := by omega
  rw [hdays]
  simp only [dateOfDays, hera, hdayOfEra, hyearOfEra, hdayOfYear, hyear, dateFromMarch,
    marchStart]

theorem dateFromMarch_eq {d : Date} (h : d.Proper) :
    dateFromMarch (if d.month ≤ 2 then d.year - 1 else d.year)
      (marchStart (fromMarch d.month) + d.day - 1) = d := by
  obtain ⟨hpos, hle, hday, hdays⟩ := h
  have hmonth := marchStart_add_daysInMonth_le d.year hpos hle
  have hmonths := monthFromMarch_eq hday (by omega : marchStart (fromMarch d.month) + d.day ≤ _)
  have hback := month_fromMarch hpos hle
  have hyear : (if d.month ≤ 2 then (if d.month ≤ 2 then d.year - 1 else d.year) + 1
      else (if d.month ≤ 2 then d.year - 1 else d.year)) = d.year := by
    split_ifs
    · omega
    · rfl
  have hdayback : marchStart (fromMarch d.month) + d.day - 1 - marchStart (fromMarch d.month) + 1 =
      d.day := by
    omega
  simp only [dateFromMarch, hmonths, hback, hyear, hdayback]

/-! ### Dates of days -/

/-- The date of a day is found from its number. -/
theorem dateOfDays_ordinal {d : Date} (h : d.Proper) : dateOfDays (d.ordinal + 305) = d := by
  obtain ⟨hpos, hle, hday, hdays⟩ := id h
  have hend := marchEnd_le d.year hpos hle
  have hmonths := daysBeforeMonth_eq d.year hpos hle
  have hdate := dateFromMarch_eq h
  by_cases hearly : d.month ≤ 2
  · rw [if_pos hearly] at hmonths hdate
    have hyear : d.year - 1 + 1 = d.year := by omega
    have hrest : marchStart (fromMarch d.month) + d.day - 1 < 365 ∨
        marchStart (fromMarch d.month) + d.day - 1 = 365 ∧
          isLeapYear (d.year - 1 + 1) = true := by
      rw [hyear]
      rcases hend with hend | ⟨-, hleap, hend⟩
      · exact Or.inl (by omega)
      · by_cases hlast : d.day = daysInMonth d.year d.month
        · exact Or.inr ⟨by omega, hleap⟩
        · exact Or.inl (by omega)
    rw [← dateOfDays_eq (d.year - 1) hrest] at hdate
    have hordinal : d.ordinal + 305 = 365 * (d.year - 1) + (d.year - 1) / 4 -
        (d.year - 1) / 100 + (d.year - 1) / 400 +
          (marchStart (fromMarch d.month) + d.day - 1 : Nat) := by
      simp only [Date.ordinal, daysBeforeYear]
      omega
    rw [hordinal, hdate]
  · rw [if_neg hearly] at hmonths hdate
    rw [← dateOfDays_eq d.year (by omega)] at hdate
    have hnext := daysBeforeYear_succ d.year
    have hordinal : d.ordinal + 305 = 365 * d.year + d.year / 4 - d.year / 100 + d.year / 400 +
        (marchStart (fromMarch d.month) + d.day - 1 : Nat) := by
      simp only [daysBeforeYear] at hnext
      simp only [Date.ordinal, daysBeforeYear]
      split at hmonths
      · next hleap =>
          rw [if_pos hleap] at hnext
          omega
      · next hleap =>
          rw [if_neg hleap] at hnext
          omega
    rw [hordinal, hdate]

/-- Every count of days is that of one day of the calendar. -/
theorem dateOfDays_eq_iff (n : Int) (d : Date) :
    dateOfDays (n + 305) = d ↔ d.Proper ∧ d.ordinal = n := by
  constructor
  · rintro rfl
    obtain ⟨d, hd, rfl⟩ := exists_ordinal_eq n
    rw [dateOfDays_ordinal hd]
    exact ⟨hd, rfl⟩
  · rintro ⟨hd, rfl⟩
    exact dateOfDays_ordinal hd

theorem Date.isValid_iff (d : Date) : d.isValid = true ↔ isYear d.year = true ∧ d.Proper := by
  simp only [Date.isValid, Bool.and_eq_true, decide_eq_true_eq]
  constructor
  · rintro ⟨⟨hyear, hpos, hle⟩, hday, hdays⟩
    exact ⟨hyear, hpos, hle, hday, hdays⟩
  · rintro ⟨hyear, hpos, hle, hday, hdays⟩
    exact ⟨⟨hyear, hpos, hle⟩, hday, hdays⟩

/-! ### Counting seconds -/

/-- A moment of the calendar, on the clock. -/
def Moment.isValid (m : Moment) : Bool := m.date.isValid && m.clock.isValid

theorem Moment.valid?_eq_some_iff (m m' : Moment) :
    m.valid? = some m' ↔ m = m' ∧ m'.isValid = true := by
  rw [Moment.valid?, ← Moment.isValid]
  split
  · next hvalid =>
      rw [Option.some.injEq, iff_self_and]
      rintro rfl
      exact hvalid
  · next hvalid =>
      rw [iff_false_left (Option.some_ne_none m').symm]
      rintro ⟨rfl, hvalid'⟩
      exact hvalid hvalid'

/-- The seconds from the first of January 1970 to a moment. -/
def Moment.unixSeconds (m : Moment) : Int :=
  (m.date.ordinal - (Date.mk 1970 1 1).ordinal) * 86400 +
    (m.clock.hour * 3600 + m.clock.minute * 60 + m.clock.second : Nat)

/-- A count of seconds means the one moment of the calendar that is counted with it. -/
theorem ofUnixSeconds?_eq_some_iff (seconds : Int) (m : Moment) :
    ofUnixSeconds? seconds = some m ↔
      m.isValid = true ∧ m.clock.second ≤ 59 ∧ m.unixSeconds = seconds := by
  have hepoch : (Date.mk 1970 1 1).ordinal = 719163 := rfl
  have hdays : seconds / 86400 + epochDays = seconds / 86400 + 719163 + 305 := by
    rw [epochDays]
    omega
  rw [ofUnixSeconds?, Moment.valid?_eq_some_iff, hdays]
  obtain ⟨date, hour, minute, second⟩ := m
  simp only [Moment.mk.injEq, Clock.mk.injEq, dateOfDays_eq_iff, Moment.unixSeconds, hepoch]
  constructor
  · rintro ⟨⟨⟨-, hordinal⟩, hhour, hminute, hsecond⟩, hvalid⟩
    refine ⟨hvalid, ?_, ?_⟩
    · omega
    · rw [hordinal]
      omega
  · rintro ⟨hvalid, hsecond, hcount⟩
    have hclock := hvalid
    simp only [Moment.isValid, Clock.isValid, Date.isValid_iff, Bool.and_eq_true,
      decide_eq_true_eq] at hclock
    obtain ⟨⟨-, hdate⟩, hhour, hminute, -⟩ := hclock
    have hday : seconds / 86400 = date.ordinal - 719163 := by omega
    have htime : (seconds % 86400).toNat = hour * 3600 + minute * 60 + second := by omega
    rw [htime]
    refine ⟨⟨⟨hdate, by omega⟩, ?_, ?_, ?_⟩, hvalid⟩
    · omega
    · omega
    · omega

end Portfolio.Calendar
