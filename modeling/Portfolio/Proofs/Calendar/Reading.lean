/-
Module: Portfolio.Proofs.Calendar.Reading
Purpose: A moment is read back from its written form: none of the forms that are tried before takes
  it for another moment. What has no minus sign behind a digit is never read as a moment.
Main exports: Calendar.readPattern_date, Calendar.readInternet?_written,
  Calendar.readMoment?_written, Calendar.readTime?_text, Calendar.showsDate_of_readMoment?
-/
import Portfolio.Proofs.Calendar.Written

namespace Portfolio.Calendar

open Text (Numeral)

/-! ### Scanning -/

theorem isBlank_of_isDigit {c : Char} (h : c.isDigit = true) : Text.isBlank c = false := by
  have hdigit : 48 ≤ c.toNat ∧ c.toNat ≤ 57 := by
    simpa [Char.isDigit, UInt32.le_iff_toNat_le] using h
  simp [Text.isBlank]
  omega

theorem scanNumber_numeral {most width n : Nat} {digits rest : List Char}
    (h : Numeral width n digits) (hpos : 0 < width) (hle : width ≤ most)
    (hrest : width = most ∨ ∀ c ∈ rest.head?, c.isDigit = false) :
    scanNumber most (digits ++ rest) = some (n, rest) := by
  have hscanned : ((digits ++ rest).take most).takeWhile Char.isDigit = digits := by
    rw [List.take_append, List.take_of_length_le (by rw [h.length_eq]; exact hle), h.length_eq,
      List.takeWhile_append_of_pos h.isDigit]
    have hstop : (rest.take (most - width)).takeWhile Char.isDigit = [] := by
      rcases hrest with rfl | hrest
      · rw [Nat.sub_self, List.take_zero, List.takeWhile_nil]
      · cases rest with
        | nil => rw [List.take_nil, List.takeWhile_nil]
        | cons c cs =>
            have hc : c.isDigit = false := hrest c rfl
            cases most - width <;> simp [hc]
    rw [hstop, List.append_nil]
  rw [scanNumber, hscanned]
  simp [h.ne_nil hpos, h.ofDigits_eq]

theorem trimStartChars_numeral {width n : Nat} {digits : List Char} (h : Numeral width n digits)
    (hpos : 0 < width) (rest : List Char) :
    Text.trimStartChars (digits ++ rest) = digits ++ rest := by
  obtain ⟨c, cs, rfl⟩ := List.exists_cons_of_ne_nil (h.ne_nil hpos)
  rw [Text.trimStartChars, List.cons_append, List.dropWhile_cons_of_neg]
  rw [isBlank_of_isDigit (h.isDigit c List.mem_cons_self)]
  exact Bool.false_ne_true

theorem scanNumber_pair {n : Nat} {digits : List Char} (h : Numeral 2 n digits)
    (rest : List Char) :
    scanNumber 2 (Text.trimStartChars (digits ++ rest)) = some (n, rest) := by
  rw [trimStartChars_numeral h (by decide)]
  exact scanNumber_numeral h (by decide) (Nat.le_refl 2) (Or.inl rfl)

theorem scanPair_pair {n : Nat} {digits : List Char} (h : Numeral 2 n digits)
    (rest : List Char) : scanPair (digits ++ rest) = some (n, rest) := by
  obtain ⟨a, b, rfl⟩ := h.exists_pair
  have ha := h.isDigit a (by simp)
  have hb := h.isDigit b (by simp)
  simp [scanPair, ha, hb, h.ofDigits_eq]

theorem scanLongNumber_numeral {width n : Nat} {digits rest : List Char}
    (h : Numeral width n digits) (hpos : 0 < width)
    (hrest : ∀ c ∈ rest.head?, c.isDigit = false) :
    scanLongNumber (digits ++ rest) = some (n, rest) := by
  have hle : width ≤ (digits ++ rest).length := by
    rw [List.length_append, h.length_eq]
    exact Nat.le_add_right width _
  exact scanNumber_numeral h hpos hle (Or.inr hrest)

theorem scanYear_written {year : Int} {cs : List Char} (h : WritesYear year cs)
    {rest : List Char} (hrest : ∀ c ∈ rest.head?, c.isDigit = false) :
    scanYear (Text.trimStartChars (cs ++ rest)) = some (year, rest) := by
  cases h with
  | @plain n digits hdigits =>
      have hscan : scanNumber 4 (cs ++ rest) = some (n, rest) :=
        scanNumber_numeral hdigits (by decide) (Nat.le_refl 4) (Or.inl rfl)
      rw [trimStartChars_numeral hdigits (by decide)]
      obtain ⟨c, cs, rfl⟩ := List.exists_cons_of_ne_nil (hdigits.ne_nil (by decide))
      have hc := hdigits.isDigit c List.mem_cons_self
      rw [List.cons_append] at hscan ⊢
      rw [scanYear]
      · rw [hscan]
        rfl
      · rintro _ hsign
        rw [(List.cons.inj hsign).1] at hc
        exact absurd hc (by decide)
      · rintro _ hsign
        rw [(List.cons.inj hsign).1] at hc
        exact absurd hc (by decide)
  | after _ hwidth hdigits =>
      have hscan := scanLongNumber_numeral hdigits (by omega) hrest
      simp [Text.trimStartChars, Text.isBlank, scanYear, hscan]
  | before _ hwidth hdigits =>
      have hscan := scanLongNumber_numeral hdigits (by omega) hrest
      simp [Text.trimStartChars, Text.isBlank, scanYear, hscan]

theorem skipFraction_fraction {fraction : List Char} (h : IsFraction fraction) {rest : List Char}
    (hrest : ∀ c ∈ rest.head?, c.isDigit = false ∧ c ≠ '.') :
    skipFraction (fraction ++ rest) = some rest := by
  rcases h with rfl | ⟨digits, hne, hdigits, rfl⟩
  · rw [List.nil_append, skipFraction]
    rintro cs rfl
    exact (hrest '.' rfl).2 rfl
  · have hnumeral : Numeral digits.length (Text.ofDigits 10 digits) digits := ⟨rfl, hdigits, rfl⟩
    have hscan := scanLongNumber_numeral hnumeral (List.length_pos_iff.2 hne)
      fun c hc => (hrest c hc).1
    rw [List.cons_append, skipFraction, hscan]
    rfl

/-! ### Reading by patterns -/

theorem readPattern_date {d : Date} {cs : List Char} (h : WritesDate d cs) (m : Moment)
    (parts : List Part) (rest : List Char) :
    readPattern m (datePattern ++ parts) (cs ++ rest) =
      readPattern { m with date := d } parts rest := by
  obtain ⟨year, month, day, hyear, hmonth, hday, rfl⟩ := h
  have hmark : ∀ c ∈ ('-' :: (month ++ '-' :: (day ++ rest))).head?, c.isDigit = false := by
    simp
  simp [datePattern, readPattern, Part.read, scanYear_written hyear hmark,
    scanNumber_pair hmonth, scanNumber_pair hday]

theorem readPattern_minute {c : Clock} {cs : List Char} (h : WritesMinute c cs) (m : Moment)
    (parts : List Part) (rest : List Char) :
    readPattern m (minutePattern ++ parts) (cs ++ rest) =
      readPattern { m with clock := ⟨c.hour, c.minute, m.clock.second⟩ } parts rest := by
  obtain ⟨hour, minute, hhour, hminute, rfl⟩ := h
  simp [minutePattern, readPattern, Part.read, scanNumber_pair hhour, scanNumber_pair hminute]

theorem readPattern_clock {c : Clock} {cs : List Char} (h : WritesClock c cs)
    {fraction : List Char} (hfraction : IsFraction fraction) (m : Moment) :
    readPattern m secondPattern (cs ++ fraction) = some { m with clock := c } := by
  obtain ⟨hour, minute, second, hhour, hminute, hsecond, rfl⟩ := h
  have hskip : skipFraction (fraction ++ []) = some [] := skipFraction_fraction hfraction (by simp)
  have hrest := readPattern_minute ⟨hour, minute, hhour, hminute, rfl⟩ m
    [.mark ':', .second, .fraction] (':' :: (second ++ fraction))
  rw [List.append_nil] at hskip
  rw [secondPattern, List.append_assoc, List.cons_append, hrest]
  simp [readPattern, Part.read, scanNumber_pair hsecond, hskip]

theorem trimStartChars_clock {c : Clock} {cs : List Char} (h : WritesClock c cs)
    (rest : List Char) : Text.trimStartChars (' ' :: (cs ++ rest)) = cs ++ rest := by
  obtain ⟨hour, minute, second, hhour, -, -, rfl⟩ := h
  have hspace : Text.isBlank ' ' = true := by decide
  have hdigits := trimStartChars_numeral hhour (by decide)
    (':' :: (minute ++ ':' :: (second ++ rest)))
  simpa [Text.trimStartChars, hspace] using hdigits

/-- The second of the patterns reads what is written, and the first does not. -/
theorem findSome?_momentPatterns {m : Moment} (hvalid : m.isValid = true) {cs : List Char}
    (h : WritesMoment m cs) {fraction : List Char} (hfraction : IsFraction fraction) :
    momentPatterns.findSome?
      (fun p => (readPattern blank p (cs ++ fraction)).bind Moment.valid?) = some m := by
  obtain ⟨date, clock, hdate, hclock, rfl⟩ := h
  have hm : m.valid? = some m := (Moment.valid?_eq_some_iff m m).2 ⟨rfl, hvalid⟩
  have htime : readPattern blank (datePattern ++ [.mark 'T'] ++ secondPattern)
      (date ++ ' ' :: clock ++ fraction) = none := by
    rw [List.append_assoc, List.append_assoc, List.cons_append, readPattern_date hdate]
    simp [readPattern, Part.read]
  have hspace : readPattern blank (datePattern ++ [.space] ++ secondPattern)
      (date ++ ' ' :: clock ++ fraction) = some m := by
    have hread := readPattern_clock hclock hfraction { blank with date := m.date }
    rw [List.append_assoc, List.append_assoc, List.cons_append, readPattern_date hdate]
    simp only [List.cons_append, List.nil_append, readPattern, Part.read, Option.bind_some,
      trimStartChars_clock hclock]
    exact hread
  rw [momentPatterns, List.findSome?_cons, htime, Option.bind_none, List.findSome?_cons, hspace,
    Option.bind_some, hm]

/-! ### Reading with an offset -/

theorem numeral_four {n : Nat} {digits : List Char} (h : Numeral 4 n digits) :
    ∃ high low : List Char, ∃ a b : Nat, Numeral 2 a high ∧ Numeral 2 b low ∧
      digits = high ++ low ∧ a * 100 + b = n := by
  match digits, h with
  | [a, b, c, d], h =>
      have hdigits := h.isDigit
      simp only [List.forall_mem_cons] at hdigits
      obtain ⟨ha, hb, hc, hd, -⟩ := hdigits
      refine ⟨[a, b], [c, d], Text.ofDigits 10 [a, b], Text.ofDigits 10 [c, d],
        ⟨rfl, by simp [ha, hb], rfl⟩, ⟨rfl, by simp [hc, hd], rfl⟩, rfl, ?_⟩
      rw [← h.ofDigits_eq]
      simp only [Text.ofDigits, List.foldl_cons, List.foldl_nil]
      omega

theorem scanPair_sign {c : Char} (hc : c.isDigit = false) (cs : List Char) :
    scanPair (c :: cs) = none := by
  cases cs <;> simp [scanPair, hc]

theorem some_bind {α β : Type} (a : α) (next : α → Option β) : (some a >>= next) = next a := rfl

theorem scanPair_bind {α : Type} {n : Nat} {digits : List Char} (h : Numeral 2 n digits)
    (rest : List Char) (next : Nat × List Char → Option α) :
    (scanPair (digits ++ rest) >>= next) = next (n, rest) := by
  rw [scanPair_pair h, Option.bind_eq_bind, Option.bind_some]

theorem skipChar_bind {α : Type} (c : Char) (rest : List Char) (next : List Char → Option α) :
    (skipChar c (c :: rest) >>= next) = next rest := by
  rw [skipChar, if_pos rfl, Option.bind_eq_bind, Option.bind_some]

/-- With a year of four digits all but the offset is read. -/
theorem readInternet?_written {m : Moment} {cs : List Char} (h : WritesMoment m cs)
    {fraction : List Char} (hfraction : IsFraction fraction) {offset : List Char}
    (hoffset : ∀ c ∈ offset.head?, c.isDigit = false ∧ c ≠ '.') :
    readInternet? (cs ++ (fraction ++ offset)) =
      if (0 ≤ m.date.year ∧ m.date.year ≤ 9999) ∧ isOffset offset = true then some m else none := by
  obtain ⟨date, clock, ⟨year, month, day, hyear, hmonth, hday, rfl⟩,
    ⟨hour, minute, second, hhour, hminute, hsecond, rfl⟩, rfl⟩ := h
  have hskip := skipFraction_fraction hfraction hoffset
  obtain ⟨⟨n, k, d⟩, c⟩ := m
  simp only at hyear hmonth hday hhour hminute hsecond
  simp only [List.append_assoc, List.cons_append]
  cases hyear with
  | plain hdigits =>
      obtain ⟨high, low, a, b, hhigh, hlow, rfl, rfl⟩ := numeral_four hdigits
      have hyear : 0 ≤ (a : Int) * 100 + b ∧ (a : Int) * 100 + b ≤ 9999 := by
        have hfour := hdigits.lt
        omega
      simp only [readInternet?, List.append_assoc, ↓scanPair_bind hhigh, ↓scanPair_bind hlow,
        ↓scanPair_bind hmonth, ↓scanPair_bind hday, ↓skipChar_bind]
      rw [if_pos (Or.inr (Or.inr trivial))]
      simp only [↓some_bind, ↓scanPair_bind hhour, ↓scanPair_bind hminute,
        ↓scanPair_bind hsecond, ↓skipChar_bind, hskip]
      simp [hyear]
  | after hn _ _ =>
      rw [if_neg (by omega), readInternet?, List.cons_append, scanPair_sign (by decide)]
      rfl
  | before hn _ _ =>
      rw [if_neg (by omega), readInternet?, List.cons_append, scanPair_sign (by decide)]
      rfl

theorem eq_of_scanPair {cs rest : List Char} {n : Nat} (h : scanPair cs = some (n, rest)) :
    ∃ a b, b.isDigit = true ∧ cs = [a, b] ++ rest := by
  rw [scanPair.eq_def] at h
  split at h
  · next a b tail =>
      split at h
      · next hdigits =>
          obtain ⟨-, rfl⟩ := Prod.mk.inj (Option.some.inj h)
          exact ⟨a, b, (Bool.and_eq_true_iff.1 hdigits).2, rfl⟩
      · exact absurd h (Option.some_ne_none _).symm
  · exact absurd h (Option.some_ne_none _).symm

theorem eq_of_skipChar {c : Char} {cs rest : List Char} (h : skipChar c cs = some rest) :
    cs = c :: rest := by
  cases cs with
  | nil => exact absurd h (Option.some_ne_none _).symm
  | cons d cs =>
      rw [skipChar] at h
      split at h
      · next hc => rw [hc, Option.some.inj h]
      · exact absurd h (Option.some_ne_none _).symm

theorem exists_of_isOffsetTime {cs : List Char} (h : isOffsetTime cs = true) :
    ∃ front c, cs = front ++ [c] ∧ c.isDigit = true := by
  cases hhours : scanPair cs with
  | none => simp [isOffsetTime, hhours] at h
  | some read =>
      obtain ⟨hours, rest⟩ := read
      cases hcolon : skipChar ':' rest with
      | none => simp [isOffsetTime, hhours, hcolon] at h
      | some behind =>
          cases hminutes : scanPair behind with
          | none => simp [isOffsetTime, hhours, hcolon, hminutes] at h
          | some read' =>
              obtain ⟨minutes, tail⟩ := read'
              simp only [isOffsetTime, hhours, hcolon, hminutes, Option.bind_eq_bind,
                Option.bind_some, Option.pure_def, Option.getD_some, Bool.and_eq_true,
                List.isEmpty_iff] at h
              obtain ⟨-, rfl⟩ := h
              obtain ⟨a, b, -, rfl⟩ := eq_of_scanPair hhours
              obtain ⟨c, d, hd, rfl⟩ := eq_of_scanPair hminutes
              rw [eq_of_skipChar hcolon]
              exact ⟨[a, b, ':', c], d, rfl, hd⟩

theorem head_of_cons {first : Char} {rest : List Char}
    (h : first.isDigit = false ∧ first ≠ '.') :
    ∀ c ∈ (first :: rest).head?, c.isDigit = false ∧ c ≠ '.' := by
  intro c hc
  cases hc
  exact h

/-- An offset begins with no digit and no point, and does not end in a blank. -/
theorem ends_of_isOffset {cs : List Char} (h : isOffset cs = true) :
    (∀ c ∈ cs.head?, c.isDigit = false ∧ c ≠ '.') ∧
      ∃ front c, cs = front ++ [c] ∧ Text.isBlank c = false := by
  rw [isOffset.eq_def] at h
  split at h
  · exact ⟨head_of_cons (by decide), [], 'Z', rfl, by decide⟩
  · exact ⟨head_of_cons (by decide), [], 'z', rfl, by decide⟩
  · next sign rest _ _ =>
      simp only [Bool.and_eq_true, Bool.or_eq_true, beq_iff_eq] at h
      obtain ⟨front, c, rfl, hc⟩ := exists_of_isOffsetTime h.2
      refine ⟨?_, sign :: front, c, rfl, isBlank_of_isDigit hc⟩
      rcases h.1 with (rfl | rfl) | rfl
      all_goals exact head_of_cons (by decide)
  · exact absurd h Bool.false_ne_true

/-! ### Reading -/

theorem trimChars_eq_self {first last : Char} (hfirst : Text.isBlank first = false)
    (hlast : Text.isBlank last = false) {cs front : List Char} (h : first :: cs = front ++ [last]) :
    Text.trimChars (first :: cs) = first :: cs := by
  rw [Text.trimChars, Text.trimStartChars, List.dropWhile_cons_of_neg (by simp [hfirst]),
    Text.trimEndChars, Text.dropEndWhile, h, List.reverse_concat,
    List.dropWhile_cons_of_neg (by simp [hlast]), List.reverse_cons, List.reverse_reverse]

theorem exists_first_of_writesMoment {m : Moment} {cs : List Char} (h : WritesMoment m cs) :
    ∃ c rest, cs = c :: rest ∧ Text.isBlank c = false := by
  obtain ⟨⟨n, _, _⟩, _⟩ := m
  obtain ⟨date, clock, ⟨year, month, day, hyear, -, -, rfl⟩, -, rfl⟩ := h
  simp only at hyear
  cases hyear with
  | plain hdigits =>
      obtain ⟨c, rest, rfl⟩ := List.exists_cons_of_ne_nil (hdigits.ne_nil (by decide))
      exact ⟨c, _, rfl, isBlank_of_isDigit (hdigits.isDigit c List.mem_cons_self)⟩
  | after _ _ _ => exact ⟨'+', _, rfl, by decide⟩
  | before _ _ _ => exact ⟨'-', _, rfl, by decide⟩

theorem exists_last_of_digits {digits : List Char} (hne : digits ≠ [])
    (hdigits : ∀ c ∈ digits, c.isDigit = true) :
    ∃ front c, digits = front ++ [c] ∧ Text.isBlank c = false := by
  refine ⟨digits.dropLast, digits.getLast hne, (List.dropLast_concat_getLast hne).symm, ?_⟩
  exact isBlank_of_isDigit (hdigits _ (List.getLast_mem hne))

/-- Behind a moment and its fraction stands a digit. -/
theorem exists_last_of_writesMoment {m : Moment} {cs : List Char} (h : WritesMoment m cs)
    {fraction : List Char} (hfraction : IsFraction fraction) :
    ∃ front c, cs ++ fraction = front ++ [c] ∧ Text.isBlank c = false := by
  rcases hfraction with rfl | ⟨digits, hne, hdigits, rfl⟩
  · obtain ⟨date, clock, -, ⟨hour, minute, second, -, -, hsecond, rfl⟩, rfl⟩ := h
    obtain ⟨front, c, hlast, hc⟩ :=
      exists_last_of_digits (hsecond.ne_nil (by decide)) hsecond.isDigit
    refine ⟨date ++ ' ' :: (hour ++ ':' :: minute ++ ':' :: front), c, ?_, hc⟩
    simp [hlast]
  · obtain ⟨front, c, hlast, hc⟩ := exists_last_of_digits hne hdigits
    refine ⟨cs ++ '.' :: front, c, ?_, hc⟩
    simp [hlast]

/-- A moment is read from its written form. A fraction of the second is dropped, and so is the
offset of the local clock. -/
theorem readMoment?_written {m : Moment} (hvalid : m.isValid = true) {cs : List Char}
    (h : WritesMoment m cs) {fraction : List Char} (hfraction : IsFraction fraction)
    {offset : List Char} (hoffset : offset = [] ∨
      (0 ≤ m.date.year ∧ m.date.year ≤ 9999) ∧ isOffset offset = true) :
    readMoment? (String.ofList (cs ++ (fraction ++ offset))) = some m := by
  obtain ⟨first, rest, hfirst, hblank⟩ := exists_first_of_writesMoment h
  rcases hoffset with rfl | ⟨hyear, hoffset⟩
  · obtain ⟨front, last, hlast, hlastblank⟩ := exists_last_of_writesMoment h hfraction
    have htrim : Text.trimChars (cs ++ fraction) = cs ++ fraction := by
      rw [hfirst, List.cons_append] at hlast ⊢
      exact trimChars_eq_self hblank hlastblank hlast
    have hnone := @readInternet?_written m cs h fraction hfraction [] (by simp)
    rw [if_neg (by simp [isOffset]), List.append_nil] at hnone
    rw [readMoment?, String.toList_ofList, List.append_nil, htrim, hnone,
      findSome?_momentPatterns hvalid h hfraction]
    rfl
  · obtain ⟨hhead, front, last, hlast, hlastblank⟩ := ends_of_isOffset hoffset
    have htrim : Text.trimChars (cs ++ (fraction ++ offset)) = cs ++ (fraction ++ offset) := by
      have hends : first :: (rest ++ (fraction ++ (front ++ [last]))) =
          first :: (rest ++ (fraction ++ front)) ++ [last] := by simp
      rw [hfirst, hlast, List.cons_append]
      exact trimChars_eq_self hblank hlastblank hends
    have hsome := readInternet?_written h hfraction hhead
    rw [if_pos ⟨hyear, hoffset⟩] at hsome
    rw [readMoment?, String.toList_ofList, htrim, hsome, Option.bind_some,
      (Moment.valid?_eq_some_iff m m).2 ⟨rfl, hvalid⟩]
    rfl

/-- What is read is a moment of the calendar. -/
theorem isValid_of_readMoment? {s : String} {m : Moment} (h : readMoment? s = some m) :
    m.isValid = true := by
  have hbind {o : Option Moment} {m : Moment} (h : o.bind Moment.valid? = some m) :
      m.isValid = true := by
    obtain ⟨m', -, hm'⟩ := Option.bind_eq_some_iff.1 h
    exact ((Moment.valid?_eq_some_iff m' m).1 hm').2
  simp only [readMoment?, Option.orElse_eq_orElse, Option.orElse_eq_or, Option.or_eq_some_iff] at h
  rcases h with h | ⟨-, h | ⟨-, h⟩⟩
  · exact hbind h
  · obtain ⟨pattern, -, h⟩ := List.exists_of_findSome?_eq_some h
    exact hbind h
  · exact hbind h

/-! ### Times of day -/

/-- A time of day is read from its hour and minute. -/
theorem readTime?_text {c : Clock} (h : c.isValid = true) :
    readTime? c.text = some ⟨c.hour, c.minute, 0⟩ := by
  have hwritten := writesMinute_text h
  have hvalid : (Clock.mk c.hour c.minute 0).isValid = true := by
    simp only [Clock.isValid, decide_eq_true_eq] at h ⊢
    omega
  have hsecond : readPattern blank secondPattern c.text.toList = none := by
    have hread := readPattern_minute hwritten blank [.mark ':', .second, .fraction] []
    rw [List.append_nil] at hread
    rw [secondPattern, hread]
    rfl
  have hminute : readPattern blank minutePattern c.text.toList =
      some { blank with clock := ⟨c.hour, c.minute, 0⟩ } := by
    have hread := readPattern_minute hwritten blank [] []
    rw [List.append_nil, List.append_nil] at hread
    exact hread
  have htrim : Text.trimChars c.text.toList = c.text.toList := by
    obtain ⟨hour, minute, hhour, hminute, heq⟩ := hwritten
    obtain ⟨first, rest, hfirst⟩ := List.exists_cons_of_ne_nil (hhour.ne_nil (by decide))
    obtain ⟨front, last, hlast, hblank⟩ :=
      exists_last_of_digits (hminute.ne_nil (by decide)) hminute.isDigit
    have hdigit : first.isDigit = true := hhour.isDigit first (hfirst ▸ List.mem_cons_self)
    have hends : first :: (rest ++ ':' :: (front ++ [last])) =
        first :: (rest ++ ':' :: front) ++ [last] := by simp
    rw [heq, hfirst, hlast, List.cons_append]
    exact trimChars_eq_self (isBlank_of_isDigit hdigit) hblank hends
  simp [readTime?, htrim, readClock?, hsecond, hminute, Option.filter, hvalid]

theorem isValid_of_readTime? {s : String} {c : Clock} (h : readTime? s = some c) :
    c.isValid = true := by
  simp only [readTime?, Option.orElse_eq_orElse, Option.orElse_eq_or, Option.or_eq_some_iff] at h
  rcases h with h | ⟨-, h⟩
  · obtain ⟨pattern, -, h⟩ := List.exists_of_findSome?_eq_some h
    exact (Option.filter_eq_some_iff.1 h).2
  · obtain ⟨m, hm, rfl⟩ := Option.map_eq_some_iff.1 h
    exact (Bool.and_eq_true_iff.1 (isValid_of_readMoment? hm)).2

/-! ### What is never a date -/

/-- A minus sign stands behind a digit. -/
def ShowsDate (cs : List Char) : Prop := ∃ d : Char, d.isDigit = true ∧ [d, '-'] <:+: cs

theorem ShowsDate.mono {cs ds : List Char} (h : ShowsDate cs) (hpart : cs <:+: ds) :
    ShowsDate ds := by
  obtain ⟨d, hd, hmem⟩ := h
  exact ⟨d, hd, hmem.trans hpart⟩

theorem showsDate_append_cons {front rest : List Char} {d : Char} (hd : d.isDigit = true) :
    ShowsDate (front ++ d :: '-' :: rest) :=
  ⟨d, hd, front, rest, by simp⟩

theorem isInfix_trimChars (cs : List Char) : Text.trimChars cs <:+: cs := by
  have hend (xs : List Char) : Text.dropEndWhile Text.isBlank xs <+: xs := by
    have hsuffix : xs.reverse.dropWhile Text.isBlank <:+ xs.reverse := List.dropWhile_suffix _
    rw [← List.reverse_prefix, List.reverse_reverse] at hsuffix
    exact hsuffix
  exact (hend _).isInfix.trans (List.dropWhile_suffix _).isInfix

/-- What is scanned ends in a digit. -/
theorem exists_of_scanNumber {most n : Nat} {cs rest : List Char}
    (h : scanNumber most cs = some (n, rest)) :
    ∃ front d, d.isDigit = true ∧ cs = front ++ d :: rest := by
  simp only [scanNumber] at h
  split at h
  · exact absurd h (Option.some_ne_none _).symm
  · next hne =>
      obtain ⟨-, rfl⟩ := Prod.mk.inj (Option.some.inj h)
      obtain ⟨digits, hdigits⟩ : ∃ digits, digits = (cs.take most).takeWhile Char.isDigit :=
        ⟨_, rfl⟩
      rw [← hdigits] at hne ⊢
      have hprefix : digits <+: cs := by
        rw [hdigits]
        exact (List.takeWhile_prefix _).trans (List.take_prefix _ _)
      have hnil : digits ≠ [] := by simpa using hne
      refine ⟨digits.dropLast, digits.getLast hnil, ?_, ?_⟩
      · have hall : ∀ c ∈ digits, c.isDigit = true := by
          rw [hdigits]
          exact List.all_eq_true.1 List.all_takeWhile
        exact hall _ (List.getLast_mem hnil)
      · rw [List.append_cons, List.dropLast_concat_getLast]
        exact (List.prefix_iff_eq_append.1 hprefix).symm

theorem exists_of_scanYear {year : Int} {cs rest : List Char}
    (h : scanYear cs = some (year, rest)) :
    ∃ front d, d.isDigit = true ∧ cs = front ++ d :: rest := by
  rw [scanYear.eq_def] at h
  split at h
  all_goals
    obtain ⟨⟨n, rest'⟩, hscan, heq⟩ := Option.map_eq_some_iff.1 h
    obtain ⟨-, rfl⟩ := Prod.mk.inj heq
    obtain ⟨front, d, hd, rfl⟩ := exists_of_scanNumber hscan
  · exact ⟨'-' :: front, d, hd, rfl⟩
  · exact ⟨'+' :: front, d, hd, rfl⟩
  · exact ⟨front, d, hd, rfl⟩

theorem showsDate_of_readPattern {parts : List Part} {cs : List Char} {m m' : Moment}
    (h : readPattern m (datePattern ++ parts) cs = some m') : ShowsDate cs := by
  simp only [datePattern, List.cons_append, readPattern, Option.bind_eq_some_iff] at h
  obtain ⟨⟨m₁, behind⟩, hyear, read, hmark, -⟩ := h
  obtain ⟨⟨year, tail⟩, hscan, heq⟩ := Option.map_eq_some_iff.1 hyear
  obtain ⟨-, rfl⟩ := Prod.mk.inj heq
  obtain ⟨front, d, hd, htrim⟩ := exists_of_scanYear hscan
  have hminus : ∃ rest, tail = '-' :: rest := by
    cases tail with
    | nil => exact absurd hmark (Option.some_ne_none _).symm
    | cons c rest =>
        simp only [Part.read] at hmark
        split at hmark
        · next hc => exact ⟨rest, by rw [hc]⟩
        · exact absurd hmark (Option.some_ne_none _).symm
  obtain ⟨rest, rfl⟩ := hminus
  have hshows : ShowsDate (Text.trimStartChars cs) := htrim ▸ showsDate_append_cons hd
  exact hshows.mono (List.dropWhile_suffix _).isInfix

theorem showsDate_of_readInternet? {cs : List Char} {m : Moment}
    (h : readInternet? cs = some m) : ShowsDate cs := by
  rw [readInternet?] at h
  obtain ⟨⟨high, behind⟩, hhigh, h⟩ := Option.bind_eq_some_iff.1 h
  obtain ⟨⟨low, tail⟩, hlow, h⟩ := Option.bind_eq_some_iff.1 h
  obtain ⟨rest, hminus, -⟩ := Option.bind_eq_some_iff.1 h
  obtain ⟨a, b, -, rfl⟩ := eq_of_scanPair hhigh
  obtain ⟨c, d, hd, rfl⟩ := eq_of_scanPair hlow
  rw [eq_of_skipChar hminus]
  exact @showsDate_append_cons [a, b, c] _ d hd

/-- A text that is read as a moment has a minus sign behind a digit. -/
theorem showsDate_of_readMoment? {s : String} {m : Moment} (h : readMoment? s = some m) :
    ShowsDate s.toList := by
  apply ShowsDate.mono _ (isInfix_trimChars s.toList)
  simp only [readMoment?, Option.orElse_eq_orElse, Option.orElse_eq_or, Option.or_eq_some_iff] at h
  rcases h with h | ⟨-, h | ⟨-, h⟩⟩
  · obtain ⟨m', hread, -⟩ := Option.bind_eq_some_iff.1 h
    exact showsDate_of_readInternet? hread
  · obtain ⟨pattern, hpattern, h⟩ := List.exists_of_findSome?_eq_some h
    obtain ⟨m', hread, -⟩ := Option.bind_eq_some_iff.1 h
    have hparts : ∃ parts, pattern = datePattern ++ parts := by
      simp only [momentPatterns, List.append_assoc, List.mem_cons, List.not_mem_nil, or_false]
        at hpattern
      rcases hpattern with rfl | rfl | rfl | rfl <;> exact ⟨_, rfl⟩
    obtain ⟨parts, rfl⟩ := hparts
    exact showsDate_of_readPattern hread
  · obtain ⟨m', hread, -⟩ := Option.bind_eq_some_iff.1 h
    rw [← List.append_nil datePattern] at hread
    exact showsDate_of_readPattern hread

end Portfolio.Calendar
