/-
Module: Portfolio.Proofs.Yaml.Decoding
Purpose: Nothing is lost when a text is written as a scalar on one line: a decoder undoes each of
  the styles, and the JSON form. It is right about what is written here and not about other YAML.
Main exports: Yaml.decode?, Yaml.Escaped, Yaml.decode_scalar, Yaml.decode_quote, Yaml.Quoted,
  Yaml.room, Yaml.room_lt_of_decode
-/
import Portfolio.Json.Printer
import Portfolio.Proofs.Text.Numeral
import Portfolio.Yaml.Scalar

namespace Portfolio.Yaml

/-! ### Decoding -/

/-- The characters that one character behind a backslash stands for. -/
def shortEscapes : List (Char × Char) :=
  [('0', '\x00'), ('a', '\x07'), ('b', '\x08'), ('t', '\t'), ('n', '\n'), ('v', '\x0b'),
    ('f', '\x0c'), ('r', '\r'), ('e', '\x1b'), ('\x22', '\x22'), ('\\', '\\'), ('/', '/'),
    (' ', ' '), ('N', '\u0085'), ('_', '\u00a0'), ('L', '\u2028'), ('P', '\u2029')]

/-- How many hexadecimal digits of a character follow a letter behind a backslash. -/
def hexEscapes : List (Char × Nat) := [('x', 2), ('u', 4), ('U', 8)]

/-- The character that stands behind a backslash, and how many characters it takes there. -/
def escapeAt? : List Char → Option (Char × Nat)
  | [] => none
  | e :: cs =>
      match shortEscapes.lookup e with
      | some c => some (c, 1)
      | none => (hexEscapes.lookup e).map fun width =>
          (Char.ofNat (Text.ofDigits 16 (cs.take width)), width + 1)

/-- What stands in double quotes, from behind the first of them. The next one without a backslash
in front has to be the end. -/
def decodeDouble : List Char → Option (List Char)
  | [] => none
  | c :: cs =>
      if c = '\x22' then if cs.isEmpty then some [] else none
      else if c = '\\' then
        match escapeAt? cs with
        | some (d, taken) => (decodeDouble (cs.drop taken)).map (d :: ·)
        | none => none
      else (decodeDouble cs).map (c :: ·)
  termination_by cs => cs.length

/-- What stands in single quotes, from behind the first of them. Two quotes stand for one, and
spaces behind a break indent the next line. -/
def decodeSingle (afterBreak : Bool) : List Char → Option (List Char)
  | [] => none
  | '\x27' :: '\x27' :: cs => (decodeSingle false cs).map ('\x27' :: ·)
  | c :: cs =>
      if c = '\x27' then if cs.isEmpty then some [] else none
      else if c = ' ' ∧ afterBreak = true then decodeSingle true cs
      else (decodeSingle (isBreak c) cs).map (c :: ·)

/-- The text that was written as a scalar on one line. What stands without quotes was written as
it is. The decoder is answerable for scalars and JSON texts that are written here; what it makes of
other YAML has no meaning. -/
def decode? : List Char → Option (List Char)
  | '\x27' :: cs => decodeSingle false cs
  | '\x22' :: cs => decodeDouble cs
  | cs => some cs

/-! ### Escapes -/

/-- The ways a character stands in double quotes: as it is, behind a backslash, or by its number
in hexadecimal digits. -/
inductive Escaped (c : Char) : List Char → Prop where
  | plain (quote : c ≠ '\x22') (slash : c ≠ '\\') (feed : c ≠ '\n') : Escaped c [c]
  | short {e : Char} (stands : shortEscapes.lookup e = some c) : Escaped c ['\\', e]
  | hex {e : Char} {width : Nat} {digits : List Char} (long : shortEscapes.lookup e = none)
      (takes : hexEscapes.lookup e = some width) (length : digits.length = width)
      (denotes : Text.ofDigits 16 digits = c.toNat)
      (are_digits : ∀ d ∈ digits, (Text.digitIn? 16 d).isSome = true) :
      Escaped c ('\\' :: e :: digits)

/-- An escape is undone. -/
theorem Escaped.decodeDouble_append {c : Char} {cs : List Char} (h : Escaped c cs)
    (rest : List Char) : decodeDouble (cs ++ rest) = (decodeDouble rest).map (c :: ·) := by
  cases h with
  | plain quote slash _ => rw [List.singleton_append, decodeDouble, if_neg quote, if_neg slash]
  | short stands =>
      rw [List.cons_append, decodeDouble, if_neg (by decide), if_pos rfl]
      simp [escapeAt?, stands]
  | hex long takes length denotes _ =>
      rw [List.cons_append, decodeDouble, if_neg (by decide), if_pos rfl]
      simp [escapeAt?, long, takes, ← length, denotes]

theorem Escaped.newline_not_mem {c : Char} {cs : List Char} (h : Escaped c cs) : '\n' ∉ cs := by
  cases h with
  | plain _ _ feed => simpa using feed.symm
  | @short e stands =>
      have hfeed : e ≠ '\n' := by
        rintro rfl
        have hnone : shortEscapes.lookup '\n' = none := by decide
        simp [hnone] at stands
      simpa using hfeed.symm
  | @hex e width digits _ takes _ _ are_digits =>
      have hfeed : e ≠ '\n' := by
        rintro rfl
        have hnone : hexEscapes.lookup '\n' = none := by decide
        simp [hnone] at takes
      have hdigits : '\n' ∉ digits := fun hmem => absurd (are_digits _ hmem) (by decide)
      simp [hfeed.symm, hdigits]

/-- Escaped characters are decoded up to the quote behind them. -/
theorem decodeDouble_flatMap {escape : Char → List Char} (h : ∀ c, Escaped c (escape c))
    (cs : List Char) : decodeDouble (cs.flatMap escape ++ ['\x22']) = some cs := by
  induction cs with
  | nil => simp [decodeDouble]
  | cons c cs ih =>
      rw [List.flatMap_cons, List.append_assoc, (h c).decodeDouble_append, ih, Option.map_some]

theorem newline_not_mem_flatMap {escape : Char → List Char} (h : ∀ c, Escaped c (escape c))
    (cs : List Char) : '\n' ∉ cs.flatMap escape := by
  intro hmem
  obtain ⟨c, -, hc⟩ := List.mem_flatMap.1 hmem
  exact (h c).newline_not_mem hc

theorem isSome_of_mem_upperHex {width n : Nat} {d : Char} (h : d ∈ upperHex width n) :
    (Text.digitIn? 16 d).isSome = true := by
  rw [upperHex, List.mem_append] at h
  rcases h with h | h
  · rw [List.eq_of_mem_replicate h]
    decide
  · obtain ⟨c, hc, rfl⟩ := List.mem_map.1 h
    obtain ⟨n, hn, rfl⟩ := Text.exists_of_mem_hexDigits hc
    rw [(Text.digitIn_hexDigit hn).2, Option.isSome_some]

/-- A number in digits of a width that it fits. -/
theorem escaped_upperHex {e c : Char} {width : Nat} (long : shortEscapes.lookup e = none)
    (takes : hexEscapes.lookup e = some width) (hwidth : 0 < width)
    (hc : c.toNat < 16 ^ width) : Escaped c ('\\' :: e :: upperHex width c.toNat) := by
  have hle := Text.length_hexDigits_le hwidth hc
  refine .hex long takes ?_ ?_ fun _ => isSome_of_mem_upperHex
  · rw [upperHex, List.length_append, List.length_replicate, List.length_map]
    omega
  · rw [upperHex, Text.ofDigits_zeros (by decide), Text.ofDigits_map_toUpper_hexDigits]

theorem escaped_escapeChar (c : Char) : Escaped c (escapeChar c) := by
  have hshort {e : Char} {n : Nat} (h : c.toNat = n)
      (hstands : shortEscapes.lookup e = some (Char.ofNat n)) : Escaped c ['\\', e] := by
    rw [← h, Char.ofNat_toNat] at hstands
    exact .short hstands
  rw [escapeChar]
  split
  · next h =>
      simp only [Bool.and_eq_true, bne_iff_ne, ne_eq, Bool.not_eq_true'] at h
      refine .plain h.1.2 h.2 ?_
      rintro rfl
      exact absurd h.1.1.2 (by decide)
  · have hlt : c.toNat < 16 ^ 8 := c.val.toNat_lt
    dsimp only
    split
    iterate 14
      · next h => exact hshort h (by decide)
    · split
      · exact escaped_upperHex (by decide) (by decide) (by decide) (by omega)
      · split
        · exact escaped_upperHex (by decide) (by decide) (by decide) (by omega)
        · exact escaped_upperHex (by decide) (by decide) (by decide) hlt

/-- A control character as a byte behind two zeros. -/
theorem escaped_hexByte {c : Char} (hc : c.toNat < 0x20) :
    Escaped c ('\\' :: 'u' :: (List.replicate 2 '0' ++ Text.hexByte c.toUInt8)) := by
  have hbyte : c.toUInt8.toNat = c.toNat := by
    rw [Char.toUInt8, UInt32.toNat_toUInt8]
    exact Nat.mod_eq_of_lt (Nat.lt_trans hc (by decide))
  have htakes : hexEscapes.lookup 'u' = some 4 := by decide
  refine .hex (by decide) htakes rfl ?_ ?_
  · rw [Text.ofDigits_zeros (by decide), Text.ofDigits_hexByte, hbyte]
  · intro d hd
    rcases List.mem_append.1 hd with hd | hd
    · rw [List.eq_of_mem_replicate hd]
      decide
    · exact Text.isSome_of_mem_hexByte hd

theorem escaped_escapeChar_json (c : Char) : Escaped c (Json.escapeChar c) := by
  unfold Json.escapeChar
  split
  iterate 7
    · exact .short (by decide)
  · next hquote hslash _ _ hfeed _ _ =>
      split
      · next hlt => exact escaped_hexByte hlt
      · exact .plain hquote hslash hfeed

/-! ### Single quotes -/

theorem decodeSingle_cons {c : Char} {afterBreak : Bool} (hquote : c ≠ '\x27')
    (hspace : ¬ (c = ' ' ∧ afterBreak = true)) (cs : List Char) :
    decodeSingle afterBreak (c :: cs) = (decodeSingle (isBreak c) cs).map (c :: ·) := by
  rw [decodeSingle, if_neg hquote, if_neg hspace]
  rintro cs rfl
  exact absurd rfl hquote

theorem decodeSingle_end (afterBreak : Bool) : decodeSingle afterBreak ['\x27'] = some [] := by
  simp [decodeSingle]

theorem decodeSingle_spaces (rest : List Char) :
    ∀ k, decodeSingle true (List.replicate k ' ' ++ rest) = decodeSingle true rest
  | 0 => rfl
  | k + 1 => by
      rw [List.replicate_succ, List.cons_append, decodeSingle, if_neg (by decide),
        if_pos ⟨rfl, rfl⟩, decodeSingle_spaces rest k]
      simp

/-- The indentation of a line behind a break. -/
def margin (indent : Nat) (afterBreak : Bool) : List Char :=
  if afterBreak then List.replicate indent ' ' else []

theorem decodeSingle_margin (indent : Nat) (afterBreak : Bool) (rest : List Char) :
    decodeSingle afterBreak (margin indent afterBreak ++ rest) = decodeSingle afterBreak rest := by
  cases afterBreak with
  | false => rfl
  | true => exact decodeSingle_spaces rest indent

theorem indentLines_cons {c : Char} (h : isBreak c = false) (indent : Nat) (afterBreak : Bool)
    (cs : List Char) : indentLines indent afterBreak (c :: cs) =
      margin indent afterBreak ++ c :: indentLines indent false cs := by
  cases afterBreak <;> simp [indentLines, margin, h]

theorem anyNeighbours_cons_cons (p : Char → Char → Bool) (a b : Char) (cs : List Char) :
    anyNeighbours p (a :: b :: cs) = (p a b || anyNeighbours p (b :: cs)) := by
  simp [anyNeighbours]

theorem anyNeighbours_of_cons {p : Char → Char → Bool} {c : Char} {cs : List Char}
    (h : anyNeighbours p (c :: cs) = false) : anyNeighbours p cs = false := by
  cases cs with
  | nil => rfl
  | cons d cs =>
      rw [anyNeighbours_cons_cons, Bool.or_eq_false_iff] at h
      exact h.2

/-- No space follows a break in a text without indented lines. -/
theorem head_ne_space {c : Char} {cs : List Char} (h : hasIndentedLine (c :: cs) = false)
    (hc : isBreak c = true) : cs.head? ≠ some ' ' := by
  cases cs with
  | nil => simp
  | cons d cs =>
      rw [hasIndentedLine, anyNeighbours_cons_cons, Bool.or_eq_false_iff, hc] at h
      simpa using h.1

/-- Lines are decoded without their indentation. `afterBreak` says that a break stands before the
text, which then starts with no space. -/
theorem decodeSingle_indentLines (indent : Nat) {cs : List Char} {afterBreak : Bool}
    (hhead : afterBreak = true → cs.head? ≠ some ' ') (h : hasIndentedLine cs = false) :
    decodeSingle afterBreak (indentLines indent afterBreak (doubleQuotes cs) ++
      (margin indent ((cs.getLast?.map isBreak).getD afterBreak) ++ ['\x27'])) = some cs := by
  induction cs generalizing afterBreak with
  | nil =>
      change decodeSingle afterBreak (margin indent afterBreak ++ ['\x27']) = _
      rw [decodeSingle_margin, decodeSingle_end]
  | cons c cs ih =>
      have hrest : hasIndentedLine cs = false := anyNeighbours_of_cons h
      have hlast : ((c :: cs).getLast?.map isBreak).getD afterBreak =
          (cs.getLast?.map isBreak).getD (isBreak c) := by
        rw [List.getLast?_cons]
        cases cs.getLast? <;> rfl
      have ih := ih (head_ne_space h) hrest
      rw [hlast]
      by_cases hquote : c = '\x27'
      · subst hquote
        have hbreak : isBreak '\x27' = false := by decide
        have hdouble : doubleQuotes ('\x27' :: cs) = '\x27' :: '\x27' :: doubleQuotes cs := rfl
        rw [hbreak] at ih ⊢
        rw [hdouble, indentLines_cons hbreak, indentLines_cons hbreak, List.append_assoc,
          decodeSingle_margin]
        change decodeSingle afterBreak ('\x27' :: '\x27' :: _) = _
        rw [decodeSingle]
        exact congrArg (Option.map _) ih
      · have hdouble : doubleQuotes (c :: cs) = c :: doubleQuotes cs := by
          simp [doubleQuotes, hquote]
        rw [hdouble]
        by_cases hbreak : isBreak c = true
        · have hspace : c ≠ ' ' := by
            rintro rfl
            exact absurd hbreak (by decide)
          rw [indentLines, if_pos hbreak, List.cons_append,
            decodeSingle_cons hquote (fun hboth => hspace hboth.1)]
          rw [hbreak] at ih ⊢
          rw [ih, Option.map_some]
        · have hbreak : isBreak c = false := by simpa using hbreak
          rw [indentLines_cons hbreak, List.append_assoc, decodeSingle_margin, List.cons_append,
            decodeSingle_cons hquote]
          · rw [hbreak] at ih ⊢
            rw [ih, Option.map_some]
          · rintro ⟨rfl, hafter⟩
            exact hhead hafter rfl

theorem singleQuoted_eq (indent : Nat) (cs : List Char) :
    singleQuoted indent cs = '\x27' :: (indentLines indent false (doubleQuotes cs) ++
      (margin indent ((cs.getLast?.map isBreak).getD false) ++ ['\x27'])) := by
  rw [singleQuoted]
  cases cs.getLast? <;> simp [margin]

/-- A text in single quotes is decoded, if no line of it starts with a space. -/
theorem decode_singleQuoted (indent : Nat) {cs : List Char} (h : hasIndentedLine cs = false) :
    decode? (singleQuoted indent cs) = some cs := by
  rw [singleQuoted_eq, decode?]
  exact decodeSingle_indentLines indent (by simp) h

/-! ### Styles -/

theorem styleOf_eq_plain_iff (s : String) :
    styleOf s = .plain ↔
      '\n' ∉ s.toList ∧ readsAsOther s = false ∧ allowsPlain s.toList = true := by
  simp only [styleOf]
  split
  · next h =>
      simp only [h, not_true, false_and, iff_false]
      split <;> simp
  · next h =>
      simp only [h, not_false_eq_true, true_and]
      split
      · next hplain => simpa using hplain
      · next hplain =>
          have hnot : ¬ (readsAsOther s = false ∧ allowsPlain s.toList = true) := by
            simpa using hplain
          simp only [hnot, iff_false]
          split <;> simp

theorem allowsSingleQuoted_of_styleOf {s : String} (h : styleOf s = .singleQuoted) :
    allowsSingleQuoted s.toList = true := by
  simp only [styleOf] at h
  split at h
  · split at h <;> simp at h
  · split at h
    · simp at h
    · split at h
      · next hallowed => exact hallowed
      · simp at h

theorem newline_mem_of_styleOf {s : String} (h : styleOf s = .literal) : '\n' ∈ s.toList := by
  simp only [styleOf] at h
  split at h
  · next hfeed => exact hfeed
  · split at h
    · simp at h
    · split at h <;> simp at h

/-- A text that can stand plain does not start with a quote. -/
theorem head_ne_quote {cs : List Char} (h : allowsPlain cs = true) :
    cs.head? ≠ some '\x27' ∧ cs.head? ≠ some '\x22' := by
  cases cs with
  | nil => simp
  | cons c cs =>
      simp only [allowsPlain, holdsIndicator, Bool.and_eq_true, Bool.not_eq_true',
        Bool.or_eq_false_iff] at h
      have hc : isIndicator c = false := h.2.1.1.2.1
      constructor <;> rintro heq <;> simp [Option.some.inj heq, isIndicator] at hc

theorem decode_of_head_ne {cs : List Char} (hsingle : cs.head? ≠ some '\x27')
    (hdouble : cs.head? ≠ some '\x22') : decode? cs = some cs := by
  rw [decode?]
  · rintro rest rfl
    exact hsingle rfl
  · rintro rest rfl
    exact hdouble rfl

/-- A text without line feeds is decoded from its scalar. -/
theorem decode_scalar (indent : Nat) {s : String} (h : '\n' ∉ s.toList) :
    decode? (scalar indent s) = some s.toList := by
  cases hstyle : styleOf s with
  | plain =>
      obtain ⟨-, -, hplain⟩ := (styleOf_eq_plain_iff s).1 hstyle
      obtain ⟨hsingle, hdouble⟩ := head_ne_quote hplain
      simpa only [scalar, hstyle] using decode_of_head_ne hsingle hdouble
  | singleQuoted =>
      have hallowed := allowsSingleQuoted_of_styleOf hstyle
      simp only [allowsSingleQuoted, Bool.and_eq_true, Bool.not_eq_true'] at hallowed
      simp only [scalar, hstyle]
      exact decode_singleQuoted indent hallowed.2
  | doubleQuoted =>
      simp only [scalar, hstyle]
      rw [doubleQuoted, List.cons_append, decode?, decodeDouble_flatMap escaped_escapeChar]
  | literal => exact absurd (newline_mem_of_styleOf hstyle) h

/-- Every text is decoded from its JSON form. -/
theorem decode_quote (s : String) : decode? (Json.quote s).toList = some s.toList := by
  have hquote : (Json.quote s).toList =
      '\x22' :: (s.toList.flatMap Json.escapeChar ++ ['\x22']) := by
    simp [Json.quote]
  rw [hquote, decode?, decodeDouble_flatMap escaped_escapeChar_json]

/-! ### Between quotes -/

/-- A text between two quotes of one kind. -/
def Quoted (cs : List Char) : Prop :=
  ∃ quote inner, (quote = '\x27' ∨ quote = '\x22') ∧ cs = quote :: (inner ++ [quote])

theorem quoted_quote (s : String) : Quoted (Json.quote s).toList :=
  ⟨'\x22', s.toList.flatMap Json.escapeChar, Or.inr rfl, by simp [Json.quote]⟩

/-- A scalar on one line is plain or stands between quotes. -/
theorem quoted_scalar (indent : Nat) {s : String} (hfeed : '\n' ∉ s.toList)
    (h : styleOf s ≠ .plain) : Quoted (scalar indent s) := by
  cases hstyle : styleOf s with
  | plain => exact absurd hstyle h
  | singleQuoted =>
      simp only [scalar, hstyle]
      rw [singleQuoted_eq, ← List.append_assoc]
      exact ⟨'\x27', _, Or.inl rfl, rfl⟩
  | doubleQuoted =>
      simp only [scalar, hstyle]
      exact ⟨'\x22', s.toList.flatMap escapeChar, Or.inr rfl, rfl⟩
  | literal => exact absurd (newline_mem_of_styleOf hstyle) hfeed

/-! ### Room -/

/-- The room that a text takes on one line: a character each, and two for a line feed. -/
def room (cs : List Char) : Nat := cs.length + cs.count '\n'

theorem room_cons_of_ne {c : Char} (h : c ≠ '\n') (cs : List Char) :
    room (c :: cs) = room cs + 1 := by
  rw [room, List.length_cons, List.count_cons_of_ne h, room]
  omega

theorem room_newline_cons (cs : List Char) : room ('\n' :: cs) = room cs + 2 := by
  rw [room, List.length_cons, List.count_cons_self, room]
  omega

theorem room_cons_le (c : Char) (cs : List Char) : room (c :: cs) ≤ room cs + 2 := by
  by_cases h : c = '\n'
  · exact Nat.le_of_eq (h ▸ room_newline_cons cs)
  · rw [room_cons_of_ne h]
    omega

theorem pos_of_escapeAt {cs : List Char} {d : Char} {taken : Nat}
    (h : escapeAt? cs = some (d, taken)) : 0 < taken := by
  cases cs with
  | nil => simp [escapeAt?] at h
  | cons e cs =>
      rw [escapeAt?] at h
      split at h
      · simp only [Option.some.injEq, Prod.mk.injEq] at h
        omega
      · obtain ⟨width, -, heq⟩ := Option.map_eq_some_iff.1 h
        simp only [Prod.mk.injEq] at heq
        omega

/-- What is decoded in double quotes takes less room than it had. -/
theorem room_lt_of_decodeDouble {cs ds : List Char} (hfeed : '\n' ∉ cs)
    (h : decodeDouble cs = some ds) : room ds < cs.length := by
  fun_induction decodeDouble cs generalizing ds with
  | case1 => simp at h
  | case2 => simp [← Option.some.inj h, room]
  | case3 => simp at h
  | case4 cs d taken hescape _ ih =>
      obtain ⟨rest, hrest, rfl⟩ := Option.map_eq_some_iff.1 h
      have hlt := ih (fun hmem => hfeed (List.mem_cons_of_mem _ (List.mem_of_mem_drop hmem))) hrest
      have hpos := pos_of_escapeAt hescape
      have hle := room_cons_le d rest
      rw [List.length_drop] at hlt
      rw [List.length_cons]
      omega
  | case5 => simp at h
  | case6 c cs _ _ ih =>
      rw [List.mem_cons, not_or] at hfeed
      obtain ⟨rest, hrest, rfl⟩ := Option.map_eq_some_iff.1 h
      rw [room_cons_of_ne (Ne.symm hfeed.1), List.length_cons]
      exact Nat.succ_lt_succ (ih hfeed.2 hrest)

/-- So does what is decoded in single quotes. -/
theorem room_lt_of_decodeSingle {afterBreak : Bool} {cs ds : List Char} (hfeed : '\n' ∉ cs)
    (h : decodeSingle afterBreak cs = some ds) : room ds < cs.length := by
  fun_induction decodeSingle afterBreak cs generalizing ds with
  | case1 => simp at h
  | case2 _ cs ih =>
      simp only [List.mem_cons, not_or] at hfeed
      obtain ⟨rest, hrest, rfl⟩ := Option.map_eq_some_iff.1 h
      rw [room_cons_of_ne (by decide), List.length_cons]
      exact Nat.succ_lt_succ (Nat.lt_succ_of_lt (ih hfeed.2.2 hrest))
  | case3 => simp [← Option.some.inj h, room]
  | case4 => simp at h
  | case5 _ _ _ _ _ _ ih =>
      rw [List.length_cons]
      exact Nat.lt_succ_of_lt (ih (fun hmem => hfeed (List.mem_cons_of_mem _ hmem)) h)
  | case6 _ c cs _ _ _ ih =>
      rw [List.mem_cons, not_or] at hfeed
      obtain ⟨rest, hrest, rfl⟩ := Option.map_eq_some_iff.1 h
      rw [room_cons_of_ne (Ne.symm hfeed.1), List.length_cons]
      exact Nat.succ_lt_succ (ih hfeed.2 hrest)

/-- What stands in quotes on one line is decoded as a text that takes less room. -/
theorem room_lt_of_decode {cs ds : List Char} (hquoted : Quoted cs) (hfeed : '\n' ∉ cs)
    (h : decode? cs = some ds) : room ds < cs.length := by
  obtain ⟨quote, inner, hquote, rfl⟩ := hquoted
  rw [List.mem_cons, not_or] at hfeed
  rw [List.length_cons]
  apply Nat.lt_succ_of_lt
  rcases hquote with rfl | rfl
  · rw [decode?] at h
    exact room_lt_of_decodeSingle hfeed.2 h
  · rw [decode?] at h
    exact room_lt_of_decodeDouble hfeed.2 h

/-! ### One line -/

theorem newline_not_mem_margin (indent : Nat) (afterBreak : Bool) :
    '\n' ∉ margin indent afterBreak := by
  rw [margin]
  split
  · exact fun hmem => absurd (List.eq_of_mem_replicate hmem) (by decide)
  · exact List.not_mem_nil

theorem newline_not_mem_indentLines (indent : Nat) {cs : List Char} (h : '\n' ∉ cs)
    (afterBreak : Bool) : '\n' ∉ indentLines indent afterBreak cs := by
  induction cs generalizing afterBreak with
  | nil => exact List.not_mem_nil
  | cons c cs ih =>
      rw [List.mem_cons, not_or] at h
      by_cases hbreak : isBreak c = true
      · rw [indentLines, if_pos hbreak, List.mem_cons, not_or]
        exact ⟨h.1, ih h.2 true⟩
      · rw [indentLines_cons (by simpa using hbreak), List.mem_append, List.mem_cons, not_or,
          not_or]
        exact ⟨newline_not_mem_margin indent afterBreak, h.1, ih h.2 false⟩

theorem newline_not_mem_singleQuoted (indent : Nat) {cs : List Char} (h : '\n' ∉ cs) :
    '\n' ∉ singleQuoted indent cs := by
  have hdouble : '\n' ∉ doubleQuotes cs := by
    intro hmem
    obtain ⟨c, hc, hmem⟩ := List.mem_flatMap.1 hmem
    have heq : '\n' = c := by
      split at hmem
      · simpa using hmem
      · simpa using hmem
    exact h (heq ▸ hc)
  rw [singleQuoted_eq]
  simp [newline_not_mem_indentLines indent hdouble, newline_not_mem_margin]

/-- The scalar of a text without line feeds has none. -/
theorem newline_not_mem_scalar (indent : Nat) {s : String} (h : '\n' ∉ s.toList) :
    '\n' ∉ scalar indent s := by
  cases hstyle : styleOf s with
  | plain => simpa only [scalar, hstyle] using h
  | singleQuoted =>
      simpa only [scalar, hstyle] using newline_not_mem_singleQuoted indent h
  | doubleQuoted =>
      simp [scalar, hstyle, doubleQuoted, newline_not_mem_flatMap escaped_escapeChar]
  | literal => exact absurd (newline_mem_of_styleOf hstyle) h

end Portfolio.Yaml
