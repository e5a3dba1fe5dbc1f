/-
Module: Portfolio.Proofs.Text.Numeral
Purpose: Decimal numerals are made of digits, and tell their numbers apart. Digits denote
  their number, decimal and hexadecimal ones.
Main exports: Text.isDigit_of_mem_decimal, Text.length_decimal_le, Text.decimal_injective,
  Text.eq_of_decimal_append, Text.ofDigits_map_toDigits, Text.ofDigits_decimal, Text.Numeral
-/
import Mathlib.Algebra.Group.Nat.Defs
import Mathlib.Data.List.Induction
import Std.Data.String.ToNat
import Portfolio.Text.Numeral

namespace Portfolio.Text

theorem isDigit_of_mem_decimal {n : Nat} {c : Char} (h : c ∈ (decimal n).toList) :
    c.isDigit = true := by
  rw [decimal, Nat.toList_repr] at h
  exact Nat.isDigit_of_mem_toDigits (by decide) (by decide) h

theorem not_mem_decimal {c : Char} (h : c.isDigit = false) (n : Nat) :
    c ∉ (decimal n).toList := by
  intro hmem
  rw [isDigit_of_mem_decimal hmem] at h
  contradiction

theorem decimal_injective {m n : Nat} (h : decimal m = decimal n) : m = n :=
  Nat.repr_injective h

/-- The sign stands apart from the digits. -/
theorem signedDecimal_injective {m n : Int} (h : signedDecimal m = signedDecimal n) : m = n := by
  have hsign : ∀ j k : Nat, decimal j ≠ "-" ++ decimal k := by
    intro j k heq
    apply not_mem_decimal (c := '-') (by decide) j
    rw [heq, String.toList_append]
    exact List.mem_append_left _ (by decide)
  rw [signedDecimal, signedDecimal] at h
  split at h
  · next hm =>
      split at h
      · next hn =>
          have habs := decimal_injective ((String.append_right_inj _).1 h)
          omega
      · exact absurd h.symm (hsign _ _)
  · next hm =>
      split at h
      · exact absurd h (hsign _ _)
      · next hn =>
          have habs := decimal_injective h
          omega

theorem toList_decimal_ne_nil (n : Nat) : (decimal n).toList ≠ [] := by
  rw [decimal, Nat.toList_repr]
  exact Nat.toDigits_ne_nil

/-- A number below a power of ten has no more digits than its exponent. -/
theorem length_decimal_le {n k : Nat} (hk : 0 < k) (h : n < 10 ^ k) : (decimal n).length ≤ k := by
  rw [← String.length_toList, decimal, Nat.toList_repr]
  exact (Nat.length_toDigits_le_iff (by decide) hk).2 h

/-- A numeral ends where no digit follows. -/
theorem eq_of_decimal_append {m n : Nat} {c : Char} {xs ys : List Char}
    (hc : c.isDigit = false)
    (h : (decimal m).toList ++ c :: xs = (decimal n).toList ++ c :: ys) :
    m = n ∧ xs = ys := by
  have hdigits (k : Nat) (rest : List Char) :
      ((decimal k).toList ++ c :: rest).takeWhile Char.isDigit = (decimal k).toList := by
    rw [List.takeWhile_append_of_pos fun _ => isDigit_of_mem_decimal,
      List.takeWhile_cons_of_neg (by simp [hc]), List.append_nil]
  have hnumeral := congrArg (List.takeWhile Char.isDigit) h
  rw [hdigits, hdigits] at hnumeral
  rw [hnumeral, List.append_cancel_left_eq, List.cons.injEq] at h
  exact ⟨decimal_injective (String.toList_injective hnumeral), h.2⟩

/-! ### Digits denote their number -/

theorem ofDigits_concat (base : Nat) (digits : List Char) (c : Char) :
    ofDigits base (digits ++ [c]) = base * ofDigits base digits + (digitIn? base c).getD 0 := by
  rw [ofDigits, List.foldl_append, List.foldl_cons, List.foldl_nil]
  rfl

theorem ofDigits_zeros {base : Nat} (hbase : 0 < base) (digits : List Char) (k : Nat) :
    ofDigits base (List.replicate k '0' ++ digits) = ofDigits base digits := by
  have hzero : (digitIn? base '0').getD 0 = 0 := by
    simp [digitIn?, Option.filter, hbase]
  induction k with
  | zero => rfl
  | succ k ih =>
      rw [← ih, List.replicate_succ, List.cons_append, ofDigits, List.foldl_cons, hzero]
      rfl

/-- Digits denote a number with no more digits than they are. -/
theorem ofDigits_lt {base : Nat} (hbase : 0 < base) (digits : List Char) :
    ofDigits base digits < base ^ digits.length := by
  induction digits using List.reverseRecOn with
  | nil => exact Nat.one_pos
  | append_singleton digits c ih =>
      have hdigit : (digitIn? base c).getD 0 < base := by
        cases hc : digitIn? base c with
        | none => exact hbase
        | some d => exact of_decide_eq_true (Option.filter_eq_some_iff.1 hc).2
      rw [ofDigits_concat, List.length_append, List.length_singleton, Nat.pow_succ]
      calc base * ofDigits base digits + (digitIn? base c).getD 0
          < base * (ofDigits base digits + 1) := by rw [Nat.mul_add_one]; omega
        _ ≤ base ^ digits.length * base := by
            rw [Nat.mul_comm]
            exact Nat.mul_le_mul_right base ih

/-- Digits denote the number they are the digits of, also where a spelling of them is changed to
another with the same values. -/
theorem ofDigits_map_toDigits {base : Nat} (hbase : 1 < base) {f : Char → Char}
    (hf : ∀ d < base, digitIn? base (f (Nat.digitChar d)) = some d) (n : Nat) :
    ofDigits base ((Nat.toDigits base n).map f) = n := by
  induction n using Nat.strongRecOn with
  | _ n ih =>
      by_cases hn : n < base
      · rw [Nat.toDigits_of_lt_base hn]
        simp [ofDigits, hf n hn]
      · have hrest : n % base < base := Nat.mod_lt n (by omega)
        have hless : n / base < n := Nat.div_lt_self (by omega) hbase
        rw [Nat.toDigits_of_base_le hbase (by omega), List.map_append, List.map_singleton,
          ofDigits_concat, ih (n / base) hless, hf _ hrest]
        exact Nat.div_add_mod n base

/-- A decimal numeral denotes its number. -/
theorem ofDigits_decimal (n : Nat) : ofDigits 10 (decimal n).toList = n := by
  have h := ofDigits_map_toDigits (by decide : 1 < 10) (f := id) (by decide) n
  rwa [List.map_id, ← Nat.toList_repr] at h

/-! ### Hexadecimal digits -/

theorem digitIn_hexDigit {d : Nat} (h : d < 16) :
    digitIn? 16 (hexDigit d) = some d ∧ digitIn? 16 (hexDigit d).toUpper = some d :=
  (by decide : ∀ d < 16, digitIn? 16 (hexDigit d) = some d ∧
    digitIn? 16 (hexDigit d).toUpper = some d) d h

/-- A number below sixteen is one digit, and any other has one digit more than its quotient. -/
theorem hexDigits_eq (n : Nat) :
    hexDigits n =
      if n < 16 then [hexDigit n] else hexDigits (n / 16) ++ [hexDigit (n % 16)] := by
  split
  · next h => exact Nat.toDigits_of_lt_base h
  · next h => exact Nat.toDigits_of_base_le (by decide) (by omega)

/-- The digits of a number are those of numbers below sixteen. -/
theorem exists_of_mem_hexDigits {n : Nat} {c : Char} (h : c ∈ hexDigits n) :
    ∃ d < 16, c = hexDigit d := by
  induction n using Nat.strongRecOn with
  | _ n ih =>
      rw [hexDigits_eq] at h
      split at h
      · next hn => exact ⟨n, hn, List.mem_singleton.1 h⟩
      · next hn =>
          rcases List.mem_append.1 h with h | h
          · exact ih (n / 16) (by omega) h
          · exact ⟨n % 16, Nat.mod_lt n (by decide), List.mem_singleton.1 h⟩

/-- Hexadecimal digits in upper case denote their number. -/
theorem ofDigits_map_toUpper_hexDigits (n : Nat) :
    ofDigits 16 ((hexDigits n).map Char.toUpper) = n :=
  ofDigits_map_toDigits (by decide) (fun _ hd => (digitIn_hexDigit hd).2) n

/-- The two digits of a byte denote its number. -/
theorem ofDigits_hexByte (b : UInt8) : ofDigits 16 (hexByte b) = b.toNat := by
  have hbyte : b.toNat < 256 := b.toNat_lt
  have hhigh : b.toNat / 16 < 16 := by omega
  have hlow : b.toNat % 16 < 16 := Nat.mod_lt _ (by decide)
  simp only [hexByte, ofDigits, List.foldl_cons, List.foldl_nil, (digitIn_hexDigit hhigh).1,
    (digitIn_hexDigit hlow).1, Option.getD_some]
  omega

theorem isSome_of_mem_hexByte {b : UInt8} {c : Char} (h : c ∈ hexByte b) :
    (digitIn? 16 c).isSome = true := by
  have hbyte : b.toNat < 256 := b.toNat_lt
  simp only [hexByte, List.mem_cons, List.not_mem_nil, or_false] at h
  rcases h with rfl | rfl
  · rw [(digitIn_hexDigit (by omega)).1, Option.isSome_some]
  · rw [(digitIn_hexDigit (by omega)).1, Option.isSome_some]

theorem length_hexDigits_le {n width : Nat} (hwidth : 0 < width) (h : n < 16 ^ width) :
    (hexDigits n).length ≤ width :=
  (Nat.length_toDigits_le_iff (by decide) hwidth).2 h

/-! ### Numerals of a fixed width -/

/-- Decimal digits of a fixed count that denote a number. -/
structure Numeral (width n : Nat) (digits : List Char) : Prop where
  length_eq : digits.length = width
  isDigit : ∀ c ∈ digits, c.isDigit = true
  ofDigits_eq : ofDigits 10 digits = n

/-- Zeros in front fill up a numeral that is too short. -/
theorem numeral_padZeros (width n : Nat) :
    Numeral (max width (decimal n).length) n (padZeros width (decimal n)).toList := by
  rw [padZeros, String.toList_append, String.toList_ofList]
  constructor
  · rw [List.length_append, List.length_replicate, String.length_toList]
    omega
  · intro c hc
    rcases List.mem_append.1 hc with hc | hc
    · rw [List.eq_of_mem_replicate hc]
      rfl
    · exact isDigit_of_mem_decimal hc
  · rw [ofDigits_zeros (by decide), ofDigits_decimal]

theorem Numeral.ne_nil {width n : Nat} {digits : List Char} (h : Numeral width n digits)
    (hwidth : 0 < width) : digits ≠ [] := by
  rintro rfl
  rw [← h.length_eq] at hwidth
  exact Nat.lt_irrefl 0 hwidth

theorem Numeral.lt {width n : Nat} {digits : List Char} (h : Numeral width n digits) :
    n < 10 ^ width := by
  rw [← h.ofDigits_eq, ← h.length_eq]
  exact ofDigits_lt (by decide) digits

theorem Numeral.exists_pair {n : Nat} {digits : List Char} (h : Numeral 2 n digits) :
    ∃ a b, digits = [a, b] :=
  match digits, h.length_eq with
  | [a, b], _ => ⟨a, b, rfl⟩

end Portfolio.Text
