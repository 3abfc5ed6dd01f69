import Mathlib.Data.List.TakeWhile
import Mathlib.Tactic.Positivity
import UsageBilling.Text.Blank
import UsageBilling.Text.Numeral

/-!
# Blanks and rows of digits

A text is what is left of it without the blanks at its ends, between blanks.

A number is written as a row of decimal digits, with zeros in front or not. The
first digits of a row are its number without the last places, and a row is never
as large as the power of ten with as many zeros. A bounded number is read exactly
from the rows of its value, which may have a plus sign in front.
-/

namespace UsageBilling.Text

/-! ## Blanks -/

/-- Nothing but blanks. -/
def Blanks (cs : List Char) : Prop :=
  ∀ c ∈ cs, isBlank c = true

theorem blanks_nil : Blanks [] := by
  rintro _ ⟨⟩

/-- Blanks in front are trimmed. -/
theorem trimStart_append {blanks : List Char} (all : Blanks blanks) (cs : List Char) :
    trimStart (blanks ++ cs) = trimStart cs :=
  List.dropWhile_append_of_pos all

theorem trimStart_cons {c : Char} {cs : List Char} (h : isBlank c = false) :
    trimStart (c :: cs) = c :: cs := by
  rw [trimStart, List.dropWhile_cons_of_neg (by simp [h])]

theorem trimStart_blanks {blanks : List Char} (all : Blanks blanks) : trimStart blanks = [] := by
  rw [← List.append_nil blanks, trimStart_append all]
  rfl

/-- A text is blanks, and then what is left of it without them. -/
theorem exists_trimStart (cs : List Char) : ∃ blanks, Blanks blanks ∧ cs = blanks ++ trimStart cs :=
  ⟨cs.takeWhile isBlank, fun _ => List.mem_takeWhile_imp, List.takeWhile_append_dropWhile.symm⟩

/-- A text is what is left of it without the blanks at its ends, between blanks. -/
theorem exists_trimChars (cs : List Char) :
    ∃ before after, Blanks before ∧ Blanks after ∧ cs = before ++ (trimChars cs ++ after) := by
  obtain ⟨before, leading, front⟩ := exists_trimStart cs
  obtain ⟨after, trailing, back⟩ := exists_trimStart (trimStart cs).reverse
  refine ⟨before, after.reverse, leading, ?_, ?_⟩
  · intro c member
    exact trailing c (List.mem_reverse.1 member)
  · have turned := congrArg List.reverse back
    rw [List.reverse_reverse, List.reverse_append] at turned
    rw [trimChars, ← turned, ← front]

/-- Between blanks, a word without any is left. -/
theorem trimChars_word {before word after : List Char} (leading : Blanks before)
    (trailing : Blanks after) (none : ∀ c ∈ word, isBlank c = false) :
    trimChars (before ++ (word ++ after)) = word := by
  have solid : ∀ {w : List Char} (rest : List Char), (∀ c ∈ w, isBlank c = false) → w ≠ [] →
      trimStart (w ++ rest) = w ++ rest := by
    intro w rest none some
    obtain ⟨c, cs, rfl⟩ := List.exists_cons_of_ne_nil some
    exact trimStart_cons (none c (by simp))
  rw [trimChars, trimStart_append leading]
  by_cases empty : word = []
  · rw [empty, List.nil_append, trimStart_blanks trailing]
    rfl
  · have turned_trailing : Blanks after.reverse := fun c member =>
      trailing c (List.mem_reverse.1 member)
    have turned_none : ∀ c ∈ word.reverse, isBlank c = false := fun c member =>
      none c (List.mem_reverse.1 member)
    have turned := solid [] turned_none (by simpa using empty)
    rw [List.append_nil] at turned
    rw [solid after none empty, List.reverse_append, trimStart_append turned_trailing, turned,
      List.reverse_reverse]

theorem isBlank_of_isDigit {c : Char} (h : c.isDigit = true) : isBlank c = false := by
  simp only [Char.isDigit, Bool.and_eq_true, decide_eq_true_eq] at h
  have low : 48 ≤ c.toNat := h.1
  have high : c.toNat ≤ 57 := h.2
  simp [isBlank, blankRanges]
  omega

/-! ## Rows of digits -/

/-- A row of decimal digits, and the number that it denotes. -/
structure Numeral (n : Nat) (row : List Char) : Prop where
  nonempty : row ≠ []
  digits : ∀ c ∈ row, c.isDigit = true
  value : Nat.ofDigitChars 10 row 0 = n

instance (n : Nat) (row : List Char) : Decidable (Numeral n row) :=
  decidable_of_iff (isDigits row = true ∧ Nat.ofDigitChars 10 row 0 = n) <| by
    have some_digits : isDigits row = true ↔ row ≠ [] ∧ ∀ c ∈ row, c.isDigit = true := by
      simp [isDigits]
    rw [some_digits]
    exact ⟨fun ⟨⟨nonempty, digits⟩, value⟩ => ⟨nonempty, digits, value⟩,
      fun ⟨nonempty, digits, value⟩ => ⟨⟨nonempty, digits⟩, value⟩⟩

theorem digitsValue_eq (row : List Char) : digitsValue row = Nat.ofDigitChars 10 row 0 :=
  Nat.ofDigitChars_eq_foldl.symm

theorem Numeral.digitsValue {n : Nat} {row : List Char} (h : Numeral n row) :
    digitsValue row = n := by
  rw [digitsValue_eq, h.value]

/-- In front of a row stands a digit. -/
theorem Numeral.isDigit_head {n : Nat} {row rest cs : List Char} {c : Char} (h : Numeral n row)
    (same : row ++ rest = c :: cs) : c.isDigit = true := by
  cases row with
  | nil => exact absurd rfl h.nonempty
  | cons d row =>
    obtain ⟨rfl, -⟩ := List.cons.inj same
    exact h.digits d (by simp)

theorem digitValue_lt {c : Char} (h : c.isDigit = true) : digitValue c < 10 := by
  simp only [Char.isDigit, Bool.and_eq_true, decide_eq_true_eq] at h
  have high : c.toNat ≤ 57 := h.2
  show c.toNat - 48 < 10
  omega

/-! ## Places -/

/-- Digits in front of others stand as many places higher as these are. -/
theorem ofDigitChars_append_eq (row tail : List Char) :
    Nat.ofDigitChars 10 (row ++ tail) 0 =
      10 ^ tail.length * Nat.ofDigitChars 10 row 0 + Nat.ofDigitChars 10 tail 0 := by
  rw [Nat.ofDigitChars_append, Nat.ofDigitChars_eq_ofDigitChars_zero]

/-- A row of digits denotes less than the power of ten of its length. -/
theorem ofDigitChars_lt {row : List Char} (digits : ∀ c ∈ row, c.isDigit = true) :
    Nat.ofDigitChars 10 row 0 < 10 ^ row.length := by
  induction row with
  | nil => exact Nat.one_pos
  | cons c row ih =>
    have first := digitValue_lt (digits c (by simp))
    have others := ih fun d member => digits d (by simp [member])
    have split := ofDigitChars_append_eq [c] row
    have single : Nat.ofDigitChars 10 [c] 0 = digitValue c := by
      rw [Nat.ofDigitChars_cons, Nat.ofDigitChars_nil, Nat.mul_zero, Nat.zero_add]
      rfl
    rw [List.singleton_append, single] at split
    rw [split, List.length_cons, Nat.pow_succ]
    have := Nat.mul_le_mul_left (10 ^ row.length) (Nat.le_of_lt_succ first)
    omega

/-- The first digits of a row are its number without the other places. -/
theorem ofDigitChars_take {row : List Char} (digits : ∀ c ∈ row, c.isDigit = true) (places : Nat) :
    Nat.ofDigitChars 10 (row.take places) 0 =
      Nat.ofDigitChars 10 row 0 / 10 ^ (row.length - places) := by
  have split := ofDigitChars_append_eq (row.take places) (row.drop places)
  have below : Nat.ofDigitChars 10 (row.drop places) 0 < 10 ^ (row.drop places).length :=
    ofDigitChars_lt fun c member => digits c (List.mem_of_mem_drop member)
  rw [List.take_append_drop, List.length_drop] at split
  rw [List.length_drop] at below
  rw [split, Nat.mul_add_div (by positivity), Nat.div_eq_of_lt below, Nat.add_zero]

/-! ## Zeros in front -/

/-- A number that is padded with zeros denotes the same. -/
theorem numeral_padded (width n : Nat) : Numeral n (padded width n) where
  nonempty := by simp [padded, decimal, Nat.toDigits_ne_nil]
  digits := by
    intro c member
    rcases List.mem_append.1 member with zero | digit
    · rw [List.eq_of_mem_replicate zero]
      rfl
    · exact Nat.isDigit_of_mem_toDigits (by decide) (by decide) digit
  value := by
    rw [padded, ofDigitChars_append_eq, Nat.ofDigitChars_replicate_zero, decimal,
      Nat.ofDigitChars_ten_toDigits, Nat.mul_zero, Nat.mul_zero, Nat.zero_add]

/-- A padded number has its width, unless it is too large. -/
theorem length_padded {width n : Nat} (positive : 0 < width) (fits : n < 10 ^ width) :
    (padded width n).length = width := by
  have short : (decimal n).length ≤ width :=
    (Nat.length_toDigits_le_iff (by decide) positive).2 fits
  rw [padded, List.length_append, List.length_replicate]
  omega

/-! ## Bounded numbers -/

/-- The text writes a number up to the limit, with a plus sign or not. -/
def WritesBounded (limit n : Nat) (s : String) : Prop :=
  ∃ row, Numeral n row ∧ (s.toList = row ∨ s.toList = '+' :: row) ∧ n ≤ limit

/-- Digits are read as long as their number does not exceed the limit. -/
theorem readDigits_eq_ok_iff {limit start n : Nat} {row : List Char} (low : start ≤ limit) :
    readDigits limit start row = .ok n ↔
      (∀ c ∈ row, c.isDigit = true) ∧ Nat.ofDigitChars 10 row start = n ∧ n ≤ limit := by
  induction row generalizing start with
  | nil =>
    rw [readDigits, Nat.ofDigitChars_nil]
    constructor
    · rintro ⟨⟩
      exact ⟨by simp, rfl, low⟩
    · rintro ⟨-, rfl, -⟩
      rfl
  | cons c row ih =>
    rw [readDigits, List.forall_mem_cons, Nat.ofDigitChars_cons]
    cases digit : c.isDigit with
    | false => simp
    | true =>
      by_cases large : limit < 10 * start + digitValue c
      · -- what follows makes the number no smaller
        have grows : 10 * start + digitValue c ≤
            Nat.ofDigitChars 10 row (10 * start + digitValue c) := by
          rw [Nat.ofDigitChars_eq_ofDigitChars_zero]
          have := Nat.mul_le_mul_right (10 * start + digitValue c)
            (Nat.one_le_pow row.length 10 (by decide))
          omega
        simp only [large, Bool.not_true, Bool.false_eq_true, if_false, if_true, reduceCtorEq,
          false_iff, true_and, not_and]
        intro _ same
        have same : Nat.ofDigitChars 10 row (10 * start + digitValue c) = n := same
        omega
      · simp only [large, Bool.not_true, Bool.false_eq_true, if_false, true_and]
        exact ih (by omega)

/-- A bounded number is read exactly where it is written. -/
theorem readBounded_eq_some_iff {limit n : Nat} {s : String} :
    readBounded limit s = some n ↔ WritesBounded limit n s := by
  have read : ∀ {row}, row ≠ [] →
      (readDigits limit 0 row = .ok n ↔ Numeral n row ∧ n ≤ limit) := by
    intro row nonempty
    rw [readDigits_eq_ok_iff (Nat.zero_le limit)]
    exact ⟨fun ⟨digits, value, within⟩ => ⟨⟨nonempty, digits, value⟩, within⟩,
      fun ⟨numeral, within⟩ => ⟨numeral.digits, numeral.value, within⟩⟩
  have ok : readBounded limit s = some n ↔ readNumeral limit s = .ok n := by
    unfold readBounded
    cases readNumeral limit s <;> simp [Except.toOption]
  rw [ok, readNumeral, WritesBounded]
  split
  next empty =>
    simp only [empty, reduceCtorEq, false_iff]
    rintro ⟨row, numeral, rfl | same, -⟩
    · exact numeral.nonempty rfl
    · cases same
  next plus =>
    simp only [plus, reduceCtorEq, false_iff]
    rintro ⟨row, numeral, rfl | same, -⟩
    · exact absurd (numeral.isDigit_head (List.append_nil _)) (by decide)
    · exact numeral.nonempty (List.cons.inj same).2.symm
  next digits some signed =>
    rw [read some, signed]
    constructor
    · rintro ⟨numeral, within⟩
      exact ⟨digits, numeral, .inr rfl, within⟩
    · rintro ⟨row, numeral, rfl | same, within⟩
      · exact absurd (numeral.isDigit_head (List.append_nil _)) (by decide)
      · exact (List.cons.inj same).2 ▸ ⟨numeral, within⟩
  next digits some lone unsigned =>
    rw [read some]
    constructor
    · rintro ⟨numeral, within⟩
      exact ⟨_, numeral, .inl rfl, within⟩
    · rintro ⟨row, numeral, rfl | same, within⟩
      · exact ⟨numeral, within⟩
      · exact (unsigned row same).elim

end UsageBilling.Text
