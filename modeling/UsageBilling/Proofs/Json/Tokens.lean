import UsageBilling.Json.Number
import UsageBilling.Json.Printer

/-!
# Written tokens are read back

A written string or whole number is taken off the front of any text that goes
on with something else, and the reader stops exactly where the writer did:
after the closing quote of a string, and before whatever cannot belong to a
number. A written string holds no control character, so no U+0000 either.
-/

namespace UsageBilling.Json

open Text (hexValue? decimal)

variable {α : Type}

/-- What may follow a whole number: no digit, point or exponent. -/
def EndsNumber (rest : List Char) : Prop :=
  ∀ c ∈ rest.head?, c.isDigit = false ∧ c ≠ '.' ∧ c ≠ 'e' ∧ c ≠ 'E'

/-- The reader takes `a` off the front of every text that begins with `written`. -/
def Reads (read : Reader α) (written : List Char) (a : α) : Prop :=
  ∀ rest, EndsNumber rest → read (written ++ rest) = .ok (a, rest)

theorem endsNumber_nil : EndsNumber [] := by
  rintro _ ⟨⟩

/-- The marks that follow a value inside a list or an object end a number. -/
theorem endsNumber_cons {c : Char} {rest : List Char} (h : c = ',' ∨ c = ']' ∨ c = '\x7d') :
    EndsNumber (c :: rest) := by
  rintro _ ⟨⟩
  rcases h with rfl | rfl | rfl <;> decide

theorem skipBlanks_cons {c : Char} {rest : List Char} (h : isBlank c = false) :
    skipBlanks (c :: rest) = c :: rest := by
  rw [skipBlanks, List.dropWhile_cons_of_neg (by simp [h])]

/-! ## Strings -/

/-- A hexadecimal digit is read back. -/
theorem hexValue?_hexDigit : ∀ n, n < 16 → hexValue? (hexDigit n) = some n := by decide

/-- An escape of one letter stands for its character. -/
theorem stringBody_letter {e c : Char} {rest : List Char} (h : shortEscape? e = some c) :
    stringBody ('\\' :: e :: rest) = (stringBody rest).map fun (s, tail) => (c :: s, tail) := by
  have unicode : e ≠ 'u' := by rintro rfl; simp [shortEscape?] at h
  rw [stringBody]
  · simp only [h]
    cases stringBody rest <;> rfl
  all_goals simp [unicode]

/-- A character that stands for itself. -/
theorem stringBody_plain {c : Char} {rest : List Char} (quote : c ≠ '"') (backslash : c ≠ '\\')
    (h : ¬ c.toNat < 32) :
    stringBody (c :: rest) = (stringBody rest).map fun (s, tail) => (c :: s, tail) := by
  rw [stringBody]
  · rw [if_neg h]
    cases stringBody rest <;> rfl
  all_goals simp_all

theorem eq_ofNat_of_toNat_eq {c : Char} {n : Nat} (h : c.toNat = n) : c = Char.ofNat n := by
  rw [← h, Char.ofNat_toNat]

/-- No character of the text is a control character. -/
def NoControls (cs : List Char) : Prop :=
  ∀ c ∈ cs, 32 ≤ c.toNat

theorem noControls_nil : NoControls [] := by
  rintro _ ⟨⟩

theorem noControls_append {cs ds : List Char} (h : NoControls cs) (h' : NoControls ds) :
    NoControls (cs ++ ds) := by
  intro c member
  rcases List.mem_append.1 member with member | member
  · exact h c member
  · exact h' c member

theorem noControls_cons {c : Char} {cs : List Char} (h : 32 ≤ c.toNat) (h' : NoControls cs) :
    NoControls (c :: cs) := by
  intro d member
  rcases List.mem_cons.1 member with rfl | member
  · exact h
  · exact h' d member

theorem hexDigit_noControl : ∀ n, n < 16 → 32 ≤ (hexDigit n).toNat := by decide

/-- No control character is left in an escape. -/
theorem escapeChar_noControls (c : Char) : NoControls (escapeChar c) := by
  have letter : ∀ e : Char, 32 ≤ e.toNat → NoControls ['\\', e] := fun e h =>
    noControls_cons (by decide) (noControls_cons h noControls_nil)
  unfold escapeChar
  split
  · exact letter _ (by decide)
  split
  · exact letter _ (by decide)
  split
  · exact letter _ (by decide)
  split
  · exact letter _ (by decide)
  split
  · exact letter _ (by decide)
  split
  · exact letter _ (by decide)
  split
  · exact letter _ (by decide)
  split
  next h =>
    have high := hexDigit_noControl (c.toNat / 16) (by omega)
    have low := hexDigit_noControl (c.toNat % 16) (by omega)
    intro d member
    simp only [List.mem_cons, List.not_mem_nil, or_false] at member
    rcases member with rfl | rfl | rfl | rfl | rfl | rfl
    all_goals first | assumption | decide
  next h => exact noControls_cons (by omega) noControls_nil

/-- A string is printed without control characters. -/
theorem string_noControls (s : String) : NoControls (string s) := by
  refine noControls_cons (by decide) (noControls_append ?_ ?_)
  case refine_2 => exact noControls_cons (by decide) noControls_nil
  intro c member
  obtain ⟨d, -, member⟩ := List.mem_flatMap.1 member
  exact escapeChar_noControls d c member

/-! ## Whole numbers -/

theorem isDigit_of_mem_decimal {n : Nat} {c : Char} (h : c ∈ decimal n) : c.isDigit = true :=
  Nat.isDigit_of_mem_toDigits (by decide) (by decide) h

theorem exists_head_decimal (n : Nat) : ∃ c cs, decimal n = c :: cs ∧ c.isDigit = true := by
  cases same : decimal n with
  | nil => exact absurd same Nat.toDigits_ne_nil
  | cons c cs => exact ⟨c, cs, rfl, isDigit_of_mem_decimal (n := n) (by simp [same])⟩

/-- A positive number does not begin with a zero. -/
theorem head_decimal_ne_zero {n : Nat} (h : 0 < n) :
    ∃ c cs, decimal n = c :: cs ∧ c ≠ '0' := by
  induction n using Nat.strongRecOn with
  | ind n ih =>
    by_cases small : n < 10
    · refine ⟨n.digitChar, [], Nat.toDigits_of_lt_base small, ?_⟩
      have digits : ∀ n, n < 10 → 0 < n → n.digitChar ≠ '0' := by decide
      exact digits n small h
    · obtain ⟨c, cs, same, nonzero⟩ := ih (n / 10) (by omega) (by omega)
      refine ⟨c, cs ++ [(n % 10).digitChar], ?_, nonzero⟩
      rw [decimal] at same
      rw [decimal, Nat.toDigits_of_base_le (by decide) (by omega), same]
      rfl

/-- A number does not become less by further digits. -/
theorem le_ofDigitChars (cs : List Char) (n : Nat) : n ≤ Nat.ofDigitChars 10 cs n := by
  rw [Nat.ofDigitChars_eq_ofDigitChars_zero]
  have scaled : 1 * n ≤ 10 ^ cs.length * n := Nat.mul_le_mul_right n (Nat.one_le_pow _ _ (by decide))
  omega

/-- No digit is left over if the whole number fits. -/
theorem leadingWord_eq (cs : List Char) (n : Nat) (fits : Nat.ofDigitChars 10 cs n ≤ wordLimit) :
    leadingWord n cs = (Nat.ofDigitChars 10 cs n, 0) := by
  induction cs generalizing n with
  | nil => rfl
  | cons c cs ih =>
    rw [Nat.ofDigitChars_cons] at fits ⊢
    have step := Nat.le_trans (le_ofDigitChars cs _) fits
    rw [leadingWord]
    exact (if_pos step).trans (ih _ fits)

theorem leadingWord_decimal {n : Nat} (fits : n ≤ wordLimit) :
    leadingWord 0 (decimal n) = (n, 0) := by
  rw [leadingWord_eq, decimal, Nat.ofDigitChars_ten_toDigits]
  rwa [decimal, Nat.ofDigitChars_ten_toDigits]

/-- What may follow a row of digits: no digit. -/
def EndsDigits (rest : List Char) : Prop :=
  ∀ c ∈ rest.head?, c.isDigit = false

theorem EndsNumber.endsDigits {rest : List Char} (ends : EndsNumber rest) : EndsDigits rest :=
  fun c head => (ends c head).1

theorem takeWhile_isDigit_append {digits rest : List Char} (all : ∀ c ∈ digits, c.isDigit = true)
    (ends : EndsDigits rest) : (digits ++ rest).takeWhile Char.isDigit = digits := by
  rw [List.takeWhile_append_of_pos all]
  cases rest with
  | nil => simp
  | cons c rest => simp [ends c rfl]

theorem skipDigits_append {digits rest : List Char} (all : ∀ c ∈ digits, c.isDigit = true)
    (ends : EndsDigits rest) : skipDigits (digits ++ rest) = rest := by
  rw [skipDigits, List.dropWhile_append_of_pos all]
  cases rest with
  | nil => rfl
  | cons c rest => simp [ends c rfl]

/-- Where neither a fraction nor an exponent follows, the digits decide. -/
theorem readTail_ends (negative : Bool) (digits : List Char) {rest : List Char}
    (ends : EndsNumber rest) : readTail negative digits rest =
      if (leadingWord 0 digits).2 > 0 then
        real (leadingWord 0 digits).1 (leadingWord 0 digits).2 rest
      else if !negative then .ok (.whole (leadingWord 0 digits).1, rest)
      else if 0 < (leadingWord 0 digits).1 ∧ (leadingWord 0 digits).1 ≤ 9223372036854775808 then
        .ok (.whole (-(leadingWord 0 digits).1), rest)
      else .ok (.real, rest) := by
  simp only [readTail]
  split
  · exact absurd rfl (ends '.' rfl).2.1
  · exact absurd rfl (ends 'e' rfl).2.2.1
  · exact absurd rfl (ends 'E' rfl).2.2.2
  · rfl

/-- Behind its last digit a number is whole, if it fits its sign. -/
theorem readTail_decimal (negative : Bool) {n : Nat} {rest : List Char} (fits : n ≤ wordLimit)
    (ends : EndsNumber rest) : readTail negative (decimal n) rest =
      if negative then
        if 0 < n ∧ n ≤ 9223372036854775808 then .ok (.whole (-n), rest) else .ok (.real, rest)
      else .ok (.whole n, rest) := by
  rw [readTail_ends negative _ ends, leadingWord_decimal fits]
  cases negative <;> rfl

/-- A printed number is read digit by digit. -/
theorem readMagnitude_decimal (negative : Bool) {n : Nat} {rest : List Char}
    (ends : EndsNumber rest) :
    readMagnitude negative (decimal n ++ rest) = readTail negative (decimal n) rest := by
  rcases Nat.eq_zero_or_pos n with rfl | positive
  · cases rest with
    | nil => rfl
    | cons c rest =>
      have digit := (ends c rfl).1
      simp [decimal, readMagnitude, digit]
  · obtain ⟨c, cs, same, nonzero⟩ := head_decimal_ne_zero positive
    have all : ∀ d ∈ decimal n, d.isDigit = true := fun d => isDigit_of_mem_decimal
    have digit : c.isDigit = true := all c (by simp [same])
    have taken := takeWhile_isDigit_append all ends.endsDigits
    have dropped := skipDigits_append all ends.endsDigits
    rw [same, List.cons_append] at taken dropped ⊢
    rw [readMagnitude]
    · rw [if_pos digit, taken, dropped]
    · simpa using nonzero

/-- Whole numbers of 64 bits, or of 63 bits and a sign, are read back. -/
theorem readNumber_integer {n : Int} {rest : List Char} (low : -9223372036854775808 ≤ n)
    (high : n ≤ wordLimit) (ends : EndsNumber rest) :
    readNumber (integer n ++ rest) = .ok (.whole n, rest) := by
  cases n with
  | ofNat n =>
    obtain ⟨c, cs, same, digit⟩ := exists_head_decimal n
    have unsigned : readNumber (decimal n ++ rest) = readMagnitude false (decimal n ++ rest) := by
      rw [same, List.cons_append, readNumber]
      rintro _ front
      obtain ⟨rfl, -⟩ := List.cons.inj front
      contradiction
    have fits : n ≤ wordLimit := by simpa using high
    rw [integer, Text.integer, unsigned, readMagnitude_decimal _ ends,
      readTail_decimal _ fits ends]
    rfl
  | negSucc n =>
    have fits : n + 1 ≤ wordLimit := by simp [wordLimit]; omega
    rw [integer, Text.integer, List.cons_append, readNumber, readMagnitude_decimal _ ends,
      readTail_decimal _ fits ends, if_pos rfl, if_pos (by omega)]
    rfl

theorem isBlank_of_isDigit {c : Char} (h : c.isDigit = true) : isBlank c = false := by
  rw [Bool.eq_false_iff]
  intro blank
  simp only [isBlank, Bool.or_eq_true, decide_eq_true_eq] at blank
  rcases blank with ((rfl | rfl) | rfl) | rfl <;> contradiction

/-- A whole number begins with a digit or a minus. -/
theorem exists_head_integer (n : Int) :
    ∃ c cs, integer n = c :: cs ∧ (c = '-' ∨ c.isDigit = true) := by
  cases n with
  | ofNat n =>
    obtain ⟨c, cs, same, digit⟩ := exists_head_decimal n
    exact ⟨c, cs, same, .inr digit⟩
  | negSucc n => exact ⟨'-', decimal (n + 1), rfl, .inl rfl⟩

/-- A whole number within the bounds is read back. -/
theorem integerBetween_integer {lo hi n : Int} {rest : List Char}
    (low : -9223372036854775808 ≤ n) (high : n ≤ wordLimit) (lo_le : lo ≤ n) (le_hi : n ≤ hi)
    (ends : EndsNumber rest) :
    integerBetween lo hi (integer n ++ rest) = .ok (n, rest) := by
  have read := readNumber_integer low high ends
  obtain ⟨c, cs, same, start⟩ := exists_head_integer n
  have blank : isBlank c = false := by
    rcases start with rfl | digit
    · rfl
    · exact isBlank_of_isDigit digit
  rw [same, List.cons_append] at read ⊢
  rw [integerBetween, skipBlanks_cons blank]
  simp only [read]
  rw [if_pos (by simpa using start)]
  show (if lo ≤ n ∧ n ≤ hi then _ else _) = _
  exact if_pos ⟨lo_le, le_hi⟩

/-- A word is read back. -/
theorem word_reads (n : UInt64) : Reads word (integer n.toNat) n := by
  intro rest ends
  have bound := n.toNat_lt
  rw [word, integerBetween_integer (by omega) (by simp [wordLimit]; omega) (by omega)
    (by simp [wordLimit]; omega) ends]
  simp [pure, Except.pure, bind, Except.bind]

/-- A word with a sign is read back. -/
theorem signedWord_reads (n : Int64) : Reads signedWord (integer n.toInt) n := by
  intro rest ends
  have low := n.le_toInt
  have high := n.toInt_lt
  rw [signedWord, integerBetween_integer (by omega) (by simp [wordLimit]; omega)
    (Int64.minValue_le_toInt n) (Int64.toInt_le n) ends]
  simp [pure, Except.pure, bind, Except.bind]

/-- A number is printed without control characters. -/
theorem integer_noControls (n : Int) : NoControls (integer n) := by
  have digit : ∀ {c : Char}, c.isDigit = true → 32 ≤ c.toNat := by
    intro c h
    simp only [Char.isDigit, Bool.and_eq_true, decide_eq_true_eq] at h
    exact Nat.le_trans (by decide : 32 ≤ 48) h.1
  have digits : ∀ m, NoControls (decimal m) := fun m c member =>
    digit (isDigit_of_mem_decimal member)
  cases n with
  | ofNat n => exact digits n
  | negSucc n => exact noControls_cons (by decide) (digits (n + 1))

end UsageBilling.Json
