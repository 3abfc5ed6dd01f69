import UsageBilling.Json.Record
import UsageBilling.Proofs.Json.Skipping

/-!
# What readers make of values

Whatever text goes on behind a value, a reader does the same with it: it takes
something from the value and stops right behind it, or it fails. A value in its
own right, so one that is not what the reader asks for as well, has such an
outcome; which fault it is does not matter here. Blanks in front of a value make
no difference.
-/

namespace UsageBilling.Json

variable {α β : Type}

/-- What a reader does with the value `v` in every text that goes on behind it. -/
def Outcome (read : Reader α) (v : List Char) (outcome : Option α) : Prop :=
  ∀ rest, EndsNumber rest → (read (v ++ rest)).toOption = outcome.map (·, rest)

/-- Blanks in front make no difference. -/
def Blind (read : Reader α) : Prop :=
  ∀ blanks cs, Blanks blanks → read (blanks ++ cs) = read cs

/-- Every value has an outcome. -/
def Decides (read : Reader α) : Prop :=
  ∀ v, IsValue v → ∃ outcome, Outcome read v outcome

theorem toOption_bind {ε : Type} (x : Except ε α) (f : α → Except ε β) :
    (x >>= f).toOption = x.toOption.bind fun a => (f a).toOption := by
  cases x <;> rfl

theorem toOption_map {ε : Type} (x : Except ε α) (f : α → β) :
    (x.map f).toOption = x.toOption.map f := by
  cases x <;> rfl

theorem toOption_eq_some {ε : Type} {x : Except ε α} {a : α} : x.toOption = some a ↔ x = .ok a := by
  cases x <;> simp [Except.toOption]

theorem reads_iff_outcome {read : Reader α} {v : List Char} {a : α} :
    Reads read v a ↔ Outcome read v (some a) := by
  refine forall₂_congr fun rest _ => ?_
  exact toOption_eq_some.symm

section Maps

variable {read : Reader α} {read' : Reader β} {f : α → β}

/-- What is made of the values that a reader takes is taken just so. -/
theorem Outcome.map {v : List Char} {outcome : Option α} (h : Outcome read v outcome)
    (same : ∀ cs, read' cs = (read cs).map (Prod.map f id)) :
    Outcome read' v (outcome.map f) := by
  intro rest ends
  rw [same, toOption_map, h rest ends, Option.map_map, Option.map_map]
  rfl

/-- Values have an outcome for what is made of them. -/
theorem Decides.map (h : Decides read)
    (same : ∀ cs, read' cs = (read cs).map (Prod.map f id)) : Decides read' := by
  intro v value
  obtain ⟨outcome, taken⟩ := h v value
  exact ⟨_, taken.map same⟩

theorem Blind.map (h : Blind read)
    (same : ∀ cs, read' cs = (read cs).map (Prod.map f id)) : Blind read' := by
  intro blanks cs all
  rw [same, same, h _ _ all]

end Maps

/-- One reader has one outcome only. -/
theorem Outcome.unique {read : Reader α} {v : List Char} {outcome outcome' : Option α}
    (h : Outcome read v outcome) (h' : Outcome read v outcome') : outcome = outcome' := by
  have same := (h [] endsNumber_nil).symm.trans (h' [] endsNumber_nil)
  exact Option.map_injective (fun _ _ pair => (Prod.mk.inj pair).1) same

/-- Blanks behind a value are left to be skipped. -/
theorem Outcome.padded {read : Reader α} {v w rest : List Char} {outcome : Option α}
    (h : Outcome read v outcome) (blind : Blind read) (padded : Padded v w)
    (ends : EndsNumber rest) :
    ∃ after, Blanks after ∧ (read (w ++ rest)).toOption = outcome.map (·, after ++ rest) := by
  obtain ⟨before, after, leading, trailing, rfl⟩ := padded
  refine ⟨after, trailing, ?_⟩
  rw [List.append_assoc, List.append_assoc, blind _ _ leading, h _ (ends.blanks trailing)]

/-- A whole text is decoded if the value that it writes is taken. -/
theorem decode_outcome {read : Reader α} {w : List Char} {outcome : Option α}
    (h : Outcome read w outcome) (blind : Blind read) (s : String) (padded : Padded w s.toList) :
    (decode read s).toOption = outcome := by
  obtain ⟨after, trailing, taken⟩ := h.padded blind padded endsNumber_nil
  have left : skipBlanks after = [] := by
    rw [← List.append_nil after, skipBlanks_append trailing]
    rfl
  rw [List.append_nil, List.append_nil] at taken
  rw [decode, toOption_bind, taken]
  cases outcome with
  | none => rfl
  | some a =>
    simp only [Option.map_some, Option.bind_some, left]
    rfl

/-! ## Strings -/

theorem toNat_bounds (c : Char) : c.toNat < 0xD800 ∨ 0xDFFF < c.toNat ∧ c.toNat < 0x110000 :=
  c.valid

theorem toNat_ofNat {n : Nat} (h : n.isValidChar) : (Char.ofNat n).toNat = n := by
  rw [Char.ofNat, dif_pos h]
  rfl

/-- A unit that is no surrogate is read as its character. -/
theorem stringBody_unit {n : Nat} {ds rest : List Char} (digits : HexDigits n ds)
    (low : isLowSurrogate n = false) (high : isHighSurrogate n = false) :
    stringBody ('\\' :: 'u' :: (ds ++ rest)) =
      (stringBody rest).map fun (s, tail) => (Char.ofNat n :: s, tail) := by
  obtain ⟨a, b, c, d, rfl, value⟩ := digits.value
  simp only [List.cons_append, List.nil_append, stringBody, value, low, high, Bool.false_eq_true,
    if_false]
  cases stringBody rest <;> rfl

/-- No surrogate is both the first and the second of a pair. -/
theorem not_low_of_high {n : Nat} (high : isHighSurrogate n = true) :
    isLowSurrogate n = false := by
  simp only [isHighSurrogate, isLowSurrogate, Bool.and_eq_true, Bool.and_eq_false_iff,
    decide_eq_true_eq, decide_eq_false_iff_not] at high ⊢
  omega

/-- Two surrogates are one character. -/
theorem stringBody_pair {n m : Nat} {high low rest : List Char} (high_digits : HexDigits n high)
    (low_digits : HexDigits m low) (is_high : isHighSurrogate n = true)
    (is_low : isLowSurrogate m = true) :
    stringBody ('\\' :: 'u' :: (high ++ '\\' :: 'u' :: (low ++ rest))) =
      (stringBody rest).map fun (s, tail) => (surrogatePair n m :: s, tail) := by
  obtain ⟨a, b, c, d, rfl, value⟩ := high_digits.value
  obtain ⟨a', b', c', d', rfl, value'⟩ := low_digits.value
  have not_low := not_low_of_high is_high
  simp only [List.cons_append, List.nil_append, stringBody, value, value', is_high, is_low, not_low,
    Bool.false_eq_true, if_false, if_true]
  cases stringBody rest <;> rfl

/-- A character is read from each of its spellings. -/
theorem stringBody_spelled {c : Char} {front : List Char} (h : SpelledAs c front)
    (rest : List Char) : stringBody (front ++ rest) =
      (stringBody rest).map fun (s, tail) => (c :: s, tail) := by
  have range := toNat_bounds c
  cases h with
  | plain quote backslash control => exact stringBody_plain quote backslash (by omega)
  | letter letter => exact stringBody_letter letter.shortEscape?
  | unit digits =>
    have low : isLowSurrogate c.toNat = false := by simp [isLowSurrogate]; omega
    have high : isHighSurrogate c.toNat = false := by simp [isHighSurrogate]; omega
    rw [List.cons_append, List.cons_append, stringBody_unit digits low high, Char.ofNat_toNat]
  | pair wide high_digits low_digits =>
    have high : isHighSurrogate (0xD800 + (c.toNat - 0x10000) / 0x400) = true := by
      simp [isHighSurrogate]; omega
    have low : isLowSurrogate (0xDC00 + (c.toNat - 0x10000) % 0x400) = true := by
      simp [isLowSurrogate]; omega
    have same : surrogatePair (0xD800 + (c.toNat - 0x10000) / 0x400)
        (0xDC00 + (c.toNat - 0x10000) % 0x400) = c := by
      rw [surrogatePair, eq_comm]
      exact eq_ofNat_of_toNat_eq (by omega)
    simp only [List.cons_append, List.append_assoc]
    rw [stringBody_pair high_digits low_digits high low, same]

/-- A spelling is read back, up to the closing quote. -/
theorem stringBody_spells {s body : List Char} (h : Spells s body) (rest : List Char) :
    stringBody (body ++ '"' :: rest) = .ok (s, rest) := by
  induction h with
  | done => rfl
  | char first _ ih =>
    rw [List.append_assoc, stringBody_spelled first, ih]
    rfl

/-- The reader rejects what stands here, whatever comes behind the closing quote. -/
def RejectsBody (body : List Char) : Prop :=
  ∀ rest, (stringBody (body ++ '"' :: rest)).toOption = none

/-- A surrogate pair denotes a character past U+FFFF, whose units it is. -/
theorem surrogatePair_units {n m : Nat} (high : isHighSurrogate n = true)
    (low : isLowSurrogate m = true) : 0x10000 ≤ (surrogatePair n m).toNat ∧
      0xD800 + ((surrogatePair n m).toNat - 0x10000) / 0x400 = n ∧
      0xDC00 + ((surrogatePair n m).toNat - 0x10000) % 0x400 = m := by
  simp only [isHighSurrogate, isLowSurrogate, Bool.and_eq_true, decide_eq_true_eq] at high low
  rw [surrogatePair, toNat_ofNat (.inr (by omega))]
  omega

/-- A unit that is no surrogate is a character. -/
theorem HexDigits.toNat_ofNat {n : Nat} {ds : List Char} (digits : HexDigits n ds)
    (low : isLowSurrogate n = false) (high : isHighSurrogate n = false) :
    (Char.ofNat n).toNat = n := by
  have small : n < 0x10000 := by cases digits; assumption
  simp only [isHighSurrogate, isLowSurrogate, Bool.and_eq_false_iff,
    decide_eq_false_iff_not] at high low
  exact Json.toNat_ofNat (by unfold Nat.isValidChar; omega)

/-- Behind the first half of a surrogate pair stands the second half, or the reader rejects the
string. -/
theorem IsBody.low_or_rejects {n : Nat} {ds body : List Char} (digits : HexDigits n ds)
    (high : isHighSurrogate n = true) (h : IsBody body) :
    (∃ m low others, HexDigits m low ∧ isLowSurrogate m = true ∧ IsBody others ∧
      body = '\\' :: 'u' :: (low ++ others)) ∨ RejectsBody ('\\' :: 'u' :: (ds ++ body)) := by
  obtain ⟨a, b, c, d, rfl, value⟩ := digits.value
  have not_low := not_low_of_high high
  cases h with
  | done =>
    right
    intro rest
    simp [stringBody, value, high, not_low, Except.toOption]
  | @plain c w quote backslash control others =>
    right
    intro rest
    simp [stringBody, value, high, not_low, backslash, Except.toOption]
  | @letter e _ w letter others =>
    right
    intro rest
    simp [stringBody, value, high, not_low, letter.ne_u, Except.toOption]
  | @unit m low w low_digits others =>
    by_cases is_low : isLowSurrogate m = true
    · exact .inl ⟨m, low, w, low_digits, is_low, others, rfl⟩
    · right
      intro rest
      obtain ⟨a', b', c', d', rfl, value'⟩ := low_digits.value
      simp [stringBody, value, value', high, not_low, is_low, Except.toOption]

/-- One spelled character more leaves it at that. -/
theorem SpelledAs.spells_or_rejects {c : Char} {front w : List Char} (first : SpelledAs c front)
    (h : (∃ s, Spells s w) ∨ RejectsBody w) :
    (∃ s, Spells s (front ++ w)) ∨ RejectsBody (front ++ w) := by
  rcases h with ⟨s, spells⟩ | rejects
  · exact .inl ⟨c :: s, .char first spells⟩
  · right
    intro rest
    rw [List.append_assoc, stringBody_spelled first, toOption_map, rejects]
    rfl

/-- The contents of a string spell some characters, or the reader rejects them. -/
theorem IsBody.spells_or_rejects {body : List Char} (h : IsBody body) :
    (∃ s, Spells s body) ∨ RejectsBody body := by
  -- a surrogate pair takes two units at once, so the induction is on the length
  induction length : body.length using Nat.strongRecOn generalizing body with
  | ind size ih =>
    subst length
    cases h with
    | done => exact .inl ⟨[], .done⟩
    | @plain c w quote backslash control others =>
      exact (SpelledAs.plain quote backslash control).spells_or_rejects
        (ih w.length (by simp) others rfl)
    | @letter e c w letter others =>
      exact (SpelledAs.letter letter).spells_or_rejects
        (ih w.length (by simp only [List.length_cons]; omega) others rfl)
    | @unit n ds w digits others =>
      obtain low | not_low := Bool.eq_false_or_eq_true (isLowSurrogate n)
      · right
        intro rest
        obtain ⟨a, b, c, d, rfl, value⟩ := digits.value
        simp [stringBody, value, low, Except.toOption]
      obtain high | not_high := Bool.eq_false_or_eq_true (isHighSurrogate n)
      · obtain ⟨m, low, v, low_digits, is_low, behind, rfl⟩ | rejects :=
          others.low_or_rejects digits high
        · obtain ⟨wide, first, second⟩ := surrogatePair_units high is_low
          have left := ih v.length (by simp; omega) behind rfl
          rw [← first] at digits
          rw [← second] at low_digits
          have shown := (SpelledAs.pair wide digits low_digits).spells_or_rejects left
          simpa using shown
        · exact .inr rejects
      · have value := digits.toNat_ofNat not_low not_high
        have left := ih w.length (by simp; omega) others rfl
        rw [← value] at digits
        exact (SpelledAs.unit digits).spells_or_rejects left

theorem text_blind : Blind text := by
  intro blanks cs h
  simp only [text, skipBlanks_append h]

theorem text_string {body : List Char} (rest : List Char) :
    text ('"' :: (body ++ ['"']) ++ rest) =
      (stringBody (body ++ '"' :: rest)).map fun (s, tail) => (String.ofList s, tail) := by
  rw [List.cons_append, List.append_assoc, text, skipBlanks_cons rfl]
  show (stringBody (body ++ '"' :: rest) >>= _) = _
  cases stringBody (body ++ '"' :: rest) <;> rfl

/-- A string is read from each of its spellings. -/
theorem text_reads_string {s : String} {w : List Char} (h : WritesString s w) :
    Reads text w s := by
  obtain ⟨body, spells, rfl⟩ := h
  intro rest _
  rw [text_string, stringBody_spells spells]
  show Except.ok (String.ofList s.toList, rest) = _
  rw [String.ofList_toList]

/-- Only a string begins with a quote. -/
theorem text_mismatch {v : List Char} (starts : StartsValue v) (quote : v.head? ≠ some '"') :
    Outcome text v none := by
  obtain ⟨c, cs, rfl, blank, -⟩ := starts
  intro rest _
  rw [List.cons_append, text, skipBlanks_cons blank]
  split
  · rfl
  next same => simp_all
  · rfl

/-- Every value has an outcome as a string. -/
theorem text_decides : Decides text := by
  intro v value
  have starts := value.startsValue
  cases value with
  | string is_body =>
    rcases is_body.spells_or_rejects with ⟨s, spells⟩ | rejects
    · have read := text_reads_string (s := String.ofList s) ⟨_, by simpa using spells, rfl⟩
      exact ⟨some (String.ofList s), reads_iff_outcome.1 read⟩
    · refine ⟨none, ?_⟩
      intro rest _
      rw [text_string, toOption_map, rejects]
      rfl
  | null | yes | no => exact ⟨none, text_mismatch starts (by decide)⟩
  | number number =>
    exact ⟨none, text_mismatch starts (number.head_ne (by decide) (by decide))⟩
  | list _ written => exact ⟨none, text_mismatch starts (by rw [written.head]; decide)⟩
  | object _ _ written => exact ⟨none, text_mismatch starts (by rw [written.head]; decide)⟩

/-! ## Whole numbers -/

/-- The whole number that was read. -/
def wholeOf : Except Fault (Number × List Char) → Option (Int × List Char)
  | .ok (.whole n, rest) => some (n, rest)
  | _ => none

/-- A number with a fraction or an exponent is not whole. -/
theorem real_not_whole (significand : Nat) (exponent : Int) (rest : List Char) :
    wholeOf (real significand exponent rest) = none := by
  unfold real
  split <;> rfl

theorem readExponent_not_whole (significand : Nat) (exponent : Int) (cs : List Char) :
    wholeOf (readExponent significand exponent cs) = none := by
  simp only [readExponent]
  split
  · rfl
  split
  · exact real_not_whole _ _ _
  · rfl

theorem readFraction_not_whole (significand : Nat) (exponent : Int) (cs : List Char) :
    wholeOf (readFraction significand exponent cs) = none := by
  cases cs with
  | nil => rfl
  | cons c cs =>
    simp only [readFraction]
    split
    · split
      · exact readExponent_not_whole _ _ _
      · exact readExponent_not_whole _ _ _
      · exact real_not_whole _ _ _
    · rfl

/-- A number is whole or not, whatever comes behind it. -/
theorem readTail_whole (negative : Bool) (digits : List Char) {fraction exponent : List Char}
    (is_fraction : IsFraction fraction) (is_exponent : IsExponent exponent) :
    ∃ value : Option Int, ∀ rest, EndsNumber rest →
      wholeOf (readTail negative digits (fraction ++ (exponent ++ rest))) =
        value.map (·, rest) := by
  cases is_fraction with
  | present => exact ⟨none, fun rest _ => readFraction_not_whole _ _ _⟩
  | absent =>
    cases is_exponent with
    | present mark =>
      refine ⟨none, fun rest _ => ?_⟩
      rcases mark with rfl | rfl
      · exact readExponent_not_whole _ _ _
      · exact readExponent_not_whole _ _ _
    | absent =>
      refine ⟨(wholeOf (readTail negative digits [])).map (·.1), fun rest ends => ?_⟩
      rw [List.nil_append, List.nil_append, readTail_ends negative digits ends,
        readTail_ends negative digits endsNumber_nil]
      split
      · simp only [real_not_whole, Option.map_none]
      split
      · rfl
      split
      · rfl
      · rfl

/-- The digits of the whole part are taken together. -/
theorem readMagnitude_whole (negative : Bool) {whole others : List Char} (is_whole : IsWhole whole)
    (ends : EndsDigits others) :
    readMagnitude negative (whole ++ others) = readTail negative whole others := by
  cases is_whole with
  | zero =>
    cases others with
    | nil => rfl
    | cons c others => simp [readMagnitude, ends c rfl]
  | @positive d ds nonzero digits =>
    have taken := takeWhile_isDigit_append digits.digits ends
    have dropped := skipDigits_append digits.digits ends
    have digit := digits.digits d (by simp)
    rw [List.cons_append] at taken dropped ⊢
    rw [readMagnitude]
    · rw [if_pos digit, taken, dropped]
    · simpa using nonzero

/-- A number is whole or not, whatever stands behind it. -/
theorem readNumber_whole {w : List Char} (h : IsNumber w) :
    ∃ value : Option Int, ∀ rest, EndsNumber rest →
      wholeOf (readNumber (w ++ rest)) = value.map (·, rest) := by
  have magnitude : ∀ negative {w}, IsMagnitude w → ∃ value : Option Int, ∀ rest, EndsNumber rest →
      wholeOf (readMagnitude negative (w ++ rest)) = value.map (·, rest) := by
    intro negative w h
    cases h with
    | @parts whole fraction exponent is_whole is_fraction is_exponent =>
      obtain ⟨value, tail⟩ := readTail_whole negative whole is_fraction is_exponent
      refine ⟨value, fun rest ends => ?_⟩
      rw [List.append_assoc, List.append_assoc, readMagnitude_whole negative is_whole
        (is_fraction.endsDigits is_exponent ends), tail rest ends]
  cases h with
  | negative h => exact magnitude true h
  | unsigned h =>
    obtain ⟨d, others, rfl, digit⟩ := h.exists_cons
    obtain ⟨value, read⟩ := magnitude false h
    refine ⟨value, fun rest ends => ?_⟩
    rw [← read rest ends, List.cons_append, readNumber]
    rintro tail same
    cases same
    contradiction

/-- From a number its whole number is taken if it is in range. -/
theorem integerBetween_number {lo hi : Int} {w : List Char} (h : IsNumber w) (rest : List Char) :
    (integerBetween lo hi (w ++ rest)).toOption =
      (wholeOf (readNumber (w ++ rest))).filter fun x => lo ≤ x.1 ∧ x.1 ≤ hi := by
  obtain ⟨c, cs, rfl, start⟩ := h.head
  rw [List.cons_append, integerBetween, skipBlanks_cons (isBlank_of_number start)]
  simp only [start, Bool.or_eq_true, decide_eq_true_eq, if_true]
  rcases readNumber (c :: (cs ++ rest)) with fault | ⟨value, tail⟩
  · rfl
  cases value with
  | real => rfl
  | whole n =>
    show (if lo ≤ n ∧ n ≤ hi then _ else _ : Except Fault (Int × List Char)).toOption = _
    by_cases inside : lo ≤ n ∧ n ≤ hi
    · rw [if_pos inside, wholeOf, Option.filter_some, decide_eq_true inside, if_pos rfl]
      rfl
    · rw [if_neg inside, wholeOf, Option.filter_some, decide_eq_false inside]
      rfl

theorem integerBetween_blind (lo hi : Int) : Blind (integerBetween lo hi) := by
  intro blanks cs h
  simp only [integerBetween, skipBlanks_append h]

/-- What does not begin like a number is not taken for one. -/
theorem integerBetween_mismatch {lo hi : Int} {c : Char} (cs : List Char) (blank : isBlank c = false)
    (minus : c ≠ '-') (digit : c.isDigit = false) :
    (integerBetween lo hi (c :: cs)).toOption = none := by
  rw [integerBetween, skipBlanks_cons blank]
  simp [minus, digit, Except.toOption]

/-- Every value has an outcome as a whole number within bounds. -/
theorem integerBetween_decides (lo hi : Int) : Decides (integerBetween lo hi) := by
  intro v value
  have other : ∀ {c cs}, v = c :: cs → isBlank c = false → c ≠ '-' → c.isDigit = false →
      ∃ outcome, Outcome (integerBetween lo hi) v outcome := by
    rintro c cs rfl blank minus digit
    exact ⟨none, fun rest _ => integerBetween_mismatch (cs ++ rest) blank minus digit⟩
  cases value with
  | number number =>
    obtain ⟨value, whole⟩ := readNumber_whole number
    refine ⟨value.filter fun n => lo ≤ n ∧ n ≤ hi, fun rest ends => ?_⟩
    rw [integerBetween_number number, whole rest ends]
    cases value with
    | none => rfl
    | some n => simp [Option.filter]
  | null => exact other rfl rfl (by decide) (by decide)
  | yes => exact other rfl rfl (by decide) (by decide)
  | no => exact other rfl rfl (by decide) (by decide)
  | string => exact other rfl rfl (by decide) (by decide)
  | list _ written =>
    obtain ⟨inner, -, rfl⟩ := written
    exact other rfl rfl (by decide) (by decide)
  | object _ _ written =>
    obtain ⟨inner, -, rfl⟩ := written
    exact other rfl rfl (by decide) (by decide)

/-- A word is a whole number of 64 bits. -/
theorem word_eq (cs : List Char) :
    word cs = (integerBetween 0 wordLimit cs).map
      (Prod.map (fun n => UInt64.ofNat n.toNat) id) := by
  rw [word]
  cases integerBetween 0 wordLimit cs <;> rfl

theorem signedWord_eq (cs : List Char) :
    signedWord cs = (integerBetween Int64.minValue.toInt Int64.maxValue.toInt cs).map
      (Prod.map Int64.ofInt id) := by
  rw [signedWord]
  cases integerBetween Int64.minValue.toInt Int64.maxValue.toInt cs <;> rfl

theorem word_blind : Blind word :=
  (integerBetween_blind _ _).map word_eq

theorem word_decides : Decides word :=
  (integerBetween_decides _ _).map word_eq

theorem signedWord_blind : Blind signedWord :=
  (integerBetween_blind _ _).map signedWord_eq

theorem signedWord_decides : Decides signedWord :=
  (integerBetween_decides _ _).map signedWord_eq

end UsageBilling.Json
