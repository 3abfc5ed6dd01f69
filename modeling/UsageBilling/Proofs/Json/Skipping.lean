import Mathlib.Data.List.TakeWhile
import UsageBilling.Proofs.Json.Grammar
import UsageBilling.Proofs.Json.Tokens

/-!
# Values that nobody asked for are skipped

A skipped value may be any value of JSON, nested to any depth, and the reader
stops exactly behind it. Inside brackets every step of the reader has a character
of its own but the first one after a bracket opens, so twice the length of the
text is enough for all steps.
-/

namespace UsageBilling.Json

open Text (hexValue?)

/-! ## Blanks -/

theorem skipBlanks_append {blanks : List Char} (h : Blanks blanks) (cs : List Char) :
    skipBlanks (blanks ++ cs) = skipBlanks cs := by
  rw [skipBlanks, List.dropWhile_append_of_pos h, skipBlanks]

theorem endsNumber_of_blank {c : Char} {rest : List Char} (h : isBlank c = true) :
    EndsNumber (c :: rest) := by
  rintro _ ⟨⟩
  simp only [isBlank, Bool.or_eq_true, decide_eq_true_eq] at h
  rcases h with ((rfl | rfl) | rfl) | rfl <;> decide

/-- Blanks behind a number end it. -/
theorem EndsNumber.blanks {blanks rest : List Char} (h : Blanks blanks) (ends : EndsNumber rest) :
    EndsNumber (blanks ++ rest) := by
  cases blanks with
  | nil => exact ends
  | cons c cs => exact endsNumber_of_blank (h c (by simp))

theorem endsNumber_further (items : List (List Char)) {c : Char} (rest : List Char)
    (h : c = ']' ∨ c = '\x7d') : EndsNumber (further items ++ c :: rest) := by
  cases items with
  | nil => exact endsNumber_cons (.inr h)
  | cons _ _ => exact endsNumber_cons (.inl rfl)

/-! ## Strings -/

/-- A hexadecimal digit has its value in either case. -/
theorem HexDigit.value {value : Nat} {d : Char} (h : HexDigit value d) (small : value < 16) :
    hexValue? d = some value := by
  have upper : ∀ value, value < 16 → hexValue? (hexDigit value).toUpper = some value := by decide
  rcases h with rfl | rfl
  · exact hexValue?_hexDigit value small
  · exact upper value small

/-- Four hexadecimal digits denote their number. -/
theorem HexDigits.value {n : Nat} {ds : List Char} (h : HexDigits n ds) :
    ∃ a b c d, ds = [a, b, c, d] ∧ hexValue4? a b c d = some n := by
  cases h with
  | four small first second third fourth =>
    refine ⟨_, _, _, _, rfl, ?_⟩
    simp only [hexValue4?, first.value (by omega), second.value (by omega), third.value (by omega),
      fourth.value (by omega), Option.bind_eq_bind, Option.bind_some]
    simp
    omega

theorem EscapeLetter.shortEscape? {e c : Char} (h : EscapeLetter e c) : shortEscape? e = some c := by
  cases h <;> rfl

theorem EscapeLetter.ne_u {e c : Char} (h : EscapeLetter e c) : e ≠ 'u' := by
  cases h <;> decide

/-- A string is skipped up to its closing quote. -/
theorem skipString_body {body : List Char} (h : IsBody body) (rest : List Char) :
    skipString (body ++ '"' :: rest) = .ok rest := by
  induction h with
  | done => rfl
  | plain quote backslash control _ ih =>
    rw [List.cons_append, skipString]
    · rw [if_neg (by omega), ih]
    all_goals simp_all
  | letter letter _ ih =>
    have other := letter.ne_u
    rw [List.cons_append, List.cons_append, skipString]
    · simp only [letter.shortEscape?, ih]
    all_goals simp [other]
  | unit digits _ ih =>
    obtain ⟨a, b, c, d, rfl, value⟩ := digits.value
    simp only [List.cons_append, List.nil_append, skipString, value, ih]

/-! ## Numbers -/

theorem IsDigits.exists_cons {ds : List Char} (h : IsDigits ds) :
    ∃ d others, ds = d :: others ∧ d.isDigit = true := by
  obtain ⟨d, others, rfl⟩ := List.exists_cons_of_ne_nil h.some
  exact ⟨d, others, rfl, h.digits d (by simp)⟩

theorem skipDigits_digits {ds rest : List Char} (h : IsDigits ds) (ends : EndsDigits rest) :
    skipDigits (ds ++ rest) = rest :=
  skipDigits_append h.digits ends

theorem IsExponent.endsDigits {exponent rest : List Char} (h : IsExponent exponent)
    (ends : EndsNumber rest) : EndsDigits (exponent ++ rest) := by
  cases h with
  | absent => exact ends.endsDigits
  | present mark =>
    rintro _ ⟨⟩
    rcases mark with rfl | rfl <;> decide

/-- The digits in front of a fraction end there. -/
theorem IsFraction.endsDigits {fraction exponent rest : List Char} (h : IsFraction fraction)
    (power : IsExponent exponent) (ends : EndsNumber rest) :
    EndsDigits (fraction ++ (exponent ++ rest)) := by
  cases h with
  | absent => exact power.endsDigits ends
  | present digits =>
    rintro _ ⟨⟩
    decide

/-- An exponent is skipped, with a sign or without. -/
theorem skipExponent_digits {sign ds rest : List Char}
    (signed : sign = [] ∨ sign = ['+'] ∨ sign = ['-']) (digits : IsDigits ds)
    (ends : EndsDigits rest) : skipExponent (sign ++ (ds ++ rest)) = .ok rest := by
  have skipped := skipDigits_digits digits ends
  obtain ⟨d, others, rfl, digit⟩ := digits.exists_cons
  rw [List.cons_append, skipDigits, List.dropWhile_cons_of_pos digit] at skipped
  rcases signed with rfl | rfl | rfl
  · have plus : d ≠ '+' := by rintro rfl; contradiction
    have minus : d ≠ '-' := by rintro rfl; contradiction
    simp [skipExponent, plus, minus, digit, skipDigits, skipped]
  · simp [skipExponent, digit, skipDigits, skipped]
  · simp [skipExponent, digit, skipDigits, skipped]

/-- Where no fraction stands, the exponent is skipped, if there is one. -/
theorem skipFraction_exponent {exponent rest : List Char} (h : IsExponent exponent)
    (ends : EndsNumber rest) : skipFraction (exponent ++ rest) = .ok rest := by
  cases h with
  | absent =>
    cases rest with
    | nil => rfl
    | cons c rest =>
      obtain ⟨-, point, lower, upper⟩ := ends c rfl
      rw [List.nil_append, skipFraction]
      all_goals simp_all
  | present mark signed digits =>
    have skipped := skipExponent_digits signed digits ends.endsDigits
    rcases mark with rfl | rfl
    · simpa [skipFraction] using skipped
    · simpa [skipFraction] using skipped

/-- A fraction and an exponent are skipped, if they are there. -/
theorem skipFraction_fraction {fraction exponent rest : List Char} (h : IsFraction fraction)
    (power : IsExponent exponent) (ends : EndsNumber rest) :
    skipFraction (fraction ++ (exponent ++ rest)) = .ok rest := by
  cases h with
  | absent => exact skipFraction_exponent power ends
  | present digits =>
    have skipped := skipDigits_digits digits (power.endsDigits ends)
    obtain ⟨d, others, rfl, digit⟩ := digits.exists_cons
    rw [List.cons_append, skipDigits, List.dropWhile_cons_of_pos digit] at skipped
    simp only [List.cons_append, skipFraction, digit, if_true, skipDigits, skipped]
    cases power with
    | absent =>
      cases rest with
      | nil => rfl
      | cons c rest =>
        obtain ⟨-, -, lower, upper⟩ := ends c rfl
        simp [lower, upper]
    | present mark signed more =>
      have behind := skipExponent_digits signed more ends.endsDigits
      rcases mark with rfl | rfl
      · simpa using behind
      · simpa using behind

/-- A number without its sign is skipped. -/
theorem skipNumber_magnitude {w rest : List Char} (h : IsMagnitude w) (ends : EndsNumber rest) :
    skipNumber (w ++ rest) = .ok rest := by
  cases h with
  | @parts whole fraction exponent is_whole is_fraction is_exponent =>
    have skipped := skipFraction_fraction is_fraction is_exponent ends
    have stops := is_fraction.endsDigits is_exponent ends
    rw [List.append_assoc, List.append_assoc]
    generalize fraction ++ (exponent ++ rest) = others at skipped stops
    cases is_whole with
    | zero =>
      cases others with
      | nil => exact skipped
      | cons c others => simpa [skipNumber, stops c rfl] using skipped
    | @positive d ds nonzero digits =>
      have behind := skipDigits_digits digits stops
      have digit := digits.digits d (by simp)
      rw [List.cons_append, skipDigits, List.dropWhile_cons_of_pos digit] at behind
      rw [List.cons_append, skipNumber]
      · rw [if_pos digit, skipDigits, behind, skipped]
      · simpa using nonzero

/-! ## Values without brackets -/

theorem restOfWord_append (word rest : List Char) : restOfWord word (word ++ rest) = .ok rest := by
  induction word with
  | nil => rfl
  | cons c word ih => simp [restOfWord, ih]

theorem IsMagnitude.exists_cons {w : List Char} (h : IsMagnitude w) :
    ∃ d others, w = d :: others ∧ d.isDigit = true := by
  cases h with
  | parts is_whole =>
    cases is_whole with
    | zero => exact ⟨_, _, rfl, rfl⟩
    | positive nonzero digits => exact ⟨_, _, rfl, digits.digits _ (by simp)⟩

/-- A number is skipped. -/
theorem skipScalar_number {w rest : List Char} (h : IsNumber w) (ends : EndsNumber rest) :
    skipScalar (w ++ rest) = .ok rest := by
  cases h with
  | negative magnitude => exact skipNumber_magnitude magnitude ends
  | unsigned magnitude =>
    have skipped := skipNumber_magnitude magnitude ends
    obtain ⟨d, others, rfl, digit⟩ := magnitude.exists_cons
    rw [List.cons_append] at skipped ⊢
    rw [skipScalar]
    · rw [if_pos digit, skipped]
    all_goals
      rintro rfl
      contradiction

theorem skipScalar_string {body : List Char} (h : IsBody body) (rest : List Char) :
    skipScalar ('"' :: (body ++ ['"']) ++ rest) = .ok rest := by
  have skipped := skipString_body h rest
  simpa [skipScalar] using skipped

/-! ## Nested values -/

/-- The character that closes a bracket. -/
def Bracket.close : Bracket → Char
  | .list => ']'
  | .object => '\x7d'

theorem Bracket.close_ends (bracket : Bracket) : bracket.close = ']' ∨ bracket.close = '\x7d' := by
  cases bracket
  · exact .inl rfl
  · exact .inr rfl

section Steps

variable {bracket : Bracket} {outer brackets : List Bracket} {fuel : Nat}
  {blanks cs rest : List Char}

theorem skipNested_value_blanks (h : Blanks blanks) :
    skipNested fuel brackets .value (blanks ++ cs) = skipNested fuel brackets .value cs := by
  cases fuel with
  | zero => rfl
  | succ fuel => rw [skipNested, skipNested, skipBlanks_append h]

theorem skipNested_value_skipBlanks (cs : List Char) :
    skipNested fuel brackets .value (skipBlanks cs) = skipNested fuel brackets .value cs := by
  have split : cs = cs.takeWhile isBlank ++ skipBlanks cs := List.takeWhile_append_dropWhile.symm
  have blanks : Blanks (cs.takeWhile isBlank) := fun c => List.mem_takeWhile_imp
  conv_rhs => rw [split, skipNested_value_blanks blanks]

theorem skipNested_more_blanks (h : Blanks blanks) :
    skipNested fuel (bracket :: outer) .more (blanks ++ cs) =
      skipNested fuel (bracket :: outer) .more cs := by
  cases fuel with
  | zero => rfl
  | succ fuel => simp only [skipNested, skipBlanks_append h]

/-- A value without brackets takes one step. -/
theorem skipNested_scalar {c : Char} (blank : isBlank c = false) (list : c ≠ '[')
    (object : c ≠ '\x7b') (skipped : skipScalar (c :: cs) = .ok rest) :
    skipNested (fuel + 1) brackets .value (c :: cs) = skipNested fuel brackets .more rest := by
  rw [skipNested, skipBlanks_cons blank]
  split
  next same => exact absurd (List.cons.inj same).1 list
  next same => exact absurd (List.cons.inj same).1 object
  next => rw [skipped]; rfl

/-- A closed bracket is a value of the bracket around it. -/
theorem skipNested_close (fuel : Nat) (bracket : Bracket) (outer : List Bracket)
    (rest : List Char) : skipNested (fuel + 1) (bracket :: outer) .more (bracket.close :: rest) =
      skipNested fuel outer .more rest := by
  cases bracket
  · rfl
  · rfl

theorem skipNested_first_close (fuel : Nat) (bracket : Bracket) (outer : List Bracket)
    (rest : List Char) : skipNested (fuel + 1) (bracket :: outer) .first (bracket.close :: rest) =
      skipNested fuel outer .more rest := by
  cases bracket
  · rfl
  · rfl

end Steps

/-- Inside the bracket the reader goes on with the value `p` where an item `w` stands. -/
structure Enters (bracket : Bracket) (w p : List Char) : Prop where
  first : ∀ fuel outer tail, skipNested (fuel + 1) (bracket :: outer) .first (w ++ tail) =
    skipNested fuel (bracket :: outer) .value (p ++ tail)
  further : ∀ fuel outer tail, skipNested (fuel + 1) (bracket :: outer) .more (',' :: (w ++ tail)) =
    skipNested fuel (bracket :: outer) .value (p ++ tail)
  shorter : p.length ≤ w.length

/-- Behind the blanks in front stands the value. -/
theorem skipBlanks_padded {v w : List Char} (padded : Padded v w) (starts : StartsValue v)
    (tail : List Char) : ∃ after, Blanks after ∧ skipBlanks (w ++ tail) = v ++ (after ++ tail) := by
  obtain ⟨before, after, leading, trailing, rfl⟩ := padded
  obtain ⟨c, rest, rfl, blank, -⟩ := starts
  refine ⟨after, trailing, ?_⟩
  rw [List.append_assoc, List.append_assoc, skipBlanks_append leading, List.cons_append,
    skipBlanks_cons blank]

/-- An item of a list is its value. -/
theorem enters_list {v w : List Char} (padded : Padded v w) (starts : StartsValue v) :
    Enters .list w w := by
  refine ⟨?_, ?_, Nat.le_refl _⟩
  · intro fuel outer tail
    obtain ⟨after, -, front⟩ := skipBlanks_padded padded starts tail
    obtain ⟨c, rest, rfl, blank, bracket⟩ := starts
    rw [← skipNested_value_skipBlanks (w ++ tail)]
    simp only [skipNested, front, List.cons_append]
    split <;> simp_all
  · intro fuel outer tail
    rfl

/-- A name is skipped with its colon. -/
theorem skipName_padded {body name : List Char} (is_body : IsBody body)
    (padded : Padded ('"' :: (body ++ ['"'])) name) (tail : List Char) :
    skipName (name ++ ':' :: tail) = .ok tail := by
  obtain ⟨before, after, leading, trailing, rfl⟩ := padded
  have skipped := skipString_body is_body (after ++ ':' :: tail)
  have colon : skipBlanks (after ++ ':' :: tail) = ':' :: tail := by
    rw [skipBlanks_append trailing, skipBlanks_cons rfl]
  simp only [skipName, List.append_assoc, List.cons_append, List.nil_append,
    skipBlanks_append leading, skipBlanks_cons (by decide : isBlank '"' = false)]
  simp only [skipped, bind, Except.bind, colon]

/-- An item of an object is a value behind its name. -/
theorem enters_object {body name p : List Char} (is_body : IsBody body)
    (padded : Padded ('"' :: (body ++ ['"'])) name) : Enters .object (name ++ ':' :: p) p := by
  refine ⟨?_, ?_, by simp; omega⟩
  · intro fuel outer tail
    obtain ⟨after, trailing, front⟩ := skipBlanks_padded padded
      ⟨'"', body ++ ['"'], rfl, by decide, by decide⟩ (':' :: (p ++ tail))
    have named := skipName_padded is_body ⟨[], after, blanks_nil, trailing, rfl⟩ (p ++ tail)
    rw [List.nil_append, List.append_assoc, List.cons_append] at named
    rw [List.append_assoc, List.cons_append]
    simp only [skipNested, front, List.cons_append]
    show (skipName _ >>= fun cs => skipNested fuel (.object :: outer) .value cs) = _
    rw [named]
    rfl
  · intro fuel outer tail
    have named := skipName_padded is_body padded (p ++ tail)
    rw [List.append_assoc, List.cons_append]
    show (skipName (name ++ ':' :: (p ++ tail)) >>= fun cs =>
      skipNested fuel (.object :: outer) .value cs) = _
    rw [named]
    rfl

/-- The value is skipped in some steps, at most twice as many as it has characters. -/
def Skips (v : List Char) : Prop :=
  ∃ steps, steps ≤ 2 * v.length ∧ ∀ fuel brackets rest, EndsNumber rest →
    skipNested (fuel + steps) brackets .value (v ++ rest) = skipNested fuel brackets .more rest

/-- A value without brackets is skipped. -/
theorem skips_scalar {v : List Char} (starts : StartsValue v) (list : v.head? ≠ some '[')
    (object : v.head? ≠ some '\x7b')
    (skipped : ∀ rest, EndsNumber rest → skipScalar (v ++ rest) = .ok rest) : Skips v := by
  obtain ⟨c, cs, rfl, blank, -⟩ := starts
  refine ⟨1, by simp; omega, ?_⟩
  intro fuel brackets rest ends
  exact skipNested_scalar blank (by simpa using list) (by simpa using object) (skipped rest ends)

/-- Items of a bracket, each with its value. -/
def Item (bracket : Bracket) (w : List Char) : Prop :=
  ∃ v p, Enters bracket w p ∧ Padded v p ∧ Skips v

/-- An item is skipped once the reader goes on with its value. -/
theorem Item.skips {bracket : Bracket} {w : List Char} (h : Item bracket w) :
    ∃ p steps, Enters bracket w p ∧ steps ≤ 2 * w.length ∧ ∀ fuel outer rest, EndsNumber rest →
      skipNested (fuel + steps) (bracket :: outer) .value (p ++ rest) =
        skipNested fuel (bracket :: outer) .more rest := by
  obtain ⟨v, p, enters, ⟨before, after, leading, trailing, rfl⟩, steps, bound, skipped⟩ := h
  have shorter := enters.shorter
  refine ⟨_, steps, enters, by simp at shorter; omega, ?_⟩
  intro fuel outer rest ends
  rw [List.append_assoc, List.append_assoc, skipNested_value_blanks leading,
    skipped _ _ _ (ends.blanks trailing), skipNested_more_blanks trailing]

/-- Every item on the right of a pairing has one on the left. -/
theorem exists_of_forall₂_right {α β : Type} {r : α → β → Prop} {as : List α} {bs : List β}
    (h : List.Forall₂ r as bs) {b : β} (member : b ∈ bs) : ∃ a ∈ as, r a b := by
  induction h with
  | nil => cases member
  | cons first _ ih =>
    rcases List.mem_cons.1 member with rfl | member
    · exact ⟨_, by simp, first⟩
    · obtain ⟨a, a_mem, related⟩ := ih member
      exact ⟨a, by simp [a_mem], related⟩

/-- The items behind another one are skipped, and the bracket is closed. -/
theorem skips_further {bracket : Bracket} {ws : List (List Char)}
    (items : ∀ w ∈ ws, Item bracket w) :
    ∃ steps, steps ≤ 2 * (further ws).length + 1 ∧ ∀ fuel outer rest,
      skipNested (fuel + steps) (bracket :: outer) .more (further ws ++ bracket.close :: rest) =
        skipNested fuel outer .more rest := by
  induction ws with
  | nil => exact ⟨1, by simp [further], fun fuel outer rest => skipNested_close fuel bracket outer rest⟩
  | cons w ws ih =>
    obtain ⟨more, more_bound, others⟩ := ih fun w member => items w (by simp [member])
    obtain ⟨p, steps, enters, bound, skipped⟩ := (items w (by simp)).skips
    refine ⟨more + steps + 1, by simp [further] at *; omega, ?_⟩
    intro fuel outer rest
    have ends := endsNumber_further ws rest bracket.close_ends
    rw [further_cons, List.cons_append, List.append_assoc, ← Nat.add_assoc, enters.further,
      ← Nat.add_assoc, skipped _ _ _ ends, others]

/-- The first item of a bracket, or its end, is skipped like the others. -/
theorem skips_first {bracket : Bracket} {α : Type} {item : α → List Char → Prop} {as : List α}
    {inner : List Char} (listed : Listed item as inner)
    (items : ∀ a ∈ as, ∀ w, item a w → Item bracket w) :
    ∃ steps, steps ≤ 2 * inner.length + 2 ∧ ∀ fuel outer rest,
      skipNested (fuel + steps) (bracket :: outer) .first (inner ++ bracket.close :: rest) =
        skipNested fuel outer .more rest := by
  cases listed with
  | nothing blanks =>
    refine ⟨1, by omega, ?_⟩
    intro fuel outer rest
    rw [← skipNested_first_close fuel bracket outer rest]
    simp only [skipNested, skipBlanks_append blanks]
  | items some written =>
    cases written with
    | nil => exact absurd rfl some
    | @cons a w as ws first others =>
      have other_items : ∀ w ∈ ws, Item bracket w := by
        intro w member
        obtain ⟨a, a_mem, written⟩ := exists_of_forall₂_right others member
        exact items a (by simp [a_mem]) w written
      obtain ⟨p, steps, enters, bound, skipped⟩ := (items a (by simp) w first).skips
      obtain ⟨more, more_bound, skipped_others⟩ := skips_further other_items
      rw [separated_cons]
      refine ⟨more + steps + 1, by simp; omega, ?_⟩
      intro fuel outer rest
      have ends := endsNumber_further ws rest bracket.close_ends
      rw [List.append_assoc, ← Nat.add_assoc, enters.first, ← Nat.add_assoc, skipped _ _ _ ends,
        skipped_others]

/-! ## Values -/

/-- A number begins with a digit or a sign. -/
theorem IsNumber.head {w : List Char} (h : IsNumber w) :
    ∃ c cs, w = c :: cs ∧ (c = '-' ∨ c.isDigit = true) := by
  cases h with
  | negative => exact ⟨'-', _, rfl, .inl rfl⟩
  | unsigned magnitude =>
    obtain ⟨d, others, rfl, digit⟩ := magnitude.exists_cons
    exact ⟨d, others, rfl, .inr digit⟩

/-- A number begins with a digit or a minus. -/
theorem IsNumber.head_ne {w : List Char} (h : IsNumber w) {q : Char} (minus : q ≠ '-')
    (digit : q.isDigit = false) : w.head? ≠ some q := by
  obtain ⟨c, cs, rfl, start⟩ := h.head
  rintro same
  cases same
  rcases start with rfl | is_digit
  · exact minus rfl
  · simp [is_digit] at digit

theorem isBlank_of_number {c : Char} (h : c = '-' ∨ c.isDigit = true) : isBlank c = false := by
  rcases h with rfl | digit
  · rfl
  · exact isBlank_of_isDigit digit

theorem IsNumber.startsValue {w : List Char} (h : IsNumber w) : StartsValue w := by
  have bracket := h.head_ne (by decide : ']' ≠ '-') (by decide)
  obtain ⟨c, cs, rfl, start⟩ := h.head
  exact ⟨c, cs, rfl, isBlank_of_number start, by simpa using bracket⟩

theorem WritesList.head {vs : List (List Char)} {w : List Char} (h : WritesList vs w) :
    w.head? = some '[' := by
  obtain ⟨inner, -, rfl⟩ := h
  rfl

theorem WritesMembers.head {ms : List (List Char × List Char)} {w : List Char}
    (h : WritesMembers ms w) : w.head? = some '\x7b' := by
  obtain ⟨inner, -, rfl⟩ := h
  rfl

/-- Every value begins like one. -/
theorem IsValue.startsValue {v : List Char} (h : IsValue v) : StartsValue v := by
  cases h with
  | null => exact ⟨'n', _, rfl, rfl, by decide⟩
  | yes => exact ⟨'t', _, rfl, rfl, by decide⟩
  | no => exact ⟨'f', _, rfl, rfl, by decide⟩
  | number number => exact number.startsValue
  | string => exact ⟨'"', _, rfl, rfl, by decide⟩
  | list _ written =>
    obtain ⟨inner, -, rfl⟩ := written
    exact ⟨'[', _, rfl, rfl, by decide⟩
  | object _ _ written =>
    obtain ⟨inner, -, rfl⟩ := written
    exact ⟨'\x7b', _, rfl, rfl, by decide⟩

/-- What stands in brackets is skipped once its items are. -/
theorem skips_bracket (bracket : Bracket) {α : Type} {item : α → List Char → Prop} {as : List α}
    {c : Char} {inner : List Char} (opened : ∀ fuel brackets cs,
      skipNested (fuel + 1) brackets .value (c :: cs) = skipNested fuel (bracket :: brackets) .first cs)
    (listed : Listed item as inner) (items : ∀ a ∈ as, ∀ w, item a w → Item bracket w) :
    Skips (c :: (inner ++ [bracket.close])) := by
  obtain ⟨steps, bound, skipped⟩ := skips_first listed items
  refine ⟨steps + 1, by simp; omega, ?_⟩
  intro fuel brackets rest _
  rw [← Nat.add_assoc, List.cons_append, opened, List.append_assoc]
  exact skipped fuel brackets rest

/-- Every value is skipped. -/
theorem IsValue.skips {v : List Char} (h : IsValue v) : Skips v := by
  induction h with
  | null =>
    exact skips_scalar IsValue.null.startsValue (by decide) (by decide)
      fun rest _ => restOfWord_append "ull".toList rest
  | yes =>
    exact skips_scalar IsValue.yes.startsValue (by decide) (by decide)
      fun rest _ => restOfWord_append "rue".toList rest
  | no =>
    exact skips_scalar IsValue.no.startsValue (by decide) (by decide)
      fun rest _ => restOfWord_append "alse".toList rest
  | number number =>
    exact skips_scalar number.startsValue (number.head_ne (by decide) (by decide))
      (number.head_ne (by decide) (by decide)) fun rest => skipScalar_number number
  | string is_body =>
    exact skips_scalar (IsValue.string is_body).startsValue (by simp) (by simp)
      fun rest _ => skipScalar_string is_body rest
  | list values written ih =>
    obtain ⟨inner, listed, rfl⟩ := written
    refine skips_bracket .list (fun _ _ _ => rfl) listed ?_
    intro v member w padded
    exact ⟨v, w, enters_list padded (values v member).startsValue, padded, ih v member⟩
  | object names values written ih =>
    obtain ⟨inner, listed, rfl⟩ := written
    refine skips_bracket .object (fun _ _ _ => rfl) listed ?_
    rintro m member _ ⟨name, value, named, padded, rfl⟩
    exact ⟨m.2, value, enters_object (names m member) named, padded, ih m member⟩

/-- The reader stops exactly behind a skipped value. -/
theorem skipValue_value {v w rest : List Char} (h : IsValue v) (padded : Padded v w)
    (ends : EndsNumber rest) : ∃ after, Blanks after ∧ skipValue (w ++ rest) = .ok (after ++ rest) := by
  obtain ⟨before, after, leading, trailing, rfl⟩ := padded
  obtain ⟨steps, bound, skipped⟩ := h.skips
  refine ⟨after, trailing, ?_⟩
  obtain ⟨fuel, enough⟩ : ∃ fuel, 2 * (before ++ v ++ after ++ rest).length + 2 = fuel + 1 + steps :=
    ⟨2 * (before ++ v ++ after ++ rest).length + 1 - steps, by simp; omega⟩
  rw [skipValue, enough, List.append_assoc, List.append_assoc, skipNested_value_blanks leading,
    skipped _ _ _ (ends.blanks trailing)]
  rfl

end UsageBilling.Json
