import Mathlib.Data.List.Forall2
import UsageBilling.Json.Printer
import UsageBilling.Json.Scanner

/-!
# The forms of JSON

What JSON texts there are, said without a look at how they are read: which texts
a string has, which texts are numbers, and how values stand in lists and objects
with blanks around them. A string has many spellings, since a character may be
escaped by a letter or by its UTF-16 units, and a text may spell units that are no
character. Values nest to any depth.
-/

namespace UsageBilling.Json

/-! ## Blanks -/

/-- Nothing but blanks. -/
def Blanks (cs : List Char) : Prop :=
  ∀ c ∈ cs, isBlank c = true

/-- The text `v` with blanks around it. -/
def Padded (v w : List Char) : Prop :=
  ∃ before after, Blanks before ∧ Blanks after ∧ w = before ++ v ++ after

theorem blanks_nil : Blanks [] := by
  rintro _ ⟨⟩

theorem Padded.refl (v : List Char) : Padded v v :=
  ⟨[], [], blanks_nil, blanks_nil, by simp⟩

/-! ## Strings -/

/-- The letter stands for the character after a backslash. -/
inductive EscapeLetter : Char → Char → Prop where
  | quote : EscapeLetter '"' '"'
  | backslash : EscapeLetter '\\' '\\'
  | slash : EscapeLetter '/' '/'
  | backspace : EscapeLetter 'b' (Char.ofNat 8)
  | formFeed : EscapeLetter 'f' (Char.ofNat 12)
  | lineFeed : EscapeLetter 'n' '\n'
  | carriageReturn : EscapeLetter 'r' '\r'
  | tab : EscapeLetter 't' '\t'

/-- A hexadecimal digit, a letter in either case. -/
def HexDigit (value : Nat) (d : Char) : Prop :=
  d = hexDigit value ∨ d = (hexDigit value).toUpper

/-- The four hexadecimal digits of a number. -/
inductive HexDigits (n : Nat) : List Char → Prop where
  | four {a b c d : Char} (small : n < 0x10000) (first : HexDigit (n / 0x1000) a)
      (second : HexDigit (n / 0x100 % 0x10) b) (third : HexDigit (n / 0x10 % 0x10) c)
      (fourth : HexDigit (n % 0x10) d) : HexDigits n [a, b, c, d]

/-- A spelling of one character inside a string. A character past U+FFFF has two UTF-16 units. -/
inductive SpelledAs (c : Char) : List Char → Prop where
  | plain (quote : c ≠ '"') (backslash : c ≠ '\\') (control : 32 ≤ c.toNat) : SpelledAs c [c]
  | letter {e : Char} (letter : EscapeLetter e c) : SpelledAs c ['\\', e]
  | unit {ds : List Char} (digits : HexDigits c.toNat ds) : SpelledAs c ('\\' :: 'u' :: ds)
  | pair {high low : List Char} (wide : 0x10000 ≤ c.toNat)
      (high_digits : HexDigits (0xD800 + (c.toNat - 0x10000) / 0x400) high)
      (low_digits : HexDigits (0xDC00 + (c.toNat - 0x10000) % 0x400) low) :
      SpelledAs c ('\\' :: 'u' :: (high ++ '\\' :: 'u' :: low))

/-- The contents of a string between its quotes, for given characters. -/
inductive Spells : List Char → List Char → Prop where
  | done : Spells [] []
  | char {c : Char} {s front w : List Char} (first : SpelledAs c front) (others : Spells s w) :
      Spells (c :: s) (front ++ w)

/-- A string as a value. -/
def WritesString (s : String) (w : List Char) : Prop :=
  ∃ body, Spells s.toList body ∧ w = '"' :: (body ++ ['"'])

/-- The contents of a string between its quotes, whether its units are characters or not. -/
inductive IsBody : List Char → Prop where
  | done : IsBody []
  | plain {c : Char} {w : List Char} (quote : c ≠ '"') (backslash : c ≠ '\\')
      (control : 32 ≤ c.toNat) (others : IsBody w) : IsBody (c :: w)
  | letter {e c : Char} {w : List Char} (letter : EscapeLetter e c) (others : IsBody w) :
      IsBody ('\\' :: e :: w)
  | unit {n : Nat} {ds w : List Char} (digits : HexDigits n ds) (others : IsBody w) :
      IsBody ('\\' :: 'u' :: (ds ++ w))

/-- A character of a string may stand in front of further contents. -/
theorem SpelledAs.isBody {c : Char} {front w : List Char} (h : SpelledAs c front)
    (others : IsBody w) : IsBody (front ++ w) := by
  cases h with
  | plain quote backslash control => exact .plain quote backslash control others
  | letter letter => exact .letter letter others
  | unit digits => exact .unit digits others
  | pair _ high_digits low_digits =>
    have body : IsBody _ := .unit high_digits (.unit low_digits others)
    simpa using body

/-- What spells characters is the contents of a string. -/
theorem Spells.isBody {s w : List Char} (h : Spells s w) : IsBody w := by
  induction h with
  | done => exact .done
  | char first _ ih => exact first.isBody ih

/-! ## Numbers -/

/-- Some digits, at least one. -/
structure IsDigits (ds : List Char) : Prop where
  some : ds ≠ []
  digits : ∀ d ∈ ds, d.isDigit = true

/-- The whole part of a number: zero, or digits of which the first is not zero. -/
inductive IsWhole : List Char → Prop where
  | zero : IsWhole ['0']
  | positive {d : Char} {ds : List Char} (nonzero : d ≠ '0') (digits : IsDigits (d :: ds)) :
      IsWhole (d :: ds)

inductive IsFraction : List Char → Prop where
  | absent : IsFraction []
  | present {ds : List Char} (digits : IsDigits ds) : IsFraction ('.' :: ds)

inductive IsExponent : List Char → Prop where
  | absent : IsExponent []
  | present {e : Char} {sign ds : List Char} (mark : e = 'e' ∨ e = 'E')
      (signed : sign = [] ∨ sign = ['+'] ∨ sign = ['-']) (digits : IsDigits ds) :
      IsExponent (e :: (sign ++ ds))

/-- A number without its sign. -/
inductive IsMagnitude : List Char → Prop where
  | parts {whole fraction exponent : List Char} (is_whole : IsWhole whole)
      (is_fraction : IsFraction fraction) (is_exponent : IsExponent exponent) :
      IsMagnitude (whole ++ (fraction ++ exponent))

inductive IsNumber : List Char → Prop where
  | unsigned {w : List Char} (magnitude : IsMagnitude w) : IsNumber w
  | negative {w : List Char} (magnitude : IsMagnitude w) : IsNumber ('-' :: w)

/-! ## Lists and objects -/

/-- Written items as they stand behind another one. -/
def further (items : List (List Char)) : List Char :=
  items.flatMap (',' :: ·)

/-- Behind the first item each has a comma in front. -/
theorem separated_cons (item : List Char) (items : List (List Char)) :
    separated (item :: items) = item ++ further items := by
  induction items generalizing item with
  | nil => simp [separated, further]
  | cons next items ih =>
    rw [separated, ih]
    · simp [further]
    · simp

theorem further_cons (item : List Char) (items : List (List Char)) :
    further (item :: items) = ',' :: (item ++ further items) := by
  simp [further]

/-- Every further item has a comma. -/
theorem length_le_further (items : List (List Char)) : items.length ≤ (further items).length := by
  induction items with
  | nil => exact Nat.le_refl _
  | cons item items ih =>
    rw [further_cons]
    simp only [List.length_cons, List.length_append]
    omega

/-- The text begins like a value: not with a blank, and not with the end of a list. -/
def StartsValue (written : List Char) : Prop :=
  ∃ c rest, written = c :: rest ∧ isBlank c = false ∧ c ≠ ']'

/-- Items between commas, each as `item` says; without items there may be blanks. -/
inductive Listed {α : Type} (item : α → List Char → Prop) : List α → List Char → Prop where
  | nothing {w : List Char} (blanks : Blanks w) : Listed item [] w
  | items {as : List α} {ws : List (List Char)} (some : as ≠ [])
      (written : List.Forall₂ item as ws) : Listed item as (separated ws)

/-- A list of values. -/
def WritesList (vs : List (List Char)) (w : List Char) : Prop :=
  ∃ inner, Listed Padded vs inner ∧ w = '[' :: (inner ++ [']'])

/-- A member of an object, its name as it is spelled. -/
def WritesMember (m : List Char × List Char) (w : List Char) : Prop :=
  ∃ name value, Padded ('"' :: (m.1 ++ ['"'])) name ∧ Padded m.2 value ∧ w = name ++ ':' :: value

/-- An object with members, their names as they are spelled. -/
def WritesMembers (ms : List (List Char × List Char)) (w : List Char) : Prop :=
  ∃ inner, Listed WritesMember ms inner ∧ w = '\x7b' :: (inner ++ ['\x7d'])

/-- The member has this name. -/
def Named (m : String × List Char) (spelled : List Char × List Char) : Prop :=
  Spells m.1.toList spelled.1 ∧ spelled.2 = m.2

/-- An object with members of these names. -/
def WritesObject (ms : List (String × List Char)) (w : List Char) : Prop :=
  ∃ spelled, List.Forall₂ Named ms spelled ∧ WritesMembers spelled w

/-! ## Values -/

/-- A JSON value. -/
inductive IsValue : List Char → Prop where
  | null : IsValue "null".toList
  | yes : IsValue "true".toList
  | no : IsValue "false".toList
  | number {w : List Char} (number : IsNumber w) : IsValue w
  | string {body : List Char} (is_body : IsBody body) : IsValue ('"' :: (body ++ ['"']))
  | list {vs : List (List Char)} {w : List Char} (values : ∀ v ∈ vs, IsValue v)
      (written : WritesList vs w) : IsValue w
  | object {ms : List (List Char × List Char)} {w : List Char} (names : ∀ m ∈ ms, IsBody m.1)
      (values : ∀ m ∈ ms, IsValue m.2) (written : WritesMembers ms w) : IsValue w

end UsageBilling.Json
