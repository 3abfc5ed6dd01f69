import UsageBilling.Calendar.Instant
import UsageBilling.Text.Blank
import UsageBilling.Text.Numeral

/-!
# Written instants

Instants are written as in RFC 3339, in Coordinated Universal Time and with the
fewest of 0, 3, 6 or 9 digits of fraction that are exact; a year outside 0 to
9999 has a sign. The reader is more lenient: blanks may stand between the parts,
a blank or `t` between date and time, and the offset may be a sign with hours
and minutes, `Z`, or `UTC`.
-/

namespace UsageBilling.Calendar.Timestamp

open UsageBilling.Text

/-! ## Writing -/

/-- A year: four digits, and a sign for a year outside 0 to 9999. -/
def year (y : Int) : List Char :=
  if 0 ≤ y ∧ y ≤ 9999 then padded 4 y.toNat
  else if y < 0 then '-' :: padded 4 y.natAbs
  else '+' :: padded 4 y.natAbs

/-- The fraction of a second, the shortest of 0, 3, 6 or 9 digits that is exact. -/
def fraction (nanos : Nat) : List Char :=
  if nanos = 0 then []
  else if nanos % 1000000 = 0 then '.' :: padded 3 (nanos / 1000000)
  else if nanos % 1000 = 0 then '.' :: padded 6 (nanos / 1000)
  else '.' :: padded 9 nanos

/-- An instant as text. -/
def render (t : Instant) : String :=
  let day := t.seconds / Instant.daySeconds
  let second := (t.seconds % Instant.daySeconds).toNat
  let m := Month.ofDay day
  let leap := t.nanos / 1000000000
  String.ofList <|
    year m.year ++ '-' :: padded 2 m.number ++ '-' :: padded 2 (day - m.firstDay + 1).toNat ++
    'T' :: padded 2 (second / 3600) ++ ':' :: padded 2 (second / 60 % 60) ++
    ':' :: padded 2 (second % 60 + leap) ++ fraction (t.nanos % 1000000000) ++ ['Z']

/-! ## Reading -/

/-- Takes a part of a date off the front of a text, if it stands there. -/
abbrev Part (α : Type) := List Char → Option (α × List Char)

/-- A number of one digit and at most `width` digits. -/
def digits (width : Nat) : Part Nat := fun cs =>
  let row := (cs.take width).takeWhile Char.isDigit
  if row.isEmpty then none else some (digitsValue row, cs.drop row.length)

/-- A number after blanks. -/
def number (width : Nat) : Part Nat := fun cs =>
  digits width (trimStart cs)

/-- A year after blanks: with a sign any number of digits, else at most four. -/
def signedYear : Part Int := fun cs =>
  match trimStart cs with
  | '-' :: rest => (digits rest.length rest).map fun (n, tail) => (-(n : Int), tail)
  | '+' :: rest => (digits rest.length rest).map fun (n, tail) => ((n : Int), tail)
  | rest => (digits 4 rest).map fun (n, tail) => ((n : Int), tail)

/-- A separator after blanks. -/
def separator (c : Char) (cs : List Char) : Option (List Char) :=
  match trimStart cs with
  | d :: rest => if d = c then some rest else none
  | [] => none

/-- The nanoseconds of a fraction, if one stands there; digits after the ninth do not count. -/
def nanoseconds : Part Nat
  | '.' :: rest =>
    let row := rest.takeWhile Char.isDigit
    if row.isEmpty then none
    else
      let counted := row.take 9
      some (digitsValue counted * Nat.pow 10 (9 - counted.length), rest.drop row.length)
  | cs => some (0, cs)

/-- The seconds of an offset from its hours on, the sign read. -/
def offsetSeconds : Part Nat
  | h :: h' :: rest =>
    if h.isDigit && h'.isDigit then
      match rest.dropWhile fun c => c = ':' || isBlank c with
      | m :: m' :: tail =>
        if '0' ≤ m && m ≤ '5' && m'.isDigit then
          some (3600 * digitsValue [h, h'] + 60 * digitsValue [m, m'], tail)
        else none
      | _ => none
    else none
  | _ => none

/-- The offset of a local time from Coordinated Universal Time, in seconds. -/
def offset : Part Int := fun cs =>
  match cs with
  | 'Z' :: rest => some (0, rest)
  | 'z' :: rest => some (0, rest)
  | '+' :: rest => (offsetSeconds rest).map fun (n, tail) => ((n : Int), tail)
  | '-' :: rest => (offsetSeconds rest).map fun (n, tail) => (-(n : Int), tail)
  | '\u2212' :: rest => (offsetSeconds rest).map fun (n, tail) => (-(n : Int), tail)
  | u :: t :: c :: rest =>
    if [u.toLower, t.toLower, c.toLower] = ['u', 't', 'c'] then some (0, rest) else none
  | _ => none

/-- A day of the calendar from its year, month and day of the month. -/
def day? (y : Int) (m d : Nat) : Option Int :=
  if 1 ≤ m ∧ m ≤ 12 ∧ -262143 ≤ y ∧ y ≤ 262142 then
    let month := Month.ofYear y m
    if 1 ≤ d ∧ (d : Int) ≤ month.length then some (month.firstDay + d - 1) else none
  else none

/-- The instant that a date, a time of day and an offset denote. The sixtieth second of a
minute is a leap second. -/
def assemble (day : Int) (hour minute second nanos : Nat) (offset : Int) : Option Instant :=
  if hour < 24 ∧ minute < 60 ∧ second ≤ 60 ∧ offset.natAbs < 86400 then
    let leap := second / 60
    let wall : Int := Instant.daySeconds * day + 3600 * hour + 60 * minute + (second - leap : Nat)
    let t := wall - offset
    if Instant.firstSecond ≤ t ∧ t ≤ Instant.lastSecond then
      some ⟨t, nanos + leap * 1000000000⟩
    else none
  else none

/-- The instant that a text denotes. -/
def read? (s : String) : Option Instant := do
  let (y, cs) ← signedYear s.toList
  let cs ← separator '-' cs
  let (m, cs) ← number 2 cs
  let cs ← separator '-' cs
  let (d, cs) ← number 2 cs
  let cs ← match cs with
    | c :: rest => if c = 'T' || c = 't' || c = ' ' then some rest else none
    | [] => none
  let (hour, cs) ← number 2 cs
  let cs ← separator ':' cs
  let (minute, cs) ← number 2 cs
  let cs ← separator ':' cs
  let (second, cs) ← number 2 cs
  let (nanos, cs) ← nanoseconds cs
  let (shift, cs) ← offset (trimStart cs)
  let day ← day? y m d
  if (trimStart cs).isEmpty then assemble day hour minute second nanos shift else none

end UsageBilling.Calendar.Timestamp
