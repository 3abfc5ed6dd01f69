import UsageBilling.Calendar.Timestamp
import UsageBilling.Proofs.Calendar.Gregorian
import UsageBilling.Proofs.Json.Tokens
import UsageBilling.Proofs.Texts

/-!
# Written instants are read back

A date and a time of day with an offset are read part by part, each behind
blanks, and denote the instant that a clock set to Coordinated Universal Time
shows with this reading, less the offset. There is such an instant if the
calendar reaches to the year and the instant can be represented; otherwise
nothing is read. What is written for an instant is its own reading with no
offset, so it is read back, and its fraction is the shortest that is exact.
-/

namespace UsageBilling.Calendar

open Text

/-! ## Readings -/

/-- A date and a time of day, as a calendar and a clock show them. -/
structure Reading where
  year : Int
  month : Nat
  day : Nat
  hour : Nat
  minute : Nat
  /-- Second 60 is a leap second. -/
  second : Nat
  nanos : Nat
  deriving DecidableEq, Repr

namespace Reading

/-- The calendar has such a date and the clock such a time, in whatever year. -/
structure Exists (r : Reading) : Prop where
  month : 1 ≤ r.month ∧ r.month ≤ 12
  day : 1 ≤ r.day ∧ (r.day : Int) ≤ Month.daysIn r.year r.month
  hour : r.hour < 24
  minute : r.minute < 60
  second : r.second ≤ 60
  nanos : r.nanos < 1000000000

/-- The date belongs to a year whose days can be represented. -/
def InCalendar (r : Reading) : Prop :=
  -262143 ≤ r.year ∧ r.year ≤ 262142

instance (r : Reading) : Decidable r.InCalendar :=
  inferInstanceAs (Decidable (_ ∧ _))

/-- Seconds since midnight; a leap second belongs to the second before it. -/
def secondOfDay (r : Reading) : Nat :=
  3600 * r.hour + 60 * r.minute + min r.second 59

/-- Nanoseconds since this second began. -/
def nanosOfSecond (r : Reading) : Nat :=
  if r.second = 60 then r.nanos + 1000000000 else r.nanos

/-- A calendar and a clock set to Coordinated Universal Time show the reading at this instant. -/
def ShownAt (r : Reading) (t : Instant) : Prop :=
  ∃ first, (Month.ofYear r.year r.month).Begins first ∧
    t = ⟨Instant.daySeconds * (first + (r.day - 1)) + r.secondOfDay, r.nanosOfSecond⟩

end Reading

/-- The instant with its seconds less an offset. -/
def Instant.less (t : Instant) (offset : Int) : Instant :=
  ⟨t.seconds - offset, t.nanos⟩

namespace Timestamp

/-! ## Texts -/

/-- A part of the text, perhaps behind blanks. -/
inductive Spaced (part : List Char → Prop) : List Char → Prop where
  | behind {blanks w : List Char} (all : Blanks blanks) (is_part : part w) :
      Spaced part (blanks ++ w)

/-- The text writes a number of one or two digits. -/
def WritesShort (n : Nat) (w : List Char) : Prop :=
  Numeral n w ∧ w.length ≤ 2

/-- The text writes a year: up to four digits, or a sign and any number of digits. -/
inductive WritesYear : Int → List Char → Prop where
  | unsigned {n : Nat} {row : List Char} (numeral : Numeral n row) (short : row.length ≤ 4) :
      WritesYear n row
  | plus {n : Nat} {row : List Char} (numeral : Numeral n row) : WritesYear n ('+' :: row)
  | minus {n : Nat} {row : List Char} (numeral : Numeral n row) : WritesYear (-n) ('-' :: row)

/-- The text writes a date. -/
inductive WritesDate (year : Int) (month day : Nat) : List Char → Prop where
  | parts {y s m s' d : List Char} (is_year : Spaced (WritesYear year) y)
      (dash : Spaced (· = ['-']) s) (is_month : Spaced (WritesShort month) m)
      (dash' : Spaced (· = ['-']) s') (is_day : Spaced (WritesShort day) d) :
      WritesDate year month day (y ++ (s ++ (m ++ (s' ++ d))))

/-- The text writes a time of day in whole seconds. -/
inductive WritesTime (hour minute second : Nat) : List Char → Prop where
  | parts {h s m s' u : List Char} (is_hour : Spaced (WritesShort hour) h)
      (colon : Spaced (· = [':']) s) (is_minute : Spaced (WritesShort minute) m)
      (colon' : Spaced (· = [':']) s') (is_second : Spaced (WritesShort second) u) :
      WritesTime hour minute second (h ++ (s ++ (m ++ (s' ++ u))))

/-- The text writes the fraction of a second, in whole nanoseconds rounded down. -/
inductive WritesFraction : Nat → List Char → Prop where
  | none : WritesFraction 0 []
  | digits {n : Nat} {row : List Char} (numeral : Numeral n row) :
      WritesFraction (n * 1000000000 / 10 ^ row.length) ('.' :: row)

/-- The text writes hours and minutes of less than a day, with or without a colon. -/
inductive WritesShift : Nat → List Char → Prop where
  | parts {h m : Nat} {hours between minutes : List Char} (is_hours : Numeral h hours)
      (hours_two : hours.length = 2) (within : h < 24)
      (separates : ∀ c ∈ between, c = ':' ∨ isBlank c = true)
      (is_minutes : Numeral m minutes) (minutes_two : minutes.length = 2) (proper : m < 60) :
      WritesShift (3600 * h + 60 * m) (hours ++ (between ++ minutes))

/-- The text writes an offset in seconds: a sign with hours and minutes, or `Z` for none. -/
inductive WritesOffset : Int → List Char → Prop where
  | ahead {n : Nat} {w : List Char} (shift : WritesShift n w) : WritesOffset n ('+' :: w)
  | behind {n : Nat} {w : List Char} {sign : Char} (minus : sign = '-' ∨ sign = '\u2212')
      (shift : WritesShift n w) : WritesOffset (-n) (sign :: w)
  | zulu {c : Char} (letter : c = 'Z' ∨ c = 'z') : WritesOffset 0 [c]

/-- The text writes a date and a time of day with an offset. -/
inductive Writes (r : Reading) (offset : Int) : List Char → Prop where
  | parts {date time fraction shift after : List Char} {mark : Char}
      (is_date : WritesDate r.year r.month r.day date) (is_mark : mark ∈ ['T', 't', ' '])
      (is_time : WritesTime r.hour r.minute r.second time)
      (is_fraction : WritesFraction r.nanos fraction)
      (is_offset : Spaced (WritesOffset offset) shift) (blank : Blanks after) :
      Writes r offset (date ++ mark :: (time ++ (fraction ++ (shift ++ after))))

/-! ## Blanks and digits -/

theorem Spaced.refl {part : List Char → Prop} {w : List Char} (h : part w) : Spaced part w :=
  .behind blanks_nil h

/-- A row of digits begins with one, which is no blank. -/
theorem trimStart_numeral {n : Nat} {row : List Char} (h : Numeral n row) (rest : List Char) :
    trimStart (row ++ rest) = row ++ rest := by
  cases same : row ++ rest with
  | nil => exact absurd (List.append_eq_nil_iff.1 same).1 h.nonempty
  | cons c cs => exact trimStart_cons (isBlank_of_isDigit (h.isDigit_head same))

/-- What follows a number and is no digit stays so if it is cut short. -/
theorem endsDigits_take {rest : List Char} (ends : Json.EndsDigits rest) (k : Nat) :
    Json.EndsDigits (rest.take k) := by
  intro c head
  rw [List.head?_take] at head
  split at head
  · cases head
  · exact ends c head

/-- A row of digits is read to its end, as the number that it stands for. -/
theorem digits_numeral {width n : Nat} {row rest : List Char} (h : Numeral n row)
    (short : row.length ≤ width) (ends : Json.EndsDigits rest) :
    digits width (row ++ rest) = some (n, rest) := by
  have taken : ((row ++ rest).take width).takeWhile Char.isDigit = row := by
    rw [List.take_append, List.take_of_length_le short]
    exact Json.takeWhile_isDigit_append h.digits (endsDigits_take ends _)
  have some : row.isEmpty = false := by simpa using h.nonempty
  unfold digits
  simp only [taken, some, h.digitsValue, List.drop_left, Bool.false_eq_true, if_false]

/-- A number of one or two digits is read, whatever blanks are in front of it. -/
theorem number_short {n : Nat} {w rest : List Char} (h : Spaced (WritesShort n) w)
    (ends : Json.EndsDigits rest) : number 2 (w ++ rest) = some (n, rest) := by
  obtain ⟨all, numeral, short⟩ := h
  rw [number, List.append_assoc, trimStart_append all, trimStart_numeral numeral,
    digits_numeral numeral short ends]

/-- A year is read with its sign, whatever blanks are in front of it. -/
theorem signedYear_year {y : Int} {w rest : List Char} (h : Spaced (WritesYear y) w)
    (ends : Json.EndsDigits rest) : signedYear (w ++ rest) = some (y, rest) := by
  obtain ⟨all, is_year⟩ := h
  rw [signedYear, List.append_assoc, trimStart_append all]
  cases is_year with
  | unsigned numeral short =>
    rw [trimStart_numeral numeral]
    split
    next same => exact absurd (numeral.isDigit_head same) (by decide)
    next same => exact absurd (numeral.isDigit_head same) (by decide)
    next => rw [digits_numeral numeral short ends]; rfl
  | @plus n row numeral =>
    rw [List.cons_append, trimStart_cons rfl]
    show (digits (row ++ rest).length (row ++ rest)).map _ = _
    rw [digits_numeral numeral (by simp) ends]
    rfl
  | @minus n row numeral =>
    rw [List.cons_append, trimStart_cons rfl]
    show (digits (row ++ rest).length (row ++ rest)).map _ = _
    rw [digits_numeral numeral (by simp) ends]
    rfl

/-- A separator is found behind blanks. -/
theorem separator_spaced {c : Char} {w : List Char} (h : Spaced (· = [c]) w)
    (mark : isBlank c = false) (rest : List Char) : separator c (w ++ rest) = some rest := by
  obtain ⟨all, rfl⟩ := h
  rw [separator, List.append_assoc, trimStart_append all, List.singleton_append,
    trimStart_cons mark]
  exact if_pos rfl

/-! ## Where numbers end -/

/-- Behind a number or a fraction: no digit, and no point. -/
def Stops (rest : List Char) : Prop :=
  ∀ c ∈ rest.head?, c.isDigit = false ∧ c ≠ '.'

theorem stops_cons {c : Char} (h : c.isDigit = false ∧ c ≠ '.') (rest : List Char) :
    Stops (c :: rest) := by
  rintro _ ⟨⟩
  exact h

theorem Stops.endsDigits {rest : List Char} (h : Stops rest) : Json.EndsDigits rest :=
  fun c head => (h c head).1

theorem stops_of_isBlank {c : Char} (h : isBlank c = true) : c.isDigit = false ∧ c ≠ '.' := by
  refine ⟨?_, by rintro rfl; contradiction⟩
  by_contra digit
  rw [isBlank_of_isDigit (by simpa using digit)] at h
  cases h

/-- A part that begins with neither a digit nor a point stops what is in front of it, behind blanks
as well. -/
theorem Spaced.stops {part : List Char → Prop} {w : List Char} (h : Spaced part w)
    (head : ∀ v, part v → ∃ c cs, v = c :: cs ∧ c.isDigit = false ∧ c ≠ '.') (rest : List Char) :
    Stops (w ++ rest) := by
  cases h with
  | @behind blanks v all is_part =>
    rw [List.append_assoc]
    cases blanks with
    | nil =>
      obtain ⟨c, cs, rfl, stop⟩ := head v is_part
      exact stops_cons stop _
    | cons c blanks => exact stops_cons (stops_of_isBlank (all c (by simp))) _

theorem stops_separator {c : Char} {w : List Char} (h : Spaced (· = [c]) w)
    (mark : c.isDigit = false ∧ c ≠ '.') (rest : List Char) : Stops (w ++ rest) :=
  h.stops (fun _ same => ⟨c, [], same, mark⟩) rest

/-- An offset begins with a letter or a sign. -/
theorem WritesOffset.head {offset : Int} {w : List Char} (h : WritesOffset offset w) :
    ∃ c cs, w = c :: cs ∧ (c.isDigit = false ∧ c ≠ '.') ∧ isBlank c = false := by
  cases h with
  | ahead => exact ⟨_, _, rfl, by decide, rfl⟩
  | behind minus => exact ⟨_, _, rfl, by rcases minus with rfl | rfl <;> decide⟩
  | zulu letter => exact ⟨_, _, rfl, by rcases letter with rfl | rfl <;> decide⟩

/-- An offset stops the seconds in front of it, or their fraction. -/
theorem stops_offset {offset : Int} {w : List Char} (h : Spaced (WritesOffset offset) w)
    (rest : List Char) : Stops (w ++ rest) := by
  refine h.stops (fun v is_offset => ?_) rest
  obtain ⟨c, cs, same, stop, -⟩ := is_offset.head
  exact ⟨c, cs, same, stop⟩

theorem stops_fraction {nanos : Nat} {w rest : List Char} (h : WritesFraction nanos w)
    (stops : Stops rest) : Json.EndsDigits (w ++ rest) := by
  cases h with
  | none => exact stops.endsDigits
  | digits =>
    rintro _ ⟨⟩
    rfl

/-! ## Fractions and offsets -/

/-- The first nine digits are the nanoseconds, rounded down. -/
theorem nanoseconds_fraction {nanos : Nat} {w rest : List Char} (h : WritesFraction nanos w)
    (stops : Stops rest) : nanoseconds (w ++ rest) = some (nanos, rest) := by
  cases h with
  | none =>
    unfold nanoseconds
    split
    next tail same =>
      obtain rfl : rest = '.' :: tail := same
      exact absurd rfl (stops '.' rfl).2
    next => rfl
  | @digits n row numeral =>
    have some : row.isEmpty = false := by simpa using numeral.nonempty
    have taken := Json.takeWhile_isDigit_append numeral.digits stops.endsDigits
    have rounded : digitsValue (row.take 9) * Nat.pow 10 (9 - (row.take 9).length) =
        n * 1000000000 / 10 ^ row.length := by
      rw [Text.digitsValue_eq, Text.ofDigitChars_take numeral.digits, numeral.value,
        List.length_take]
      rcases Nat.le_total row.length 9 with short | long
      · have scale : 1000000000 = 10 ^ (9 - row.length) * 10 ^ row.length := by
          rw [← Nat.pow_add, Nat.sub_add_cancel short]
        rw [Nat.sub_eq_zero_of_le short, Nat.pow_zero, Nat.div_one, Nat.min_eq_right short, scale,
          ← Nat.mul_assoc, Nat.mul_div_cancel _ (by positivity)]
        rfl
      · have scale : 10 ^ row.length = 10 ^ (row.length - 9) * 1000000000 := by
          rw [show 1000000000 = 10 ^ 9 from rfl, ← Nat.pow_add, Nat.sub_add_cancel long]
        rw [Nat.min_eq_left long, Nat.sub_self, scale, Nat.mul_div_mul_right _ _ (by decide)]
        exact Nat.mul_one _
    rw [List.cons_append, nanoseconds]
    simp only [taken, some, rounded, List.drop_left, Bool.false_eq_true, if_false]

/-- Hours and minutes of an offset are read in each of their forms. -/
theorem offsetSeconds_shift {n : Nat} {w : List Char} (h : WritesShift n w) (rest : List Char) :
    offsetSeconds (w ++ rest) = some (n, rest) := by
  obtain ⟨is_hours, hours_two, -, separates, is_minutes, minutes_two, proper⟩ := h
  rename_i h m hours between minutes
  obtain ⟨a, b, rfl⟩ := List.length_eq_two.1 hours_two
  obtain ⟨c, d, rfl⟩ := List.length_eq_two.1 minutes_two
  have c_digit := is_minutes.digits c (by simp)
  have low : '0' ≤ c := by simp [Char.isDigit] at c_digit; exact c_digit.1
  have high : c ≤ '5' := by
    have value := is_minutes.digitsValue
    have tens : digitsValue [c, d] = 10 * (10 * 0 + Text.digitValue c) + Text.digitValue d := rfl
    have first : Text.digitValue c = c.toNat - 48 := rfl
    show c.val.toNat ≤ 53
    have : c.toNat = c.val.toNat := rfl
    omega
  have dropped : (between ++ (c :: d :: rest)).dropWhile (fun c => c = ':' || isBlank c) =
      c :: d :: rest := by
    rw [List.dropWhile_append_of_pos fun c member => by simpa using separates c member]
    have stop : c ≠ ':' := by rintro rfl; contradiction
    rw [List.dropWhile_cons_of_neg (by simp [stop, isBlank_of_isDigit c_digit])]
  show offsetSeconds (a :: b :: ((between ++ [c, d]) ++ rest)) = _
  rw [List.append_assoc, offsetSeconds, if_pos (by simp [is_hours.digits])]
  simp only [List.cons_append, List.nil_append, dropped]
  rw [if_pos (by simp [low, high, is_minutes.digits]), is_hours.digitsValue,
    is_minutes.digitsValue]

/-- An offset is read with its sign, and `Z` as none. -/
theorem offset_offset {n : Int} {w : List Char} (h : WritesOffset n w) (rest : List Char) :
    offset (w ++ rest) = some (n, rest) := by
  cases h with
  | @ahead m w shift =>
    show (offsetSeconds (w ++ rest)).map _ = _
    rw [offsetSeconds_shift shift]
    rfl
  | @behind m w sign minus shift =>
    rcases minus with rfl | rfl
    · show (offsetSeconds (w ++ rest)).map _ = _
      rw [offsetSeconds_shift shift]
      rfl
    · show (offsetSeconds (w ++ rest)).map _ = _
      rw [offsetSeconds_shift shift]
      rfl
  | zulu letter => rcases letter with rfl | rfl <;> rfl

/-- An offset is read behind blanks. -/
theorem offset_spaced {n : Int} {w : List Char} (h : Spaced (WritesOffset n) w)
    (rest : List Char) : offset (trimStart (w ++ rest)) = some (n, rest) := by
  obtain ⟨all, is_offset⟩ := h
  obtain ⟨c, cs, same, -, blank⟩ := is_offset.head
  have read := offset_offset is_offset rest
  rw [List.append_assoc, trimStart_append all]
  rw [same, List.cons_append] at read ⊢
  rw [trimStart_cons blank, read]

/-- An offset is less than a day. -/
theorem natAbs_offset_lt {n : Int} {w : List Char} (h : Spaced (WritesOffset n) w) :
    n.natAbs < 86400 := by
  obtain ⟨-, h⟩ := h
  have shift : ∀ {n w}, WritesShift n w → n < 86400 := by
    rintro _ _ ⟨-, -, within, -, -, -, proper⟩
    omega
  cases h with
  | ahead is_shift => simpa using shift is_shift
  | behind _ is_shift => simpa using shift is_shift
  | zulu => decide

/-! ## Dates and times -/

theorem year_ofYear {m : Nat} (y : Int) (h : 1 ≤ m ∧ m ≤ 12) :
    Month.year (Month.ofYear y m) = y := by
  unfold Month.year Month.ofYear
  omega

theorem number_ofYear {m : Nat} (y : Int) (h : 1 ≤ m ∧ m ≤ 12) :
    Month.number (Month.ofYear y m) = m := by
  unfold Month.number Month.ofYear
  omega

/-- A date that exists and is in the calendar has its number of days since 1970. -/
theorem day?_eq_some {r : Reading} (exist : r.Exists) (within : r.InCalendar) :
    day? r.year r.month r.day =
      some (Month.firstDay (Month.ofYear r.year r.month) + (r.day - 1)) := by
  have length : Month.length (Month.ofYear r.year r.month) = Month.daysIn r.year r.month := by
    rw [Month.length, Month.firstDay_succ_eq, year_ofYear _ exist.month,
      number_ofYear _ exist.month]
    omega
  unfold day?
  rw [if_pos ⟨exist.month.1, exist.month.2, within⟩]
  simp only [length]
  rw [if_pos exist.day, Int.add_sub_assoc]

/-- A date outside the calendar has no number of days. -/
theorem day?_eq_none {r : Reading} (beyond : ¬ r.InCalendar) :
    day? r.year r.month r.day = none :=
  if_neg fun h => beyond ⟨h.2.2.1, h.2.2.2⟩

/-- A date and a time of day denote what a clock shows with them, less the offset. -/
theorem assemble_eq {r : Reading} {day offset : Int} (exist : r.Exists)
    (small : offset.natAbs < 86400) :
    assemble day r.hour r.minute r.second r.nanos offset =
      if (Instant.less ⟨Instant.daySeconds * day + r.secondOfDay, r.nanosOfSecond⟩ offset).InRange
      then some (Instant.less ⟨Instant.daySeconds * day + r.secondOfDay, r.nanosOfSecond⟩ offset)
      else none := by
  have second := exist.second
  have seconds : Instant.daySeconds * day + 3600 * r.hour + 60 * r.minute +
      (r.second - r.second / 60 : Nat) - offset =
        Instant.daySeconds * day + r.secondOfDay - offset := by
    unfold Reading.secondOfDay
    omega
  have nanos : r.nanos + r.second / 60 * 1000000000 = r.nanosOfSecond := by
    unfold Reading.nanosOfSecond
    split <;> omega
  unfold assemble
  rw [if_pos ⟨exist.hour, exist.minute, second, small⟩]
  simp only [seconds, nanos]
  rfl

/-- A step that succeeds hands its result on. -/
theorem bind_of_eq_some {α β : Type} {x : Option α} {a : α} (h : x = some a) (f : α → Option β) :
    (x >>= f) = f a := by
  rw [h]
  rfl

/-- What a text is read as that writes a reading with an offset: the instant where a clock shows the
reading, less the offset, if the calendar has the date and the instant can be represented. -/
theorem read?_writes {r : Reading} {offset : Int} {s : String} {t : Instant}
    (writes : Writes r offset s.toList) (exist : r.Exists) (shown : r.ShownAt t) :
    read? s = if r.InCalendar ∧ (t.less offset).InRange then some (t.less offset) else none := by
  obtain ⟨first, begins, rfl⟩ := shown
  obtain rfl := Month.begins_iff.1 begins
  have dash_stops : '-'.isDigit = false ∧ '-' ≠ '.' := by decide
  have colon_stops : ':'.isDigit = false ∧ ':' ≠ '.' := by decide
  rw [read?]
  generalize s.toList = w at writes
  obtain @⟨date, time, fraction, shift, after, mark, is_date, is_mark, is_time, is_fraction,
    is_offset, blank⟩ := writes
  obtain ⟨is_year, dash, is_month, dash', is_day⟩ := is_date
  obtain ⟨is_hour, colon, is_minute, colon', is_second⟩ := is_time
  rw [List.append_assoc, List.append_assoc, List.append_assoc, List.append_assoc]
  refine (bind_of_eq_some (signedYear_year is_year
    (stops_separator dash dash_stops _).endsDigits) _).trans ?_
  refine (bind_of_eq_some (separator_spaced dash rfl _) _).trans ?_
  refine (bind_of_eq_some (number_short is_month
    (stops_separator dash' dash_stops _).endsDigits) _).trans ?_
  refine (bind_of_eq_some (separator_spaced dash' rfl _) _).trans ?_
  have mark_ends : ∀ rest, Json.EndsDigits (mark :: rest) := by
    rintro rest _ ⟨⟩
    simp only [List.mem_cons, List.not_mem_nil, or_false] at is_mark
    rcases is_mark with rfl | rfl | rfl <;> rfl
  refine (bind_of_eq_some (number_short is_day (mark_ends _)) _).trans ?_
  refine (if_pos (by simpa [Bool.or_eq_true, or_assoc] using is_mark)).trans ?_
  refine (bind_of_eq_some rfl _).trans ?_
  simp only [List.append_assoc]
  refine (bind_of_eq_some (number_short is_hour
    (stops_separator colon colon_stops _).endsDigits) _).trans ?_
  refine (bind_of_eq_some (separator_spaced colon rfl _) _).trans ?_
  refine (bind_of_eq_some (number_short is_minute
    (stops_separator colon' colon_stops _).endsDigits) _).trans ?_
  refine (bind_of_eq_some (separator_spaced colon' rfl _) _).trans ?_
  refine (bind_of_eq_some (number_short is_second
    (stops_fraction is_fraction (stops_offset is_offset _))) _).trans ?_
  refine (bind_of_eq_some (nanoseconds_fraction is_fraction (stops_offset is_offset _)) _).trans ?_
  refine (bind_of_eq_some (offset_spaced is_offset _) _).trans ?_
  by_cases within : r.InCalendar
  · refine (bind_of_eq_some (day?_eq_some exist within) _).trans ?_
    refine (if_pos (by rw [trimStart_blanks blank]; rfl)).trans ?_
    rw [assemble_eq exist (natAbs_offset_lt is_offset)]
    simp only [within, true_and]
  · rw [if_neg fun h => within h.1]
    exact Option.bind_eq_none_iff.2 fun day found => by
      rw [day?_eq_none within] at found
      cases found

/-- The text writes a date and a time of day with an offset, and the instant is where a clock set to
Coordinated Universal Time shows them, less the offset. -/
inductive Denotes (date : String) (reading : Reading) : Instant → Prop where
  | less {offset : Int} {shown : Instant} (writes : Writes reading offset date.toList)
      (exist : reading.Exists) (shown_at : reading.ShownAt shown) :
      Denotes date reading (shown.less offset)

/-- A text that denotes an instant is read as this instant, if local date and instant are in the
calendar. -/
theorem Denotes.read? {date : String} {reading : Reading} {t : Instant}
    (h : Denotes date reading t) :
    read? date = if reading.InCalendar ∧ t.InRange then some t else none := by
  obtain ⟨writes, exist, shown_at⟩ := h
  exact read?_writes writes exist shown_at

end Timestamp

/-! ## The reading of an instant -/

namespace Month

theorem ofYear_year_number (m : Int) : ofYear (year m) (number m) = m := by
  show 12 * (m / 12) + (((m % 12).toNat + 1 : Nat) : Int) - 1 = m
  omega

/-- Representable months have years of the calendar. -/
theorem year_bounds {m : Int} (low : first ≤ m) (high : m ≤ last) :
    -262143 ≤ year m ∧ year m ≤ 262142 := by
  have low : -3145716 ≤ m := low
  have high : m ≤ 3145715 := high
  unfold year
  omega

end Month

namespace Instant

/-- What a calendar and a clock set to Coordinated Universal Time show at an instant that is in no
leap second. -/
def reading (t : Instant) : Reading :=
  let second := (t.seconds % daySeconds).toNat
  { year := t.month.year
    month := t.month.number
    day := (t.seconds / daySeconds - t.month.firstDay + 1).toNat
    hour := second / 3600
    minute := second / 60 % 60
    second := second % 60
    nanos := t.nanos }

/-- The day of an instant lies in its month. -/
theorem day_bounds (t : Instant) : t.month.firstDay ≤ t.seconds / daySeconds ∧
    t.seconds / daySeconds < t.month.firstDay + Month.daysIn t.month.year t.month.number := by
  rw [← Month.firstDay_succ_eq]
  exact Month.ofDay_spec _

/-- The date and time of a representable instant exist. -/
theorem exists_reading (t : Instant) (h : t.Representable) : t.reading.Exists := by
  obtain ⟨first, last⟩ := t.day_bounds
  have second : (t.seconds % daySeconds).toNat < 86400 := by
    unfold daySeconds
    omega
  refine ⟨?_, ?_, ?_, Nat.mod_lt _ (by decide), ?_, h.2.2⟩
  · simp only [reading, Month.number]
    omega
  · simp only [reading]
    omega
  · simp only [reading]
    omega
  · simp only [reading]
    omega

/-- The date of a representable instant is in the calendar. -/
theorem inCalendar_reading (t : Instant) (h : t.Representable) : t.reading.InCalendar := by
  obtain ⟨low, high⟩ := InRange.month ⟨h.1, h.2.1⟩
  exact Month.year_bounds low high

/-- An instant is shown by its own reading. -/
theorem shownAt_reading (t : Instant) : t.reading.ShownAt t := by
  refine ⟨t.month.firstDay, Month.begins_iff.2 (by rw [reading, Month.ofYear_year_number]), ?_⟩
  obtain ⟨first, -⟩ := t.day_bounds
  have second : t.reading.second < 60 := Nat.mod_lt _ (by decide)
  have nanos : t.reading.nanosOfSecond = t.nanos := if_neg (Nat.ne_of_lt second)
  have seconds : daySeconds * (t.month.firstDay + (t.reading.day - 1)) + t.reading.secondOfDay =
      t.seconds := by
    simp only [Reading.secondOfDay, reading, daySeconds] at first ⊢
    omega
  rw [nanos, seconds]

end Instant

namespace Timestamp

/-! ## Printing -/

/-- A year is printed as it is written. -/
theorem writesYear_year (y : Int) : WritesYear y (year y) := by
  unfold year
  split
  next small =>
    have written : WritesYear (y.toNat : Int) (padded 4 y.toNat) :=
      .unsigned (numeral_padded 4 _)
        (Nat.le_of_eq (length_padded (by decide) (by omega)))
    rwa [Int.toNat_of_nonneg small.1] at written
  next =>
    split
    next negative =>
      have written : WritesYear (-(y.natAbs : Int)) ('-' :: padded 4 y.natAbs) :=
        .minus (numeral_padded 4 _)
      rwa [Int.ofNat_natAbs_of_nonpos (Int.le_of_lt negative), Int.neg_neg] at written
    next =>
      have written : WritesYear (y.natAbs : Int) ('+' :: padded 4 y.natAbs) :=
        .plus (numeral_padded 4 _)
      rwa [Int.natAbs_of_nonneg (by omega)] at written

theorem writesShort_padded {n : Nat} (h : n < 100) : Spaced (WritesShort n) (padded 2 n) :=
  .refl ⟨numeral_padded 2 n, Nat.le_of_eq (length_padded (by decide) h)⟩

/-- A date is printed as it is written. -/
theorem writesDate_year {m d : Nat} (y : Int) (month : m < 100) (day : d < 100) :
    WritesDate y m d (year y ++ ('-' :: padded 2 m ++ ('-' :: padded 2 d))) :=
  .parts (.refl (writesYear_year _)) (.refl rfl) (writesShort_padded month) (.refl rfl)
    (writesShort_padded day)

theorem writesTime_padded {h m s : Nat} (hour : h < 100) (minute : m < 100) (second : s < 100) :
    WritesTime h m s (padded 2 h ++ (':' :: padded 2 m ++ (':' :: padded 2 s))) :=
  .parts (writesShort_padded hour) (.refl rfl) (writesShort_padded minute) (.refl rfl)
    (writesShort_padded second)

theorem writesShift_padded {h m : Nat} (hour : h < 24) (minute : m < 60) :
    WritesShift (3600 * h + 60 * m) (padded 2 h ++ ([':'] ++ padded 2 m)) :=
  .parts (numeral_padded 2 h) (length_padded (by decide) (by omega)) hour (by simp)
    (numeral_padded 2 m) (length_padded (by decide) (by omega)) minute

/-- The text is the fraction of a second with so many digits that is exactly so many nanoseconds. -/
inductive WritesExactly (nanos : Nat) : Nat → List Char → Prop where
  | none (whole : nanos = 0) : WritesExactly nanos 0 []
  | digits {n : Nat} {row : List Char} (numeral : Numeral n row)
      (exact : n * 1000000000 = nanos * 10 ^ row.length) :
      WritesExactly nanos row.length ('.' :: row)

/-- A printed fraction is one of the ways to write it. -/
theorem WritesExactly.writesFraction {nanos places : Nat} {w : List Char}
    (h : WritesExactly nanos places w) : WritesFraction nanos w := by
  cases h with
  | none whole =>
    subst whole
    exact .none
  | digits numeral exact =>
    have written := WritesFraction.digits numeral
    rwa [exact, Nat.mul_div_cancel _ (by positivity)] at written

/-- Digits of a fraction that are exact are no fewer than these. -/
theorem WritesExactly.places_pos {nanos places : Nat} {w : List Char}
    (h : WritesExactly nanos places w) (some : nanos ≠ 0) : 0 < places := by
  cases h with
  | none whole => exact absurd whole some
  | digits numeral => exact List.length_pos_of_ne_nil numeral.nonempty

/-- A fraction with few places stands for a multiple of what its last place stands for. -/
theorem WritesExactly.dvd {nanos places : Nat} {w : List Char} (h : WritesExactly nanos places w)
    (within : places ≤ 9) : nanos % 10 ^ (9 - places) = 0 := by
  cases h with
  | none whole => rw [whole, Nat.zero_mod]
  | @digits n row numeral exact =>
    have scale : 1000000000 = 10 ^ (9 - row.length) * 10 ^ row.length := by
      rw [← Nat.pow_add, Nat.sub_add_cancel within]
    rw [scale, ← Nat.mul_assoc] at exact
    rw [← Nat.eq_of_mul_eq_mul_right (by positivity) exact, Nat.mul_mod_left]

/-- A fraction is printed exactly if its places make up for what is left off. -/
theorem writesExactly_padded {n nanos places : Nat} (positive : 0 < places)
    (fits : n < 10 ^ places) (exact : n * 1000000000 = nanos * 10 ^ places) :
    WritesExactly nanos places ('.' :: padded places n) := by
  have length := length_padded positive fits
  have written : WritesExactly nanos _ ('.' :: padded places n) :=
    .digits (numeral_padded places n) (by rwa [length])
  rwa [length] at written

/-- The numbers of digits that a fraction may have. -/
def fractionPlaces : List Nat := [0, 3, 6, 9]

/-- The fraction that is printed is the shortest that is exact. -/
theorem fraction_shortest {nanos : Nat} (h : nanos < 1000000000) :
    ∃ places, IsLeast {k | k ∈ fractionPlaces ∧ ∃ w, WritesExactly nanos k w} places ∧
      WritesExactly nanos places (fraction nanos) := by
  -- a fraction is the shortest if no fraction with fewer places is exact
  have least : ∀ {places w}, places ∈ fractionPlaces → WritesExactly nanos places w →
      (∀ k ∈ fractionPlaces, k < places → ∀ w, ¬ WritesExactly nanos k w) →
      IsLeast {k | k ∈ fractionPlaces ∧ ∃ w, WritesExactly nanos k w} places := by
    intro places w member exact fewer
    refine ⟨⟨member, w, exact⟩, ?_⟩
    rintro k ⟨k_member, w, other⟩
    by_contra less
    exact fewer k k_member (Nat.lt_of_not_le less) w other
  unfold fraction
  split
  next whole => exact ⟨0, least (by decide) (.none whole) (by simp), .none whole⟩
  next some =>
  have not_none : ∀ w, ¬ WritesExactly nanos 0 w := fun w other =>
    Nat.lt_irrefl 0 (other.places_pos some)
  split
  next millis =>
    have exact : WritesExactly nanos 3 ('.' :: padded 3 (nanos / 1000000)) :=
      writesExactly_padded (by decide) (by omega) (by omega)
    exact ⟨3, least (by decide) exact (by simpa [fractionPlaces] using not_none), exact⟩
  next not_millis =>
  have not_three : ∀ w, ¬ WritesExactly nanos 3 w := fun w other =>
    not_millis (other.dvd (by decide))
  split
  next micros =>
    have exact : WritesExactly nanos 6 ('.' :: padded 6 (nanos / 1000)) :=
      writesExactly_padded (by decide) (by omega) (by omega)
    exact ⟨6, least (by decide) exact (by simpa [fractionPlaces] using ⟨not_none, not_three⟩),
      exact⟩
  next not_micros =>
    have not_six : ∀ w, ¬ WritesExactly nanos 6 w := fun w other =>
      not_micros (other.dvd (by decide))
    have exact : WritesExactly nanos 9 ('.' :: padded 9 nanos) :=
      writesExactly_padded (by decide) (by omega) (by omega)
    exact ⟨9, least (by decide) exact
      (by simpa [fractionPlaces] using ⟨not_none, not_three, not_six⟩), exact⟩

/-- What is printed for an instant is its date and time of day, a fraction, and `Z`. -/
theorem render_eq {t : Instant} (h : t.Representable) : (render t).toList =
    (year t.reading.year ++ ('-' :: padded 2 t.reading.month ++ ('-' :: padded 2 t.reading.day))) ++
      'T' :: (padded 2 t.reading.hour ++ (':' :: padded 2 t.reading.minute ++
        (':' :: padded 2 t.reading.second)) ++ (fraction t.nanos ++ ['Z'])) := by
  have whole : t.nanos / 1000000000 = 0 := Nat.div_eq_of_lt h.2.2
  have part : t.nanos % 1000000000 = t.nanos := Nat.mod_eq_of_lt h.2.2
  rw [render, String.toList_ofList]
  simp only [whole, part, Nat.add_zero, List.append_assoc, List.cons_append]
  rfl

/-- The text writes the date and the time of day that a clock shows at the instant, in whole seconds
with a `T` between, then the shortest fraction that is exact, and `Z`. -/
inductive Printed (t : Instant) : List Char → Prop where
  | parts {r : Reading} {date time fraction : List Char} {places : Nat} (exist : r.Exists)
      (shown : r.ShownAt t) (is_date : WritesDate r.year r.month r.day date)
      (is_time : WritesTime r.hour r.minute r.second time)
      (exact : WritesExactly t.nanos places fraction)
      (shortest : IsLeast {k | k ∈ fractionPlaces ∧ ∃ w, WritesExactly t.nanos k w} places) :
      Printed t (date ++ 'T' :: (time ++ (fraction ++ ['Z'])))

section Render

variable {t : Instant} (h : t.Representable)
include h

theorem writesDate_reading : WritesDate t.reading.year t.reading.month t.reading.day
    (year t.reading.year ++ ('-' :: padded 2 t.reading.month ++
      ('-' :: padded 2 t.reading.day))) := by
  obtain ⟨⟨-, month⟩, ⟨-, day⟩, -, -, -, -⟩ := t.exists_reading h
  have short : Month.daysIn t.reading.year t.reading.month ≤ 31 := by
    unfold Month.daysIn
    split <;> (try split) <;> decide
  exact writesDate_year _ (by omega) (by omega)

theorem writesTime_reading : WritesTime t.reading.hour t.reading.minute t.reading.second
    (padded 2 t.reading.hour ++ (':' :: padded 2 t.reading.minute ++
      (':' :: padded 2 t.reading.second))) := by
  obtain ⟨-, -, hour, minute, second, -⟩ := t.exists_reading h
  exact writesTime_padded (by omega) (by omega) (by omega)

/-- An instant is printed with the shortest fraction that is exact. -/
theorem printed_render : Printed t (render t).toList := by
  obtain ⟨places, shortest, exact⟩ := fraction_shortest h.2.2
  rw [render_eq h]
  exact .parts (t.exists_reading h) t.shownAt_reading (writesDate_reading h) (writesTime_reading h)
    exact shortest

/-- What is printed is one of the texts for the reading of the instant, at no offset. -/
theorem writes_render : Writes t.reading 0 (render t).toList := by
  obtain ⟨places, -, exact⟩ := fraction_shortest h.2.2
  rw [render_eq h]
  exact .parts (writesDate_reading h) (by simp) (writesTime_reading h) exact.writesFraction
    (.refl (.zulu (.inl rfl))) blanks_nil

/-- What is printed is read back. -/
theorem read?_render : read? (render t) = some t := by
  have read := read?_writes (writes_render h) (t.exists_reading h) t.shownAt_reading
  have same : t.less 0 = t := by rw [Instant.less, Int.sub_zero]
  rw [read, same, if_pos ⟨t.inCalendar_reading h, h.1, h.2.1⟩]

end Render

end Timestamp

end UsageBilling.Calendar
