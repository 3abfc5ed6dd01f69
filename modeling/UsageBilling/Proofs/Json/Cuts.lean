import UsageBilling.Proofs.Json.Values

/-!
# Written values that break off

A written value that breaks off is never taken for another one, as long as more is
to come behind it: the reader comes to the end of the text. Only a number may be
read from its first digits, and then the reader stands at the end of the text just
as well, so inside brackets the text is too short all the same.
-/

namespace UsageBilling.Json

open Text (decimal)

variable {α β σ : Type}

/-! ## Texts that break off -/

/-- The text is the beginning of the other one, but not all of it. -/
def CutOff (part w : List Char) : Prop :=
  part <+: w ∧ part ≠ w

theorem not_cutOff_nil (part : List Char) : ¬ CutOff part [] := by
  rintro ⟨beginning, proper⟩
  exact proper (List.prefix_nil.1 beginning)

/-- A text breaks off before its first character or behind it. -/
theorem CutOff.cons {part w : List Char} {c : Char} (h : CutOff part (c :: w)) :
    part = [] ∨ ∃ rest, part = c :: rest ∧ CutOff rest w := by
  obtain ⟨beginning, proper⟩ := h
  cases part with
  | nil => exact .inl rfl
  | cons d rest =>
    obtain ⟨rfl, inside⟩ := List.cons_prefix_cons.1 beginning
    exact .inr ⟨rest, rfl, inside, fun same => proper (by rw [same])⟩

/-- A text of two parts breaks off inside the first or inside the second. -/
theorem CutOff.append {part a b : List Char} (h : CutOff part (a ++ b)) :
    CutOff part a ∨ ∃ rest, part = a ++ rest ∧ CutOff rest b := by
  induction a generalizing part with
  | nil => exact .inr ⟨part, rfl, h⟩
  | cons c a ih =>
    rcases h.cons with rfl | ⟨rest, rfl, cut⟩
    · exact .inl ⟨List.nil_prefix, by simp⟩
    · rcases ih cut with inside | ⟨rest, rfl, behind⟩
      · exact .inl ⟨List.cons_prefix_cons.2 ⟨rfl, inside.1⟩,
          fun same => inside.2 (List.cons.inj same).2⟩
      · exact .inr ⟨rest, rfl, behind⟩

theorem CutOff.singleton {part : List Char} {c : Char} (h : CutOff part [c]) : part = [] := by
  rcases h.cons with rfl | ⟨rest, -, cut⟩
  · rfl
  · exact absurd cut (not_cutOff_nil rest)

/-- The reader comes to the end of the text wherever the value breaks off. -/
def Starves (read : Reader α) (w : List Char) : Prop :=
  ∀ part, CutOff part w → read part = .error .truncated

/-- The reader comes to the end of the text wherever the value breaks off, if with a value then
with nothing left. -/
def Awaits (read : Reader α) (w : List Char) : Prop :=
  ∀ part, CutOff part w → read part = .error .truncated ∨ ∃ a, read part = .ok (a, [])

theorem Starves.awaits {read : Reader α} {w : List Char} (h : Starves read w) : Awaits read w :=
  fun part cut => .inl (h part cut)

/-- What is made of the values that a reader takes is awaited just so. -/
theorem Awaits.map {read : Reader α} {read' : Reader β} {f : α → β} {w : List Char}
    (h : Awaits read w) (same : ∀ cs, read' cs = (read cs).map (Prod.map f id)) :
    Awaits read' w := by
  intro part cut
  rw [same]
  rcases h part cut with fault | ⟨a, taken⟩
  · rw [fault]
    exact .inl rfl
  · rw [taken]
    exact .inr ⟨f a, rfl⟩

/-! ## Strings -/

theorem CutOff.length_lt {part w : List Char} (h : CutOff part w) : part.length < w.length :=
  Nat.lt_of_le_of_ne h.1.length_le fun same => h.2 (h.1.eq_of_length same)

/-- An escape of one octet to each character that is too short for a unit. -/
theorem shortEscape_octets {part : List Char} (octets : ∀ c ∈ part, c.utf8Size = 1)
    (short : part.length < 4) : shortEscape part = .truncated := by
  have size : ∀ {cs : List Char}, (∀ c ∈ cs, c.utf8Size = 1) →
      (String.ofList cs).utf8ByteSize = cs.length := by
    intro cs octets
    induction cs with
    | nil => rfl
    | cons c cs ih =>
      rw [String.ofList_cons, String.utf8ByteSize_append, String.utf8ByteSize_singleton,
        octets c (by simp), ih fun d member => octets d (by simp [member]), List.length_cons]
      omega
  rw [shortEscape, size octets, if_pos short]

/-- Four hexadecimal digits are four octets. -/
theorem HexDigits.octets {n : Nat} {ds : List Char} (digits : HexDigits n ds) :
    ds.length = 4 ∧ ∀ d ∈ ds, d.utf8Size = 1 := by
  have octet : ∀ {value : Nat} {d : Char}, value < 16 → HexDigit value d → d.utf8Size = 1 := by
    have lower : ∀ value, value < 16 → (hexDigit value).utf8Size = 1 := by decide
    have upper : ∀ value, value < 16 → (hexDigit value).toUpper.utf8Size = 1 := by decide
    rintro value d small (rfl | rfl)
    · exact lower value small
    · exact upper value small
  cases digits with
  | four small first second third fourth =>
    refine ⟨rfl, ?_⟩
    simp only [List.forall_mem_cons]
    exact ⟨octet (by omega) first, octet (by omega) second, octet (by omega) third,
      octet (by omega) fourth, by rintro _ ⟨⟩⟩

/-- A unit breaks off inside its digits. -/
theorem HexDigits.cutOff {n : Nat} {ds part : List Char} (digits : HexDigits n ds)
    (cut : CutOff part ds) : part.length < 4 ∧ shortEscape part = .truncated := by
  obtain ⟨length, octets⟩ := digits.octets
  have shorter := cut.length_lt
  exact ⟨by omega, shortEscape_octets (fun c member => octets c (cut.1.subset member)) (by omega)⟩

/-- An escape that breaks off within its digits is too short for a unit. -/
theorem stringBody_short {part : List Char} (short : part.length < 4) :
    stringBody ('\\' :: 'u' :: part) = .error (shortEscape part) := by
  match part, short with
  | [], _ | [_], _ | [_, _], _ | [_, _, _], _ => rfl

/-- The second unit of a character is missing, or breaks off. -/
theorem stringBody_half {n : Nat} {high part : List Char} (high_digits : HexDigits n high)
    (is_high : isHighSurrogate n = true) (short : part.length < 6) :
    stringBody ('\\' :: 'u' :: (high ++ part)) = .error (missingLowSurrogate part) := by
  obtain ⟨a, b, c, d, rfl, value⟩ := high_digits.value
  simp only [List.cons_append, List.nil_append, stringBody, value, is_high,
    not_low_of_high is_high, Bool.false_eq_true, if_false, if_true]
  split
  · simp at short
    omega
  · rfl

/-- A character that breaks off within its escape ends the text. -/
theorem SpelledAs.cutOff {c : Char} {front part : List Char} (h : SpelledAs c front)
    (cut : CutOff part front) : stringBody part = .error .truncated := by
  cases h with
  | plain => rw [cut.singleton]; rfl
  | letter =>
    rcases cut.cons with rfl | ⟨rest, rfl, behind⟩
    · rfl
    · rw [behind.singleton]; rfl
  | unit digits =>
    rcases cut.cons with rfl | ⟨rest, rfl, behind⟩
    · rfl
    rcases behind.cons with rfl | ⟨part, rfl, inside⟩
    · rfl
    obtain ⟨short, fault⟩ := digits.cutOff inside
    rw [stringBody_short short, fault]
  | pair wide high_digits low_digits =>
    have range := toNat_bounds c
    have is_high : isHighSurrogate (0xD800 + (c.toNat - 0x10000) / 0x400) = true := by
      simp [isHighSurrogate]; omega
    rcases cut.cons with rfl | ⟨rest, rfl, behind⟩
    · rfl
    rcases behind.cons with rfl | ⟨part, rfl, inside⟩
    · rfl
    rcases inside.append with first | ⟨half, rfl, second⟩
    · obtain ⟨short, fault⟩ := high_digits.cutOff first
      rw [stringBody_short short, fault]
    · have shorter := second.length_lt
      have length := low_digits.octets.1
      rw [stringBody_half high_digits is_high (by simp at shorter; omega)]
      rcases second.cons with rfl | ⟨rest, rfl, third⟩
      · rfl
      rcases third.cons with rfl | ⟨part, rfl, digits⟩
      · rfl
      · rw [missingLowSurrogate, (low_digits.cutOff digits).2]

/-- The contents of a string break off, if only before the closing quote. -/
theorem Spells.cutOff {s body part : List Char} (h : Spells s body)
    (cut : CutOff part (body ++ ['"'])) : stringBody part = .error .truncated := by
  induction h generalizing part with
  | done => rw [cut.singleton]; rfl
  | char first _ ih =>
    rw [List.append_assoc] at cut
    rcases cut.append with inside | ⟨rest, rfl, behind⟩
    · exact first.cutOff inside
    · rw [stringBody_spelled first, ih behind]
      rfl

/-- A string is not taken before its closing quote. -/
theorem text_starves {s : String} {w : List Char} (h : WritesString s w) : Starves text w := by
  obtain ⟨body, spells, rfl⟩ := h
  intro part cut
  rcases cut.cons with rfl | ⟨rest, rfl, behind⟩
  · rfl
  · rw [text, skipBlanks_cons rfl]
    show (stringBody rest >>= _) = _
    rw [spells.cutOff behind]
    rfl

/-! ## Whole numbers -/

/-- The first digits of a number are a number themselves. -/
theorem decimal_cutOff {n : Nat} {part : List Char} (cut : CutOff part (decimal n)) :
    part = [] ∨ ∃ m, 0 < m ∧ m ≤ n ∧ part = decimal m := by
  induction n using Nat.strongRecOn generalizing part with
  | ind n ih =>
    by_cases small : n < 10
    · rw [decimal, Nat.toDigits_of_lt_base small] at cut
      exact .inl cut.singleton
    · rw [decimal, Nat.toDigits_of_base_le (by decide) (by omega)] at cut
      rcases cut.append with inside | ⟨rest, rfl, behind⟩
      · rcases ih (n / 10) (by omega) inside with rfl | ⟨m, positive, within, rfl⟩
        · exact .inl rfl
        · exact .inr ⟨m, positive, by omega, rfl⟩
      · rw [behind.singleton, List.append_nil]
        exact .inr ⟨n / 10, by omega, by omega, rfl⟩

/-- A whole number that breaks off is too short, or read as the number of its first digits. -/
theorem integerBetween_awaits {lo hi n : Int} (low : -9223372036854775808 ≤ lo)
    (high : hi ≤ wordLimit) (lo_zero : lo ≤ 0) (zero_hi : 0 ≤ hi) (lo_le : lo ≤ n) (le_hi : n ≤ hi) :
    Awaits (integerBetween lo hi) (integer n) := by
  have taken : ∀ m, lo ≤ m → m ≤ hi → ∃ a, integerBetween lo hi (integer m) = .ok (a, []) := by
    intro m lo_le le_hi
    have read := integerBetween_integer (by omega) (by omega) lo_le le_hi endsNumber_nil
    rw [List.append_nil] at read
    exact ⟨m, read⟩
  intro part cut
  cases n with
  | ofNat n =>
    rcases decimal_cutOff cut with rfl | ⟨m, positive, within, rfl⟩
    · exact .inl rfl
    · exact .inr (taken m (by omega) (by simp at le_hi; omega))
  | negSucc n =>
    rcases cut.cons with rfl | ⟨rest, rfl, behind⟩
    · exact .inl rfl
    rcases decimal_cutOff behind with rfl | ⟨m, positive, within, rfl⟩
    · exact .inl rfl
    · obtain ⟨m, rfl⟩ := Nat.exists_eq_succ_of_ne_zero (by omega : m ≠ 0)
      exact .inr (taken (.negSucc m) (by omega) (by omega))

theorem word_awaits (n : UInt64) : Awaits word (integer n.toNat) := by
  have bound := n.toNat_lt
  refine (integerBetween_awaits ?_ ?_ ?_ ?_ ?_ ?_).map word_eq
  all_goals simp [wordLimit]
  all_goals omega

theorem signedWord_awaits (n : Int64) : Awaits signedWord (integer n.toInt) := by
  have low := n.le_toInt
  have high := n.toInt_lt
  refine (integerBetween_awaits ?_ ?_ ?_ ?_ (Int64.minValue_le_toInt n)
    (Int64.toInt_le n)).map signedWord_eq
  all_goals decide

/-! ## Lists -/

theorem EndsNumber.beginning {part w : List Char} (h : EndsNumber w) (beginning : part <+: w) :
    EndsNumber part := by
  cases part with
  | nil => exact endsNumber_nil
  | cons c part =>
    obtain ⟨rest, rfl⟩ := beginning
    exact h

/-- What stands in front of an item: a comma unless it is the first. -/
def mark (isFirst : Bool) : List Char :=
  if isFirst then [] else [',']

section Lists

variable {read : Reader α} {isFirst : Bool} {a : α} {w behind part : List Char} {fuel : Nat}

theorem nextElement_mark {c : Char} (rest : List Char) (blank : isBlank c = false)
    (bracket : c ≠ ']') : nextElement isFirst (mark isFirst ++ c :: rest) = .ok (true, c :: rest) := by
  cases isFirst with
  | true => exact nextElement_first (skipBlanks_cons blank) bracket
  | false => exact nextElement_comma (skipBlanks_cons blank) bracket

/-- A list that goes on is not taken at the end of the text. -/
theorem items_end (read : Reader α) (fuel : Nat) (isFirst : Bool) :
    items read fuel isFirst [] = .error .truncated := by
  cases fuel <;> rfl

/-- The text breaks off inside an item, or behind it. -/
theorem items_item_cutOff (reads : Reads read w a) (awaits : Awaits read w)
    (starts : StartsValue w) (ends : EndsNumber behind)
    (later : ∀ fuel part, CutOff part behind → items read fuel false part = .error .truncated)
    (cut : CutOff part (w ++ behind)) :
    items read fuel isFirst (mark isFirst ++ part) = .error .truncated := by
  cases fuel with
  | zero => rfl
  | succ fuel =>
    obtain ⟨c, cs, rfl, blank, bracket⟩ := starts
    cases part with
    | nil => cases isFirst <;> rfl
    | cons d rest =>
      obtain ⟨rfl, -⟩ := List.cons_prefix_cons.1 cut.1
      rw [items_some fuel (nextElement_mark rest blank bracket)]
      rcases cut.append with inside | ⟨left, split, tail⟩
      · rcases awaits _ inside with fault | ⟨a, taken⟩
        · rw [fault]
          rfl
        · rw [taken]
          show (items read fuel false []).map _ = _
          rw [items_end]
          rfl
      · rw [split, reads left (ends.beginning tail.1)]
        show (items read fuel false left).map _ = _
        rw [later fuel left tail]
        rfl

/-- The items of a list that breaks off between or within them are not taken. -/
theorem items_cutOff {values : List α} {written : List (List Char)}
    (reads : List.Forall₂ (fun a w => Reads read w a ∧ Awaits read w ∧ StartsValue w)
      values written) (fuel : Nat) (part : List Char)
    (cut : CutOff part (further written ++ [']'])) :
    items read fuel false part = .error .truncated := by
  induction reads generalizing fuel part with
  | nil => rw [cut.singleton, items_end]
  | @cons a w values written first others ih =>
    obtain ⟨reads, awaits, starts⟩ := first
    rw [further_cons, List.cons_append, List.append_assoc] at cut
    rcases cut.cons with rfl | ⟨rest, rfl, inside⟩
    · exact items_end read fuel false
    · exact items_item_cutOff reads awaits starts (endsNumber_further written [] (.inl rfl)) ih inside

/-- A list is not taken before its bracket is closed. -/
theorem listOf_starves {values : List α} {written : List (List Char)}
    (reads : List.Forall₂ (fun a w => Reads read w a ∧ Awaits read w ∧ StartsValue w)
      values written) : Starves (listOf read) (array written) := by
  intro part cut
  rcases cut.cons with rfl | ⟨rest, rfl, inside⟩
  · rfl
  rw [listOf, skipBlanks_cons rfl]
  show items read (rest.length + 1) true rest = _
  cases reads with
  | nil => rw [inside.singleton, items_end]
  | @cons a w values written first others =>
    obtain ⟨reads, awaits, starts⟩ := first
    rw [separated_cons, List.append_assoc] at inside
    exact items_item_cutOff reads awaits starts (endsNumber_further written [] (.inl rfl))
      (items_cutOff others) inside

end Lists

/-! ## Objects -/

/-- A member as it is written. -/
def writtenMember (m : String × List Char) : List Char :=
  string m.1 ++ ':' :: m.2

section Objects

variable {fields : List (Field σ)} {field : Field σ} {draft next : σ} {name : String}
  {value behind part : List Char} {fuel : Nat} {isFirst : Bool}

theorem required_awaits {β : Type} {get : σ → Option β} {set : σ → β → σ} {read : Reader β}
    {w : List Char} (awaits : Awaits read w) :
    Awaits ((Field.required name get set read).read draft) w :=
  awaits.map required_eq

theorem members_end (fields : List (Field σ)) (fuel : Nat) (isFirst : Bool) (draft : σ) :
    members fields fuel isFirst draft [] = .error .truncated := by
  cases fuel <;> rfl

theorem namedMember_string (rest : List Char) :
    namedMember fields draft (string name ++ rest) = member fields name draft rest := by
  rw [string, List.cons_append, List.append_assoc]
  show (stringBody (name.toList.flatMap escapeChar ++ '"' :: rest) >>= _) = _
  rw [stringBody_spells (spells_escaped name.toList)]
  show member fields (String.ofList name.toList) draft rest = _
  rw [String.ofList_toList]

/-- The text breaks off inside the name of a member. -/
theorem namedMember_cutOff (cut : CutOff part (string name)) :
    namedMember fields draft part = .error .truncated := by
  rcases cut.cons with rfl | ⟨rest, rfl, inside⟩
  · rfl
  · show (stringBody rest >>= _) = _
    rw [(spells_escaped name.toList).cutOff inside]
    rfl

/-- The text breaks off inside a member, or behind it. -/
theorem member_cutOff (known : fields.find? (fun f => f.name = name) = some field)
    (unset : field.isSet draft = false) (reads : Reads (field.read draft) value next)
    (awaits : Awaits (field.read draft) value) (ends : EndsNumber behind)
    (later : ∀ fuel part, CutOff part behind →
      members fields fuel false next part = .error .truncated)
    (cut : CutOff part (writtenMember (name, value) ++ behind)) :
    (namedMember fields draft part >>= fun x => members fields fuel false x.1 x.2) =
      .error .truncated := by
  rw [writtenMember, List.append_assoc, List.cons_append] at cut
  rcases cut.append with inside | ⟨rest, rfl, at_colon⟩
  · rw [namedMember_cutOff inside]
    rfl
  rw [namedMember_string, member, known]
  simp only [unset, Bool.false_eq_true, if_false]
  rcases at_colon.cons with rfl | ⟨rest, rfl, at_value⟩
  · rfl
  have colon : colon (':' :: rest) = .ok rest := colon_blanks blanks_nil rest
  simp only [colon]
  show (field.read draft rest >>= fun x => members fields fuel false x.1 x.2) = _
  rcases at_value.append with inside | ⟨rest, rfl, tail⟩
  · rcases awaits _ inside with fault | ⟨other, taken⟩
    · rw [fault]
      rfl
    · rw [taken]
      exact members_end fields fuel false other
  · rw [reads rest (ends.beginning tail.1)]
    exact later fuel rest tail

/-- An object that breaks off within a member or behind it is not taken. -/
theorem members_member_cutOff (known : fields.find? (fun f => f.name = name) = some field)
    (unset : field.isSet draft = false) (reads : Reads (field.read draft) value next)
    (awaits : Awaits (field.read draft) value) (ends : EndsNumber behind)
    (later : ∀ fuel part, CutOff part behind →
      members fields fuel false next part = .error .truncated)
    (cut : CutOff part (writtenMember (name, value) ++ behind)) :
    members fields fuel isFirst draft (mark isFirst ++ part) = .error .truncated := by
  cases fuel with
  | zero => rfl
  | succ fuel =>
    have step : members fields (fuel + 1) isFirst draft (mark isFirst ++ part) =
        namedMember fields draft part >>= fun x => members fields fuel false x.1 x.2 := by
      cases part with
      | nil => cases isFirst <;> rfl
      | cons c rest =>
        obtain ⟨rfl, -⟩ := List.cons_prefix_cons.1 cut.1
        cases isFirst with
        | true => exact members_first (skipBlanks_cons rfl) fuel
        | false => exact members_comma fuel draft ('"' :: rest)
    rw [step]
    exact member_cutOff known unset reads awaits ends later cut

/-- Wherever the value of a field may stand, its reader comes to the end of the text. -/
def AllAwait (fields : List (Field σ)) (ms : List (String × List Char)) : Prop :=
  ∀ m ∈ ms, ∀ field, fields.find? (fun f => f.name = m.1) = some field →
    ∀ draft, Awaits (field.read draft) m.2

/-- The members of an object that breaks off are not taken. -/
theorem members_cutOff {final : σ} {ms : List (String × List Char)}
    (collects : Collects fields draft ms final) (await : AllAwait fields ms) (fuel : Nat)
    (part : List Char) (cut : CutOff part (further (ms.map writtenMember) ++ ['\x7d'])) :
    members fields fuel false draft part = .error .truncated := by
  induction collects generalizing fuel part with
  | done draft => rw [cut.singleton, members_end]
  | @member draft next final name value ms field known unset reads others ih =>
    rw [List.map_cons, further_cons, List.cons_append, List.append_assoc] at cut
    rcases cut.cons with rfl | ⟨rest, rfl, inside⟩
    · exact members_end fields fuel false draft
    · have awaits := await (name, value) (by simp) field known draft
      exact members_member_cutOff known unset reads awaits (endsNumber_further _ [] (.inr rfl))
        (ih fun m member => await m (by simp [member])) inside

/-- A record is not taken before its bracket is closed. -/
theorem record_starves {blank final : σ} {finish : σ → Option α} {ms : List (String × List Char)}
    (collects : Collects fields blank ms final) (await : AllAwait fields ms) :
    Starves (record fields blank finish) (object ms) := by
  intro part cut
  rcases cut.cons with rfl | ⟨rest, rfl, inside⟩
  · rfl
  have starved : members fields (rest.length + 1) true blank rest = .error .truncated := by
    change CutOff rest (separated (ms.map writtenMember) ++ ['\x7d']) at inside
    cases collects with
    | done => rw [inside.singleton, members_end]
    | @member _ next _ name value ms field known unset reads others =>
      rw [List.map_cons, separated_cons, List.append_assoc] at inside
      have awaits := await (name, value) (by simp) field known blank
      exact members_member_cutOff known unset reads awaits (endsNumber_further _ [] (.inr rfl))
        (members_cutOff others fun m member => await m (by simp [member])) inside
  rw [record, skipBlanks_cons rfl]
  show (members fields (rest.length + 1) true blank rest >>= _) = _
  rw [starved]
  rfl

end Objects

/-! ## Whole texts -/

/-- A text that breaks off within its value is too short. -/
theorem decode_starves {read : Reader α} {w : List Char} (h : Starves read w) (s : String)
    (cut : CutOff s.toList w) : decode read s = .error .truncated := by
  rw [decode, h _ cut]
  rfl

/-- What is no blank must not stand behind the value. -/
theorem decode_overlong {read : Reader α} {s : String} {a : α} {rest : List Char}
    (taken : read s.toList = .ok (a, rest)) (more : ∃ c ∈ rest, isBlank c = false) :
    decode read s = .error .malformed := by
  obtain ⟨c, member, visible⟩ := more
  have left : skipBlanks rest ≠ [] := by
    intro blank
    have hidden := List.dropWhile_eq_nil_iff.1 blank c member
    rw [visible] at hidden
    cases hidden
  obtain ⟨d, ds, left⟩ := List.exists_cons_of_ne_nil left
  simp only [decode, taken, bind, Except.bind, left]

end UsageBilling.Json
