import UsageBilling.Json.Record
import UsageBilling.Proofs.Json.Layouts

/-!
# Written values are read back

The writer has one layout of its own, without blanks and with few escapes. So a
written string is read back, and if every item of a list, or every member of an
object, is read back, so is the whole. The fields of an object are collected one
after another in a draft; `Collects` follows the draft through the members in the
order in which they are written.
-/

namespace UsageBilling.Json

variable {α σ : Type}

/-! ## Strings -/

/-- The printer escapes a character in one of its spellings. -/
theorem spelledAs_escapeChar (c : Char) : SpelledAs c (escapeChar c) := by
  unfold escapeChar
  split
  · subst_vars; exact .letter .quote
  split
  · subst_vars; exact .letter .backslash
  split
  · subst_vars; exact .letter .lineFeed
  split
  · subst_vars; exact .letter .carriageReturn
  split
  · subst_vars; exact .letter .tab
  split
  next h => rw [eq_ofNat_of_toNat_eq h]; exact .letter .backspace
  split
  next h => rw [eq_ofNat_of_toNat_eq h]; exact .letter .formFeed
  split
  next h =>
    have zero : '0' = hexDigit 0 := rfl
    refine .unit (.four (by omega) (.inl ?_) (.inl ?_) (.inl ?_) (.inl ?_))
    · rw [zero]; congr 1; omega
    · rw [zero]; congr 1; omega
    · congr 1; omega
    · rfl
  next quote backslash _ _ _ _ _ h => exact .plain quote backslash (by omega)

theorem spells_escaped (s : List Char) : Spells s (s.flatMap escapeChar) := by
  induction s with
  | nil => exact .done
  | cons c s ih =>
    rw [List.flatMap_cons]
    exact .char (spelledAs_escapeChar c) ih

theorem writesString_string (s : String) : WritesString s (string s) :=
  ⟨_, spells_escaped s.toList, rfl⟩

/-- A printed string is read back. -/
theorem text_reads (s : String) : Reads text (string s) s :=
  text_reads_string (writesString_string s)

/-- A string is a value, however it is spelled. -/
theorem WritesString.isValue {s : String} {w : List Char} (h : WritesString s w) : IsValue w := by
  obtain ⟨body, spells, rfl⟩ := h
  exact .string spells.isBody

/-! ## Whole numbers -/

/-- A number is printed without leading zeros. -/
theorem isWhole_decimal (n : Nat) : IsWhole (Text.decimal n) := by
  rcases Nat.eq_zero_or_pos n with rfl | positive
  · exact .zero
  · obtain ⟨c, cs, same, nonzero⟩ := head_decimal_ne_zero positive
    have all : ∀ d ∈ Text.decimal n, d.isDigit = true := fun d => isDigit_of_mem_decimal
    rw [same] at all ⊢
    exact .positive nonzero ⟨by simp, all⟩

/-- A whole number is printed as a number. -/
theorem isNumber_integer (n : Int) : IsNumber (integer n) := by
  have magnitude : ∀ n, IsMagnitude (Text.decimal n) := by
    intro n
    have parts := IsMagnitude.parts (isWhole_decimal n) .absent .absent
    rwa [List.append_nil, List.append_nil] at parts
  cases n with
  | ofNat n => exact .unsigned (magnitude n)
  | negSucc n => exact .negative (magnitude (n + 1))

/-! ## Lists -/

/-- Items that are written are listed. -/
theorem listed_separated {item : α → List Char → Prop} {as : List α} {ws : List (List Char)}
    (written : List.Forall₂ item as ws) : Listed item as (separated ws) := by
  cases written with
  | nil => exact .nothing blanks_nil
  | cons first others => exact .items (by simp) (.cons first others)

theorem writesList_array (ws : List (List Char)) : WritesList ws (array ws) :=
  ⟨_, listed_separated (List.forall₂_same.2 fun w _ => Padded.refl w), rfl⟩

theorem allSome_map_some (as : List α) : (as.map some).allSome = some as := by
  induction as with
  | nil => rfl
  | cons a as ih =>
    rw [List.map_cons, allSome_cons, ih]
    rfl

/-- A written list is read back if its items are. -/
theorem listOf_reads {read : Reader α} {values : List α} {written : List (List Char)}
    (reads : List.Forall₂ (fun a w => Reads read w a ∧ StartsValue w) values written) :
    Reads (listOf read) (array written) values := by
  rw [reads_iff_outcome, ← allSome_map_some values]
  refine listOf_outcome (writesList_array written) ?_ ?_
  · intro w member
    obtain ⟨a, -, -, starts⟩ := exists_of_forall₂_right reads member
    exact starts
  · rw [List.forall₂_map_right_iff]
    exact reads.flip.imp fun w a both => reads_iff_outcome.1 both.1

/-! ## Objects -/

/-- The members turn one draft into another: each has the name of a field that the draft does not
have yet, and a value that the field reads. -/
inductive Collects (fields : List (Field σ)) : σ → List (String × List Char) → σ → Prop where
  | done (draft : σ) : Collects fields draft [] draft
  | member {draft next final : σ} {name : String} {value : List Char}
      {members : List (String × List Char)} {field : Field σ}
      (known : fields.find? (fun f => f.name = name) = some field)
      (unset : field.isSet draft = false) (reads : Reads (field.read draft) value next)
      (others : Collects fields next members final) :
      Collects fields draft ((name, value) :: members) final

theorem required_eq {β : Type} {name : String} {get : σ → Option β} {set : σ → β → σ}
    {read : Reader β} {draft : σ} (cs : List Char) :
    (Field.required name get set read).read draft cs =
      (read cs).map (Prod.map (set draft) id) := by
  simp only [Field.required]
  cases read cs <;> rfl

/-- A required field is read from what its value is read from. -/
theorem required_reads {β : Type} {name : String} {get : σ → Option β} {set : σ → β → σ}
    {read : Reader β} {draft : σ} {written : List Char} {b : β} (reads : Reads read written b) :
    Reads ((Field.required name get set read).read draft) written (set draft b) := by
  rw [reads_iff_outcome] at reads ⊢
  exact reads.map required_eq

theorem required_blind {β : Type} {name : String} {get : σ → Option β} {set : σ → β → σ}
    {read : Reader β} {draft : σ} (blind : Blind read) :
    Blind ((Field.required name get set read).read draft) :=
  blind.map required_eq

theorem required_decides {β : Type} {name : String} {get : σ → Option β} {set : σ → β → σ}
    {read : Reader β} {draft : σ} (decides : Decides read) :
    Decides ((Field.required name get set read).read draft) :=
  decides.map required_eq

/-- A required field that is read changes the draft by its value. -/
theorem required_ok {β : Type} {name : String} {get : σ → Option β} {set : σ → β → σ}
    {read : Reader β} {draft next : σ} {cs rest : List Char}
    (h : (Field.required name get set read).read draft cs = .ok (next, rest)) :
    ∃ b, next = set draft b := by
  rw [required_eq] at h
  cases taken : read cs with
  | error fault => rw [taken] at h; cases h
  | ok x =>
    rw [taken] at h
    cases h
    exact ⟨x.1, rfl⟩

theorem orNull_reads_null {read : Reader α} : Reads (orNull read) "null".toList none := by
  intro rest _
  rfl

/-- What is not `null` is read as it is without the choice. -/
theorem orNull_reads {read : Reader α} {c : Char} {cs : List Char} {a : α}
    (reads : Reads read (c :: cs) a) (blank : isBlank c = false) (word : c ≠ 'n') :
    Reads (orNull read) (c :: cs) (some a) := by
  intro rest ends
  have read := reads rest ends
  rw [List.cons_append] at read ⊢
  rw [orNull, skipBlanks_cons blank]
  split
  next same => exact absurd (List.cons.inj same).1 word
  next => rw [read]; rfl

theorem orNull_blind (read : Reader α) : Blind (orNull read) := by
  intro blanks cs h
  simp only [orNull, skipBlanks_append h]

theorem nullable_eq {β : Type} {name : String} {get : σ → Option (Option β)}
    {set : σ → Option β → σ} {read : Reader β} {draft : σ} (cs : List Char) :
    (Field.nullable name get set read).read draft cs =
      (orNull read cs).map (Prod.map (set draft) id) := by
  simp only [Field.nullable]
  cases orNull read cs <;> rfl

/-- A field that may be null is read from null, or from what its value is read from. -/
theorem nullable_reads {β : Type} {name : String} {get : σ → Option (Option β)}
    {set : σ → Option β → σ} {read : Reader β} {draft : σ} {written : List Char} {b : Option β}
    (reads : Reads (orNull read) written b) :
    Reads ((Field.nullable name get set read).read draft) written (set draft b) := by
  rw [reads_iff_outcome] at reads ⊢
  exact reads.map nullable_eq

theorem nullable_blind {β : Type} {name : String} {get : σ → Option (Option β)}
    {set : σ → Option β → σ} {read : Reader β} {draft : σ} :
    Blind ((Field.nullable name get set read).read draft) :=
  (orNull_blind read).map nullable_eq

/-- A member as the writer spells it. -/
def escapedMember (m : String × List Char) : List Char × List Char :=
  (m.1.toList.flatMap escapeChar, m.2)

/-- The members of an object are printed as members, their names escaped. -/
theorem writesMembers_object (ms : List (String × List Char)) :
    WritesMembers (ms.map escapedMember) (object ms) := by
  refine ⟨_, listed_separated ?_, rfl⟩
  rw [List.forall₂_map_left_iff, List.forall₂_map_right_iff, List.forall₂_same]
  exact fun m _ => ⟨_, _, .refl _, .refl _, rfl⟩

theorem writesObject_object (ms : List (String × List Char)) : WritesObject ms (object ms) := by
  refine ⟨ms.map escapedMember, ?_, writesMembers_object ms⟩
  rw [List.forall₂_map_right_iff, List.forall₂_same]
  exact fun m _ => ⟨spells_escaped m.1.toList, rfl⟩

/-- Members that are read one after another are gathered, their names escaped. -/
theorem Collects.gathers {fields : List (Field σ)} {draft final : σ}
    {ms : List (String × List Char)} (collects : Collects fields draft ms final) :
    Gathers fields draft (ms.map escapedMember) (some final) := by
  induction collects with
  | done draft => exact .done draft
  | member known unset reads _ ih =>
    exact .member (.field (spells_escaped _) known unset (reads_iff_outcome.1 reads)) ih

/-- A written object is read back as the value of the draft that its members make, whatever comes
behind it. -/
theorem record_reads_append {fields : List (Field σ)} {blank : σ} {finish : σ → Option α}
    {value : α} (final : σ) {ms : List (String × List Char)}
    (collects : Collects fields blank ms final)
    (blind : ∀ field ∈ fields, ∀ draft, Blind (field.read draft))
    (finished : finish final = some value) (rest : List Char) :
    record fields blank finish (object ms ++ rest) = .ok (value, rest) := by
  have read : (record fields blank finish (object ms ++ rest)).toOption = _ :=
    record_members_append (writesMembers_object ms) collects.gathers blind rest
  rw [Option.bind_some, finished] at read
  exact toOption_eq_some.1 read

/-- A record is read from the object that is printed for it. -/
theorem record_reads {fields : List (Field σ)} {blank : σ} {finish : σ → Option α}
    {value : α} (final : σ) {ms : List (String × List Char)}
    (collects : Collects fields blank ms final)
    (blind : ∀ field ∈ fields, ∀ draft, Blind (field.read draft))
    (finished : finish final = some value) :
    Reads (record fields blank finish) (object ms) value :=
  fun rest _ => record_reads_append final collects blind finished rest

/-! ## Control characters -/

theorem separated_noControls {items : List (List Char)} (h : ∀ item ∈ items, NoControls item) :
    NoControls (separated items) := by
  cases items with
  | nil => exact noControls_nil
  | cons item items =>
    rw [separated_cons]
    refine noControls_append (h item (by simp)) ?_
    intro c member
    obtain ⟨next, next_mem, member⟩ := List.mem_flatMap.1 member
    exact noControls_cons (by decide) (h next (by simp [next_mem])) c member

theorem array_noControls {items : List (List Char)} (h : ∀ item ∈ items, NoControls item) :
    NoControls (array items) :=
  noControls_cons (by decide) <| noControls_append (separated_noControls h) <|
    noControls_cons (by decide) noControls_nil

/-- Objects of texts without control characters have none. -/
theorem object_noControls {members : List (String × List Char)}
    (h : ∀ m ∈ members, NoControls m.2) : NoControls (object members) := by
  refine noControls_cons (by decide) <| noControls_append (separated_noControls ?_) <|
    noControls_cons (by decide) noControls_nil
  intro item member
  obtain ⟨m, m_mem, rfl⟩ := List.mem_map.1 member
  exact noControls_append (string_noControls m.1) (noControls_cons (by decide) (h m m_mem))

end UsageBilling.Json
