import Mathlib.Data.List.Nodup
import UsageBilling.Proofs.Json.Values

/-!
# Records in any order

A record is written as an object, with its fields in any order and other members
between them, or as the list of its fields. It is read from every such text. No
record is read where a field is missing or stands there twice, whatever the values
are: a draft has a field exactly if a member of its name has been taken, and takes
none of that name again.
-/

namespace UsageBilling.Json

variable {α σ : Type}

/-- The text writes the record of these fields: an object of them in any order with other members
of unknown names, or a list of their values. -/
inductive WritesRecord (names : List String) (values : List (List Char)) : List Char → Prop where
  | object {ms more : List (String × List Char)} {w : List Char}
      (members : ms.Perm (names.zip values ++ more)) (unknown : ∀ m ∈ more, m.1 ∉ names)
      (are_values : ∀ m ∈ more, IsValue m.2) (written : WritesObject ms w) :
      WritesRecord names values w
  | list {w : List Char} (written : WritesList values w) : WritesRecord names values w

/-- The text is an object or a list, but a field does not stand there exactly once. -/
inductive Misshapen (names : List String) : List Char → Prop where
  | object {ms : List (String × List Char)} {w : List Char} {name : String}
      (values : ∀ m ∈ ms, IsValue m.2) (written : WritesObject ms w) (field : name ∈ names)
      (astray : (ms.map (·.1)).count name ≠ 1) : Misshapen names w
  | list {vs : List (List Char)} {w : List Char} (values : ∀ v ∈ vs, IsValue v)
      (written : WritesList vs w) (astray : vs.length ≠ names.length) : Misshapen names w

/-- The text is an object or a list with this value as the field of that name. -/
inductive HasField (names : List String) (name : String) (v : List Char) : List Char → Prop where
  | object {ms : List (String × List Char)} {w : List Char} (values : ∀ m ∈ ms, IsValue m.2)
      (written : WritesObject ms w) (member : (name, v) ∈ ms) : HasField names name v w
  | list {vs : List (List Char)} {w : List Char} (values : ∀ v ∈ vs, IsValue v)
      (written : WritesList vs w) (place : (name, v) ∈ names.zip vs) : HasField names name v w

/-- The names of members are contents of strings, however they are spelled. -/
theorem spelled_names {ms : List (String × List Char)} {raw : List (List Char × List Char)}
    (spelled : List.Forall₂ Named ms raw) : ∀ m ∈ raw, IsBody m.1 := by
  intro raw_m member
  obtain ⟨m, -, spells, -⟩ := exists_of_forall₂_right spelled member
  exact spells.isBody

theorem spelled_values {ms : List (String × List Char)} {raw : List (List Char × List Char)}
    (spelled : List.Forall₂ Named ms raw) (values : ∀ m ∈ ms, IsValue m.2) :
    ∀ m ∈ raw, IsValue m.2 := by
  intro raw_m member
  obtain ⟨m, m_mem, -, same⟩ := exists_of_forall₂_right spelled member
  exact same ▸ values m m_mem

/-- The text of a record is a value if those of its fields are. -/
theorem WritesRecord.isValue {names : List String} {values : List (List Char)} {w : List Char}
    (h : WritesRecord names values w) (are_values : ∀ v ∈ values, IsValue v) : IsValue w := by
  cases h with
  | list written => exact .list are_values written
  | @object ms more _ members _ more_values written =>
    obtain ⟨raw, spelled, written⟩ := written
    refine .object (spelled_names spelled) (spelled_values spelled ?_) written
    intro m member
    rcases List.mem_append.1 (members.mem_iff.1 member) with member | member
    · exact are_values _ (List.of_mem_zip member).2
    · exact more_values m member

/-! ## Names -/

section Names

variable {fields : List (Field σ)}

/-- A text spells one name only. -/
theorem Spells.unique {s s' body : List Char} (h : Spells s body) (h' : Spells s' body) : s = s' := by
  have same := (stringBody_spells h []).symm.trans (stringBody_spells h' [])
  simpa using same

theorem Spells.name_eq {name name' : String} {body : List Char} (h : Spells name.toList body)
    (h' : Spells name'.toList body) : name = name' :=
  String.toList_inj.1 (h.unique h')

/-- Every field is found by its name. -/
theorem find?_name {field : Field σ} (distinct : (fields.map (·.name)).Nodup)
    (member : field ∈ fields) : fields.find? (fun f => f.name = field.name) = some field := by
  cases found : fields.find? (fun f => f.name = field.name) with
  | none => simpa using List.find?_eq_none.1 found field member
  | some other =>
    have same : other.name = field.name := by simpa using List.find?_some found
    rw [List.inj_on_of_nodup_map distinct (List.mem_of_find?_eq_some found) member same]

theorem name_of_find? {name : String} {field : Field σ}
    (known : fields.find? (fun f => f.name = name) = some field) : field.name = name := by
  simpa using List.find?_some known

end Names

/-! ## Records that are read -/

/-- In every draft without this field, the field is unset, and read from this value. -/
def Fills (fields : List (Field σ)) (draft : List String → σ) (m : String × List Char) : Prop :=
  ∃ field, fields.find? (fun f => f.name = m.1) = some field ∧ ∀ seen, m.1 ∉ seen →
    field.isSet (draft seen) = false ∧ Reads (field.read (draft seen)) m.2 (draft (m.1 :: seen))

/-- A required field fills its part of a draft with the value that is read. -/
theorem fills_required {β : Type} {fields : List (Field σ)} {draft : List String → σ}
    {name : String} {get : σ → Option β} {set : σ → β → σ} {read : Reader β} {written : List Char}
    {b : β} (found : fields.find? (fun f => f.name = name) = some (.required name get set read))
    (reads : Reads read written b) (unset : ∀ seen, name ∉ seen → get (draft seen) = none)
    (sets : ∀ seen, set (draft seen) b = draft (name :: seen)) :
    Fills fields draft (name, written) := by
  refine ⟨_, found, ?_⟩
  intro seen fresh
  refine ⟨?_, ?_⟩
  · show (get (draft seen)).isSome = false
    rw [unset seen fresh]
    rfl
  · rw [← sets]
    exact required_reads reads

section Reading

variable {fields : List (Field σ)} {names : List String} {draft : List String → σ}
  {values : List (List Char)} {ms : List (String × List Char)}

/-- The names of the members that are fields. -/
def known (names : List String) (ms : List (String × List Char)) : List String :=
  (ms.map (·.1)).filter (· ∈ names)

/-- Fields are gathered in any order, with other members between them. -/
theorem gathers_of_fills {raw : List (List Char × List Char)}
    (spelled : List.Forall₂ Named ms raw) (seen : List String)
    (each : ∀ m ∈ ms, m.1 ∈ names ∧ Fills fields draft m ∨
      m.1 ∉ names ∧ fields.find? (fun f => f.name = m.1) = none ∧ IsValue m.2)
    (distinct : (known names ms ++ seen).Nodup) :
    Gathers fields (draft seen) raw (some (draft ((known names ms).reverse ++ seen))) := by
  induction spelled generalizing seen with
  | nil => exact .done _
  | @cons m raw_m ms raws named others ih =>
    obtain ⟨body, value⟩ := raw_m
    obtain ⟨spells, rfl⟩ := named
    have later := fun seen => ih seen fun m member => each m (by simp [member])
    rcases each m (by simp) with ⟨member, field, found, fills⟩ | ⟨astray, unknown, is_value⟩
    · have names_eq : known names (m :: ms) = m.1 :: known names ms := by simp [known, member]
      rw [names_eq] at distinct ⊢
      have fresh : m.1 ∉ seen := by
        intro again
        exact (List.nodup_cons.1 distinct).1 (by simp [again])
      obtain ⟨unset, reads⟩ := fills seen fresh
      refine .member (.field spells found unset (reads_iff_outcome.1 reads)) ?_
      have gathered := later (m.1 :: seen) (List.perm_middle.nodup_iff.2 distinct)
      simpa using gathered
    · have names_eq : known names (m :: ms) = known names ms := by simp [known, astray]
      rw [names_eq] at distinct ⊢
      exact .member (.unknown spells unknown is_value) (later seen distinct)

/-- The fields are all there, and nothing else is known. -/
theorem known_zip {more : List (String × List Char)} (same : names.length = values.length)
    (unknown : ∀ m ∈ more, m.1 ∉ names) : known names (names.zip values ++ more) = names := by
  have fields : (names.zip values).map (·.1) = names := List.map_fst_zip (by omega)
  have others : (more.map (·.1)).filter (· ∈ names) = [] := by
    simpa [List.filter_eq_nil_iff] using unknown
  rw [known, List.map_append, List.filter_append, fields, others, List.append_nil]
  simp

/-- Fields are placed in their own order. -/
theorem places_of_fills {part : List (Field σ)} (seen : List String)
    (found : ∀ field ∈ part, fields.find? (fun f => f.name = field.name) = some field)
    (same : part.length = values.length)
    (each : ∀ m ∈ (part.map (·.name)).zip values, Fills fields draft m)
    (distinct : (part.map (·.name) ++ seen).Nodup) :
    Places part (draft seen) values
      (some (draft ((part.map (·.name)).reverse ++ seen))) := by
  induction part generalizing values seen with
  | nil =>
    obtain rfl := List.eq_nil_of_length_eq_zero same.symm
    exact .done _
  | cons field others ih =>
    obtain ⟨v, values, rfl⟩ := List.exists_cons_of_length_eq_add_one same.symm
    obtain ⟨field', found', fills⟩ := each (field.name, v) (by simp)
    obtain rfl : field = field' := Option.some.inj ((found field (by simp)).symm.trans found')
    have fresh : field.name ∉ seen := fun again =>
      (List.nodup_cons.1 distinct).1 (by simp [again])
    obtain ⟨-, reads⟩ := fills seen fresh
    have placed := ih (field.name :: seen) (fun field member => found field (by simp [member]))
      (by simpa using same) (fun m member => each m (by simp [member]))
      (List.perm_middle.nodup_iff.2 distinct)
    refine .element (reads_iff_outcome.1 reads) ?_
    simpa using placed

/-- How a record is read: what a field does to a draft, and when a draft is complete. -/
structure Collecting (fields : List (Field σ)) (blank : σ) (finish : σ → Option α) : Prop where
  distinct : (fields.map (·.name)).Nodup
  required : ∀ field ∈ fields, field.optional = false
  blind : ∀ field ∈ fields, ∀ draft, Blind (field.read draft)
  decides : ∀ field ∈ fields, ∀ draft, Decides (field.read draft)
  unset : ∀ field ∈ fields, field.isSet blank = false
  /-- A field that is read is set then, and the others are as they were. -/
  marks : ∀ field ∈ fields, ∀ {draft cs next rest}, field.read draft cs = .ok (next, rest) →
    ∀ other ∈ fields, other.isSet next = (decide (other.name = field.name) || other.isSet draft)
  complete : ∀ {draft a}, finish draft = some a → ∀ field ∈ fields, field.isSet draft = true

/-- The drafts on the way to a record, by the names of the fields that they have. -/
structure Filling (fields : List (Field σ)) (blank : σ) (finish : σ → Option α)
    (values : List (List Char)) (a : α) (draft : List String → σ) : Prop where
  blank_eq : draft [] = blank
  length_eq : fields.length = values.length
  starts : ∀ v ∈ values, StartsValue v
  fills : ∀ m ∈ (fields.map (·.name)).zip values, Fills fields draft m
  finished : ∀ seen, (∀ field ∈ fields, field.name ∈ seen) → finish (draft seen) = some a

/-- A record is read from each of its texts. -/
theorem Filling.reads {blank : σ} {finish : σ → Option α} {a : α} {w : List Char}
    (filling : Filling fields blank finish values a draft)
    (collecting : Collecting fields blank finish)
    (written : WritesRecord (fields.map (·.name)) values w) :
    Reads (record fields blank finish) w a := by
  rw [reads_iff_outcome]
  have same := filling.length_eq
  cases written with
  | @object ms more w members unknown are_values written =>
    obtain ⟨raw, spelled, written⟩ := written
    have names_perm : (known (fields.map (·.name)) ms).Perm (fields.map (·.name)) := by
      have zipped := known_zip (by simpa using same) unknown
      exact ((members.map _).filter _).trans (.of_eq zipped)
    have each : ∀ m ∈ ms, m.1 ∈ fields.map (·.name) ∧ Fills fields draft m ∨
        m.1 ∉ fields.map (·.name) ∧ fields.find? (fun f => f.name = m.1) = none ∧ IsValue m.2 := by
      intro m member
      rcases List.mem_append.1 (members.mem_iff.1 member) with member | member
      · exact .inl ⟨(List.of_mem_zip member).1, filling.fills m member⟩
      · have astray := unknown m member
        refine .inr ⟨astray, List.find?_eq_none.2 ?_, are_values m member⟩
        intro field known same
        exact astray (List.mem_map.2 ⟨field, known, by simpa using same⟩)
    have gathers := gathers_of_fills spelled [] each
      (by simpa using names_perm.nodup_iff.2 collecting.distinct)
    rw [filling.blank_eq, List.append_nil] at gathers
    have all : ∀ field ∈ fields, field.name ∈ (known (fields.map (·.name)) ms).reverse := by
      intro field member
      rw [List.mem_reverse, names_perm.mem_iff]
      exact List.mem_map_of_mem member
    have read : Outcome (record fields blank finish) w ((some _).bind finish) :=
      record_members written gathers collecting.blind
    rwa [Option.bind_some, filling.finished _ all] at read
  | list written =>
    have places := places_of_fills [] (fun field => find?_name collecting.distinct)
      same filling.fills (by simpa using collecting.distinct)
    rw [filling.blank_eq, List.append_nil] at places
    have all : ∀ field ∈ fields, field.name ∈ (fields.map (·.name)).reverse := by
      intro field member
      exact List.mem_reverse.2 (List.mem_map_of_mem member)
    have read : Outcome (record fields blank finish) w ((some _).bind finish) :=
      record_list written filling.starts places
    rwa [Option.bind_some, filling.finished _ all] at read

end Reading

/-! ## Records that are rejected -/

section Rejecting

variable {fields : List (Field σ)} {blank : σ} {finish : σ → Option α}
  {ms : List (String × List Char)} {raw : List (List Char × List Char)}

/-- What a known member that was taken made of the draft. -/
theorem Takes.of_known {draft next : σ} {field : Field σ} {m : String × List Char}
    {raw_m : List Char × List Char} (named : Named m raw_m)
    (known : fields.find? (fun f => f.name = m.1) = some field)
    (takes : Takes fields draft raw_m (some next)) :
    field.isSet draft = false ∧ Outcome (field.read draft) m.2 (some next) := by
  obtain ⟨body, value⟩ := raw_m
  obtain ⟨spells, rfl⟩ := named
  cases takes with
  | unknown spells' unknown =>
    rw [spells'.name_eq spells, known] at unknown
    cases unknown
  | field spells' known' unset reads =>
    rw [spells'.name_eq spells, known] at known'
    cases known'
    exact ⟨unset, reads⟩

/-- A member of an unknown name leaves the draft as it is. -/
theorem Takes.of_unknown {draft next : σ} {m : String × List Char}
    {raw_m : List Char × List Char} (named : Named m raw_m)
    (unknown : fields.find? (fun f => f.name = m.1) = none)
    (takes : Takes fields draft raw_m (some next)) : next = draft := by
  obtain ⟨body, value⟩ := raw_m
  obtain ⟨spells, rfl⟩ := named
  cases takes with
  | unknown => rfl
  | field spells' known' unset reads =>
    rw [spells'.name_eq spells, unknown] at known'
    cases known'

/-- A draft that members have passed has a field once for each member of that name. -/
theorem Collecting.count (collecting : Collecting fields blank finish)
    {draft final : σ} (spelled : List.Forall₂ Named ms raw)
    (gathers : Gathers fields draft raw (some final)) {field : Field σ} (member : field ∈ fields) :
    (field.isSet final).toNat = (field.isSet draft).toNat + (ms.map (·.1)).count field.name := by
  induction spelled generalizing draft with
  | nil =>
    cases gathers
    rfl
  | @cons m raw_m ms raw named others ih =>
    cases gathers with
    | @member _ next _ _ _ first rest =>
      rw [ih rest, List.map_cons, List.count_cons]
      cases known : fields.find? (fun f => f.name = m.1) with
      | none =>
        have other : m.1 ≠ field.name := fun same =>
          List.find?_eq_none.1 known field member (by simp [same])
        rw [Takes.of_unknown named known first, if_neg (by simpa using other)]
        omega
      | some taken =>
        obtain ⟨unset, reads⟩ := Takes.of_known named known first
        have read := toOption_eq_some.1 (reads [] endsNumber_nil)
        have marked := collecting.marks taken (List.mem_of_find?_eq_some known) read field member
        rw [name_of_find? known] at marked
        by_cases same : field.name = m.1
        · have found := find?_name collecting.distinct member
          rw [same, known] at found
          cases found
          simp [marked, same, unset]
          omega
        · simp [marked, same, Ne.symm same]

/-- Each field among the members has been read. -/
theorem Gathers.accepted {draft final : σ} (spelled : List.Forall₂ Named ms raw)
    (gathers : Gathers fields draft raw (some final)) {m : String × List Char} (member : m ∈ ms)
    {field : Field σ} (known : fields.find? (fun f => f.name = m.1) = some field) :
    ∃ draft next, Outcome (field.read draft) m.2 (some next) := by
  induction spelled generalizing draft with
  | nil => cases member
  | cons named others ih =>
    cases gathers with
    | member first rest =>
      rcases List.mem_cons.1 member with rfl | member
      · exact ⟨_, _, (Takes.of_known named known first).2⟩
      · exact ih rest member

/-- A list that is placed has one value for each field. -/
theorem Places.length_eq {vs : List (List Char)} {draft final : σ}
    (required : ∀ field ∈ fields, field.optional = false)
    (places : Places fields draft vs (some final)) : vs.length = fields.length := by
  generalize accepted : some final = outcome at places
  induction places with
  | done => rfl
  | extra | missing | fails => cases accepted
  | skipped optional => simp [required] at optional
  | element _ _ ih => simp [ih (fun field member => required field (by simp [member])) accepted]

/-- Each value of the list has been read as its field. -/
theorem Places.accepted {vs : List (List Char)} {draft final : σ} {name : String} {v : List Char}
    (places : Places fields draft vs (some final))
    (place : (name, v) ∈ (fields.map (·.name)).zip vs) :
    ∃ field ∈ fields, field.name = name ∧
      ∃ draft next, Outcome (field.read draft) v (some next) := by
  generalize accepted : some final = outcome at places
  induction places with
  | done => cases place
  | extra | missing | fails => cases accepted
  | skipped => simp at place
  | @element _ _ field _ _ _ _ first _ ih =>
    rw [List.map_cons, List.zip_cons_cons, List.mem_cons] at place
    rcases place with same | place
    · cases same
      exact ⟨field, by simp, rfl, _, _, first⟩
    · obtain ⟨field, member, rest⟩ := ih place accepted
      exact ⟨field, by simp [member], rest⟩

/-- Members with values of any kind make something of the draft. -/
theorem Collecting.gathers (collecting : Collecting fields blank finish)
    (values : ∀ m ∈ ms, IsValue m.2) (spelled : List.Forall₂ Named ms raw) :
    ∃ outcome, Gathers fields blank raw outcome :=
  Gathers.exists collecting.decides (spelled_names spelled) (spelled_values spelled values) blank

/-- From an object no record is read, or its members fill a draft that is complete. -/
theorem Collecting.object_cases (collecting : Collecting fields blank finish) {w : List Char}
    (values : ∀ m ∈ ms, IsValue m.2) (written : WritesObject ms w) :
    Outcome (record fields blank finish) w none ∨
      ∃ raw final a, List.Forall₂ Named ms raw ∧ Gathers fields blank raw (some final) ∧
        finish final = some a := by
  obtain ⟨raw, spelled, written⟩ := written
  obtain ⟨outcome, gathers⟩ := collecting.gathers values spelled
  have taken : Outcome (record fields blank finish) w (outcome.bind finish) :=
    record_members written gathers collecting.blind
  cases outcome with
  | none => exact .inl taken
  | some final =>
    rw [Option.bind_some] at taken
    cases finished : finish final with
    | none => exact .inl (finished ▸ taken)
    | some a => exact .inr ⟨raw, final, a, spelled, gathers, finished⟩

/-- From a list no record is read, or its values fill a draft. -/
theorem Collecting.list_cases (collecting : Collecting fields blank finish) {w : List Char}
    {vs : List (List Char)} (values : ∀ v ∈ vs, IsValue v) (written : WritesList vs w) :
    Outcome (record fields blank finish) w none ∨
      ∃ final, Places fields blank vs (some final) := by
  obtain ⟨outcome, places⟩ := Places.exists collecting.decides values blank
  have taken : Outcome (record fields blank finish) w (outcome.bind finish) :=
    record_list written (fun v member => (values v member).startsValue) places
  cases outcome with
  | none => exact .inl taken
  | some final => exact .inr ⟨final, places⟩

/-- Where a field does not stand exactly once, no record is read. -/
theorem Collecting.rejects_misshapen (collecting : Collecting fields blank finish)
    {w : List Char} (misshapen : Misshapen (fields.map (·.name)) w) :
    Outcome (record fields blank finish) w none := by
  cases misshapen with
  | object values written is_field astray =>
    obtain ⟨field, member, rfl⟩ := List.mem_map.1 is_field
    refine (collecting.object_cases values written).resolve_right ?_
    rintro ⟨raw, final, a, spelled, gathers, finished⟩
    have counted := collecting.count spelled gathers member
    rw [collecting.complete finished field member, collecting.unset field member] at counted
    exact astray (by simpa using counted.symm)
  | list values written astray =>
    refine (collecting.list_cases values written).resolve_right ?_
    rintro ⟨final, places⟩
    have same := places.length_eq collecting.required
    exact astray (by simpa using same)

/-- Where a field has a value that it is not read from, no record is read. -/
theorem Collecting.rejects_field (collecting : Collecting fields blank finish) {w v : List Char}
    {name : String} {field : Field σ}
    (known : fields.find? (fun f => f.name = name) = some field)
    (unread : ∀ draft, Outcome (field.read draft) v none)
    (has : HasField (fields.map (·.name)) name v w) :
    Outcome (record fields blank finish) w none := by
  cases has with
  | object values written place =>
    refine (collecting.object_cases values written).resolve_right ?_
    rintro ⟨raw, final, a, spelled, gathers, -⟩
    obtain ⟨draft, next, reads⟩ := gathers.accepted spelled place known
    cases reads.unique (unread draft)
  | list values written place =>
    refine (collecting.list_cases values written).resolve_right ?_
    rintro ⟨final, places⟩
    obtain ⟨other, other_mem, same, draft, next, reads⟩ := places.accepted place
    have found := find?_name collecting.distinct other_mem
    rw [same, known] at found
    cases found
    cases reads.unique (unread draft)

end Rejecting

end UsageBilling.Json
