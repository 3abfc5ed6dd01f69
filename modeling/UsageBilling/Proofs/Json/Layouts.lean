import UsageBilling.Json.Record
import UsageBilling.Proofs.Json.Outcomes

/-!
# Lists and objects in any layout

What a reader makes of a list or an object depends on the values inside only, not
on the blanks around them or on how the names are spelled. The readers go through
a bracket item by item, so each is followed along the rest of the bracket that is
still to come. An object is taken member by member into a draft: `Gathers` says
what becomes of the draft, whatever the members are, and `Places` says the same of
a record that is written as a list.
-/

namespace UsageBilling.Json

variable {α σ : Type}

/-! ## The rest of a bracket -/

/-- The items that are still to come inside a bracket, from its start on or behind an item. -/
inductive Remaining (item : α → List Char → Prop) : Bool → List α → List Char → Prop where
  | start {as : List α} {inner : List Char} (listed : Listed item as inner) :
      Remaining item true as inner
  | behind {as : List α} {ws : List (List Char)} {blanks : List Char} (all : Blanks blanks)
      (written : List.Forall₂ item as ws) : Remaining item false as (blanks ++ further ws)

section Remaining

variable {item : α → List Char → Prop} {isFirst : Bool} {a : α} {as : List α} {cs : List Char}

/-- No number goes on behind an item. -/
theorem Remaining.endsNumber (h : Remaining item false as cs) {c : Char} (rest : List Char)
    (closes : c = ']' ∨ c = '\x7d') : EndsNumber (cs ++ c :: rest) := by
  cases h with
  | behind all _ =>
    rw [List.append_assoc]
    exact (endsNumber_further _ rest closes).blanks all

theorem Remaining.nil (item : α → List Char → Prop) (isFirst : Bool) :
    Remaining item isFirst [] [] := by
  cases isFirst with
  | true => exact .start (.nothing blanks_nil)
  | false => exact .behind blanks_nil .nil

/-- Without further items only blanks are left. -/
theorem Remaining.blanks (h : Remaining item isFirst [] cs) : Blanks cs := by
  cases h with
  | start listed =>
    cases listed with
    | nothing blanks => exact blanks
    | items some _ => exact absurd rfl some
  | behind all written =>
    cases written
    rwa [further, List.flatMap_nil, List.append_nil]

/-- Behind the mark of a further item, if there is one already, stands the next item. -/
theorem Remaining.next (h : Remaining item isFirst (a :: as) cs) :
    ∃ w ws, item a w ∧ List.Forall₂ item as ws ∧
      (isFirst = true ∧ cs = w ++ further ws ∨
        isFirst = false ∧ ∃ blanks, Blanks blanks ∧ cs = blanks ++ ',' :: (w ++ further ws)) := by
  cases h with
  | start listed =>
    cases listed with
    | items _ written =>
      cases written with
      | cons first others => exact ⟨_, _, first, others, .inl ⟨rfl, separated_cons _ _⟩⟩
  | behind all written =>
    cases written with
    | cons first others =>
      exact ⟨_, _, first, others, .inr ⟨rfl, _, all, by rw [further_cons]⟩⟩

/-- Items that are not empty are no more than characters. -/
theorem Remaining.length_le (h : Remaining item isFirst as cs)
    (some : ∀ a ∈ as, ∀ w, item a w → w ≠ []) : as.length ≤ cs.length := by
  cases as with
  | nil => exact Nat.zero_le _
  | cons a as =>
    obtain ⟨w, ws, first, others, place⟩ := h.next
    have same := others.length_eq
    have within := length_le_further ws
    have nonempty := List.length_pos_of_ne_nil (some a (by simp) w first)
    rcases place with ⟨-, rfl⟩ | ⟨-, blanks, -, rfl⟩
    · simp only [List.length_cons, List.length_append]
      omega
    · simp only [List.length_cons, List.length_append]
      omega

end Remaining

/-! ## Lists -/

section Lists

variable {read : Reader α} {isFirst : Bool} {v cs : List Char} {vs ws : List (List Char)}
  {outcomes : List (Option α)}

theorem Padded.ne_nil {w : List Char} (padded : Padded v w) (starts : StartsValue v) : w ≠ [] := by
  obtain ⟨before, after, -, -, rfl⟩ := padded
  obtain ⟨c, cs, rfl, -⟩ := starts
  simp

/-- Without further values the list is at its end. -/
theorem nextElement_none (remaining : Remaining Padded isFirst [] cs) (rest : List Char) :
    nextElement isFirst (cs ++ ']' :: rest) = .ok (false, ']' :: rest) := by
  rw [nextElement, skipBlanks_append remaining.blanks, skipBlanks_cons rfl]
  rfl

theorem endOfList_none (remaining : Remaining Padded isFirst [] cs) (rest : List Char) :
    endOfList (cs ++ ']' :: rest) = .ok rest := by
  rw [endOfList, skipBlanks_append remaining.blanks, skipBlanks_cons rfl]
  rfl

/-- The first value stands behind the bracket. -/
theorem nextElement_first {c : Char} {rest : List Char} (front : skipBlanks cs = c :: rest)
    (bracket : c ≠ ']') : nextElement true cs = .ok (true, c :: rest) := by
  rw [nextElement, front]
  split <;> simp_all

theorem nextElement_comma {c : Char} {rest : List Char} (front : skipBlanks cs = c :: rest)
    (bracket : c ≠ ']') : nextElement false (',' :: cs) = .ok (true, c :: rest) := by
  rw [nextElement, skipBlanks_cons rfl]
  split
  next same => cases same
  next same => simp at same
  next same =>
    obtain ⟨rfl, rfl⟩ := List.cons.inj same
    rw [if_neg Bool.false_ne_true, if_pos rfl, front]
    split <;> simp_all

theorem nextElement_blanks {blanks : List Char} (all : Blanks blanks) (isFirst : Bool)
    (cs : List Char) : nextElement isFirst (blanks ++ cs) = nextElement isFirst cs := by
  simp only [nextElement, skipBlanks_append all]

/-- The next value is found, and what may follow it stands behind. -/
theorem nextElement_some (remaining : Remaining Padded isFirst (v :: vs) cs)
    (starts : StartsValue v) : ∃ behind, Remaining Padded false vs behind ∧
      ∀ tail, nextElement isFirst (cs ++ tail) = .ok (true, v ++ (behind ++ tail)) := by
  obtain ⟨w, ws, ⟨before, after, leading, trailing, rfl⟩, others, place⟩ := remaining.next
  obtain ⟨c, v, rfl, blank, bracket⟩ := starts
  refine ⟨after ++ further ws, .behind trailing others, ?_⟩
  intro tail
  have front : skipBlanks (before ++ (c :: (v ++ (after ++ (further ws ++ tail))))) =
      c :: (v ++ (after ++ (further ws ++ tail))) := by
    rw [skipBlanks_append leading, skipBlanks_cons blank]
  rcases place with ⟨rfl, rfl⟩ | ⟨rfl, blanks, all, rfl⟩
  · simp only [List.append_assoc, List.cons_append]
    exact nextElement_first front bracket
  · simp only [List.append_assoc, List.cons_append]
    rw [nextElement_blanks all, nextElement_comma front bracket]

/-- With a value to come the list is not at its end. -/
theorem endOfList_some (remaining : Remaining Padded isFirst (v :: vs) cs)
    (starts : StartsValue v) (tail : List Char) : (endOfList (cs ++ tail)).toOption = none := by
  obtain ⟨w, ws, ⟨before, after, leading, trailing, rfl⟩, others, place⟩ := remaining.next
  obtain ⟨c, v, rfl, blank, bracket⟩ := starts
  rcases place with ⟨rfl, rfl⟩ | ⟨rfl, blanks, all, rfl⟩
  · simp only [List.append_assoc, List.cons_append]
    rw [endOfList, skipBlanks_append leading, skipBlanks_cons blank]
    split
    next same => cases same
    next same => simp_all
    next => rfl
  · simp only [List.append_assoc, List.cons_append]
    rw [endOfList, skipBlanks_append all, skipBlanks_cons rfl]
    rfl

theorem items_none (remaining : Remaining Padded isFirst [] cs) (fuel : Nat) (rest : List Char) :
    items read (fuel + 1) isFirst (cs ++ ']' :: rest) = .ok ([], rest) := by
  have close := endOfList_none (.nil Padded true) rest
  rw [List.nil_append] at close
  rw [items, nextElement_none remaining]
  simp only [bind, Except.bind, close]
  rfl

/-- The next value is taken, and then the others. -/
theorem items_some {before after : List Char} (fuel : Nat)
    (next : nextElement isFirst before = .ok (true, after)) :
    items read (fuel + 1) isFirst before =
      read after >>= fun x => (items read fuel false x.2).map fun y => (x.1 :: y.1, y.2) := by
  rw [items, next]
  simp only [bind, Except.bind]
  rcases read after with fault | ⟨a, tail⟩
  · rfl
  · cases items read fuel false tail <;> rfl

theorem allSome_cons (outcome : Option α) (outcomes : List (Option α)) :
    (outcome :: outcomes).allSome = outcome.bind fun a => outcomes.allSome.map (a :: ·) := by
  rw [List.allSome, List.mapM_cons]
  cases outcome with
  | none => rfl
  | some a => cases h : outcomes.mapM id <;> simp [List.allSome, h]

/-- The values of a list are taken one by one, unless one of them is not. -/
theorem items_outcome (reads : List.Forall₂ (Outcome read) vs outcomes)
    (starts : ∀ v ∈ vs, StartsValue v) (remaining : Remaining Padded isFirst vs cs) (fuel : Nat)
    (enough : vs.length < fuel) (rest : List Char) :
    (items read fuel isFirst (cs ++ ']' :: rest)).toOption =
      outcomes.allSome.map (·, rest) := by
  obtain ⟨fuel, rfl⟩ := Nat.exists_eq_succ_of_ne_zero (by omega : fuel ≠ 0)
  induction reads generalizing isFirst cs fuel with
  | nil => exact congrArg _ (items_none remaining fuel rest)
  | @cons v outcome vs outcomes first others ih =>
    obtain ⟨fuel, rfl⟩ := Nat.exists_eq_succ_of_ne_zero (by simp at enough; omega : fuel ≠ 0)
    obtain ⟨behind, left, next⟩ := nextElement_some remaining (starts v (by simp))
    have later := ih (fun v member => starts v (by simp [member])) left fuel
      (by simpa using enough)
    rw [items_some _ (next _), toOption_bind, first _ (left.endsNumber rest (.inl rfl)),
      allSome_cons]
    cases outcome with
    | none => rfl
    | some a =>
      show ((items read _ false (behind ++ ']' :: rest)).map _).toOption = _
      rw [toOption_map, later]
      cases outcomes.allSome <;> rfl

/-- A list is taken if all its values are. -/
theorem listOf_outcome {w : List Char} (written : WritesList vs w)
    (starts : ∀ v ∈ vs, StartsValue v) (reads : List.Forall₂ (Outcome read) vs outcomes) :
    Outcome (listOf read) w outcomes.allSome := by
  obtain ⟨inner, listed, rfl⟩ := written
  have remaining : Remaining Padded true vs inner := .start listed
  have enough := remaining.length_le fun v member _ padded => padded.ne_nil (starts v member)
  intro rest _
  rw [List.cons_append, List.append_assoc, listOf, skipBlanks_cons rfl]
  refine items_outcome reads starts remaining _ ?_ rest
  simp only [List.length_append]
  omega

theorem listOf_blind (read : Reader α) : Blind (listOf read) := by
  intro blanks cs h
  simp only [listOf, skipBlanks_append h]

/-- What is no list is not taken for one. -/
theorem listOf_mismatch {v : List Char} (starts : StartsValue v) (bracket : v.head? ≠ some '[') :
    Outcome (listOf read) v none := by
  obtain ⟨c, cs, rfl, blank, -⟩ := starts
  intro rest _
  rw [List.cons_append, listOf, skipBlanks_cons blank]
  split
  · rfl
  next same => simp_all
  · rfl

/-- Each of some values has an outcome. -/
theorem Decides.forall₂ (h : Decides read) (values : ∀ v ∈ vs, IsValue v) :
    ∃ outcomes, List.Forall₂ (Outcome read) vs outcomes := by
  induction vs with
  | nil => exact ⟨[], .nil⟩
  | cons v vs ih =>
    obtain ⟨outcome, first⟩ := h v (values v (by simp))
    obtain ⟨outcomes, others⟩ := ih fun v member => values v (by simp [member])
    exact ⟨outcome :: outcomes, .cons first others⟩

/-- Every value has an outcome as a list. -/
theorem listOf_decides (h : Decides read) : Decides (listOf read) := by
  intro v value
  have starts := value.startsValue
  cases value with
  | list values written =>
    obtain ⟨outcomes, reads⟩ := h.forall₂ values
    exact ⟨_, listOf_outcome written (fun v member => (values v member).startsValue) reads⟩
  | null | yes | no => exact ⟨none, listOf_mismatch starts (by decide)⟩
  | number number =>
    exact ⟨none, listOf_mismatch starts (number.head_ne (by decide) (by decide))⟩
  | string => exact ⟨none, listOf_mismatch starts (by simp)⟩
  | object _ _ written => exact ⟨none, listOf_mismatch starts (by rw [written.head]; decide)⟩

/-- If one outcome is missing, all are. -/
theorem allSome_eq_none (h : none ∈ outcomes) : outcomes.allSome = none := by
  induction outcomes with
  | nil => cases h
  | cons outcome outcomes ih =>
    rw [allSome_cons]
    rcases List.mem_cons.1 h with rfl | h
    · rfl
    · rw [ih h]
      cases outcome <;> rfl

/-- A list is not taken if one of its values is not. -/
theorem listOf_rejects (decides : Decides read) (values : ∀ v ∈ vs, IsValue v) {w : List Char}
    (written : WritesList vs w) (member : v ∈ vs) (unread : Outcome read v none) :
    Outcome (listOf read) w none := by
  obtain ⟨outcomes, reads⟩ := decides.forall₂ values
  obtain ⟨outcome, outcome_mem, taken⟩ := exists_of_forall₂_right reads.flip member
  obtain rfl := unread.unique taken
  have listed := listOf_outcome written (fun v member => (values v member).startsValue) reads
  rwa [allSome_eq_none outcome_mem] at listed

end Lists

/-! ## Objects -/

/-- What a member makes of a draft, its name as it is spelled. -/
inductive Takes (fields : List (Field σ)) (draft : σ) :
    List Char × List Char → Option σ → Prop where
  /-- The name has units that are no characters. -/
  | illegible {body value : List Char} (rejects : RejectsBody body) :
      Takes fields draft (body, value) none
  | unknown {name : String} {body value : List Char} (spells : Spells name.toList body)
      (unknown : fields.find? (fun f => f.name = name) = none) (is_value : IsValue value) :
      Takes fields draft (body, value) (some draft)
  | again {name : String} {body value : List Char} {field : Field σ}
      (spells : Spells name.toList body)
      (known : fields.find? (fun f => f.name = name) = some field)
      (set : field.isSet draft = true) : Takes fields draft (body, value) none
  | field {name : String} {body value : List Char} {field : Field σ} {outcome : Option σ}
      (spells : Spells name.toList body)
      (known : fields.find? (fun f => f.name = name) = some field)
      (unset : field.isSet draft = false) (reads : Outcome (field.read draft) value outcome) :
      Takes fields draft (body, value) outcome

/-- What members make of a draft, one after another. -/
inductive Gathers (fields : List (Field σ)) :
    σ → List (List Char × List Char) → Option σ → Prop where
  | done (draft : σ) : Gathers fields draft [] (some draft)
  | fails {draft : σ} {m : List Char × List Char} {ms : List (List Char × List Char)}
      (first : Takes fields draft m none) : Gathers fields draft (m :: ms) none
  | member {draft next : σ} {m : List Char × List Char} {ms : List (List Char × List Char)}
      {final : Option σ} (first : Takes fields draft m (some next))
      (others : Gathers fields next ms final) : Gathers fields draft (m :: ms) final

section Objects

variable {fields : List (Field σ)} {draft : σ} {isFirst : Bool}
  {cs : List Char} {m : List Char × List Char} {ms : List (List Char × List Char)}

theorem colon_blanks {blanks : List Char} (all : Blanks blanks) (cs : List Char) :
    colon (blanks ++ ':' :: cs) = .ok cs := by
  rw [colon, skipBlanks_append all, skipBlanks_cons rfl]
  rfl

/-- A member whose name can be read. -/
theorem namedMember_spelled {name : String} {body written : List Char}
    (spells : Spells name.toList body) (padded : Padded ('"' :: (body ++ ['"'])) written)
    (cs : List Char) : ∃ after, Blanks after ∧
      namedMember fields draft (skipBlanks (written ++ ':' :: cs)) =
        member fields name draft (after ++ ':' :: cs) := by
  obtain ⟨after, trailing, front⟩ :=
    skipBlanks_padded padded ⟨'"', _, rfl, rfl, by decide⟩ (':' :: cs)
  refine ⟨after, trailing, ?_⟩
  rw [front, List.cons_append, List.append_assoc]
  show (stringBody (body ++ '"' :: (after ++ ':' :: cs)) >>= _) = _
  rw [stringBody_spells spells]
  show member fields (String.ofList name.toList) draft _ = _
  rw [String.ofList_toList]

/-- A member is taken as its name and its value say, whatever blanks there are. -/
theorem namedMember_takes {name value rest : List Char} {outcome : Option σ}
    (takes : Takes fields draft m outcome) (blind : ∀ field ∈ fields, Blind (field.read draft))
    (named : Padded ('"' :: (m.1 ++ ['"'])) name) (padded : Padded m.2 value)
    (ends : EndsNumber rest) : ∃ after, Blanks after ∧
      (namedMember fields draft (skipBlanks (name ++ ':' :: (value ++ rest)))).toOption =
        outcome.map (·, after ++ rest) := by
  cases takes with
  | @illegible body v rejects =>
    refine ⟨[], blanks_nil, ?_⟩
    obtain ⟨after, trailing, front⟩ :=
      skipBlanks_padded named ⟨'"', _, rfl, rfl, by decide⟩ (':' :: (value ++ rest))
    rw [front, List.cons_append, List.append_assoc]
    show (stringBody (body ++ '"' :: (after ++ ':' :: (value ++ rest))) >>= _).toOption = _
    rw [toOption_bind, rejects]
    rfl
  | unknown spells unknown is_value =>
    obtain ⟨before, all, front⟩ := namedMember_spelled spells named (value ++ rest)
    obtain ⟨after, trailing, skipped⟩ := skipValue_value is_value padded ends
    refine ⟨after, trailing, ?_⟩
    rw [front, member, unknown]
    simp only [colon_blanks all, bind, Except.bind, skipped]
    rfl
  | again spells known set =>
    obtain ⟨before, all, front⟩ := namedMember_spelled spells named (value ++ rest)
    refine ⟨[], blanks_nil, ?_⟩
    rw [front, member, known]
    simp only [set, if_true]
    rfl
  | @field n body v field outcome spells known unset reads =>
    obtain ⟨before, all, front⟩ := namedMember_spelled spells named (value ++ rest)
    obtain ⟨after, trailing, read⟩ :=
      reads.padded (blind field (List.mem_of_find?_eq_some known)) padded ends
    refine ⟨after, trailing, ?_⟩
    rw [front, member, known]
    simp only [unset, Bool.false_eq_true, if_false, colon_blanks all]
    exact read

theorem members_none (remaining : Remaining WritesMember isFirst [] cs) (fuel : Nat) (draft : σ)
    (rest : List Char) :
    members fields (fuel + 1) isFirst draft (cs ++ '\x7d' :: rest) = .ok (draft, rest) := by
  rw [members, skipBlanks_append remaining.blanks, skipBlanks_cons rfl]
  rfl

/-- The first member stands behind the bracket. -/
theorem members_first {rest : List Char} (front : skipBlanks cs = '"' :: rest) (fuel : Nat) :
    members fields (fuel + 1) true draft cs =
      namedMember fields draft (skipBlanks cs) >>= fun x => members fields fuel false x.1 x.2 := by
  rw [members, front]
  rfl

theorem members_comma (fuel : Nat) (draft : σ) (cs : List Char) :
    members fields (fuel + 1) false draft (',' :: cs) =
      namedMember fields draft (skipBlanks cs) >>= fun x => members fields fuel false x.1 x.2 := by
  rw [members, skipBlanks_cons rfl]
  rfl

theorem members_blanks {blanks : List Char} (all : Blanks blanks) (fuel : Nat) (draft : σ)
    (cs : List Char) :
    members fields fuel isFirst draft (blanks ++ cs) = members fields fuel isFirst draft cs := by
  cases fuel with
  | zero => rfl
  | succ fuel => rw [members, members, skipBlanks_append all]

/-- The next member is found, and what may follow it stands behind. -/
theorem members_some (remaining : Remaining WritesMember isFirst (m :: ms) cs) :
    ∃ name value behind, Padded ('"' :: (m.1 ++ ['"'])) name ∧ Padded m.2 value ∧
      Remaining WritesMember false ms behind ∧
      ∀ fuel draft tail, members fields (fuel + 1) isFirst draft (cs ++ tail) =
        namedMember fields draft (skipBlanks (name ++ ':' :: (value ++ (behind ++ tail)))) >>=
          fun x => members fields fuel false x.1 x.2 := by
  obtain ⟨_, ws, ⟨name, value, named, padded, rfl⟩, others, place⟩ := remaining.next
  have behind := Remaining.behind blanks_nil others
  rw [List.nil_append] at behind
  refine ⟨name, value, further ws, named, padded, behind, ?_⟩
  intro fuel draft tail
  rcases place with ⟨rfl, rfl⟩ | ⟨rfl, blanks, all, rfl⟩
  · obtain ⟨after, -, front⟩ := skipBlanks_padded named ⟨'"', _, rfl, rfl, by decide⟩
      (':' :: (value ++ (further ws ++ tail)))
    simp only [List.append_assoc, List.cons_append] at front ⊢
    exact members_first front fuel
  · simp only [List.append_assoc, List.cons_append]
    rw [members_blanks all, members_comma]

/-- The members of an object are gathered one by one, unless one of them is not taken. -/
theorem members_outcome {outcome : Option σ} (gathers : Gathers fields draft ms outcome)
    (blind : ∀ field ∈ fields, ∀ draft, Blind (field.read draft))
    (remaining : Remaining WritesMember isFirst ms cs) (fuel : Nat) (enough : ms.length < fuel)
    (rest : List Char) :
    (members fields fuel isFirst draft (cs ++ '\x7d' :: rest)).toOption =
      outcome.map (·, rest) := by
  obtain ⟨fuel, rfl⟩ := Nat.exists_eq_succ_of_ne_zero (by omega : fuel ≠ 0)
  induction gathers generalizing isFirst cs fuel with
  | done draft => exact congrArg _ (members_none remaining fuel draft rest)
  | @fails draft m ms first =>
    obtain ⟨name, value, behind, named, padded, left, step⟩ := members_some remaining
    obtain ⟨after, trailing, taken⟩ := namedMember_takes first (fun field member =>
      blind field member draft) named padded (left.endsNumber rest (.inr rfl))
    rw [step, toOption_bind, taken]
    rfl
  | @member draft next m ms final first others ih =>
    obtain ⟨fuel, rfl⟩ := Nat.exists_eq_succ_of_ne_zero (by simp at enough; omega : fuel ≠ 0)
    obtain ⟨name, value, behind, named, padded, left, step⟩ := members_some remaining
    obtain ⟨after, trailing, taken⟩ := namedMember_takes first (fun field member =>
      blind field member draft) named padded (left.endsNumber rest (.inr rfl))
    have later := ih left fuel (by simpa using enough)
    rw [step, toOption_bind, taken]
    show (members fields _ false next (after ++ (behind ++ '\x7d' :: rest))).toOption = _
    rw [members_blanks trailing, later]

theorem WritesMember.ne_nil {w : List Char} (written : WritesMember m w) : w ≠ [] := by
  obtain ⟨name, value, -, -, rfl⟩ := written
  simp

/-- A record is taken from an object if its members are, and no field is missing, whatever comes
behind the object. -/
theorem record_members_append {blank : σ} {finish : σ → Option α} {w : List Char}
    {outcome : Option σ} (written : WritesMembers ms w) (gathers : Gathers fields blank ms outcome)
    (blind : ∀ field ∈ fields, ∀ draft, Blind (field.read draft)) (rest : List Char) :
    (record fields blank finish (w ++ rest)).toOption = (outcome.bind finish).map (·, rest) := by
  obtain ⟨inner, listed, rfl⟩ := written
  have remaining : Remaining WritesMember true ms inner := .start listed
  have enough := remaining.length_le fun m _ w written => written.ne_nil
  rw [List.cons_append, List.append_assoc, record, skipBlanks_cons rfl]
  show (members fields ((inner ++ '\x7d' :: rest).length + 1) true blank
    (inner ++ '\x7d' :: rest) >>= _).toOption = _
  rw [toOption_bind, members_outcome gathers blind remaining _ (by simp; omega)]
  cases outcome with
  | none => rfl
  | some draft =>
    simp only [Option.map_some, Option.bind_some]
    cases finish draft <;> rfl

theorem record_members {blank : σ} {finish : σ → Option α} {w : List Char} {outcome : Option σ}
    (written : WritesMembers ms w) (gathers : Gathers fields blank ms outcome)
    (blind : ∀ field ∈ fields, ∀ draft, Blind (field.read draft)) :
    Outcome (record fields blank finish) w (outcome.bind finish) :=
  fun rest _ => record_members_append written gathers blind rest

/-- Every member does something to a draft, or is not taken. -/
theorem Takes.exists (decides : ∀ field ∈ fields, Decides (field.read draft))
    (name : IsBody m.1) (value : IsValue m.2) : ∃ outcome, Takes fields draft m outcome := by
  obtain ⟨body, v⟩ := m
  rcases name.spells_or_rejects with ⟨s, spells⟩ | rejects
  · rw [← String.toList_ofList (l := s)] at spells
    cases known : fields.find? (fun f => f.name = String.ofList s) with
    | none => exact ⟨_, .unknown spells known value⟩
    | some field =>
      cases set : field.isSet draft with
      | true => exact ⟨_, .again spells known set⟩
      | false =>
        obtain ⟨outcome, reads⟩ := decides field (List.mem_of_find?_eq_some known) v value
        exact ⟨_, .field spells known set reads⟩
  · exact ⟨_, .illegible rejects⟩

theorem Gathers.exists (decides : ∀ field ∈ fields, ∀ draft, Decides (field.read draft))
    (names : ∀ m ∈ ms, IsBody m.1) (values : ∀ m ∈ ms, IsValue m.2) (draft : σ) :
    ∃ outcome, Gathers fields draft ms outcome := by
  induction ms generalizing draft with
  | nil => exact ⟨_, .done draft⟩
  | cons m ms ih =>
    obtain ⟨outcome, first⟩ := Takes.exists (fun field member => decides field member draft)
      (names m (by simp)) (values m (by simp))
    cases outcome with
    | none => exact ⟨_, .fails first⟩
    | some next =>
      obtain ⟨outcome, others⟩ := ih (fun m member => names m (by simp [member]))
        (fun m member => values m (by simp [member])) next
      exact ⟨_, .member first others⟩

end Objects

/-! ## Records as lists -/

/-- What values make of a draft, one for each field in order. -/
inductive Places : List (Field σ) → σ → List (List Char) → Option σ → Prop where
  | done (draft : σ) : Places [] draft [] (some draft)
  | extra {draft : σ} {v : List Char} {vs : List (List Char)} : Places [] draft (v :: vs) none
  | missing {draft : σ} {field : Field σ} {fields : List (Field σ)}
      (required : field.optional = false) : Places (field :: fields) draft [] none
  | skipped {draft : σ} {field : Field σ} {fields : List (Field σ)} {final : Option σ}
      (optional : field.optional = true) (others : Places fields draft [] final) :
      Places (field :: fields) draft [] final
  | fails {draft : σ} {field : Field σ} {fields : List (Field σ)} {v : List Char}
      {vs : List (List Char)} (first : Outcome (field.read draft) v none) :
      Places (field :: fields) draft (v :: vs) none
  | element {draft next : σ} {field : Field σ} {fields : List (Field σ)} {v : List Char}
      {vs : List (List Char)} {final : Option σ}
      (first : Outcome (field.read draft) v (some next)) (others : Places fields next vs final) :
      Places (field :: fields) draft (v :: vs) final

section Elements

variable {fields : List (Field σ)} {field : Field σ} {draft : σ} {isFirst : Bool}
  {cs after : List Char} {vs : List (List Char)}

theorem elements_some (next : nextElement isFirst cs = .ok (true, after)) :
    elements (field :: fields) isFirst draft cs =
      field.read draft after >>= fun x => elements fields false x.1 x.2 := by
  rw [elements, next]
  rfl

/-- Where no element is left, a field may be left out if it is optional. -/
theorem elements_missing (next : nextElement isFirst cs = .ok (false, after)) :
    elements (field :: fields) isFirst draft cs =
      if field.optional then elements fields isFirst draft after else .error .mismatch := by
  rw [elements, next]
  rfl

/-- The elements of a list are placed one by one, unless one of them is not taken. -/
theorem elements_outcome {outcome : Option σ} (places : Places fields draft vs outcome)
    (starts : ∀ v ∈ vs, StartsValue v) (remaining : Remaining Padded isFirst vs cs)
    (rest : List Char) :
    (elements fields isFirst draft (cs ++ ']' :: rest) >>= fun x =>
      (endOfList x.2).map (x.1, ·)).toOption = outcome.map (·, rest) := by
  induction places generalizing isFirst cs with
  | done draft =>
    show ((endOfList (cs ++ ']' :: rest)).map (draft, ·)).toOption = _
    rw [endOfList_none remaining]
    rfl
  | @extra draft v vs =>
    show ((endOfList (cs ++ ']' :: rest)).map (draft, ·)).toOption = _
    rw [toOption_map, endOfList_some remaining (starts v (by simp))]
    rfl
  | missing required =>
    rw [elements_missing (nextElement_none remaining rest), required]
    rfl
  | skipped optional others ih =>
    rw [elements_missing (nextElement_none remaining rest), optional]
    exact ih starts (.nil Padded isFirst)
  | @fails draft field fields v vs first =>
    obtain ⟨behind, left, next⟩ := nextElement_some remaining (starts v (by simp))
    rw [elements_some (next _), bind_assoc, toOption_bind, first _ (left.endsNumber rest (.inl rfl))]
    rfl
  | @element draft next field fields v vs final first others ih =>
    obtain ⟨behind, left, step⟩ := nextElement_some remaining (starts v (by simp))
    rw [elements_some (step _), bind_assoc, toOption_bind, first _ (left.endsNumber rest (.inl rfl))]
    exact ih (fun v member => starts v (by simp [member])) left

/-- Whether a field is missing may be asked behind the end of the list just as well. -/
theorem record_bracket (blank : σ) (finish : σ → Option α) (cs : List Char) :
    (record fields blank finish ('[' :: cs)).toOption =
      (elements fields true blank cs >>= fun x => (endOfList x.2).map (x.1, ·)).toOption.bind
        fun x => (finish x.1).map (·, x.2) := by
  rw [record, skipBlanks_cons rfl]
  simp only [bind, Except.bind]
  rcases elements fields true blank cs with fault | ⟨draft, tail⟩
  · rfl
  cases finished : finish draft <;> cases close : endOfList tail <;>
    simp [finished, close, Except.map, Except.toOption, pure, Except.pure]

/-- A record is taken from a list if its fields are, and no value is left. -/
theorem record_list {blank : σ} {finish : σ → Option α} {w : List Char} {outcome : Option σ}
    (written : WritesList vs w) (starts : ∀ v ∈ vs, StartsValue v)
    (places : Places fields blank vs outcome) :
    Outcome (record fields blank finish) w (outcome.bind finish) := by
  obtain ⟨inner, listed, rfl⟩ := written
  intro rest _
  rw [List.cons_append, List.append_assoc, record_bracket, List.singleton_append,
    elements_outcome places starts (.start listed) rest]
  cases outcome with
  | none => rfl
  | some draft => rfl

/-- Values in a list do something to a draft, or are not taken. -/
theorem Places.exists (decides : ∀ field ∈ fields, ∀ draft, Decides (field.read draft))
    (values : ∀ v ∈ vs, IsValue v) (draft : σ) : ∃ outcome, Places fields draft vs outcome := by
  induction fields generalizing draft vs with
  | nil =>
    cases vs with
    | nil => exact ⟨_, .done draft⟩
    | cons v vs => exact ⟨_, .extra⟩
  | cons field fields ih =>
    have later := fun vs values => @ih vs (fun field member => decides field (by simp [member])) values
    cases vs with
    | nil =>
      cases optional : field.optional with
      | false => exact ⟨_, .missing optional⟩
      | true =>
        obtain ⟨outcome, others⟩ := later [] values draft
        exact ⟨_, .skipped optional others⟩
    | cons v vs =>
      obtain ⟨outcome, first⟩ := decides field (by simp) draft v (values v (by simp))
      cases outcome with
      | none => exact ⟨_, .fails first⟩
      | some next =>
        obtain ⟨outcome, others⟩ := later vs (fun v member => values v (by simp [member])) next
        exact ⟨_, .element first others⟩

end Elements

/-! ## Records -/

section Records

variable {fields : List (Field σ)} {blank : σ} {finish : σ → Option α}

theorem record_blind : Blind (record fields blank finish) := by
  intro blanks cs h
  simp only [record, skipBlanks_append h]

/-- What is neither a list nor an object is not taken for a record. -/
theorem record_mismatch {v : List Char} (starts : StartsValue v) (list : v.head? ≠ some '[')
    (object : v.head? ≠ some '\x7b') : Outcome (record fields blank finish) v none := by
  obtain ⟨c, cs, rfl, blank, -⟩ := starts
  intro rest _
  rw [List.cons_append, record, skipBlanks_cons blank]
  split
  · rfl
  next same => simp_all
  next same => simp_all
  · rfl

/-- Every value has an outcome as a record. -/
theorem record_decides (blind : ∀ field ∈ fields, ∀ draft, Blind (field.read draft))
    (decides : ∀ field ∈ fields, ∀ draft, Decides (field.read draft)) :
    Decides (record fields blank finish) := by
  intro v value
  have starts := value.startsValue
  cases value with
  | list values written =>
    obtain ⟨outcome, places⟩ := Places.exists decides values blank
    exact ⟨_, record_list written (fun v member => (values v member).startsValue) places⟩
  | object names values written =>
    obtain ⟨outcome, gathers⟩ := Gathers.exists decides names values blank
    exact ⟨_, record_members written gathers blind⟩
  | null | yes | no => exact ⟨none, record_mismatch starts (by decide) (by decide)⟩
  | number number =>
    exact ⟨none, record_mismatch starts (number.head_ne (by decide) (by decide))
      (number.head_ne (by decide) (by decide))⟩
  | string => exact ⟨none, record_mismatch starts (by simp) (by simp)⟩

end Records

end UsageBilling.Json
