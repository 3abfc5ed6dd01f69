import UsageBilling.Json.Number

/-!
# Reading records

A record is read from an object, members in any order, or from the list of its
fields in the order of their declaration. In an object a member with an unknown
name is skipped, a field that is written twice is a mismatch as soon as its
second name is read, and a missing field is noticed at the end of the object.
-/

namespace UsageBilling.Json

variable {α σ : Type}

/-- A field of a record that is collected in a draft. -/
structure Field (σ : Type) where
  name : String
  /-- The record can do without this field. -/
  optional : Bool
  /-- The draft has this field. -/
  isSet : σ → Bool
  /-- The draft with this field, read from a value. -/
  read : σ → Reader σ

/-- A field that has to be there. -/
def Field.required {β : Type} (name : String) (get : σ → Option β) (set : σ → β → σ)
    (read : Reader β) : Field σ where
  name := name
  optional := false
  isSet draft := (get draft).isSome
  read draft cs := do
    let (value, rest) ← read cs
    return (set draft value, rest)

/-- A field that may be missing or `null`. -/
def Field.nullable {β : Type} (name : String) (get : σ → Option (Option β))
    (set : σ → Option β → σ) (read : Reader β) : Field σ where
  name := name
  optional := true
  isSet draft := (get draft).isSome
  read draft cs := do
    let (value, rest) ← orNull read cs
    return (set draft value, rest)

/-- The text after the colon that follows a name. -/
def colon (cs : List Char) : Except Fault (List Char) :=
  match skipBlanks cs with
  | [] => .error .truncated
  | ':' :: rest => .ok rest
  | _ => .error .malformed

/-- The value of the member `name`, the name read. -/
def member (fields : List (Field σ)) (name : String) (draft : σ) : Reader σ := fun cs =>
  match fields.find? fun field => field.name = name with
  | none => do return (draft, ← skipValue (← colon cs))
  | some field => if field.isSet draft then .error .mismatch else do field.read draft (← colon cs)

/-- A member whose name starts at the front of the text. -/
def namedMember (fields : List (Field σ)) (draft : σ) : Reader σ
  | [] => .error .truncated
  | '"' :: rest => do
    let (name, tail) ← stringBody rest
    member fields (String.ofList name) draft tail
  | _ => .error .malformed

/-- The members of an object up to its end; every one of at most `fuel` has a character. -/
def members (fields : List (Field σ)) : Nat → Bool → σ → Reader σ
  | 0, _, _, _ => .error .truncated
  | fuel + 1, isFirst, draft, cs =>
    match skipBlanks cs with
    | [] => .error .truncated
    | '\x7d' :: rest => .ok (draft, rest)
    | c :: rest =>
      if isFirst then do
        let (draft, tail) ← namedMember fields draft (c :: rest)
        members fields fuel false draft tail
      else if c = ',' then do
        let (draft, tail) ← namedMember fields draft (skipBlanks rest)
        members fields fuel false draft tail
      else .error .malformed

/-- Where the next element of a list starts, or `none` at the end of the list, with the text
from there. -/
def nextElement (isFirst : Bool) (cs : List Char) : Except Fault (Bool × List Char) :=
  match skipBlanks cs with
  | [] => .error .truncated
  | ']' :: rest => .ok (false, ']' :: rest)
  | c :: rest =>
    if isFirst then .ok (true, c :: rest)
    else if c = ',' then
      match skipBlanks rest with
      | [] => .error .truncated
      | ']' :: _ => .error .malformed
      | tail => .ok (true, tail)
    else .error .malformed

/-- The end of a list. -/
def endOfList (cs : List Char) : Except Fault (List Char) :=
  match skipBlanks cs with
  | [] => .error .truncated
  | ']' :: rest => .ok rest
  | _ => .error .malformed

/-- The fields of a record from the elements of a list, in order. -/
def elements : List (Field σ) → Bool → σ → Reader σ
  | [], _, draft, cs => .ok (draft, cs)
  | field :: fields, isFirst, draft, cs => do
    match ← nextElement isFirst cs with
    | (true, tail) => do
      let (draft, tail) ← field.read draft tail
      elements fields false draft tail
    | (false, tail) =>
      if field.optional then elements fields isFirst draft tail else .error .mismatch

/-- A record, collected from `blank` and made by `finish` if no field is missing. -/
def record (fields : List (Field σ)) (blank : σ) (finish : σ → Option α) : Reader α := fun cs =>
  match skipBlanks cs with
  | [] => .error .truncated
  | '\x7b' :: rest => do
    let (draft, tail) ← members fields (rest.length + 1) true blank rest
    match finish draft with
    | some value => .ok (value, tail)
    | none => .error .mismatch
  | '[' :: rest => do
    let (draft, tail) ← elements fields true blank rest
    match finish draft with
    | some value => return (value, ← endOfList tail)
    | none => .error .mismatch
  | cs => .error (wrongType cs)

/-- The items of a list up to its end; every one of at most `fuel` has a character. -/
def items (read : Reader α) : Nat → Bool → Reader (List α)
  | 0, _, _ => .error .truncated
  | fuel + 1, isFirst, cs => do
    match ← nextElement isFirst cs with
    | (false, tail) => return ([], ← endOfList tail)
    | (true, tail) => do
      let (item, tail) ← read tail
      let (rest, tail) ← items read fuel false tail
      return (item :: rest, tail)

/-- A list of values. -/
def listOf (read : Reader α) : Reader (List α) := fun cs =>
  match skipBlanks cs with
  | [] => .error .truncated
  | '[' :: rest => items read (rest.length + 1) true rest
  | cs => .error (wrongType cs)

/-- The value that a whole text writes, blanks around it apart. -/
def decode (read : Reader α) (s : String) : Except Fault α := do
  let (value, rest) ← read s.toList
  match skipBlanks rest with
  | [] => .ok value
  | _ => .error .malformed

end UsageBilling.Json
