import UsageBilling.Log
import UsageBilling.Log.Pattern.Reader
import UsageBilling.Text.Alphanumeric
import UsageBilling.Text.Blank

/-!
# Directives of the log

A directive lets events pass up to a level. It may be meant for the events of
some places only, or for those that happen in scopes of some name, or that have
a field; of a field of a scope it may ask for a value. It is written as
`place[scope{field=value}]=level`, where every part may be missing.

The parts are found in the text without the blanks around it, but they are
taken from the whole text at the same distances from its start. So blanks in
front move all parts, and blanks behind belong to the last one.
-/

namespace UsageBilling

/-- What a directive asks of the value of a field. -/
inductive FieldTest where
  | flag (b : Bool)
  | number (n : Nat)
  /-- A number that no field has: a negative or broken one. -/
  | otherNumber
  /-- A text that matches a pattern, which is written as `source`. -/
  | pattern (source : String) (p : Pattern)
  deriving DecidableEq, Repr

/-- The field that a directive asks for. -/
structure FieldDemand where
  name : String
  value : Option FieldTest
  deriving DecidableEq, Repr

/-- Events up to a rank pass. -/
structure LogDirective where
  /-- How the places begin that it is meant for. -/
  target : Option String := none
  /-- The name of the scopes that it is meant for. -/
  scope : Option String := none
  field : Option FieldDemand := none
  rank : Nat := LogLevel.trace.rank
  deriving DecidableEq, Repr

/-- Why a text is no directive. -/
inductive DirectiveFault where
  | badForm
  | badLevel
  | badPattern (fault : PatternFault)
  deriving DecidableEq, Repr

/-- What a fault of a directive says. -/
def DirectiveFault.message : DirectiveFault → String
  | badForm => "invalid filter directive"
  | badLevel =>
    "error parsing level filter: expected one of \"off\", \"error\", \"warn\", \"info\", " ++
      "\"debug\", \"trace\", or a number 0-5"
  | badPattern fault => "invalid field filter: " ++ fault.message

/-- The test that a text stands for: a flag, a number, or a pattern. -/
def FieldTest.ofText (s : String) : Except PatternFault FieldTest :=
  match Text.readFlag s, Text.readBounded (UInt64.size - 1) s with
  | some b, _ => .ok (flag b)
  | none, some n => .ok (number n)
  | none, none =>
    if Text.isReal s then .ok otherNumber else (Pattern.ofText s).map (pattern s)

/-- A value passes a test. -/
def FieldTest.accepts : FieldTest → LogValue → Bool
  | flag b, .flag value => b = value
  | number n, .number value => n = value
  | pattern _ p, .text value => p.accepts value
  | _, _ => false

/-- A demand as it is written: a name, and a value after an equals sign. -/
def FieldDemand.ofText (s : String) : Except PatternFault FieldDemand :=
  match (Text.pieces '=' s.toList).map String.ofList with
  | name :: value :: _ => (FieldTest.ofText value).map fun test => ⟨name, some test⟩
  | pieces => .ok ⟨String.join pieces, none⟩

namespace LogDirective

/-- The rank up to which events pass that a word or digit names. -/
def rankOf? (s : String) : Option Nat :=
  match Text.readBounded 5 s with
  | some n => some n
  | none =>
    let names := [("off", 0), ("error", 1), ("warn", 2), ("info", 3), ("debug", 4), ("trace", 5)]
    (names.find? fun entry => entry.1 = Text.lowerAscii s).map (·.2)

/-- The characters with their distances in octets from the start. -/
def placed (offset : Nat) : List Char → List (Nat × Char)
  | [] => []
  | c :: cs => (offset, c) :: placed (offset + c.utf8Size) cs

/-- The characters of a text from one distance up to another. -/
def cut (text : List (Nat × Char)) (start stop : Nat) : String :=
  String.ofList <| (text.filter fun (i, _) => start ≤ i && i < stop).map (·.2)

/-- The characters of a text from a distance on. -/
def cutFrom (text : List (Nat × Char)) (start : Nat) : String :=
  String.ofList <| (text.filter fun (i, _) => start ≤ i).map (·.2)

/-- The part of a directive that is being read; most hold where it starts. -/
inductive Part where
  | start
  | target
  | scope (start : Nat)
  | field (start : Nat)
  | afterField
  | afterScope
  | level (start : Nat)
  deriving DecidableEq, Repr

/-- A character that a place may begin with. -/
def isFirstChar (c : Char) : Bool :=
  c = '-' || c = ':' || c = '_' || Text.isAlphanumeric c

/-- Read a character at a distance from the start, after `d` was read. -/
def step (text : List (Nat × Char)) (d : LogDirective) (i : Nat) (c : Char) :
    Part → Except DirectiveFault (LogDirective × Part)
  | .start =>
    if c = '[' then .ok (d, .scope (i + 1))
    else if isFirstChar c then .ok (d, .target)
    else .error .badForm
  | .target =>
    let named := { d with target := some (cut text 0 i) }
    if c = '=' then .ok (named, .level (i + 1))
    else if c = '[' then .ok (named, .scope (i + 1))
    else .ok (d, .target)
  | .scope start =>
    let name := cut text start i
    if c = ']' then .ok ({ d with scope := some name }, .afterScope)
    else if c = '\x7b' then
      .ok ({ d with scope := if name.isEmpty then none else some name }, .field (i + 1))
    else .ok (d, .scope start)
  | .field start =>
    let demand := cut text start i
    if c ≠ '\x7d' then .ok (d, .field start)
    else if demand.isEmpty then .error .badForm
    else
      match FieldDemand.ofText demand with
      | .ok field => .ok ({ d with field }, .afterField)
      | .error fault => .error (.badPattern fault)
  | .afterField => if c = ']' then .ok (d, .afterScope) else .error .badForm
  | .afterScope => if c = '=' then .ok (d, .level (i + 1)) else .error .badForm
  | .level start => .ok (d, .level start)

/-- The directive at the end of a text. -/
def finish (text : List (Nat × Char)) (d : LogDirective) :
    Part → Except DirectiveFault LogDirective
  | .target =>
    let word := cutFrom text 0
    match rankOf? word with
    | some rank => .ok { d with rank }
    | none => .ok { d with target := some word }
  | .level start =>
    let word := cutFrom text start
    if word.isEmpty then .ok d
    else
      match rankOf? word with
      | some rank => .ok { d with rank }
      | none => .error .badLevel
  | .afterScope => .ok d
  | .start | .scope _ | .field _ | .afterField => .error .badForm

/-- Read the rest of a directive. -/
def read (text : List (Nat × Char)) :
    LogDirective → Part → List (Nat × Char) → Except DirectiveFault LogDirective
  | d, part, [] => finish text d part
  | d, part, (i, c) :: rest =>
    match step text d i c part with
    | .ok (d, part) => read text d part rest
    | .error fault => .error fault

/-- The directive that a text describes. -/
def ofText (s : String) : Except DirectiveFault LogDirective :=
  read (placed 0 s.toList) {} .start (placed 0 (Text.trimChars s.toList))

/-- The places and fields of two directives are the same. -/
def sameAim (d e : LogDirective) : Bool :=
  d.target = e.target && d.scope = e.scope && d.field = e.field

/-- It says something about all events in some scopes. -/
def isForScopes (d : LogDirective) : Bool :=
  d.scope.isSome || d.field.isSome

/-- It says something about events by themselves. -/
def isForEvents (d : LogDirective) : Bool :=
  d.scope.isNone && d.field.all (·.value.isNone)

/-- It is meant for a place. -/
def isForPlace (d : LogDirective) (place : String) : Bool :=
  d.target.all fun target => target.toList.isPrefixOf place.toList

/-- It is about the events in a scope. -/
def isAboutScope (d : LogDirective) (s : LogScope) : Bool :=
  d.isForScopes && d.isForPlace s.target && d.scope.all (· = s.name) &&
    d.field.all fun demand => s.fields.any fun (name, value) =>
      name = demand.name && demand.value.all (·.accepts value)

/-- It is about an event. -/
def isAboutEvent (d : LogDirective) (e : LogEvent) : Bool :=
  d.isForEvents && d.isForPlace e.target &&
    d.field.all fun demand => demand.name = "message" || e.fields.any (·.1 = demand.name)

/-- Of two directives about an event it is the one that counts: it has the longer place, or else
asks for a field, or else for the one whose name comes later. -/
def outweighs (d e : LogDirective) : Bool :=
  let size := fun directive : LogDirective => (directive.target.map (·.length + 1)).getD 0
  if size d ≠ size e then size e < size d
  else
    match d.field, e.field with
    | some f, some g => g.name < f.name
    | some _, none => true
    | none, _ => false

end LogDirective

end UsageBilling
