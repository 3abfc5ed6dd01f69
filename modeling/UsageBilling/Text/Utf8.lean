/-!
# Octets as text

Octets are read as UTF-8 one character at a time. A row of octets that begins
like a character and breaks off counts as one fault, either because another
octet follows that does not fit or because nothing follows.
-/

namespace UsageBilling.Text

/-- What some octets begin with. -/
inductive Utf8Step where
  | character (c : Char) (rest : List UInt8)
  /-- `length` octets that are no character, and the octets after them. -/
  | invalid (length : Nat) (rest : List UInt8)
  /-- A character whose octets break off at the end. -/
  | incomplete
  deriving Repr

/-- For the first octet of a character outside ASCII: how many octets follow, and between which
values the first of these lies. -/
def utf8Lead? (octet : UInt8) : Option (Nat × UInt8 × UInt8) :=
  if 0xC2 ≤ octet && octet ≤ 0xDF then some (1, 0x80, 0xBF)
  else if octet = 0xE0 then some (2, 0xA0, 0xBF)
  else if octet = 0xED then some (2, 0x80, 0x9F)
  else if 0xE1 ≤ octet && octet ≤ 0xEF then some (2, 0x80, 0xBF)
  else if octet = 0xF0 then some (3, 0x90, 0xBF)
  else if 0xF1 ≤ octet && octet ≤ 0xF3 then some (3, 0x80, 0xBF)
  else if octet = 0xF4 then some (3, 0x80, 0x8F)
  else none

/-- Read `left` more octets of a character, the first between `low` and `high`; `taken` octets
gave the bits in `value`. -/
def utf8Tail (value taken : Nat) (low high : UInt8) : (left : Nat) → List UInt8 → Utf8Step
  | 0, rest => .character (Char.ofNat value) rest
  | _ + 1, [] => .incomplete
  | left + 1, octet :: rest =>
    if low ≤ octet && octet ≤ high then
      utf8Tail (value * 0x40 + octet.toNat % 0x40) (taken + 1) 0x80 0xBF left rest
    else .invalid taken (octet :: rest)

/-- The bits of a character in its first octet, where `left` octets follow. -/
def utf8LeadBits (octet : UInt8) (left : Nat) : Nat :=
  octet.toNat % (if left = 1 then 0x20 else if left = 2 then 0x10 else 0x08)

/-- What the octets begin with, the first of them taken apart from the rest. -/
def utf8Step (octet : UInt8) (rest : List UInt8) : Utf8Step :=
  if octet < 0x80 then .character (Char.ofNat octet.toNat) rest
  else match utf8Lead? octet with
    | none => .invalid 1 rest
    | some (left, low, high) => utf8Tail (utf8LeadBits octet left) 1 low high left rest

/-- Why octets are no text. -/
inductive Utf8Fault where
  /-- `length` octets that are no character, after `start` good ones. -/
  | invalid (length start : Nat)
  /-- The octets break off in a character, after `start` good ones. -/
  | incomplete (start : Nat)
  deriving DecidableEq, Repr

/-- What a fault says. -/
def Utf8Fault.message : Utf8Fault → String
  | invalid length start =>
    "invalid utf-8 sequence of " ++ toString length ++ " bytes from index " ++ toString start
  | incomplete start => "incomplete utf-8 byte sequence from index " ++ toString start

/-- The text of octets from the place `start` on; at most `fuel` characters. -/
def readUtf8 : (fuel start : Nat) → List UInt8 → Except Utf8Fault (List Char)
  | _, _, [] => .ok []
  | 0, _, _ => .ok []
  | fuel + 1, start, octet :: rest =>
    match utf8Step octet rest with
    | .character c rest => (readUtf8 fuel (start + c.utf8Size) rest).map (c :: ·)
    | .invalid length _ => .error (.invalid length start)
    | .incomplete => .error (.incomplete start)

/-- The text of octets, if they are UTF-8. -/
def ofUtf8 (octets : List UInt8) : Except Utf8Fault (List Char) :=
  readUtf8 octets.length 0 octets

/-- What stands for octets that are no character. -/
def replacement : Char := '\ufffd'

/-- The text of octets with a replacement for each fault; at most `fuel` characters. -/
def readUtf8Loosely : (fuel : Nat) → List UInt8 → List Char
  | _, [] => []
  | 0, _ => []
  | fuel + 1, octet :: rest =>
    match utf8Step octet rest with
    | .character c rest => c :: readUtf8Loosely fuel rest
    | .invalid _ rest => replacement :: readUtf8Loosely fuel rest
    | .incomplete => [replacement]

/-- The text of octets with a replacement for each fault. -/
def ofUtf8Loosely (octets : List UInt8) : List Char :=
  readUtf8Loosely octets.length octets

end UsageBilling.Text
