import UsageBilling.Text.Numeral

/-!
# Reading JSON

A reader takes a value off the front of a text in one pass and stops at the
first fault in text order. There are three kinds of fault: the text ends too
early, the text is no JSON at that point, or what stands there is JSON but not
the value that was asked for. This module holds the readers of tokens; a value
that nobody asked for is skipped, and then only its form is looked at.
-/

namespace UsageBilling.Json

open Text (hexValue?)

/-- Why a text is not the value that was asked for. -/
inductive Fault where
  /-- The text ends inside a value. -/
  | truncated
  /-- The text is not JSON at that point. -/
  | malformed
  /-- The text is JSON so far, but of the wrong type or shape. -/
  | mismatch
  deriving DecidableEq, Repr

/-- Takes a value off the front of a text. -/
abbrev Reader (α : Type) := List Char → Except Fault (α × List Char)

/-- The blanks of JSON. -/
def isBlank (c : Char) : Bool :=
  c = ' ' || c = '\n' || c = '\t' || c = '\r'

/-- The text after its leading blanks. -/
def skipBlanks (cs : List Char) : List Char :=
  cs.dropWhile isBlank

/-- The rest of a word whose first letter was recognised. -/
def restOfWord : List Char → List Char → Except Fault (List Char)
  | [], cs => .ok cs
  | _ :: _, [] => .error .truncated
  | w :: ws, c :: cs => if c = w then restOfWord ws cs else .error .malformed

/-! ## Strings -/

/-- The number that four hexadecimal digits denote. -/
def hexValue4? (a b c d : Char) : Option Nat := do
  let a ← hexValue? a
  let b ← hexValue? b
  let c ← hexValue? c
  let d ← hexValue? d
  return ((a * 16 + b) * 16 + c) * 16 + d

/-- The fault of an escape with too few characters after it: four octets that are
not all digits are malformed, fewer end the text too early. -/
def shortEscape (cs : List Char) : Fault :=
  if (String.ofList cs).utf8ByteSize < 4 then .truncated else .malformed

/-- The character that a letter stands for after a backslash. -/
def shortEscape? : Char → Option Char
  | '"' => some '"'
  | '\\' => some '\\'
  | '/' => some '/'
  | 'b' => some (Char.ofNat 8)
  | 'f' => some (Char.ofNat 12)
  | 'n' => some '\n'
  | 'r' => some '\r'
  | 't' => some '\t'
  | _ => none

/-- The unit is the first half of a surrogate pair. -/
def isHighSurrogate (n : Nat) : Bool :=
  0xD800 ≤ n && n ≤ 0xDBFF

/-- The unit is the second half of a surrogate pair. -/
def isLowSurrogate (n : Nat) : Bool :=
  0xDC00 ≤ n && n ≤ 0xDFFF

/-- The character that a surrogate pair denotes. -/
def surrogatePair (high low : Nat) : Char :=
  Char.ofNat (0x10000 + (high - 0xD800) * 0x400 + (low - 0xDC00))

/-- The fault of a text that should go on with a second escape but does not. -/
def missingLowSurrogate : List Char → Fault
  | [] => .truncated
  | '\\' :: [] => .truncated
  | '\\' :: 'u' :: rest => shortEscape rest
  | _ => .malformed

/-- The contents of a string, up to and without the closing quote. -/
def stringBody : Reader (List Char)
  | [] => .error .truncated
  | '"' :: rest => .ok ([], rest)
  | '\\' :: 'u' :: a :: b :: c :: d :: rest =>
    match hexValue4? a b c d with
    | none => .error .malformed
    | some n =>
      if isLowSurrogate n then .error .malformed
      else if isHighSurrogate n then
        match rest with
        | '\\' :: 'u' :: a' :: b' :: c' :: d' :: rest' =>
          match hexValue4? a' b' c' d' with
          | none => .error .malformed
          | some m =>
            if isLowSurrogate m then do
              let (s, tail) ← stringBody rest'
              return (surrogatePair n m :: s, tail)
            else .error .malformed
        | _ => .error (missingLowSurrogate rest)
      else do
        let (s, tail) ← stringBody rest
        return (Char.ofNat n :: s, tail)
  | '\\' :: 'u' :: rest => .error (shortEscape rest)
  | '\\' :: [] => .error .truncated
  | '\\' :: e :: rest =>
    match shortEscape? e with
    | none => .error .malformed
    | some c => do
      let (s, tail) ← stringBody rest
      return (c :: s, tail)
  | c :: rest =>
    if c.toNat < 32 then .error .malformed
    else do
      let (s, tail) ← stringBody rest
      return (c :: s, tail)

/-- The text after a string that is skipped: its escapes need correct form only. -/
def skipString : List Char → Except Fault (List Char)
  | [] => .error .truncated
  | '"' :: rest => .ok rest
  | '\\' :: 'u' :: a :: b :: c :: d :: rest =>
    match hexValue4? a b c d with
    | none => .error .malformed
    | some _ => skipString rest
  | '\\' :: 'u' :: rest => .error (shortEscape rest)
  | '\\' :: [] => .error .truncated
  | '\\' :: e :: rest =>
    match shortEscape? e with
    | none => .error .malformed
    | some _ => skipString rest
  | c :: rest => if c.toNat < 32 then .error .malformed else skipString rest

/-! ## Skipped values -/

/-- The text after a row of digits. -/
def skipDigits (cs : List Char) : List Char :=
  cs.dropWhile Char.isDigit

/-- The text after the exponent of a skipped number, the letter read. -/
def skipExponent (cs : List Char) : Except Fault (List Char) :=
  let digits := match cs with
    | '+' :: rest => rest
    | '-' :: rest => rest
    | _ => cs
  match digits with
  | [] => .error .malformed
  | c :: rest => if c.isDigit then .ok (skipDigits rest) else .error .malformed

/-- The text after what may follow the whole part of a skipped number. -/
def skipFraction : List Char → Except Fault (List Char)
  | '.' :: c :: rest =>
    if c.isDigit then
      match skipDigits rest with
      | 'e' :: tail => skipExponent tail
      | 'E' :: tail => skipExponent tail
      | tail => .ok tail
    else .error .malformed
  | '.' :: [] => .error .malformed
  | 'e' :: rest => skipExponent rest
  | 'E' :: rest => skipExponent rest
  | cs => .ok cs

/-- The text after a skipped number without its sign. -/
def skipNumber : List Char → Except Fault (List Char)
  | [] => .error .malformed
  | '0' :: rest =>
    match rest with
    | c :: _ => if c.isDigit then .error .malformed else skipFraction rest
    | [] => .ok []
  | c :: rest => if c.isDigit then skipFraction (skipDigits rest) else .error .malformed

/-- The text after a skipped value that is neither a list nor an object, if one stands there. -/
def skipScalar : List Char → Except Fault (List Char)
  | [] => .error .truncated
  | 'n' :: rest => restOfWord "ull".toList rest
  | 't' :: rest => restOfWord "rue".toList rest
  | 'f' :: rest => restOfWord "alse".toList rest
  | '"' :: rest => skipString rest
  | '-' :: rest => skipNumber rest
  | cs@(c :: _) => if c.isDigit then skipNumber cs else .error .malformed

/-- A list or an object whose end is still to come. -/
inductive Bracket where
  | list
  | object
  deriving DecidableEq, Repr

/-- The text after the name of a skipped member and its colon. -/
def skipName (cs : List Char) : Except Fault (List Char) :=
  match skipBlanks cs with
  | [] => .error .truncated
  | '"' :: rest => do
    match skipBlanks (← skipString rest) with
    | [] => .error .truncated
    | ':' :: tail => .ok tail
    | _ => .error .malformed
  | _ => .error .malformed

/-- What a skipped value goes on with inside its open brackets. -/
inductive Expecting where
  /-- A value. -/
  | value
  /-- The first element or member of the innermost bracket, or its end. -/
  | first
  /-- A comma or the end of the innermost bracket. -/
  | more
  deriving DecidableEq, Repr

/-- The text after a skipped value inside `open`, the innermost bracket first. At most
`fuel` tokens are read; every token has a character of its own. -/
def skipNested : Nat → List Bracket → Expecting → List Char → Except Fault (List Char)
  | 0, _, _, _ => .error .truncated
  | fuel + 1, brackets, expecting, cs =>
    match expecting with
    | .value =>
      match skipBlanks cs with
      | '[' :: rest => skipNested fuel (.list :: brackets) .first rest
      | '\x7b' :: rest => skipNested fuel (.object :: brackets) .first rest
      | rest => do skipNested fuel brackets .more (← skipScalar rest)
    | .first =>
      match brackets, skipBlanks cs with
      | [], rest => .ok rest
      | _ :: _, [] => .error .truncated
      | .list :: outer, ']' :: rest => skipNested fuel outer .more rest
      | .object :: outer, '\x7d' :: rest => skipNested fuel outer .more rest
      | .list :: _, rest => skipNested fuel brackets .value rest
      | .object :: _, rest => do skipNested fuel brackets .value (← skipName rest)
    | .more =>
      match brackets with
      | [] => .ok cs
      | bracket :: outer =>
        match bracket, skipBlanks cs with
        | _, [] => .error .truncated
        | .list, ']' :: rest => skipNested fuel outer .more rest
        | .object, '\x7d' :: rest => skipNested fuel outer .more rest
        | .list, ',' :: rest => skipNested fuel brackets .value rest
        | .object, ',' :: rest => do skipNested fuel brackets .value (← skipName rest)
        | _, _ => .error .malformed

/-- The text after a value that nobody asked for, nested to any depth. -/
def skipValue (cs : List Char) : Except Fault (List Char) :=
  skipNested (2 * cs.length + 2) [] .value cs

end UsageBilling.Json
