import UsageBilling.Decimal.Binary
import UsageBilling.Json.Scanner

/-!
# Reading numbers

A number without fraction and exponent is whole while it fits into 64 bits
(with a sign for a negative one, and `-0` is no whole number); any other is
real, and a real number must not exceed the largest double. For that test at
most the digits that fit into 64 bits count, the others only shift the point.
-/

namespace UsageBilling.Json

/-- A number as it stands in a text. -/
inductive Number where
  | whole (value : Int)
  | real
  deriving DecidableEq, Repr

/-- The largest number of 64 bits. -/
def wordLimit : Nat := UInt64.size - 1

/-- The digits that fit into 64 bits as a number, and the count of digits after those. -/
def leadingWord : Nat → List Char → Nat × Nat
  | n, [] => (n, 0)
  | n, c :: cs =>
    let m := 10 * n + Text.digitValue c
    if m ≤ wordLimit then leadingWord m cs else (n, cs.length + 1)

/-- The product of the doubles nearest to `significand` and to `10 ^ exponent` is past the
largest double. -/
def exceedsDouble (significand : Nat) (exponent : Int) : Bool :=
  if significand = 0 || exponent < 0 then false
  else if exponent > 308 then true
  else
    Decimal.nearest significand * Decimal.nearest (Nat.pow 10 exponent.toNat) ≥
      (Nat.pow 2 54 - 1) * Nat.pow 2 970

/-- A real number, if it does not exceed the largest double. -/
def real (significand : Nat) (exponent : Int) (rest : List Char) :
    Except Fault (Number × List Char) :=
  if exceedsDouble significand exponent then .error .malformed else .ok (.real, rest)

/-- A number from its exponent on, the letter read. -/
def readExponent (significand : Nat) (exponent : Int) (cs : List Char) :
    Except Fault (Number × List Char) :=
  let (negative, digits) := match cs with
    | '+' :: rest => (false, rest)
    | '-' :: rest => (true, rest)
    | _ => (false, cs)
  match digits with
  | [] => .error .truncated
  | c :: _ =>
    if c.isDigit then
      let shift : Int := Text.digitsValue (digits.takeWhile Char.isDigit)
      real significand (if negative then exponent - shift else exponent + shift)
        (skipDigits digits)
    else .error .malformed

/-- A number from its fraction on, the point read. -/
def readFraction (significand : Nat) (exponent : Int) (cs : List Char) :
    Except Fault (Number × List Char) :=
  match cs with
  | [] => .error .truncated
  | c :: _ =>
    if c.isDigit then
      let digits := cs.takeWhile Char.isDigit
      let (n, beyond) := leadingWord significand digits
      let exponent := exponent - (digits.length - beyond : Nat)
      match skipDigits cs with
      | 'e' :: rest => readExponent n exponent rest
      | 'E' :: rest => readExponent n exponent rest
      | rest => real n exponent rest
    else .error .malformed

/-- A number from the end of its whole part on. -/
def readTail (negative : Bool) (digits rest : List Char) : Except Fault (Number × List Char) :=
  let (n, beyond) := leadingWord 0 digits
  match rest with
  | '.' :: tail => readFraction n beyond tail
  | 'e' :: tail => readExponent n beyond tail
  | 'E' :: tail => readExponent n beyond tail
  | _ =>
    if beyond > 0 then real n beyond rest
    else if !negative then .ok (.whole n, rest)
    else if 0 < n ∧ n ≤ 9223372036854775808 then .ok (.whole (-n), rest)
    else .ok (.real, rest)

/-- A number without its sign. -/
def readMagnitude (negative : Bool) : Reader Number
  | [] => .error .truncated
  | '0' :: rest =>
    match rest with
    | [] => readTail negative ['0'] []
    | c :: _ => if c.isDigit then .error .malformed else readTail negative ['0'] rest
  | cs@(c :: _) =>
    if c.isDigit then readTail negative (cs.takeWhile Char.isDigit) (skipDigits cs)
    else .error .malformed

/-- A number. -/
def readNumber : Reader Number
  | '-' :: rest => readMagnitude true rest
  | cs => readMagnitude false cs

/-- The fault of a value of another type than the one asked for: that of its first token if
it is not JSON, else a mismatch. -/
def wrongType (cs : List Char) : Fault :=
  let token : Except Fault Unit := match cs with
    | [] => .error .truncated
    | 'n' :: rest => (restOfWord "ull".toList rest).map fun _ => ()
    | 't' :: rest => (restOfWord "rue".toList rest).map fun _ => ()
    | 'f' :: rest => (restOfWord "alse".toList rest).map fun _ => ()
    | '"' :: rest => (stringBody rest).map fun _ => ()
    | '[' :: _ => .ok ()
    | '\x7b' :: _ => .ok ()
    | c :: _ =>
      if c = '-' || c.isDigit then (readNumber cs).map fun _ => () else .error .malformed
  match token with
  | .error fault => fault
  | .ok () => .mismatch

/-- A whole number between two bounds. -/
def integerBetween (lo hi : Int) : Reader Int := fun cs =>
  match skipBlanks cs with
  | [] => .error .truncated
  | cs@(c :: _) =>
    if c = '-' || c.isDigit then do
      match ← readNumber cs with
      | (.whole n, rest) => if lo ≤ n ∧ n ≤ hi then .ok (n, rest) else .error .mismatch
      | (.real, _) => .error .mismatch
    else .error (wrongType cs)

/-- A number of 64 bits. -/
def word : Reader UInt64 := fun cs => do
  let (n, rest) ← integerBetween 0 wordLimit cs
  return (UInt64.ofNat n.toNat, rest)

/-- A number of 64 bits, one of them for its sign. -/
def signedWord : Reader Int64 := fun cs => do
  let (n, rest) ← integerBetween Int64.minValue.toInt Int64.maxValue.toInt cs
  return (Int64.ofInt n, rest)

/-- A string. -/
def text : Reader String := fun cs =>
  match skipBlanks cs with
  | [] => .error .truncated
  | '"' :: rest => do
    let (s, tail) ← stringBody rest
    return (String.ofList s, tail)
  | cs => .error (wrongType cs)

/-- A value, or `null` for none. -/
def orNull {α : Type} (read : Reader α) : Reader (Option α) := fun cs =>
  match skipBlanks cs with
  | 'n' :: rest => do return (none, ← restOfWord "ull".toList rest)
  | cs => do
    let (a, tail) ← read cs
    return (some a, tail)

end UsageBilling.Json
