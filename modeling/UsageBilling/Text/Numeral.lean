/-!
# Numerals

How whole numbers are written in decimal digits, and which texts are read as
bounded natural numbers: an optional plus sign and at least one digit, nothing
else.
-/

namespace UsageBilling.Text

/-- The value of a decimal digit. -/
def digitValue (c : Char) : Nat :=
  c.toNat - '0'.toNat

/-- The value of a hexadecimal digit. -/
def hexValue? (c : Char) : Option Nat :=
  if '0' ≤ c && c ≤ '9' then some (c.toNat - '0'.toNat)
  else if 'a' ≤ c && c ≤ 'f' then some (c.toNat - 'a'.toNat + 10)
  else if 'A' ≤ c && c ≤ 'F' then some (c.toNat - 'A'.toNat + 10)
  else none

/-- The number that a row of decimal digits denotes. -/
def digitsValue (cs : List Char) : Nat :=
  cs.foldl (fun n c => 10 * n + digitValue c) 0

/-- The decimal digits of a number. -/
def decimal (n : Nat) : List Char :=
  Nat.toDigits 10 n

/-- The decimal digits of a number, with zeros in front up to `width` characters. -/
def padded (width n : Nat) : List Char :=
  let digits := decimal n
  List.replicate (width - digits.length) '0' ++ digits

/-- A whole number, a negative one with a minus sign. -/
def integer : Int → List Char
  | .ofNat n => decimal n
  | .negSucc n => '-' :: decimal (n + 1)

/-- Why a text is no number. -/
inductive NumeralFault where
  | empty
  | badDigit
  /-- The digits so far make a number past the limit. -/
  | tooLarge
  deriving DecidableEq, Repr

/-- What a fault says. -/
def NumeralFault.message : NumeralFault → String
  | empty => "cannot parse integer from empty string"
  | badDigit => "invalid digit found in string"
  | tooLarge => "number too large to fit in target type"

/-- The number up to `limit` that `n` and the digits after it denote; the first fault counts. -/
def readDigits (limit n : Nat) : List Char → Except NumeralFault Nat
  | [] => .ok n
  | c :: cs =>
    if !c.isDigit then .error .badDigit
    else if limit < 10 * n + digitValue c then .error .tooLarge
    else readDigits limit (10 * n + digitValue c) cs

/-- The number up to `limit` that a text denotes. -/
def readNumeral (limit : Nat) (s : String) : Except NumeralFault Nat :=
  match s.toList with
  | [] => .error .empty
  | ['+'] => .error .badDigit
  | '+' :: digits | digits => readDigits limit 0 digits

/-- The number that a text denotes, if it is one and at most `limit`. -/
def readBounded (limit : Nat) (s : String) : Option Nat :=
  (readNumeral limit s).toOption

/-- The flag that a text denotes: exactly `true` or `false`. -/
def readFlag (s : String) : Option Bool :=
  if s = "true" then some true else if s = "false" then some false else none

/-- A row of digits that is not empty. -/
def isDigits (cs : List Char) : Bool :=
  !cs.isEmpty && cs.all (·.isDigit)

/-- The text without a sign in front. -/
def dropSign : List Char → List Char
  | '+' :: cs | '-' :: cs => cs
  | cs => cs

/-- A text denotes a real number: digits with an optional point, then an optional power of ten, or
the name of a number that is not finite; a sign may come first. -/
def isReal (s : String) : Bool :=
  let cs := dropSign s.toList
  let isMark := fun c : Char => c = 'e' || c = 'E'
  let body := cs.takeWhile (!isMark ·)
  let power := cs.dropWhile (!isMark ·)
  let isBody := match body.takeWhile (· ≠ '.'), body.dropWhile (· ≠ '.') with
    | whole, [] => isDigits whole
    | whole, _ :: fraction => isDigits (whole ++ fraction)
  ["inf", "infinity", "nan"].contains (String.ofList (cs.map Char.toLower)) ||
    isBody && (power.isEmpty || isDigits (dropSign (power.drop 1)))

end UsageBilling.Text
