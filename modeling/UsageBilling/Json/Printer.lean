import UsageBilling.Text.Numeral

/-!
# Writing JSON

JSON is written compactly, members in the order given. In a string only the
quote, the backslash and the characters below U+0020 are escaped; five of the
latter have short escapes.
-/

namespace UsageBilling.Json

/-- A hexadecimal digit, lower case. -/
def hexDigit (n : Nat) : Char :=
  if n < 10 then Char.ofNat ('0'.toNat + n) else Char.ofNat ('a'.toNat + (n - 10))

/-- One character as it is written inside a string. -/
def escapeChar (c : Char) : List Char :=
  if c = '"' then ['\\', '"']
  else if c = '\\' then ['\\', '\\']
  else if c = '\n' then ['\\', 'n']
  else if c = '\r' then ['\\', 'r']
  else if c = '\t' then ['\\', 't']
  else if c.toNat = 8 then ['\\', 'b']
  else if c.toNat = 12 then ['\\', 'f']
  else if c.toNat < 32 then
    ['\\', 'u', '0', '0', hexDigit (c.toNat / 16), hexDigit (c.toNat % 16)]
  else [c]

/-- A string between quotes. -/
def string (s : String) : List Char :=
  '"' :: (s.toList.flatMap escapeChar ++ ['"'])

/-- Written values, a comma between each two. -/
def separated : List (List Char) → List Char
  | [] => []
  | [item] => item
  | item :: items => item ++ ',' :: separated items

/-- A list of written values. -/
def array (items : List (List Char)) : List Char :=
  '[' :: (separated items ++ [']'])

/-- An object with written values, members in the order given. -/
def object (members : List (String × List Char)) : List Char :=
  '{' :: (separated (members.map fun (name, value) => string name ++ ':' :: value) ++ ['}'])

/-- A whole number. -/
def integer (n : Int) : List Char :=
  Text.integer n

end UsageBilling.Json
