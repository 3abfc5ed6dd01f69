import UsageBilling.Text.Numeral

/-!
# Variables that set a part of the settings

The name of a variable, in whatever case, is a path into the settings: after a
common beginning, names with two low lines or a dot between them, and places in
lists in brackets. A variable with another name says nothing.
-/

namespace UsageBilling

/-- What the environment says of a setting. -/
inductive Assignment where
  | value (s : String)
  /-- Parts of it are set, by name or by number. -/
  | map
  | sequence
  deriving DecidableEq, Repr

namespace Assignment

/-- How the names of variables begin that set a part of the settings. -/
def nameStart : List Char := "app__".toList

/-- The name of a variable in lower case; in lower case the sign of Kelvin is the letter `k`. -/
def lowerName (name : String) : List Char :=
  name.toList.map fun c => if c.toNat = 0x212A then 'k' else c.toLower

/-- The text with a dot for each two low lines. -/
def dotted : List Char → List Char
  | '_' :: '_' :: cs => '.' :: dotted cs
  | c :: cs => c :: dotted cs
  | [] => []

/-- A character that the names of settings consist of. -/
def isNameChar (c : Char) : Bool :=
  c.isAlphanum || c = '_' || c = '-' || c = ' '

/-- A number in brackets and the text after it. -/
def afterIndex? (cs : List Char) : Option (List Char) :=
  let digits := match cs with
    | '-' :: digits => digits
    | _ => cs
  let number := digits.takeWhile Char.isDigit
  match digits.dropWhile Char.isDigit with
  | ']' :: rest =>
    if number.isEmpty || Int64.maxValue.toInt < Text.digitsValue number then none else some rest
  | _ => none

/-- A row of names, each after a dot, and numbers in brackets; at most `fuel`. -/
def isPath : Nat → List Char → Bool
  | _, [] => true
  | fuel + 1, '.' :: cs =>
    cs.head?.any isNameChar && isPath fuel (cs.dropWhile isNameChar)
  | fuel + 1, '[' :: cs => (afterIndex? cs).any (isPath fuel)
  | _, _ => false

/-- What a variable says of the setting `name`. -/
def ofVariable? (name : List Char) (variableName contents : String) : Option Assignment :=
  let key := lowerName variableName
  if !nameStart.isPrefixOf key then none
  else
    let path := dotted (key.drop nameStart.length)
    let rest := path.dropWhile isNameChar
    if path.takeWhile isNameChar ≠ name || !isPath rest.length rest then none
    else some <| match rest with
      | [] => .value contents
      | '[' :: _ => .sequence
      | _ => .map

end Assignment

end UsageBilling
