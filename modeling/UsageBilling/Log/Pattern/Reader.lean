import UsageBilling.Log.Pattern

/-!
# Patterns as text

How regular expressions are written: alternatives between bars, repetitions by
`*`, `+` and `?`, groups, sets in brackets and escapes. A count of repetitions
in braces is never complete where patterns are read here, so that an opening
brace is an error.
-/

namespace UsageBilling

/-- Why a text is no pattern that can be used. -/
inductive PatternFault where
  | badForm
  /-- It asks for the edge of a word. -/
  | wordEdge
  deriving DecidableEq, Repr

/-- What a fault of a pattern says. -/
def PatternFault.message : PatternFault → String
  | badForm => "error building NFA"
  | wordEdge =>
    "unsupported regex feature for DFAs: cannot build DFAs for regexes with Unicode word " ++
      "boundaries; switch to ASCII word boundaries, or heuristically enable Unicode word " ++
      "boundaries or use a different regex engine"

namespace Pattern

/-- How the characters of a pattern are meant. -/
structure Mode where
  ignoreCase : Bool := false
  /-- A dot stands for the end of a line, too. -/
  dotAll : Bool := false
  /-- The ends of lines count as ends. -/
  multiLine : Bool := false

/-- The pattern of a set. -/
def ofSet (mode : Mode) (s : CharSet) : Pattern :=
  char (if mode.ignoreCase then s.anyCase else s)

/-- The set that a letter after a backslash stands for. -/
def escapedSet? : Char → Option CharSet
  | 'd' => some .digits
  | 'D' => some CharSet.digits.complement
  | 's' => some .blanks
  | 'S' => some CharSet.blanks.complement
  | 'w' => some .wordChars
  | 'W' => some CharSet.wordChars.complement
  | _ => none

/-- The character of some digits in base 16. -/
def ofHex? (digits : List Char) : Option Char := do
  let ds ← digits.mapM Text.hexValue?
  let n := ds.foldl (fun n d => 0x10 * n + d) 0
  if n.isValidChar then some (Char.ofNat n) else none

/-- The character that some text after a backslash stands for. -/
def escapedChar? : List Char → Option (Char × List Char)
  | 'n' :: cs => some ('\n', cs)
  | 'r' :: cs => some ('\r', cs)
  | 't' :: cs => some ('\t', cs)
  | 'a' :: cs => some ('\x07', cs)
  | 'f' :: cs => some ('\x0c', cs)
  | 'v' :: cs => some ('\x0b', cs)
  | 'x' :: a :: b :: cs => (ofHex? [a, b]).map (·, cs)
  | 'u' :: a :: b :: c :: d :: cs => (ofHex? [a, b, c, d]).map (·, cs)
  | 'U' :: cs => if cs.length < 8 then none else (ofHex? (cs.take 8)).map (·, cs.drop 8)
  | c :: cs =>
    if '!' ≤ c && c ≤ '~' && !c.isAlphanum && c ≠ '<' && c ≠ '>' then some (c, cs) else none
  | [] => none

/-- A character in brackets. -/
def readMember : List Char → Option (Char × List Char)
  | '\\' :: cs => escapedChar? cs
  | c :: cs => some (c, cs)
  | [] => none

/-- The ranges up to the closing bracket; at most `fuel`. -/
def readMembers : Nat → List Char → Option (List (Nat × Nat) × List Char)
  | 0, _ | _, [] => none
  | _, ']' :: cs => some ([], cs)
  | fuel + 1, cs =>
    let escaped := match cs with
      | '\\' :: c :: rest => (escapedSet? c).map (·, rest)
      | _ => none
    match escaped with
    | some (s, rest) =>
      (readMembers fuel rest).map fun (ranges, rest) => (s.allRanges ++ ranges, rest)
    | none => do
      let (low, rest) ← readMember cs
      match rest with
      | '-' :: c :: after =>
        if c = ']' then
          let (ranges, rest) ← readMembers fuel rest
          return ((low.toNat, low.toNat) :: ranges, rest)
        else
          let (high, rest) ← readMember (c :: after)
          if high < low then none
          else
            let (ranges, rest) ← readMembers fuel rest
            return ((low.toNat, high.toNat) :: ranges, rest)
      | _ =>
        let (ranges, rest) ← readMembers fuel rest
        return ((low.toNat, low.toNat) :: ranges, rest)

/-- A set after its opening bracket; a closing bracket right there belongs to it. -/
def readSet (cs : List Char) : Option (CharSet × List Char) := do
  let (negated, cs) := match cs with
    | '^' :: cs => (true, cs)
    | cs => (false, cs)
  let (first, cs) := match cs with
    | ']' :: cs => ([(']'.toNat, ']'.toNat)], cs)
    | cs => ([], cs)
  let (ranges, rest) ← readMembers cs.length cs
  return (⟨first ++ ranges, negated⟩, rest)

/-- The letters of a mode, each on or off; up to a colon or a closing parenthesis. -/
def readMode : (on : Bool) → Mode → List Char → Option (Mode × List Char)
  | on, mode, c :: cs =>
    if c = ':' || c = ')' then some (mode, c :: cs)
    else if c = 'i' then readMode on { mode with ignoreCase := on } cs
    else if c = 's' then readMode on { mode with dotAll := on } cs
    else if c = 'm' then readMode on { mode with multiLine := on } cs
    else if c = 'u' && on then readMode on mode cs
    else if c = '-' && on then readMode false mode cs
    else none
  | _, _, [] => none

/-- The name of a group after its opening bracket, which is left out. -/
def skipName (cs : List Char) : Option (List Char) :=
  let isNameChar := fun c : Char => c.isAlphanum || c = '_' || c = '.' || c = '[' || c = ']'
  match cs.takeWhile isNameChar, cs.dropWhile isNameChar with
  | first :: _, '>' :: rest => if first.isAlpha || first = '_' then some rest else none
  | _, _ => none

/-- The signs of repetition after a pattern. -/
def readRepetitions (p : Pattern) : List Char → Pattern × List Char
  | '*' :: '?' :: cs => readRepetitions (many false p) cs
  | '*' :: cs => readRepetitions (many true p) cs
  | '+' :: '?' :: cs => readRepetitions (atLeastOnce false p) cs
  | '+' :: cs => readRepetitions (atLeastOnce true p) cs
  | '?' :: '?' :: cs => readRepetitions (optional false p) cs
  | '?' :: cs => readRepetitions (optional true p) cs
  | cs => (p, cs)

/-- A single character, set, or place. -/
def readAtom (mode : Mode) : List Char → Option (Pattern × List Char)
  | '.' :: cs =>
    let lineEnds := if mode.dotAll then [] else [(0x0A, 0x0A)]
    some (char ⟨lineEnds, true⟩, cs)
  | '^' :: cs => some (atStart, cs)
  | '$' :: cs => some (atEnd, cs)
  | '[' :: cs => (readSet cs).map fun (s, rest) => (ofSet mode s, rest)
  | '\\' :: 'A' :: cs => some (atStart, cs)
  | '\\' :: 'z' :: cs => some (atEnd, cs)
  | '\\' :: 'b' :: cs | '\\' :: 'B' :: cs => some (wordEdge, cs)
  | '\\' :: cs =>
    match cs.head?.bind escapedSet? with
    | some s => some (char s, cs.drop 1)
    | none => (escapedChar? cs).map fun (c, rest) => (ofSet mode (.single c), rest)
  | c :: cs =>
    if ['*', '+', '?', '{', '|', ')'].contains c then none
    else some (ofSet mode (.single c), cs)
  | [] => none

/-- Alternatives up to a closing parenthesis or the end; at most `fuel` parts. `before` holds the
part of the present alternative that is read. -/
def readAlternatives :
    (fuel : Nat) → Mode → (before : Pattern) → List Char → Option (Pattern × List Char)
  | 0, _, _, _ => none
  | _, _, before, [] => some (before, [])
  | fuel + 1, mode, before, c :: cs =>
    if c = ')' then some (before, c :: cs)
    else if c = '|' then do
      let (other, rest) ← readAlternatives fuel mode empty cs
      return (choice before other, rest)
    else if c = '(' then
      let inner : Option (Mode × Option (List Char)) := match cs with
        | '?' :: 'P' :: '<' :: cs | '?' :: '<' :: cs => (skipName cs).map fun cs => (mode, some cs)
        | '?' :: cs => (readMode true mode cs).map fun (mode, rest) =>
          (mode, if rest.head? = some ':' then some (rest.drop 1) else none)
        | cs => some (mode, some cs)
      match inner with
      | none => none
      | some (mode, none) =>
        readAlternatives fuel mode before ((cs.dropWhile (· ≠ ')')).drop 1)
      | some (innerMode, some body) => do
        match ← readAlternatives fuel innerMode empty body with
        | (p, ')' :: rest) =>
          let (p, rest) := readRepetitions p rest
          readAlternatives fuel mode (seq before p) rest
        | _ => none
    else do
      let (p, rest) ← readAtom mode (c :: cs)
      let (p, rest) := readRepetitions p rest
      readAlternatives fuel mode (seq before p) rest

/-- The pattern that a text denotes. -/
def ofText (s : String) : Except PatternFault Pattern :=
  match readAlternatives (s.length + 1) {} empty s.toList with
  | some (p, []) => if p.asksForEdge then .error .wordEdge else .ok p
  | _ => .error .badForm

end Pattern

end UsageBilling
