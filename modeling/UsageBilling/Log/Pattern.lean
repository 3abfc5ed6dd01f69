import UsageBilling.Text.Numeral

/-!
# Patterns of texts

A regular expression names texts. Where it leaves a choice, one alternative is
preferred, and once the preferred ones have come to an end, the others are not
tried any more: a text matches if the preferred end is the end of the text.

The texts that the log compares are ASCII, so the digits, the blanks and the
characters of words are those of ASCII.
-/

namespace UsageBilling

/-- A set of characters. -/
structure CharSet where
  ranges : List (Nat × Nat)
  /-- The set holds the characters outside the ranges. -/
  negated : Bool := false
  deriving DecidableEq, Repr

namespace CharSet

/-- The set holds a character. -/
def holds (s : CharSet) (c : Char) : Bool :=
  s.negated != s.ranges.any fun range => range.1 ≤ c.toNat && c.toNat ≤ range.2

/-- The set of a single character. -/
def single (c : Char) : CharSet := ⟨[(c.toNat, c.toNat)], false⟩

def digits : CharSet := ⟨[(0x30, 0x39)], false⟩
def blanks : CharSet := ⟨[(0x09, 0x0D), (0x20, 0x20)], false⟩
def wordChars : CharSet := ⟨[(0x30, 0x39), (0x41, 0x5A), (0x5F, 0x5F), (0x61, 0x7A)], false⟩

/-- The characters outside the set. -/
def complement (s : CharSet) : CharSet := { s with negated := !s.negated }

/-- The ranges of the set among all characters. -/
def allRanges (s : CharSet) : List (Nat × Nat) :=
  if s.negated then
    let ends := s.ranges.foldl (fun (low, gaps) (a, b) =>
      (b + 1, if low < a then gaps ++ [(low, a - 1)] else gaps)) (0, ([] : List (Nat × Nat)))
    ends.2 ++ [(ends.1, 0x10FFFF)]
  else s.ranges

/-- The set with the other case of each letter. -/
def anyCase (s : CharSet) : CharSet :=
  { s with ranges := s.ranges.flatMap fun (a, b) =>
      let shifted := fun (low high : Nat) (move : Nat → Nat) =>
        if max a low ≤ min b high then [(move (max a low), move (min b high))] else []
      (a, b) :: (shifted 0x41 0x5A (· + 0x20) ++ shifted 0x61 0x7A (· - 0x20)) }

end CharSet

/-- A regular expression. -/
inductive Pattern where
  | empty
  | atStart
  | atEnd
  /-- At the edge of a word, or away from one; no text is matched against it. -/
  | wordEdge
  | char (s : CharSet)
  | seq (a b : Pattern)
  /-- One or the other; the first is preferred. -/
  | choice (a b : Pattern)
  /-- As often as one likes; many times are preferred if `greedy`. -/
  | many (greedy : Bool) (a : Pattern)
  deriving DecidableEq, Repr

namespace Pattern

/-- How a text may go on. -/
inductive Head where
  /-- It may end. -/
  | done
  /-- A character of a set comes first. -/
  | then (s : CharSet) (rest : Pattern)
  deriving DecidableEq

/-- The ways in which a text may go on, the preferred one first; `isFirst` and `isLast` say that
nothing came before and that nothing is left. -/
def heads (isFirst isLast : Bool) : Pattern → List Head
  | empty => [.done]
  | atStart => if isFirst then [.done] else []
  | atEnd => if isLast then [.done] else []
  | wordEdge => []
  | char s => [.then s empty]
  | seq a b => (heads isFirst isLast a).flatMap fun
    | .done => heads isFirst isLast b
    | .then s rest => [.then s (seq rest b)]
  | choice a b => heads isFirst isLast a ++ heads isFirst isLast b
  | many greedy a =>
    let more := (heads isFirst isLast a).filterMap fun
      | .done => none
      | .then s rest => some (.then s (seq rest (many greedy a)))
    if greedy then more ++ [.done] else .done :: more

/-- A text matches one of some patterns, the preferred first. -/
def matchesAny : (isFirst : Bool) → List Pattern → List Char → Bool
  | isFirst, patterns, [] => (patterns.flatMap (heads isFirst true)).contains .done
  | isFirst, patterns, c :: cs =>
    let live := (patterns.flatMap (heads isFirst false)).takeWhile (· ≠ .done)
    let rests := live.filterMap fun
      | .done => none
      | .then s rest => if s.holds c then some rest else none
    matchesAny false rests.eraseDups cs

/-- A text matches a pattern. -/
def accepts (p : Pattern) (s : String) : Bool :=
  matchesAny true [p] s.toList

/-- The pattern asks for the edge of a word somewhere. -/
def asksForEdge : Pattern → Bool
  | wordEdge => true
  | seq a b | choice a b => asksForEdge a || asksForEdge b
  | many _ a => asksForEdge a
  | _ => false

/-- A pattern any number of times but at least once. -/
def atLeastOnce (greedy : Bool) (a : Pattern) : Pattern := seq a (many greedy a)

/-- A pattern once or not at all. -/
def optional (greedy : Bool) (a : Pattern) : Pattern :=
  if greedy then choice a empty else choice empty a

end Pattern

end UsageBilling
