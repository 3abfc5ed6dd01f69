import UsageBilling.Text.CombiningClass
import UsageBilling.Text.Composites

/-!
# Normalised text

A text is normalised by taking its composed characters apart, putting the marks
of each character in the order of their classes, and composing again what can
be composed. The syllables of Hangul are composed by arithmetic.
-/

namespace UsageBilling.Text

namespace Hangul

/-- The first syllable, leading consonant, vowel, and the place before the first trailing
consonant. -/
def syllableBase : Nat := 0xAC00
def leadBase : Nat := 0x1100
def vowelBase : Nat := 0x1161
def trailBase : Nat := 0x11A7

/-- The numbers of leading consonants, vowels, and trailing consonants with none counted. -/
def leads : Nat := 19
def vowels : Nat := 21
def trails : Nat := 28

/-- The parts of a syllable. -/
def parts? (c : Char) : Option (List Char) :=
  let n := c.toNat - syllableBase
  if c.toNat < syllableBase || leads * vowels * trails ≤ n then none
  else
    let start := [Char.ofNat (leadBase + n / (vowels * trails)),
      Char.ofNat (vowelBase + n % (vowels * trails) / trails)]
    some (if n % trails = 0 then start else start ++ [Char.ofNat (trailBase + n % trails)])

/-- The syllable that two characters form. -/
def syllableOf? (a b : Char) : Option Char :=
  let lead := a.toNat - leadBase
  let vowel := b.toNat - vowelBase
  let syllable := a.toNat - syllableBase
  let trail := b.toNat - trailBase
  if leadBase ≤ a.toNat && lead < leads && vowelBase ≤ b.toNat && vowel < vowels then
    some (Char.ofNat (syllableBase + (lead * vowels + vowel) * trails))
  else if syllableBase ≤ a.toNat && syllable < leads * vowels * trails && syllable % trails = 0 &&
      trailBase < b.toNat && trail < trails then
    some (Char.ofNat (a.toNat + trail))
  else none

end Hangul

/-- The characters that a character is composed of; `depth` bounds how deep the pairs are
nested. -/
def decomposed : (depth : Nat) → Char → List Char
  | 0, c => [c]
  | depth + 1, c =>
    match Hangul.parts? c with
    | some parts => parts
    | none =>
      match pairOf? c with
      | some (a, b) => decomposed depth a ++ [b]
      | none => [c]

/-- How deep the pairs of composed characters are nested. -/
def compositionDepth : Nat := 4

/-- Put a mark behind the marks in front that have a lower class. -/
def insertMark (mark : Char) : List Char → List Char
  | [] => [mark]
  | c :: cs =>
    if combiningClass c = 0 || combiningClass mark ≤ combiningClass c then mark :: c :: cs
    else c :: insertMark mark cs

/-- The text with the marks of each character in the order of their classes. -/
def ordered : List Char → List Char
  | [] => []
  | c :: cs => if combiningClass c = 0 then c :: ordered cs else insertMark c (ordered cs)

/-- Compose what follows a character `start`; `held` are the marks since then that are not
composed with it, the last first. -/
def composeAfter (start : Char) (held : List Char) : List Char → List Char
  | [] => start :: held.reverse
  | c :: cs =>
    let reachable := match held with
      | [] => true
      | mark :: _ => combiningClass mark < combiningClass c
    match if reachable then Hangul.syllableOf? start c <|> compositeOf? start c else none with
    | some composite => composeAfter composite held cs
    | none =>
      if combiningClass c = 0 then start :: (held.reverse ++ composeAfter c [] cs)
      else composeAfter start (c :: held) cs

/-- The text composed as far as possible. -/
def composed : List Char → List Char
  | [] => []
  | c :: cs => if combiningClass c = 0 then composeAfter c [] cs else c :: composed cs

/-- The text, normalised. -/
def normalised (cs : List Char) : List Char :=
  if cs.all (·.toNat < 0x80) then cs
  else composed (ordered (cs.flatMap (decomposed compositionDepth)))

end UsageBilling.Text
