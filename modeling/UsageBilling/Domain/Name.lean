import UsageBilling.Domain.Folding
import UsageBilling.Domain.Punycode
import UsageBilling.Text.Blank
import UsageBilling.Text.Direction
import UsageBilling.Text.Joining
import UsageBilling.Text.Normal

/-!
# Domain names in ASCII

A domain name in any script has one written form in ASCII: it is folded and
normalised, and each label outside ASCII is written as `xn--` with digits. A
label that comes in that form has to denote one that folding and normalising
would leave alone.
-/

namespace UsageBilling.Domain

/-- How a label in its written form begins. -/
def mark : List Char := "xn--".toList

/-- The most characters of a label that is written with digits. -/
def encodingLimit : Nat := 1000

/-- The most digits of a label that is read. -/
def decodingLimit : Nat := 2000

/-- The character takes the vowel from the one before it. -/
def isVirama (c : Char) : Bool :=
  Text.combiningClass c = Text.viramaClass

/-- The character joins the letters around it. -/
def isJoiner (c : Char) : Bool :=
  c.toNat = 0x200C || c.toNat = 0x200D

/-- A joiner may stand after `before`, the last character first, and in front of `after`. -/
def mayJoin (joiner : Char) (before after : List Char) : Bool :=
  before.head?.any isVirama ||
    (joiner.toNat = 0x200C &&
      (before.dropWhile Text.isTransparent).head?.any Text.joinsForward &&
      (after.dropWhile Text.isTransparent).head?.any Text.joinsBackward)

/-- The joiners of a label stand where they may; `before` has its characters so far, the last
first. -/
def joinersFit : (before label : List Char) → Bool
  | _, [] => true
  | before, c :: after => (!isJoiner c || mayJoin c before after) && joinersFit (c :: before) after

/-- A label outside ASCII that may be written in ASCII. -/
def isWritable (label : List Char) : Bool :=
  !mark.isPrefixOf label && label.length ≤ encodingLimit &&
    !label.head?.any Text.isMark && joinersFit [] label

/-- Folding and normalising leave a label alone. -/
def isFolded (label : List Char) : Bool :=
  label.all (fun c => foldChar c = .kept) && Text.normalised label = label

/-- A label as it is read and as it is written in ASCII. -/
structure Label where
  characters : List Char
  ascii : List Char

/-- The label that some folded characters are, in which none is `refused`. -/
def Label.ofFolded? (refused : Char → Bool) (cs : List Char) : Option Label :=
  if mark.isPrefixOf cs then
    let digits := cs.drop mark.length
    if digits.any (0x80 ≤ ·.toNat) || digits.getLast?.all (· = '-') ||
        decodingLimit < digits.length then none
    else match Punycode.decode? digits with
      | none => none
      | some label =>
        if label.any refused || !isFolded label || !isWritable label then none
        else some ⟨label, cs⟩
  else if cs.any refused then none
  else if cs.all (·.toNat < 0x80) then some ⟨cs, cs⟩
  else if isWritable cs then some ⟨cs, mark ++ Punycode.encode cs⟩
  else none

/-- A name in ASCII, if it is one in which no character is `refused`. -/
def ascii? (refused : Char → Bool) (cs : List Char) : Option (List Char) := do
  let labels ← (Text.pieces '.' (Text.normalised (← fold? cs))).mapM (Label.ofFolded? refused)
  let backwards := labels.any fun label => label.characters.any Text.runsBackwards
  if backwards && !labels.all fun label => Text.runsOneWay label.characters then none
  else return ['.'].intercalate (labels.map (·.ascii))

end UsageBilling.Domain
