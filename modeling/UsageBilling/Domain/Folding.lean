import UsageBilling.Domain.Folding.ArabicForms
import UsageBilling.Domain.Folding.Expansions
import UsageBilling.Domain.Folding.Ideographs
import UsageBilling.Domain.Folding.Refused
import UsageBilling.Domain.Folding.Shifts
import UsageBilling.Domain.Folding.Singles
import UsageBilling.Text.Ranges

/-!
# Folded names

Names that differ only in case, width or compatible forms are the same name.
Folding takes each character to the ones that stand for it, leaves some out,
and refuses others.
-/

namespace UsageBilling.Domain

/-- What folding does with a character. -/
inductive Fold where
  | kept
  | replaced (image : List Char)
  | refused
  deriving DecidableEq, Repr

/-- The image of a character among those at a fixed distance. -/
def shiftOf? (n : Nat) : Option Nat :=
  (shifts.find? fun (first, last, step, _) =>
    first ≤ n && n ≤ last && (n - first) % step = 0).map fun (first, _, _, image) =>
      image + (n - first)

/-- The entry for a character in rows that each begin at a first character. -/
def entryOf? {α : Type} (rows : List (Nat × List α)) (n : Nat) : Option α :=
  rows.findSome? fun (first, images) => if n < first then none else images[n - first]?

/-- The code points that a character folds into, if it is replaced. -/
def imageOf? (n : Nat) : Option (List Nat) :=
  let single :=
    shiftOf? n <|> entryOf? singles n <|> entryOf? arabicForms n <|> entryOf? ideographs n
  single.map ([·]) <|> entryOf? expansions n

/-- What folding does with a character. -/
def foldChar (c : Char) : Fold :=
  if Text.isWithin refusedRanges c then .refused
  else if Text.isWithin ignoredRanges c then .replaced []
  else match imageOf? c.toNat with
    | some image => .replaced (image.map Char.ofNat)
    | none => .kept

/-- A name, folded, if none of its characters is refused. -/
def fold? : List Char → Option (List Char)
  | [] => some []
  | c :: cs =>
    match foldChar c with
    | .kept => (fold? cs).map (c :: ·)
    | .replaced image => (fold? cs).map (image ++ ·)
    | .refused => none

end UsageBilling.Domain
