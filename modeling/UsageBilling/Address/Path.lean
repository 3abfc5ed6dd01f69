import UsageBilling.Address.Percent
import UsageBilling.Text.Blank

/-!
# Paths of addresses

A path is a row of segments. A segment of two dots takes away the one before
it, unless that is the letter of a drive, and one of a single dot stands for
nothing.
-/

namespace UsageBilling.Address

/-- The characters that a path cannot hold. -/
def isUnsafeInPath (c : Char) : Bool :=
  c.toNat < 0x20 || " \"<>`#?\x7b\x7d".toList.contains c

/-- A segment that stands for the place where it is. -/
def isSingleDot (segment : List Char) : Bool :=
  [".", "%2e"].contains (String.ofList (segment.map Char.toLower))

/-- A segment that stands for the place above. -/
def isDoubleDot (segment : List Char) : Bool :=
  ["..", ".%2e", "%2e.", "%2e%2e"].contains (String.ofList (segment.map Char.toLower))

/-- The letter of a drive and a colon or bar. -/
def isDrive : List Char → Bool
  | [letter, mark] => letter.isAlpha && (mark = ':' || mark = '|')
  | _ => false

/-- The segments above the place that a segment of two dots takes away; the last comes first. -/
def parent : List (List Char) → List (List Char)
  | [] => []
  | segment :: above => if isDrive segment then segment :: above else above

/-- Resolve the dots in segments; `above` holds the segments so far, the last first. In the path
of a file a drive at the beginning is written with a colon. -/
def resolveDots (ofFile : Bool) : (above segments : List (List Char)) → List (List Char)
  | above, [] => above.reverse
  | above, segment :: rest =>
    if isDoubleDot segment then
      resolveDots ofFile (if rest.isEmpty then [] :: parent above else parent above) rest
    else if isSingleDot segment then
      resolveDots ofFile (if rest.isEmpty then [] :: above else above) rest
    else if ofFile && above.isEmpty && isDrive segment then
      resolveDots ofFile [segment.take 1 ++ [':']] rest
    else resolveDots ofFile (segment :: above) rest

/-- The path whose segments some characters name, with a slash in front of each. -/
def readSegments (ofFile : Bool) (cs : List Char) : List Char :=
  let segments := (Text.pieces '/' cs).map (percentEncode isUnsafeInPath)
  (resolveDots ofFile [] segments).flatMap ('/' :: ·)

/-- A path without empty segments before the others. -/
def withoutEmptyFront (path : List Char) : List Char :=
  '/' :: path.dropWhile (· = '/')

/-- The path of a file, whose first segments are not empty. -/
def readFilePath (cs : List Char) : List Char :=
  withoutEmptyFront (readSegments true cs)

/-- The path of a file begins with a drive. -/
def startsAtDrive (path : List Char) : Bool :=
  isDrive ((path.drop 1).takeWhile (· ≠ '/'))

/-- The characters without a slash in front of them. -/
def afterSlash : List Char → List Char
  | '/' :: cs => cs
  | cs => cs

end UsageBilling.Address
