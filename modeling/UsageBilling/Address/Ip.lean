import UsageBilling.Text.Blank
import UsageBilling.Text.Numeral

/-!
# Numeric addresses

An address of version 4 is four octets. Strictly it is written as four decimal
numbers; a host may also leave parts out and write them in base 8 or 16. An
address of version 6 is eight groups of sixteen bits, of which one run of zeros
may be left out.
-/

namespace UsageBilling.Address

/-- An address of version 4. -/
structure Ipv4 where
  value : UInt32
  deriving DecidableEq, Repr

/-- An address of version 6. -/
structure Ipv6 where
  groups : List UInt16
  length_eq : groups.length = 8
  deriving DecidableEq, Repr

namespace Ipv4

/-- The address as four decimal numbers. -/
def text (a : Ipv4) : List Char :=
  let n := a.value.toNat
  ['.'].intercalate <|
    [n / 0x1000000, n / 0x10000 % 0x100, n / 0x100 % 0x100, n % 0x100].map Text.decimal

/-- A number up to 255 without zeros in front. -/
def octet? (cs : List Char) : Option Nat :=
  if cs.isEmpty || 3 < cs.length || !cs.all Char.isDigit || (cs.head? = some '0' && 1 < cs.length)
  then none
  else
    let n := Text.digitsValue cs
    if n < 0x100 then some n else none

/-- The address that four decimal numbers denote. -/
def ofDecimals? (cs : List Char) : Option Ipv4 := do
  match ← (Text.pieces '.' cs).mapM octet? with
  | [a, b, c, d] => some ⟨UInt32.ofNat (((a * 0x100 + b) * 0x100 + c) * 0x100 + d)⟩
  | _ => none

/-- The number that a part of a host denotes, in base 8 after a zero and in base 16 after `0x`. -/
def partOf? (cs : List Char) : Option Nat :=
  match cs with
  | [] => none
  | ['0'] => some 0
  | '0' :: c :: digits =>
    if c = 'x' || c = 'X' then
      (digits.mapM Text.hexValue?).map fun ds => ds.foldl (fun n d => 0x10 * n + d) 0
    else if (c :: digits).all fun d => '0' ≤ d && d ≤ '7' then
      some ((c :: digits).foldl (fun n d => 8 * n + Text.digitValue d) 0)
    else none
  | cs => if cs.all Char.isDigit then some (Text.digitsValue cs) else none

/-- The parts of a host between its dots; a dot at the end counts for nothing. -/
def partsOf (host : List Char) : List (List Char) :=
  let parts := Text.pieces '.' host
  if 1 < parts.length && parts.getLast? = some [] then parts.dropLast else parts

/-- The last part of a host is a number, so that the host has to be an address. -/
def endsInNumber (host : List Char) : Bool :=
  match (partsOf host).getLast? with
  | none | some [] => false
  | some part => part.all Char.isDigit || (partOf? part).isSome

/-- The address that a host is: up to four numbers, of which the last one fills what the others
leave. -/
def ofHost? (host : List Char) : Option Ipv4 := do
  let numbers ← (partsOf host).mapM partOf?
  let last ← numbers.getLast?
  let others := numbers.dropLast
  let bits := 8 * (4 - others.length)
  if 3 < others.length || others.any (0xFF < ·) || 1 <<< bits ≤ last then none
  else
    let front := others.foldl (fun n octet => n * 0x100 + octet) 0
    some ⟨UInt32.ofNat (front <<< bits + last)⟩

end Ipv4

namespace Ipv6

/-- One to four digits of base 16. -/
def group? (cs : List Char) : Option UInt16 :=
  if cs.isEmpty || 4 < cs.length then none
  else (cs.mapM Text.hexValue?).map fun ds => UInt16.ofNat (ds.foldl (fun n d => 0x10 * n + d) 0)

/-- The groups between colons; the last two may be written as an address of version 4 if
`mayEmbed`. -/
def groups? (mayEmbed : Bool) : List (List Char) → Option (List UInt16)
  | [] => some []
  | [cs] =>
    match if mayEmbed then Ipv4.ofDecimals? cs else none with
    | some a => some [(a.value.toNat / 0x10000).toUInt16, a.value.toNat.toUInt16]
    | none => (group? cs).map ([·])
  | cs :: rest => do return (← group? cs) :: (← groups? mayEmbed rest)

/-- The texts before and after the first pair of colons. -/
def splitAtGap : List Char → Option (List Char × List Char)
  | ':' :: ':' :: rest => some ([], rest)
  | c :: cs => (splitAtGap cs).map fun (before, after) => (c :: before, after)
  | [] => none

/-- The groups of a side of the gap, which may be empty. -/
def sideOf? (mayEmbed : Bool) (cs : List Char) : Option (List UInt16) :=
  if cs.isEmpty then some [] else groups? mayEmbed (Text.pieces ':' cs)

/-- The address that some groups are, if there are eight. -/
def ofGroups? (groups : List UInt16) : Option Ipv6 :=
  if h : groups.length = 8 then some ⟨groups, h⟩ else none

/-- The address that a text denotes. -/
def ofText? (cs : List Char) : Option Ipv6 := do
  match splitAtGap cs with
  | none => ofGroups? (← groups? true (Text.pieces ':' cs))
  | some (before, after) =>
    let before ← sideOf? false before
    let after ← sideOf? true after
    let zeros := 8 - (before.length + after.length)
    if zeros = 0 then none
    else ofGroups? (before ++ List.replicate zeros 0 ++ after)

/-- How many zeros the groups begin with. -/
def zeros (groups : List UInt16) : Nat :=
  (groups.takeWhile (· = 0)).length

/-- The place and length of the longest run of zeros, the first one if there are several. -/
def longestZeros : List UInt16 → Nat × Nat
  | [] => (0, 0)
  | g :: groups =>
    let (place, length) := longestZeros groups
    if length ≤ zeros (g :: groups) then (0, zeros (g :: groups)) else (place + 1, length)

/-- Groups with colons between. -/
def groupsText (groups : List UInt16) : List Char :=
  [':'].intercalate (groups.map fun g => Nat.toDigits 0x10 g.toNat)

/-- The address as text, with two colons for the longest run of more than one zero. -/
def text (a : Ipv6) : List Char :=
  let (place, length) := longestZeros a.groups
  if length < 2 then groupsText a.groups
  else groupsText (a.groups.take place) ++ [':', ':'] ++ groupsText (a.groups.drop (place + length))

end Ipv6

/-- A text is an address of either version. -/
def isIp (cs : List Char) : Bool :=
  (Ipv4.ofDecimals? cs).isSome || (Ipv6.ofText? cs).isSome

end UsageBilling.Address
