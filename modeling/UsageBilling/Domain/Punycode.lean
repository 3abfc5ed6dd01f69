/-!
# Punycode

A label with characters outside ASCII is written in letters and digits: its
ASCII characters first, and after a hyphen the others as a row of numbers. Each
number says how far to go, over places and code points at once, from one
insertion to the next; its digits have thresholds that follow a bias.
-/

namespace UsageBilling.Domain.Punycode

/-- The number of digits. -/
def base : Nat := 36

/-- The bias of the first number. -/
def firstBias : Nat := 72

/-- The first code point that is inserted. -/
def firstInserted : Nat := 0x80

/-- A digit. -/
def digit (n : Nat) : Char :=
  if n < 26 then Char.ofNat ('a'.toNat + n) else Char.ofNat ('0'.toNat + (n - 26))

/-- The value of a digit; letters count in either case. -/
def digitValue? (c : Char) : Option Nat :=
  if 'a' ≤ c && c ≤ 'z' then some (c.toNat - 'a'.toNat)
  else if 'A' ≤ c && c ≤ 'Z' then some (c.toNat - 'A'.toNat)
  else if '0' ≤ c && c ≤ '9' then some (c.toNat - '0'.toNat + 26)
  else none

/-- The threshold of the digit at a place; the places are counted in multiples of the base. -/
def threshold (place bias : Nat) : Nat :=
  if place ≤ bias then 1 else if bias + 26 ≤ place then 26 else place - bias

/-- Divide a distance until it is small; with the count of divisions in multiples of the base. -/
def scaled (distance : Nat) : Nat × Nat :=
  if 455 < distance then
    let (rest, count) := scaled (distance / 35)
    (rest, count + base)
  else (distance, 0)
termination_by distance

/-- The bias after a distance, with `points` characters in the label so far. -/
def adapted (distance points : Nat) (isFirst : Bool) : Nat :=
  let distance := if isFirst then distance / 700 else distance / 2
  let (rest, count) := scaled (distance + distance / points)
  count + base * rest / (rest + 38)

/-- The digits of a number, from a place on; at most `fuel` and one more. -/
def digits (bias : Nat) : (fuel place n : Nat) → List Char
  | 0, _, n => [digit n]
  | fuel + 1, place, n =>
    let t := threshold place bias
    if n < t then [digit n]
    else digit (t + (n - t) % (base - t)) :: digits bias fuel (place + base) ((n - t) / (base - t))

/-- What is known while a label is written. -/
structure Writer where
  /-- The digits so far, the last first. -/
  written : List Char
  distance : Nat
  bias : Nat
  /-- The characters handled. -/
  points : Nat

/-- Pass a character of the label while the code point `n` is written. -/
def Writer.pass (basic n : Nat) (w : Writer) (c : Char) : Writer :=
  if c.toNat < n then { w with distance := w.distance + 1 }
  else if c.toNat = n then
    { written := (digits w.bias w.distance base w.distance).reverse ++ w.written
      distance := 0
      bias := adapted w.distance (w.points + 1) (w.points = basic)
      points := w.points + 1 }
  else w

/-- Write the code points in `rest`, in rising order; `next` is the least one that is left. -/
def writeFrom (label : List Char) (basic : Nat) : (rest : List Nat) → (next : Nat) → Writer →
    List Char
  | [], _, w => w.written.reverse
  | n :: rest, next, w =>
    let w := { w with distance := w.distance + (n - next) * (w.points + 1) }
    let w := label.foldl (Writer.pass basic n) w
    writeFrom label basic rest (n + 1) { w with distance := w.distance + 1 }

/-- The written form of a label. -/
def encode (label : List Char) : List Char :=
  let basic := label.filter (·.toNat < firstInserted)
  let others := ((label.map Char.toNat).filter (firstInserted ≤ ·)).mergeSort.eraseDups
  let start := if basic.isEmpty then [] else basic ++ ['-']
  start ++ writeFrom label basic.length others firstInserted ⟨[], 0, firstBias, basic.length⟩

/-- The number that some digits begin with, and the digits after it. -/
def number? (bias : Nat) : (place weight sum : Nat) → List Char → Option (Nat × List Char)
  | _, _, _, [] => none
  | place, weight, sum, c :: cs => do
    let d ← digitValue? c
    let sum := sum + d * weight
    let t := threshold place bias
    if UInt32.size ≤ sum then none
    else if d < t then some (sum, cs)
    else
      let weight := weight * (base - t)
      if UInt32.size ≤ weight then none
      else number? bias (place + base) weight sum cs

/-- Insert the characters that some digits denote; at most `fuel`. -/
def insertAll : (fuel : Nat) → (label : List Char) → (next place bias : Nat) → List Char →
    Option (List Char)
  | _, label, _, _, _, [] => some label
  | 0, _, _, _, _, _ => none
  | fuel + 1, label, next, place, bias, cs => do
    let (distance, rest) ← number? bias base 1 0 cs
    let points := label.length + 1
    let next := next + (place + distance) / points
    let spot := (place + distance) % points
    if next.isValidChar then
      let label := label.take spot ++ Char.ofNat next :: label.drop spot
      insertAll fuel label next (spot + 1) (adapted distance points (place = 0)) rest
    else none

/-- The label that a written form denotes, if it is one. -/
def decode? (cs : List Char) : Option (List Char) :=
  let after := (cs.reverse.takeWhile (· ≠ '-')).reverse
  let before := cs.take (cs.length - after.length - 1)
  let (basic, others) := if before.isEmpty then ([], cs) else (before, after)
  insertAll others.length basic firstInserted 0 firstBias others

end UsageBilling.Domain.Punycode
