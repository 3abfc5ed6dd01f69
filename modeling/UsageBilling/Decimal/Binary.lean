import UsageBilling.Text.Numeral

/-!
# Whole numbers kept with 53 significant bits

A sample is a binary floating-point number of 53 significant bits, and every
sample here is whole and not negative. So a sample is a natural number that
`nearest` leaves unchanged, a sum is rounded to the nearest such number, a half
going to the even neighbour, and its text has the fewest digits that are read
back as the same number, with zeros up to the point.
-/

namespace UsageBilling.Decimal

/-- How many low bits of `n` do not fit into 53 significant bits. -/
def excessBits (n : Nat) : Nat :=
  if n = 0 then 0 else n.log2 - 52

/-- The number of 53 significant bits nearest to `n`, of two the one with the even significand. -/
def nearest (n : Nat) : Nat :=
  let unit := Nat.pow 2 (excessBits n)
  let low := n / unit
  let rest := 2 * (n % unit)
  if rest < unit || (rest == unit && low % 2 == 0) then low * unit else (low + 1) * unit

/-- The nearest multiples of `10 ^ places` at most and at least `n` that are read back as `n`,
the nearer one first. -/
def onGrid? (n places : Nat) : Option Nat :=
  let unit := Nat.pow 10 places
  let below := n / unit * unit
  let above := below + unit
  let (near, far) := if n - below ≤ above - n then (below, above) else (above, below)
  if nearest near = n then some near else if nearest far = n then some far else none

/-- The decimal number with the most zeros at its end that is read back as `n`, searched from
`places` zeros downwards. -/
def fewestDigits (n : Nat) : Nat → Nat
  | 0 => n
  | places + 1 => (onGrid? n (places + 1)).getD (fewestDigits n places)

/-- The text of a sample. -/
def shortest (n : Nat) : List Char :=
  Text.decimal (fewestDigits n (Text.decimal n).length)

end UsageBilling.Decimal
