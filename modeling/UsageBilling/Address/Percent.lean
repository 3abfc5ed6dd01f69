import UsageBilling.Text.Numeral
import UsageBilling.Text.Utf8

/-!
# Percent encoding

An octet that an address cannot hold is written as a percent sign and two
hexadecimal digits. A character outside ASCII is written octet by octet, as
UTF-8 has it.
-/

namespace UsageBilling.Address

/-- The octets of a text. -/
def octets (cs : List Char) : List UInt8 :=
  (String.ofList cs).toUTF8.toList

/-- A hexadecimal digit in upper case. -/
def hexDigit (n : Nat) : Char :=
  if n < 10 then Char.ofNat ('0'.toNat + n) else Char.ofNat ('A'.toNat + (n - 10))

/-- An octet as a percent sign and two digits. -/
def percentOctet (o : UInt8) : List Char :=
  ['%', hexDigit (o.toNat / 16), hexDigit (o.toNat % 16)]

/-- The text with every octet encoded that belongs to `unsafeSet` or lies outside ASCII. -/
def percentEncode (unsafeSet : Char → Bool) (cs : List Char) : List Char :=
  cs.flatMap fun c =>
    if unsafeSet c || 0x7F ≤ c.toNat then (octets [c]).flatMap percentOctet else [c]

/-- The octets that a percent-encoded text denotes; a percent sign without two digits stands
for itself. -/
def percentOctets : List Char → List UInt8
  | '%' :: a :: b :: rest =>
    match Text.hexValue? a, Text.hexValue? b with
    | some x, some y => UInt8.ofNat (16 * x + y) :: percentOctets rest
    | _, _ => '%'.toUInt8 :: percentOctets (a :: b :: rest)
  | c :: rest => octets [c] ++ percentOctets rest
  | [] => []

/-- The text that a percent-encoded text denotes, if its octets are UTF-8. -/
def percentDecode (cs : List Char) : Except Text.Utf8Fault (List Char) :=
  Text.ofUtf8 (percentOctets cs)

/-- The text that a percent-encoded text denotes, with replacements for octets that are not
UTF-8. -/
def percentDecodeLoosely (cs : List Char) : List Char :=
  Text.ofUtf8Loosely (percentOctets cs)

end UsageBilling.Address
