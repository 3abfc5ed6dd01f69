import UsageBilling.Address.Url

/-!
# Addresses that are only checked

What is sent over the network or looked up as a collector of traces has to be a
URI as it stands. The text is checked, not normalised: what it may hold depends
on the place, and a character that has no place is the first thing that is
reported.
-/

namespace UsageBilling.Address

/-- What is wrong with a URI. -/
inductive UriFault where
  | tooLong
  | schemeTooLong
  | badCharacter
  | badAuthority
  | badFormat
  deriving DecidableEq, Repr

/-- What a fault says. -/
def UriFault.message : UriFault → String
  | tooLong => "uri too long"
  | schemeTooLong => "scheme too long"
  | badCharacter => "invalid uri character"
  | badAuthority => "invalid authority"
  | badFormat => "invalid format"

/-- The most octets of a URI. -/
def uriLimit : Nat := 65534

/-- The most characters of a scheme. -/
def schemeLimit : Nat := 64

/-- A character that an authority may hold. -/
def isAuthorityChar (c : Char) : Bool :=
  c.isAlphanum || "!#$&'()*+,-./:;=?@[]_~".toList.contains c

/-- What is known of an authority after some of its characters. -/
structure AuthorityScan where
  colons : Nat := 0
  opened : Bool := false
  closed : Bool := false
  percent : Bool := false
  afterAt : Bool := false

/-- Read one character of an authority. -/
def AuthorityScan.step (s : AuthorityScan) (c : Char) : Except UriFault AuthorityScan :=
  let s := { s with afterAt := c = '@' }
  if c = '%' then .ok { s with percent := true }
  else if !isAuthorityChar c then .error .badCharacter
  else if c = ':' then
    if 8 ≤ s.colons then .error .badAuthority else .ok { s with colons := s.colons + 1 }
  else if c = '[' then
    if s.percent || s.opened then .error .badAuthority else .ok { s with opened := true }
  else if c = ']' then
    if !s.opened || s.closed then .error .badAuthority
    else .ok { s with closed := true, colons := 0, percent := false }
  else if c = '@' then .ok { s with colons := 0, percent := false }
  else .ok s

/-- Check an authority and nothing after it. -/
def checkAuthority (cs : List Char) : Except UriFault Unit := do
  let s ← cs.foldlM AuthorityScan.step {}
  if s.opened != s.closed || 1 < s.colons || s.afterAt || s.percent then
    throw .badAuthority

/-- A character that a query may hold. -/
def isQueryChar (c : Char) : Bool :=
  '!' ≤ c && c ≤ '~' && !(['"', '#', '<', '>'].contains c)

/-- A character that a path may hold. -/
def isPathChar (c : Char) : Bool :=
  c = '"' || (isQueryChar c && c ≠ '?' && c ≠ '`')

/-- Check a path with its query; a fragment is left out. -/
def checkPath (cs : List Char) : Except UriFault Unit :=
  let (path, query) := splitFirst '?' (cs.takeWhile (· ≠ '#'))
  if path.all isPathChar && (query.getD []).all isQueryChar then .ok () else .error .badCharacter

/-- A character that a scheme may hold, its first one included. -/
def isUriSchemeChar (c : Char) : Bool :=
  isSchemeChar c || c = '~'

/-- The text after a scheme and the two slashes behind it, if there is one. -/
def afterScheme (cs : List Char) : Except UriFault (Option (List Char)) :=
  let scheme := cs.takeWhile isUriSchemeChar
  match cs.dropWhile isUriSchemeChar with
  | ':' :: '/' :: '/' :: rest =>
    if schemeLimit < scheme.length then .error .schemeTooLong else .ok (some rest)
  | _ => .ok none

/-- A character that ends an authority. -/
def endsAuthority (c : Char) : Bool :=
  c = '/' || c = '?' || c = '#'

/-- Check a URI: a path, an authority, or a scheme with an authority and a path. -/
def checkUri (s : String) : Except UriFault Unit := do
  let cs := s.toList
  if uriLimit < s.utf8ByteSize then throw .tooLong
  if cs.head? = some '/' then checkPath cs
  else
    let scheme ← afterScheme cs
    let rest := scheme.getD cs
    let authority := rest.takeWhile (!endsAuthority ·)
    let path := rest.drop authority.length
    checkAuthority authority
    match scheme with
    | none => if !path.isEmpty then throw .badFormat
    | some _ => do
      if authority.isEmpty then throw .badFormat
      checkPath path

end UsageBilling.Address
