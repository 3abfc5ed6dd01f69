import UsageBilling.Address.Host
import UsageBilling.Address.Path

/-!
# Addresses

An address is a scheme, an authority with a host, a path, a query and a
fragment. Reading one normalises it: scheme and host in lower case, no tabs or
line ends, dot segments resolved, the default port left out and unsafe
characters percent-encoded. The web schemes always have a host and take a
backslash for a slash; so does the scheme of files, but for the host; the
other schemes may do without an authority.
-/

namespace UsageBilling

open Address (Host)

/-- The part of an address that names a host. -/
structure Authority where
  user : List Char := []
  /-- A password is not empty. -/
  password : Option (List Char) := none
  host : Host
  port : Option Nat := none
  deriving DecidableEq, Repr

/-- An address, normalised. -/
structure Url where
  scheme : String
  authority : Option Authority
  path : List Char
  query : Option (List Char)
  fragment : Option (List Char)
  deriving DecidableEq, Repr

namespace Address

/-- The schemes of the web, with their default ports. -/
def webPorts : List (String × Nat) :=
  [("http", 80), ("https", 443), ("ws", 80), ("wss", 443), ("ftp", 21)]

/-- A scheme of the web. -/
def isWeb (scheme : String) : Bool :=
  webPorts.any (·.1 = scheme)

/-- The scheme of files. -/
def fileScheme : String := "file"

/-- A scheme in whose addresses a backslash counts as a slash. -/
def takesBackslash (scheme : String) : Bool :=
  isWeb scheme || scheme = fileScheme

/-- The text without the controls and spaces at its ends, and without tabs and line ends. -/
def cleaned (s : String) : List Char :=
  let atEnds := fun c : Char => c.toNat ≤ 0x20
  let cs := ((s.toList.dropWhile atEnds).reverse.dropWhile atEnds).reverse
  cs.filter fun c => !(c = '\t' || c = '\n' || c = '\r')

/-- A character that a scheme may hold after its first. -/
def isSchemeChar (c : Char) : Bool :=
  c.isAlphanum || c = '+' || c = '-' || c = '.'

/-- The scheme in lower case and the text after its colon. -/
def splitScheme : List Char → Option (String × List Char)
  | [] => none
  | c :: cs =>
    if !c.isAlpha then none
    else match cs.dropWhile isSchemeChar with
      | ':' :: rest =>
        some (String.ofList ((c :: cs.takeWhile isSchemeChar).map Char.toLower), rest)
      | _ => none

/-- The characters before the first `mark`, and those after it if there is one. -/
def splitFirst (mark : Char) (cs : List Char) : List Char × Option (List Char) :=
  (cs.takeWhile (· ≠ mark), match cs.dropWhile (· ≠ mark) with
    | _ :: rest => some rest
    | [] => none)

/-- The characters before the last `mark`, if there is one, and those after it. -/
def splitLast (mark : Char) (cs : List Char) : Option (List Char) × List Char :=
  let after := (cs.reverse.takeWhile (· ≠ mark)).reverse
  if after.length = cs.length then (none, cs)
  else (some (cs.take (cs.length - after.length - 1)), after)

/-- The characters that a user or password cannot hold. -/
def isUnsafeInUser (c : Char) : Bool :=
  c.toNat < 0x20 || " \"<>`#?\x7b\x7d/:;=@[\\]^|".toList.contains c

/-- The characters that a query cannot hold. -/
def isUnsafeInQuery (special : Bool) (c : Char) : Bool :=
  c.toNat < 0x20 || " \"<>#".toList.contains c || (special && c = '\'')

/-- The characters that a fragment cannot hold. -/
def isUnsafeInFragment (c : Char) : Bool :=
  c.toNat < 0x20 || " \"<>`".toList.contains c

/-- The host and what follows it; a colon between brackets belongs to the host. -/
def splitPort : Bool → List Char → List Char × Option (List Char)
  | _, [] => ([], none)
  | inBrackets, c :: cs =>
    if c = ':' && !inBrackets then ([], some cs)
    else
      let (host, port) := splitPort ((inBrackets || c = '[') && c ≠ ']') cs
      (c :: host, port)

/-- The port that some characters begin with, if they begin with digits, and what follows a
backslash. -/
def readPort (cs : List Char) : Except AddressFault (Option Nat × List Char) :=
  let digits := cs.takeWhile Char.isDigit
  let rest := cs.dropWhile Char.isDigit
  if UInt16.size ≤ Text.digitsValue digits then .error .badPort
  else match rest with
    | [] | '\\' :: _ => .ok (if digits.isEmpty then none else Text.digitsValue digits, rest)
    | _ => .error .badPort

/-- The user and password that some characters name, percent-encoded. -/
def readUser (cs : List Char) : List Char × Option (List Char) :=
  let (user, password) := splitFirst ':' cs
  let encode := percentEncode isUnsafeInUser
  (encode user, (password.map encode).filter fun p => !p.isEmpty)

/-- The authority that some characters name, and what is left of them after a backslash; `isLast`
says that nothing follows. -/
def readAuthority (scheme : String) (isLast : Bool) (cs : List Char) :
    Except AddressFault (Authority × List Char) := do
  if cs = ['@'] && !isLast then throw .emptyHost
  let (userChars, rest) := splitLast '@' cs
  let (user, password) := readUser (userChars.getD [])
  let (hostChars, portChars) := splitPort false rest
  if hostChars.isEmpty && (isWeb scheme || portChars.isSome) then throw .emptyHost
  let host ← if isWeb scheme then Host.readWeb hostChars else Host.readOther hostChars
  let (port, rest) ← readPort (portChars.getD [])
  if host = .absent && (!user.isEmpty || password.isSome) then throw .emptyHost
  return (⟨user, password, host, port.filter fun n => !webPorts.contains (scheme, n)⟩, rest)

/-- The authority and path of an address after two slashes; `isLast` says that nothing
follows. -/
def readPlace (scheme : String) (isLast : Bool) (cs : List Char) :
    Except AddressFault (Authority × List Char) := do
  let front := cs.takeWhile (· ≠ '/')
  let back := cs.dropWhile (· ≠ '/')
  let (authority, rest) ← readAuthority scheme (isLast && back.isEmpty) front
  let path := rest ++ back
  return (authority,
    if path.isEmpty && !isWeb scheme then [] else readSegments false (afterSlash path))

/-- The authority and path of a file after two slashes: the host of this machine is left out, and
so is one in front of a drive. -/
def readFilePlace (cs : List Char) : Except AddressFault (Authority × List Char) := do
  let front := cs.takeWhile (· ≠ '/')
  let back := cs.dropWhile (· ≠ '/')
  if isDrive front then return (⟨[], none, .absent, none⟩, readFilePath cs)
  let host ← if front.isEmpty then pure Host.absent else Host.readWeb front
  let path := readSegments true (afterSlash back)
  let isHere := host = .name "localhost".toList || startsAtDrive path
  return (⟨[], none, if isHere then .absent else host, none⟩, withoutEmptyFront path)

/-- The authority and path of an address after the scheme; `isLast` says that nothing follows. -/
def readRest (scheme : String) (isLast : Bool) (cs : List Char) :
    Except AddressFault (Option Authority × List Char) := do
  if scheme = fileScheme then
    match cs with
    | '/' :: '/' :: rest =>
      let (authority, path) ← readFilePlace rest
      return (some authority, path)
    | _ => return (some ⟨[], none, .absent, none⟩, readFilePath (afterSlash cs))
  else if isWeb scheme then
    let (authority, path) ← readPlace scheme isLast (cs.dropWhile (· = '/'))
    return (some authority, path)
  else match cs with
    | '/' :: '/' :: rest =>
      let (authority, path) ← readPlace scheme isLast rest
      return (some authority, path)
    | '/' :: rest => return (none, readSegments false rest)
    | _ => return (none, percentEncode (·.toNat < 0x20) cs)

end Address

namespace Authority

/-- The authority without its user and password. -/
def withoutUser (a : Authority) : Authority :=
  { a with user := [], password := none }

/-- The authority as text. -/
def text (a : Authority) : List Char :=
  let password := match a.password with
    | some p => ':' :: p
    | none => []
  let port := match a.port with
    | some n => ':' :: Text.decimal n
    | none => []
  let user := a.user ++ password
  (if user.isEmpty then [] else user ++ ['@']) ++ a.host.text ++ port

end Authority

namespace Url

open Address

/-- The address that a text names. -/
def ofText (s : String) : Except AddressFault Url := do
  match splitScheme (cleaned s) with
  | none => throw .relative
  | some (scheme, rest) =>
    let special := takesBackslash scheme
    let (rest, fragment) := splitFirst '#' rest
    let (rest, query) := splitFirst '?' rest
    let rest := if special then rest.map fun c => if c = '\\' then '/' else c else rest
    let (authority, path) ← readRest scheme (query.isNone && fragment.isNone) rest
    return {
      scheme := scheme
      authority := authority
      path := path
      query := query.map (percentEncode (isUnsafeInQuery special))
      fragment := fragment.map (percentEncode isUnsafeInFragment) }

/-- The address has a host. -/
def hasHost (u : Url) : Bool :=
  u.authority.any fun a => a.host ≠ .absent

/-- The address without its user and password. -/
def withoutUser (u : Url) : Url :=
  { u with authority := u.authority.map Authority.withoutUser }

/-- The address as text. A path that begins with two slashes is kept apart from an authority. -/
def text (u : Url) : String :=
  let place := match u.authority with
    | some a => ['/', '/'] ++ a.text
    | none => if ['/', '/'].isPrefixOf u.path then ['/', '.'] else []
  let query := match u.query with
    | some q => '?' :: q
    | none => []
  let fragment := match u.fragment with
    | some f => '#' :: f
    | none => []
  u.scheme ++ ":" ++ String.ofList (place ++ u.path ++ query ++ fragment)

/-- The parameters of the query: names and values, decoded. -/
def parameters (u : Url) : List (String × String) :=
  let decode := fun cs : List Char =>
    String.ofList (percentDecodeLoosely (cs.map fun c => if c = '+' then ' ' else c))
  ((Text.pieces '&' (u.query.getD [])).filter (! ·.isEmpty)).map fun piece =>
    let (name, value) := splitFirst '=' piece
    (decode name, decode (value.getD []))

end Url

end UsageBilling
