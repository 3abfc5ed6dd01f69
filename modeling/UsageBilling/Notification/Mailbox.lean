import UsageBilling.Address.Ip
import UsageBilling.Domain.Name
import UsageBilling.Text.Alphanumeric

/-!
# Mailboxes

A mailbox is a local part and a domain, or a phrase before such a pair in angle
brackets; spaces and tabs may stand in front of each word. A reader takes the
longest beginning that it can and does not try again. After it, the local part
has to be words with dots between them, and the domain a row of labels, perhaps
only once it is written in ASCII.
-/

namespace UsageBilling

/-- Where mail goes. -/
structure Mailbox where
  localPart : List Char
  domain : List Char
  deriving DecidableEq, Repr

/-- What is wrong with a mailbox. -/
inductive MailboxFault where
  /-- The text has not the form of a mailbox. -/
  | badForm
  | badLocalPart
  | badDomain
  deriving DecidableEq, Repr

/-- What a fault of a mailbox says. -/
def MailboxFault.message : MailboxFault → String
  | badForm => "Invalid input"
  | badLocalPart => "Invalid email user"
  | badDomain => "Invalid email domain"

namespace Mailbox

/-- Takes characters off the front of a text, if it begins in the right way. -/
abbrev Taker := List Char → Option (List Char × List Char)

/-- A character other than a letter or number that words consist of. -/
def isWordSign (c : Char) : Bool :=
  "!#$%&'*+-/=?^_`\x7b|\x7d~".toList.contains c

/-- A character that the words of a text consist of. -/
def isWordChar (c : Char) : Bool :=
  0x80 ≤ c.toNat || c.isAlphanum || isWordSign c

/-- A space or tab. -/
def isSpace (c : Char) : Bool :=
  c = ' ' || c = '\t'

/-- The text without the spaces in front. -/
def skipSpaces (cs : List Char) : List Char :=
  cs.dropWhile isSpace

/-- A word after some spaces. -/
def takeAtom : Taker := fun cs =>
  let cs := skipSpaces cs
  match cs.takeWhile isWordChar with
  | [] => none
  | word => some (word, cs.dropWhile isWordChar)

/-- A character that needs no backslash inside a quoted string. -/
def isQuotable (c : Char) : Bool :=
  c.toNat ≠ 0 && !(['\t', '\n', '\r', ' ', '"', '\\'].contains c)

/-- A character that may follow a backslash inside a quoted string. -/
def isEscapable (c : Char) : Bool :=
  c.toNat ≠ 0 && c ≠ '\n' && c ≠ '\r' && c.toNat < 0x80

/-- The characters of a quoted string up to its end, spaces included, without the backslashes. -/
def takeQuotedRest : Taker
  | '"' :: rest => some ([], rest)
  | '\\' :: c :: rest => if isEscapable c then consFirst c (takeQuotedRest rest) else none
  | c :: rest => if isSpace c || isQuotable c then consFirst c (takeQuotedRest rest) else none
  | [] => none
where
  /-- Put a character in front of what was taken. -/
  consFirst (c : Char) (taken : Option (List Char × List Char)) : Option (List Char × List Char) :=
    taken.map fun (cs, rest) => (c :: cs, rest)

/-- A quoted string after some spaces. -/
def takeQuoted : Taker := fun cs =>
  match skipSpaces cs with
  | '"' :: rest => takeQuotedRest rest
  | _ => none

/-- More words, each after a dot; at most `fuel`. -/
def takeAfterDots : Nat → List Char → List Char × List Char
  | fuel + 1, '.' :: cs =>
    match cs.takeWhile isWordChar with
    | [] => ([], '.' :: cs)
    | word =>
      let (words, rest) := takeAfterDots fuel (cs.dropWhile isWordChar)
      ('.' :: word ++ words, rest)
  | _, cs => ([], cs)

/-- Words with dots between, after some spaces. -/
def takeDotted : Taker := fun cs => do
  let (word, rest) ← takeAtom cs
  let (words, rest) := takeAfterDots rest.length rest
  return (word ++ words, rest)

/-- A local part and a domain. -/
def takeAddress (cs : List Char) : Option (Mailbox × List Char) := do
  match ← takeDotted cs <|> takeQuoted cs with
  | (localPart, '@' :: rest) =>
    let (domain, rest) ← takeDotted rest
    return (⟨localPart, domain⟩, rest)
  | _ => none

/-- The text after the words and dots of a phrase; at most `fuel`. -/
def skipPhrase : Nat → List Char → List Char
  | 0, cs => cs
  | fuel + 1, cs =>
    match takeQuoted cs <|> takeAtom cs with
    | some (_, rest) => skipPhrase fuel rest
    | none =>
      match skipSpaces cs with
      | '.' :: rest => skipPhrase fuel rest
      | _ => cs

/-- The text after a phrase, if it begins with one. -/
def afterPhrase (cs : List Char) : List Char :=
  match takeQuoted cs <|> takeAtom cs with
  | some (_, rest) => skipPhrase rest.length rest
  | none => cs

/-- An address in angle brackets, perhaps after a phrase. -/
def takeNamed (cs : List Char) : Option (Mailbox × List Char) := do
  match skipSpaces (afterPhrase cs) with
  | '<' :: rest =>
    match ← takeAddress rest with
    | (mailbox, '>' :: rest) => some (mailbox, rest)
    | _ => none
  | _ => none

/-- A character that the words of a good address consist of. -/
def isAddressChar (c : Char) : Bool :=
  Text.isAlphanumeric c || isWordSign c

/-- What may stand between the quotes of a local part that has kept them. -/
def isQuotedContent : List Char → Bool
  | [] => true
  | ['\\'] => false
  | '\\' :: c :: rest => '!' ≤ c && c ≤ '~' && isQuotedContent rest
  | c :: rest =>
    (isSpace c || (0x21 ≤ c.toNat && c ≠ '"' && c.toNat ≠ 0x7F)) && isQuotedContent rest

/-- At most 64 octets, and words with dots between them or a text in quotes. -/
def isLocalPart (cs : List Char) : Bool :=
  (String.ofList cs).utf8ByteSize ≤ 64 &&
    if cs.head? = some '"' && cs.getLast? = some '"' then
      2 < cs.length && isQuotedContent (cs.drop 1).dropLast
    else (Text.pieces '.' cs).all fun word => !word.isEmpty && word.all isAddressChar

/-- A label of a domain, with at most 63 octets. -/
def isLabel (cs : List Char) : Bool :=
  (String.ofList cs).utf8ByteSize ≤ 63 && cs.all isAddressChar &&
    cs.head?.any Text.isAlphanumeric && cs.getLast?.any Text.isAlphanumeric

/-- A row of labels with at most 254 octets. -/
def isRowOfLabels (cs : List Char) : Bool :=
  (String.ofList cs).utf8ByteSize ≤ 254 && (Text.pieces '.' cs).all isLabel

/-- A place named between brackets, with at most 254 octets. -/
def isLiteral (cs : List Char) : Bool :=
  (String.ofList cs).utf8ByteSize ≤ 254 && cs.head? = some '[' && cs.getLast? = some ']' &&
    (cs.drop 1).dropLast.all fun c =>
      0x21 ≤ c.toNat && c.toNat ≠ 0x7F && !(['[', '\\', ']'].contains c)

/-- A domain as it is: a row of labels, a place between brackets or a numeric address. -/
def isPlainDomain (cs : List Char) : Bool :=
  isRowOfLabels cs || isLiteral cs || Address.isIp cs

/-- A domain, as it is or as it is written in ASCII. -/
def isDomain (cs : List Char) : Bool :=
  isPlainDomain cs || (Domain.ascii? (fun _ => false) cs).any isPlainDomain

/-- The mailbox that a text names. -/
def ofText (s : String) : Except MailboxFault Mailbox := do
  match takeNamed s.toList <|> takeAddress s.toList with
  | some (mailbox, rest) =>
    if !(skipSpaces rest).isEmpty then throw .badForm
    if !isLocalPart mailbox.localPart then throw .badLocalPart
    if !isDomain mailbox.domain then throw .badDomain
    return mailbox
  | none => throw .badForm

end Mailbox

end UsageBilling
