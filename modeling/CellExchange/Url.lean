import CellExchange.HostName
import CellExchange.HostNumber
import CellExchange.Outside
import CellExchange.Text.Blank
import CellExchange.Text.Percent

/-! # Addresses on the web

An address names a host and what is asked of it (`Url`). `Url.parse` reads the addresses that
people write, by the rules that browsers follow: stray blanks and line breaks go, slashes may lean
either way, `.` and `..` are resolved, and characters that an address cannot hold are
percent-encoded. What stands behind a `#` is no part of a request and is dropped.

A host is a long number in square brackets, a short number or a name, and it is brought into one
form (`Url.hostOf`). Of names, only what is in ASCII, or stands for it, is looked at: other letters are taken as they
are, where the rules for names in all scripts would encode some names and refuse others. Nobody is
reached under a name that they refuse.

`Url.addQuery` puts names with values behind the question mark, form-encoded: a space becomes a plus
sign, and all but letters, digits and four signs are percent-encoded. -/

namespace CellExchange

/-- An address on the web. -/
structure Url where
  /-- Whether the connection is encrypted. -/
  secure : Bool
  /-- The host: its name in lower case, or its number. -/
  host : String
  /-- The number by which the host tells its services apart. -/
  portNumber : Nat
  /-- The path, percent-encoded. -/
  path : List Char
  /-- What stands behind the question mark, percent-encoded; nothing if there is no mark. -/
  query : Option (List Char)
  deriving DecidableEq, Repr

namespace Url

/-- Whether a character is a control character, a space, or not of ASCII. -/
def isForeign (c : Char) : Bool := c.toNat ≤ 32 || 127 ≤ c.toNat

/-- The characters of ASCII that are encoded in a path. -/
def pathReserved : List Char := ['"', '<', '>', '\x60', '#', '?', '\x7b', '\x7d']

/-- The characters of ASCII that are encoded in a query. -/
def queryReserved : List Char := ['"', '<', '>', '#', '\'']

/-- Whether a character stands for itself in a path. -/
def isPathChar (c : Char) : Bool := !isForeign c && !pathReserved.contains c

/-- Whether a character stands for itself in a query. -/
def isQueryChar (c : Char) : Bool := !isForeign c && !queryReserved.contains c

/-- Whether a character stands for itself in a form. -/
def isFormChar (c : Char) : Bool :=
  (c.toNat < 128 && c.isAlphanum) || ['*', '-', '.', '_'].contains c

/-- A text as a part of a form. -/
def formEncode (s : String) : List Char :=
  s.toList.flatMap fun c =>
    if c = ' ' then ['+'] else if isFormChar c then [c] else Percent.escapeChar c

/-! ## Reading -/

/-- An address without stray blanks around it and without tabs and line breaks. -/
def clean (cs : List Char) : List Char :=
  let blank (c : Char) : Bool := c.toNat ≤ 32
  ((cs.dropWhile blank).reverse.dropWhile blank).reverse.filter fun c =>
    c ≠ '\t' && c ≠ '\n' && c ≠ '\r'

/-- Whether a character may stand in the name of a scheme behind its first letter. -/
def isSchemeChar (c : Char) : Bool :=
  (c.toNat < 128 && c.isAlphanum) || c == '+' || c == '-' || c == '.'

/-- The scheme of an address, in lower case, and what stands behind the colon. -/
def splitScheme? (cs : List Char) : Option (String × List Char) :=
  match cs, cs.dropWhile isSchemeChar with
  | c :: _, ':' :: rest =>
    if c.isAlpha then some (String.ofList ((cs.takeWhile isSchemeChar).map Char.toLower), rest)
    else none
  | _, _ => none

/-- Whether a character is a slash, leaning either way. -/
def isSlash (c : Char) : Bool := c == '/' || c == '\\'

/-- Whether a character ends the part of an address that names the host. -/
def endsAuthority (c : Char) : Bool := isSlash c || c == '?' || c == '#'

/-- The text behind the last sign at which a name and a password would end. -/
def behindCredentials (cs : List Char) : List Char := (cs.reverse.takeWhile (· != '@')).reverse

/-- The text that names the host, of a text with a number behind it: it ends at the first colon that
does not stand between square brackets. -/
def hostPart (bracketed : Bool) : List Char → List Char
  | [] => []
  | c :: rest =>
    if c = ':' && !bracketed then []
    else c :: hostPart (c = '[' || (bracketed && c ≠ ']')) rest

/-- The characters that no name of a host holds. -/
def hostReserved : List Char :=
  ['\x00', '\t', '\n', '\r', ' ', '#', '/', ':', '<', '>', '?', '@', '[', '\\', ']', '^', '|']

/-- Whether a character may stand in the name of a host on the web. -/
def isHostChar (c : Char) : Bool :=
  32 < c.toNat && c.toNat ≠ 127 && c ≠ '%' && !hostReserved.contains c

/-- A long number in square brackets, of which the first one is there. -/
def numberedHost (cs : List Char) : Except AddressFault String :=
  match (if cs.getLast? = some ']' then HostNumber.eightGroups? cs.tail.dropLast else none) with
  | some groups => .ok ("[" ++ HostNumber.longText groups ++ "]")
  | none => .error .badLongNumber

/-- The name of a host in the form in which it is compared, its percent signs resolved, or a short
number. -/
def namedHost (cs : List Char) : Except AddressFault String := do
  let some name := String.fromUTF8? ⟨(Percent.decode cs).toArray⟩ | throw .badHost
  let name := HostName.compared name
  if name.isEmpty then throw .noHost
  if !name.toList.all isHostChar then throw .badHost
  if HostNumber.endsInNumber name.toList then
    match HostNumber.looseBytes? name.toList with
    | some bytes => return HostNumber.bytesText bytes
    | none => throw .badShortNumber
  return name

/-- The host that a text names. -/
def hostOf (cs : List Char) : Except AddressFault String :=
  if cs.head? = some '[' then numberedHost cs else namedHost cs

/-- The number behind a host: digits, or nothing for the usual one. -/
def numberBehind (usual : Nat) (cs : List Char) : Except AddressFault Nat :=
  if cs.isEmpty then .ok usual
  else if cs.all Char.isDigit then
    match Numeral.read ⟨0, 65535⟩ cs with
    | .ok n => .ok n.toNat
    | .error _ => .error .badNumber
  else .error .badNumber

/-- The host and the number behind it. -/
def authority (usual : Nat) (cs : List Char) : Except AddressFault (String × Nat) := do
  let cs := behindCredentials cs
  let name := hostPart false cs
  return (← hostOf name, ← numberBehind usual (cs.drop (name.length + 1)))

/-- A segment of a path without percent signs before its dots, for comparison. -/
def plainDots : List Char → List Char
  | '%' :: '2' :: e :: rest =>
    if e = 'e' || e = 'E' then '.' :: plainDots rest else '%' :: '2' :: e :: plainDots rest
  | c :: rest => c :: plainDots rest
  | [] => []

/-- Whether a segment is the letter of a drive, which `..` does not leave. -/
def isDrive : List Char → Bool
  | [letter, mark] => letter.isAlpha && (mark == ':' || mark == '|')
  | _ => false

/-- The segments one up, of which the last one comes first. -/
def up : List (List Char) → List (List Char)
  | [] => []
  | s :: before => if isDrive s then s :: before else before

/-- The segments of a path with `.` and `..` resolved; `done` holds those before, last one first. -/
def resolve (done : List (List Char)) : List (List Char) → List (List Char)
  | [] => done.reverse
  | s :: rest =>
    let last := rest.isEmpty
    if plainDots s = ['.', '.'] then resolve (if last then [] :: up done else up done) rest
    else if plainDots s = ['.'] then resolve (if last then [] :: done else done) rest
    else resolve (Percent.encode isPathChar s :: done) rest

/-- The path of an address. -/
def pathOf (cs : List Char) : List Char :=
  let slashes := cs.map fun c => if isSlash c then '/' else c
  let segments := match slashes with
    | '/' :: rest => rest.splitOn '/'
    | rest => rest.splitOn '/'
  (resolve [] segments).flatMap fun s => '/' :: s

/-- The number that is usual for a scheme. -/
def usualNumber (secure : Bool) : Nat := if secure then 443 else 80

/-- Reads an address of one of the two schemes of the web. -/
def parse (s : String) : Except AddressFault Url := do
  let some (scheme, rest) := splitScheme? (clean s.toList) | throw .noScheme
  let secure ←
    if scheme = "http" then pure false
    else if scheme = "https" then pure true
    else throw .foreignScheme
  let rest := rest.dropWhile isSlash
  let named := rest.takeWhile (!endsAuthority ·)
  let (host, portNumber) ← authority (usualNumber secure) named
  let rest := (rest.drop named.length).takeWhile (· != '#')
  let path := rest.takeWhile (· != '?')
  let query := match rest.drop path.length with
    | _ :: query => some (Percent.encode isQueryChar query)
    | [] => none
  return { secure, host, portNumber, path := pathOf path, query }

/-- The colons of a long number do not end the host. -/
example : (parse "https://user@[::1]:8443/x").toOption =
    some ⟨true, "[::1]", 8443, "/x".toList, none⟩ := by decide +kernel

/-! ## Asking -/

/-- An address with names and values in its query. -/
def addQuery (u : Url) (pairs : List (String × String)) : Url :=
  let fields := pairs.map fun p => formEncode p.1 ++ '=' :: formEncode p.2
  let before := u.query.getD []
  let parts := if before.isEmpty then fields else before :: fields
  { u with query := some (List.intercalate ['&'] parts) }

/-- What is asked of the host. -/
def target (u : Url) : String :=
  String.ofList (u.path ++ match u.query with | some query => '?' :: query | none => [])

/-- An address as a text. -/
def text (u : Url) : String :=
  (if u.secure then "https://" else "http://") ++ u.host ++
    (if u.portNumber = usualNumber u.secure then "" else ":" ++ Numeral.text u.portNumber) ++ u.target

end Url

end CellExchange
