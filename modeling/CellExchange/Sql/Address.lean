import CellExchange.Url

/-! # Addresses of databases

An address of a database is written like one on the web, under any scheme (`Address.parse`). Behind
the question mark stand options, names with values, of which the later ones count. A database is
reached through a directory if the place of the host or the option `host` is a path, and else at a
host; the number behind the host or the option `port` tells which of the databases there. Options
that mean nothing here are passed over, those that mean something need a value that makes sense. -/

namespace CellExchange.Sql

/-- Where a database is. -/
structure Address where
  /-- The directory through which it is reached, if it is. -/
  directory : Option String := none
  /-- The host that it is reached at without a directory, if one is named. -/
  host : Option String := none
  /-- The number by which databases at one place are told apart. -/
  portNumber : Nat := 5432
  /-- Whether the connection has to be encrypted. -/
  encrypted : Bool := false
  deriving DecidableEq, Repr

namespace Address

/-! ## Values of options -/

/-- The words that say how much encryption is asked for, and whether it has to be there. -/
def encryptionWords : List (String × Bool) := [
  ("disable", false), ("allow", false), ("prefer", false), ("require", true), ("verify-ca", true),
  ("verify-full", true)]

/-- A whole number up to a limit. -/
def numberUpTo? (limit : Nat) (value : String) : Option Nat :=
  if value.startsWith "-" then none
  else match Numeral.readSigned ⟨0, limit⟩ 10 value.toList with
    | .ok n => some n.toNat
    | .error _ => none

/-- An address with the text at the place of a host. -/
def atHost (a : Address) (value : String) : Address :=
  if value.startsWith "/" then { a with directory := some value } else { a with host := some value }

/-- An address with one option. -/
def addOption (a : Address) (name value : String) : Except DatabaseFault Address :=
  if name = "sslmode" ∨ name = "ssl-mode" then
    match encryptionWords.lookup (value.map Char.toLower) with
    | some encrypted => .ok { a with encrypted }
    | none => .error (.option "unknown value for `ssl_mode`")
  else if name = "host" then .ok (a.atHost value)
  else if name = "hostaddr" then
    if (HostNumber.fourBytes? value.toList).isSome || (HostNumber.eightGroups? value.toList).isSome
    then .ok (a.atHost value)
    else .error (.option "invalid IP address syntax")
  else if name = "port" then
    match numberUpTo? 65535 value with
    | some portNumber => .ok { a with portNumber }
    | none => .error (.option "invalid digit found in string")
  else if name = "statement-cache-capacity" then
    match numberUpTo? 18446744073709551615 value with
    | some _ => .ok a
    | none => .error (.option "invalid digit found in string")
  else .ok a

/-- An address with options. -/
def addOptions (a : Address) : List (String × String) → Except DatabaseFault Address
  | [] => .ok a
  | (name, value) :: rest => do (← a.addOption name value).addOptions rest

/-! ## Reading -/

/-- The text of a part of a form. Bytes that are no text give a mark. -/
def formText (cs : List Char) : String :=
  let spaced := cs.map fun c => if c = '+' then ' ' else c
  (String.fromUTF8? ⟨(Percent.decode spaced).toArray⟩).getD "\uFFFD"

/-- The names and values of a form. -/
def formPairs (cs : List Char) : List (String × String) :=
  ((cs.splitOn '&').filter (!·.isEmpty)).map fun field =>
    let name := field.takeWhile (· != '=')
    (formText name, formText (field.drop (name.length + 1)))

/-- The text of a part of an address. -/
def decoded (cs : List Char) : Except DatabaseFault String :=
  match String.fromUTF8? ⟨(Percent.decode cs).toArray⟩ with
  | some s => .ok s
  | none => .error (.option "invalid utf-8 sequence")

/-- The schemes of the web, whose addresses always name a host. -/
def webSchemes : List String := ["http", "https", "ws", "wss", "ftp"]

/-- The text at the place of the host. -/
def hostText (web : Bool) (cs : List Char) : Except DatabaseFault String :=
  if web || cs.head? = some '[' then (Url.hostOf cs).mapError .address
  else if cs.any Url.hostReserved.contains then .error (.address .badHost)
  else decoded cs

/-- The part of an address that names the host, behind two slashes. -/
def ofAuthority (web : Bool) (cs : List Char) : Except DatabaseFault Address := do
  let behind := Url.behindCredentials cs
  let credentials := cs.take (cs.length - behind.length - 1)
  let user := credentials.takeWhile (· != ':')
  let _ ← decoded user
  let _ ← decoded (credentials.drop (user.length + 1))
  let name := Url.hostPart false behind
  if name.isEmpty then
    if web ∨ !cs.isEmpty then throw (.address .noHost)
    return {}
  let address := atHost {} (← hostText web name)
  let number := behind.drop (name.length + 1)
  if number.isEmpty then return address
  let portNumber ← (Url.numberBehind 5432 number).mapError .address
  return { address with portNumber }

/-- Reads an address. -/
def parse (s : String) : Except DatabaseFault Address := do
  let some (scheme, rest) := Url.splitScheme? (Url.clean s.toList) | throw (.address .noScheme)
  let rest := rest.takeWhile (· != '#')
  let web := webSchemes.contains scheme
  let named? : Option (List Char) :=
    if web then some (rest.dropWhile Url.isSlash)
    else match rest with
      | '/' :: '/' :: rest => some rest
      | _ => none
  let start := named?.getD rest
  let authority := match named? with
    | some cs => cs.takeWhile fun c => if web then !Url.endsAuthority c else c != '/' && c != '?'
    | none => []
  let address ← if named?.isSome then ofAuthority web authority else pure {}
  let behind := start.drop authority.length
  let path := behind.takeWhile (· != '?')
  let _ ← decoded (path.dropWhile (· == '/'))
  address.addOptions (formPairs (behind.drop (path.length + 1)))

end Address

end CellExchange.Sql
