import CellExchange.Numeral

/-! # Faults from outside

What goes wrong outside the jobs: with files (`FileFault`), on the way to the provider (`WebFault`),
with the database (`DatabaseFault`, `MigrationFault`). Each fault has a wording, and those that come
in classes the name of their class. A fault that was caused by another one words that one too. -/

namespace CellExchange

/-- A wording with the wording of what caused it. -/
def causedBy (wording cause : String) : String := wording ++ ": " ++ cause

/-! ## Files -/

/-- Why a file cannot be opened, created or read. -/
inductive FileFault where
  /-- There is no such file. -/
  | notFound
  /-- It is a directory. -/
  | isADirectory
  /-- The path leads through something that is no directory. -/
  | notADirectory
  /-- A name in the path, or the path itself, is too long. -/
  | nameTooLong
  /-- The path holds a NUL character. -/
  | nulInPath
  /-- The data are no text. -/
  | notText
  /-- The compressed data begin with a header that is none. -/
  | badHeader
  /-- A text in the header of the compressed data is too long. -/
  | longHeader
  /-- A checksum in the compressed data does not fit. -/
  | badChecksum
  /-- The compressed data make no sense. -/
  | badData
  /-- The compressed data end too early. -/
  | cutOff
  deriving DecidableEq, Repr

namespace FileFault

/-- The name of the class of a file fault. -/
def name : FileFault → String
  | notFound => "NotFound"
  | isADirectory => "IsADirectory"
  | notADirectory => "NotADirectory"
  | nameTooLong => "InvalidFilename"
  | nulInPath | badHeader | longHeader | badChecksum | badData => "InvalidInput"
  | notText => "InvalidData"
  | cutOff => "UnexpectedEof"

/-- The wording of a file fault. -/
def wording : FileFault → String
  | notFound => "No such file or directory (os error 2)"
  | notADirectory => "Not a directory (os error 20)"
  | isADirectory => "Is a directory (os error 21)"
  | nameTooLong => "File name too long (os error 36)"
  | nulInPath => "file name contained an unexpected NUL byte"
  | notText => "stream did not contain valid UTF-8"
  | badHeader => "invalid gzip header"
  | longHeader => "gzip header field too long"
  | badChecksum => "corrupt gzip stream does not have a matching checksum"
  | badData => "corrupt deflate stream"
  | cutOff => "unexpected end of file"

end FileFault

/-! ## Addresses and the provider -/

/-- Why a text is no address. -/
inductive AddressFault where
  /-- It does not begin with a scheme. -/
  | noScheme
  /-- The scheme is not one of the web. -/
  | foreignScheme
  /-- It names no host. -/
  | noHost
  /-- The name of the host holds a character that it cannot hold. -/
  | badHost
  /-- The host ends in a number and is not a short number of a host. -/
  | badShortNumber
  /-- What stands in square brackets is not a long number of a host. -/
  | badLongNumber
  /-- The number behind the host is none. -/
  | badNumber
  deriving DecidableEq, Repr

/-- The wording of an address fault. -/
def AddressFault.wording : AddressFault → String
  | noScheme => "relative URL without a base"
  | foreignScheme => "URL scheme is not allowed"
  | noHost => "empty host"
  | badHost => "invalid international domain name"
  | badShortNumber => "invalid IPv4 address"
  | badLongNumber => "invalid IPv6 address"
  | badNumber => "invalid port number"

/-- Why the provider gives no answer. -/
inductive WebFault where
  /-- The address is none. -/
  | address (fault : AddressFault)
  /-- Nobody is there at an address. -/
  | unreachable (address : String)
  /-- The answer from an address begins with no status. -/
  | noStatus (address : String)
  /-- The answer from an address stops at a status that announces another one. -/
  | interimStatus (address : String)
  /-- The answer is cut off. -/
  | cutOff
  deriving DecidableEq, Repr

/-- The wording of a failed request. -/
def requestWording (address step : String) : String :=
  causedBy ("error sending request for url (" ++ address ++ ")") ("client error (" ++ step ++ ")")

/-- The wording of a web fault. -/
def WebFault.wording : WebFault → String
  | address fault => causedBy "builder error" fault.wording
  | unreachable target =>
    causedBy (requestWording target "Connect") "tcp connect error: Connection refused (os error 111)"
  | noStatus target => causedBy (requestWording target "SendRequest") "invalid HTTP status-code parsed"
  | interimStatus target =>
    causedBy (requestWording target "SendRequest") "connection closed before message completed"
  | cutOff =>
    causedBy "request or response body error" <|
      causedBy "error reading a body from connection" "end of file before message length reached"

/-! ## The database -/

/-- Why the database cannot be reached. -/
inductive DatabaseFault where
  /-- The address is none. -/
  | address (fault : AddressFault)
  /-- An option in the address has a value that makes no sense. -/
  | option (wording : String)
  /-- Nobody is there at the address. -/
  | unreachable
  /-- The address asks for encryption, which connections to a database are not built for. -/
  | noEncryption
  deriving DecidableEq, Repr

/-- The wording of a database fault. -/
def DatabaseFault.wording : DatabaseFault → String
  | address fault => causedBy (causedBy "error with configuration" fault.wording) fault.wording
  | option wording => causedBy (causedBy "error with configuration" wording) wording
  | unreachable =>
    let cause := FileFault.notFound.wording
    causedBy (causedBy "error communicating with database" cause) cause
  | noEncryption =>
    "error occurred while attempting to establish a TLS connection: " ++
      "TLS upgrade required by connect options but SQLx was built without TLS support enabled"

/-- The wording of a statement that the database refused. -/
def refusedWording : String :=
  causedBy (causedBy "error returned from database" "refused") "refused"

/-- Why the tables of the database cannot be brought up to date. -/
inductive MigrationFault where
  /-- A change was begun and not completed. -/
  | dirty (version : Nat)
  /-- A change that was made is not the one known here. -/
  | versionMismatch (version : Nat)
  /-- A change was made that is not known here. -/
  | versionMissing (version : Nat)
  /-- The database refused a statement. -/
  | execute
  deriving DecidableEq, Repr

namespace MigrationFault

/-- The name of the class of a migration fault. -/
def name : MigrationFault → String
  | dirty _ => "Dirty"
  | versionMismatch _ => "VersionMismatch"
  | versionMissing _ => "VersionMissing"
  | execute => "Execute"

/-- The wording of a migration fault. -/
def wording : MigrationFault → String
  | dirty version =>
    "migration " ++ Numeral.text version ++
      " is partially applied; fix and remove row from `_sqlx_migrations` table"
  | versionMismatch version =>
    "migration " ++ Numeral.text version ++ " was previously applied but has been modified"
  | versionMissing version =>
    "migration " ++ Numeral.text version ++
      " was previously applied but is missing in the resolved migrations"
  | execute => causedBy (causedBy "while executing migrations" refusedWording) refusedWording

end MigrationFault

end CellExchange
