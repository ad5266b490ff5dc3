import CellExchange.Failure
import CellExchange.Path
import CellExchange.Text.Percent

/-! # Object keys

An object in a bucket is named by a key of two segments: a fixed first one, and the name of the file
with the characters that a key cannot hold percent-encoded. -/

namespace CellExchange

/-- The key of an object. -/
structure ObjectKey where
  /-- The file name, percent-encoded. -/
  segment : List Char
  deriving DecidableEq, Repr

namespace ObjectKey

/-- The first segment of every key. -/
def folder : String := "export"

/-- The characters of ASCII that are encoded in a segment. -/
def reserved : List Char :=
  ['/', '\\', '\x7b', '^', '\x7d', '%', '\x60', ']', '"', '>', '[', '~', '<', '#', '|', '*', '?']

/-- Whether a character stands for itself in a segment. -/
def isPlain (c : Char) : Bool := 32 ≤ c.toNat && c.toNat < 127 && !reserved.contains c

/-- The key of a file name. -/
def ofName (name : String) : ObjectKey := ⟨Percent.encode isPlain name.toList⟩

/-- The key of the file that a path of bytes names, if its name is text; what stands before the name
need not be. -/
def ofBytes? (path : List UInt8) : Option ObjectKey := do
  let name ← Path.fileNameOfBytes? path
  let name ← String.fromUTF8? ⟨name.toArray⟩
  return ofName name

/-- The key of the file that a path names. -/
def ofPath (path : String) : Except Cause ObjectKey :=
  match ofBytes? path.toUTF8.data.toList with
  | some key => .ok key
  | none => .error (.noFileName path)

/-- A key as text. -/
def text (k : ObjectKey) : String := folder ++ "/" ++ String.ofList k.segment

/-- A segment of a key that is asked for. Dots alone, which would lead elsewhere, are encoded. -/
def asked (segment : List Char) : List Char :=
  if segment = ['.'] then "%2E".toList
  else if segment = ['.', '.'] then "%2E%2E".toList
  else Percent.encode isPlain segment

/-- The text of the key that is meant by a path: empty segments say nothing, and what a key cannot
hold is encoded. -/
def textOfPath (path : String) : String :=
  let segments := (path.toList.splitOn '/').filter (!·.isEmpty)
  String.ofList (List.intercalate ['/'] (segments.map asked))

end ObjectKey

end CellExchange
