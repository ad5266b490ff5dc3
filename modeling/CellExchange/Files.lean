import CellExchange.Failure

/-! # Files

The files that a run finds (`Files`): names of directories with what stands at their end, and the
directory in which the run was started. Opening a path gives what a reader meets (`Reads`): the
bytes in the pieces in which they arrive, and possibly a fault behind them. A directory can be
opened but not read. -/

namespace CellExchange

/-- What stands at a path. -/
inductive FileNode where
  /-- A directory. -/
  | directory
  /-- A file. -/
  | data (bytes : ByteArray)

/-- What the reader of an open file meets. -/
structure Reads where
  /-- The bytes, in pieces. -/
  pieces : List ByteArray
  /-- The fault behind them, if there is one. -/
  fault : Option FileFault := none

namespace Reads

/-- Bytes in pieces of a given size. -/
def cut (size : Nat) (bytes : ByteArray) : List ByteArray :=
  (List.range ((bytes.size + size - 1) / size)).map fun i =>
    bytes.extract (i * size) ((i + 1) * size)

/-- All bytes of the file. -/
def bytes (r : Reads) : ByteArray := r.pieces.foldl (· ++ ·) .empty

end Reads

namespace FileNode

/-- How many bytes one read gives at most. -/
def readSize : Nat := 2097152

/-- What the reader of a node meets. -/
def reads : FileNode → Reads
  | directory => ⟨[], some .isADirectory⟩
  | data bytes => ⟨Reads.cut readSize bytes, none⟩

end FileNode

/-- The files that a run finds. -/
structure Files where
  /-- The names of the directory in which the run was started, from the root on. -/
  start : List String := []
  /-- What stands where, by names from the root on. -/
  nodes : List (List String × FileNode) := []

/-- The names of a path, with slashes between them. -/
def namesOf (path : String) : List String := (path.toList.splitOn '/').map String.ofList

/-- The place one name further: no name and a single dot stay where they are, and two dots go up. -/
def further (place : List String) (name : String) : List String :=
  if name.isEmpty ∨ name = "." then place
  else if name = ".." then place.dropLast
  else place ++ [name]

/-- Where a path leads that is followed from a place; a path that begins with a slash is followed
from the root. -/
def placeOf (start : List String) (path : String) : List String :=
  (namesOf path).foldl further (if path.startsWith "/" then [] else start)

/-- The longest name in a path, in bytes. -/
def longestName : Nat := 255

/-- The longest path, in bytes. -/
def longestPath : Nat := 4095

/-- Whether a path can be the path of a file. -/
def checkPath (path : String) : Except FileFault Unit :=
  if path.toList.contains (Char.ofNat 0) then .error .nulInPath
  else if longestPath < path.utf8ByteSize then .error .nameTooLong
  else if (namesOf path).any fun name => longestName < name.utf8ByteSize then .error .nameTooLong
  else .ok ()

namespace Files

/-- The files at some paths, in a run that is started in a directory. -/
def inDirectory (directory : String) (files : List (String × FileNode)) : Files :=
  let start := placeOf [] directory
  ⟨start, (start, .directory) :: files.map fun f => (placeOf start f.1, f.2)⟩

/-- What stands at the end of some names: a node, or a directory on the way to one. -/
def node? (files : Files) (names : List String) : Option FileNode :=
  match files.nodes.lookup names with
  | some node => some node
  | none => if files.nodes.any fun n => names.isPrefixOf n.1 then some .directory else none

/-- Goes on from a place, which has to be a directory, by one name. -/
def stepTo (files : Files) (place : List String) (name : String) :
    Except FileFault (List String) :=
  match files.node? place with
  | none => .error .notFound
  | some (.data _) => .error .notADirectory
  | some .directory =>
    if longestName < name.utf8ByteSize then .error .nameTooLong
    else .ok (further place name)

/-- Goes on from a place by names. -/
def walk (files : Files) (place : List String) : List String → Except FileFault (List String)
  | [] => .ok place
  | name :: rest => do files.walk (← files.stepTo place name) rest

/-- Opens the file at a path. -/
def openFile (files : Files) (path : String) : Except FileFault Reads := do
  if path.toList.contains (Char.ofNat 0) then throw .nulInPath
  if longestPath < path.utf8ByteSize then throw .nameTooLong
  if path.isEmpty then throw .notFound
  let place ← files.walk (if path.startsWith "/" then [] else files.start) (namesOf path)
  match files.node? place with
  | some node => return node.reads
  | none => throw .notFound

/-- The text of the file at a path. -/
def readText (files : Files) (path : String) : Except FileFault String := do
  let reads ← files.openFile path
  match reads.fault with
  | some fault => throw fault
  | none =>
    match String.fromUTF8? reads.bytes with
    | some text => return text
    | none => throw .notText

end Files

end CellExchange
