/-! # Paths of files

A path is names with slashes between them. Empty names and single dots say nothing, so the file that
a path names is its last name that is neither (`fileName?`); a path that ends in two dots names a
directory by going up, and names no file. `join` takes a path from a directory on.

A system takes paths as bytes, of which only some are text. The name of a file is found in them in
the same way (`fileNameOfBytes?`). -/

namespace CellExchange.Path

/-- The names of a path that say something. -/
def names (path : String) : List (List Char) :=
  (path.toList.splitOn '/').filter fun name => name ≠ [] && name ≠ ['.']

/-- The name of the file that a path names. -/
def fileName? (path : String) : Option String :=
  match (names path).getLast? with
  | none => none
  | some name => if name = ['.', '.'] then none else some (String.ofList name)

/-- The byte of a slash. -/
def slash : UInt8 := 47

/-- The byte of a dot. -/
def dot : UInt8 := 46

/-- The names of a path of bytes that say something. -/
def namesOfBytes (path : List UInt8) : List (List UInt8) :=
  (path.splitOn slash).filter fun name => name ≠ [] && name ≠ [dot]

/-- The name of the file that a path of bytes names. -/
def fileNameOfBytes? (path : List UInt8) : Option (List UInt8) :=
  match (namesOfBytes path).getLast? with
  | none => none
  | some name => if name = [dot, dot] then none else some name

/-- A path from a directory on; a path that begins with a slash begins anew. -/
def join (directory path : String) : String :=
  if path.startsWith "/" then path
  else if directory.isEmpty || directory.endsWith "/" then directory ++ path
  else directory ++ "/" ++ path

end CellExchange.Path
