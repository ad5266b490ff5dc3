/-! # Writing comma-separated rows

A row is written as its fields with commas between them and a line feed behind it, and a document is
its rows one after another. A field that holds a comma, a quotation mark or a line break is written
between quotation marks, and a quotation mark in it twice (`written`). Readers pass over empty
lines, so a row that would be one is written as two quotation marks. -/

namespace CellExchange.Csv

/-- Whether a character means something to a reader of rows. -/
def isMark (c : Char) : Bool := c == ',' || c == '"' || c == '\n' || c == '\r'

/-- A character as it stands between quotation marks. -/
def quotedChar (c : Char) : List Char := if c = '"' then ['"', '"'] else [c]

/-- A field as it stands in a line. -/
def written (field : String) : String :=
  if field.toList.any isMark then
    String.ofList ('"' :: (field.toList.flatMap quotedChar ++ ['"']))
  else field

/-- A row as a line of text. -/
def line (fields : List String) : String :=
  let text := String.intercalate "," (fields.map written)
  (if text = "" then String.ofList ['"', '"'] else text) ++ "\n"

/-- Rows as text. -/
def document (rows : List (List String)) : String := String.join (rows.map line)

@[simp] theorem document_nil : document [] = "" := rfl

theorem document_cons (row : List String) (rows : List (List String)) :
    document (row :: rows) = line row ++ document rows := by
  rw [document, List.map_cons, String.join_cons]
  rfl

end CellExchange.Csv
