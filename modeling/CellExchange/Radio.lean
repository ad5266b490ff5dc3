import CellExchange.Text.Blank

/-! # Radio types

The radio technology of a cell. A type has three faces: the small number kept in the database
(`code`), the name written into cell files (`name`), and the names accepted from them (`ofName`),
which are tolerant: blanks around the name and the case of its letters do not count, UMTS may be
called WCDMA, and every other name means an unknown type. Codes are strict: `ofCode?` knows four. -/

namespace CellExchange

/-- A radio type. -/
inductive Radio where
  /-- A type that the file or the database does not tell. -/
  | unknown
  /-- The second generation. -/
  | gsm
  /-- The third generation. -/
  | umts
  /-- The fourth generation. -/
  | lte
  deriving DecidableEq, Repr, Inhabited

namespace Radio

/-- The number of a radio type in the database. -/
def code : Radio → Int16
  | unknown => -1
  | gsm => 0
  | umts => 1
  | lte => 2

/-- The radio type of a number in the database. -/
def ofCode? (n : Int16) : Option Radio :=
  if n = -1 then some unknown
  else if n = 0 then some gsm
  else if n = 1 then some umts
  else if n = 2 then some lte
  else none

/-- The name of a radio type in a cell file. -/
def name : Radio → String
  | unknown => ""
  | gsm => "GSM"
  | umts => "UMTS"
  | lte => "LTE"

/-- The radio type that a name from a cell file stands for. -/
def ofName (s : String) : Radio :=
  let called (n : String) : Bool := Text.sameLetters (Text.trim s.toList) n.toList
  if called "GSM" then gsm
  else if called "UMTS" || called "WCDMA" then umts
  else if called "LTE" then lte
  else unknown

/-- A code leads back to its radio type. -/
@[simp] theorem ofCode?_code (r : Radio) : ofCode? r.code = some r := by
  cases r <;> rfl

/-- A name leads back to its radio type. -/
@[simp] theorem ofName_name (r : Radio) : ofName r.name = r := by
  cases r <;> decide +kernel

end Radio

end CellExchange
