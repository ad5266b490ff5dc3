import CellExchange.Row.Fault

/-! # Reading the fields of a row

Reading a row has two stages. The first turns texts into values and knows nothing of their meaning;
its result is a `Draft`, where an empty or missing field is an absent value. Fields find their
columns in one of two ways: by their place (`ofRow`), as in a file without a header, or by the name
that the header gives to their place (`ofNamedRow`).

By place, a short row is read as far as it goes and fields beyond the known columns are ignored. By
name, columns are met in the order of the header. Names that mean no column of data are passed over,
but their fields have to be there; so has the radio type, the only value that is a text even when it
is empty; every other column may be missing at the end of a row. A column that is named twice is a
fault, found when its second name is met. -/

namespace CellExchange

/-- The values of a row before they are checked. -/
structure Draft where
  /-- The name of the radio type. -/
  radio : String := ""
  /-- The mobile country code. -/
  mcc : Option Int := none
  /-- The mobile network code. -/
  mnc : Option Int := none
  /-- The location area code. -/
  lac : Option Int := none
  /-- The cell number. -/
  cid : Option Int := none
  /-- The scrambling code. -/
  psc : Option Int := none
  /-- The longitude. -/
  lon : Option Double := none
  /-- The latitude. -/
  lat : Option Double := none
  /-- The radius of the coverage. -/
  range : Option Double := none
  /-- The number of observations. -/
  samples : Option Int := none
  /-- The truth value, as text. -/
  changeable : Option String := none
  /-- The time of the first sighting, in seconds. -/
  created : Option Int := none
  /-- The time of the last change, in seconds. -/
  updated : Option Int := none
  deriving DecidableEq

namespace Draft

/-- An optional whole number of the given interval: an empty field is absent. -/
def readWhole (range : Numeral.Interval) (s : String) : Except ValueFault (Option Int) :=
  if s.isEmpty then .ok none
  else match Numeral.read range s.toList with
    | .ok n => .ok (some n)
    | .error fault => .error (.numeral fault)

/-- An optional number: an empty field is absent. -/
def readReal (s : String) : Except ValueFault (Option Double) :=
  if s.isEmpty then .ok none
  else match Double.read? s.toList with
    | some x => .ok (some x)
    | none => .error .notANumber

/-- An optional text: an empty field is absent. -/
def readText (s : String) : Option String := if s.isEmpty then none else some s

/-- A draft after the field of one column is read. -/
def set (d : Draft) (c : Column) (s : String) : Except ValueFault Draft :=
  match c with
  | .radio => .ok { d with radio := s }
  | .mcc => (readWhole .int32 s).map fun n => { d with mcc := n }
  | .mnc => (readWhole .int32 s).map fun n => { d with mnc := n }
  | .lac => (readWhole .int32 s).map fun n => { d with lac := n }
  | .cid => (readWhole .int64 s).map fun n => { d with cid := n }
  | .psc => (readWhole .int32 s).map fun n => { d with psc := n }
  | .lon => (readReal s).map fun x => { d with lon := x }
  | .lat => (readReal s).map fun x => { d with lat := x }
  | .range => (readReal s).map fun x => { d with range := x }
  | .samples => (readWhole .int32 s).map fun n => { d with samples := n }
  | .changeable => .ok { d with changeable := readText s }
  | .created => (readWhole .int64 s).map fun n => { d with created := n }
  | .updated => (readWhole .int64 s).map fun n => { d with updated := n }
  | .averageSignal => .ok d

/-- A draft after a field at a place of the row is read. -/
def setAt (d : Draft) (place : Nat) (c : Column) (s : String) : Except RowFault Draft :=
  match d.set c s with
  | .ok d => .ok d
  | .error fault => .error (.value place fault)

/-- Reads fields by place: the first field goes to the first column, and so on. -/
def readPlaces (place : Nat) (d : Draft) : List Column → List String → Except RowFault Draft
  | c :: columns, s :: fields => do
    let d ← d.setAt place c s
    readPlaces (place + 1) d columns fields
  | _, _ => .ok d

/-- The draft of a row in a file without a header. -/
def ofRow (row : List String) : Except RowFault Draft := readPlaces 0 {} Column.data row

/-- Reads fields by name: `names` are the names still to come, `met` the columns met before. -/
def readNames (place : Nat) (met : List Column) (d : Draft) :
    List String → List String → Except RowFault Draft
  | [], _ => .ok d
  | name :: names, fields =>
    match Column.dataOfName? name, fields with
    | none, [] => .error .endOfRow
    | none, _ :: fields => readNames (place + 1) met d names fields
    | some c, fields =>
      if c ∈ met then .error (.duplicate c)
      else match fields with
        | [] =>
          if c = .radio then .error .endOfRow
          else readNames (place + 1) (c :: met) d names []
        | s :: fields => do
          let d ← d.setAt place c s
          readNames (place + 1) (c :: met) d names fields

/-- The draft of a row in a file with a header. -/
def ofNamedRow (header row : List String) : Except RowFault Draft := readNames 0 [] {} header row

end Draft

end CellExchange
