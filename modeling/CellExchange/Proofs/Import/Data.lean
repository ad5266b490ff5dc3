import CellExchange.Proofs.Import.Run
import Mathlib

/-! # The data of a file

The records of a file are its header, if it has one, and its data. Which record is the header and
which ones are data is said here of the records themselves (`headerOf?`, `dataOf`), and so is which
cells the data give: those of the records that are text and whose rows are accepted, in file order
(`accepted`).

**The entries of a file are its data and its header** (`Entry.filter_ofRecords`), so what an import
makes of the entries, it makes of the data: their cells (`cellsIn_ofRecords`), the ones that it
passes over (`Entry.countP_ofRecords`) and what it tells of these (`Entry.filterMap_ofRecords`). -/

namespace CellExchange

/-- The cell of a record of data, if the record is text and its row is accepted. -/
def Csv.Record.cell? (header : Option (List String)) (r : Csv.Record) : Option Cell :=
  r.texts?.bind fun row => (Cell.ofFields header row).toOption

/-- What it takes for a record of data to give a cell. -/
theorem Csv.Record.cell?_eq_some_iff {header : Option (List String)} {r : Csv.Record} {c : Cell} :
    r.cell? header = some c ↔
      ∃ row, r.texts? = some row ∧ Cell.ofFields header row = .ok c := by
  rw [cell?, Option.bind_eq_some_iff]
  refine exists_congr fun row => and_congr_right fun _ => ?_
  cases Cell.ofFields header row with
  | error fault => exact iff_of_false nofun nofun
  | ok d => exact ⟨fun h => congrArg Except.ok (Option.some.inj h),
      fun h => congrArg some (Except.ok.inj h)⟩

/-- The header among some records: the first one that is text, if the mode takes it for one. -/
def headerOf? (mode : HeaderMode) (records : List Csv.Record) : Option (List String) :=
  (records.filterMap Csv.Record.texts?).head?.filter mode.takes

/-- The records of data: all but the header. -/
def dataOf (mode : HeaderMode) (records : List Csv.Record) : List Csv.Record :=
  if (headerOf? mode records).isSome then records.eraseP fun r => r.texts?.isSome else records

/-- The cells that the data give, in file order. -/
def accepted (mode : HeaderMode) (records : List Csv.Record) : List Cell :=
  (dataOf mode records).filterMap (Csv.Record.cell? (headerOf? mode records))

section Records

variable {mode : HeaderMode} {r : Csv.Record} {rest : List Csv.Record} {row : List String}

theorem headerOf?_cons_of_none (h : r.texts? = none) :
    headerOf? mode (r :: rest) = headerOf? mode rest := by
  rw [headerOf?, List.filterMap_cons_none h, ← headerOf?]

theorem dataOf_cons_of_none (h : r.texts? = none) :
    dataOf mode (r :: rest) = r :: dataOf mode rest := by
  have hkept : ¬ r.texts?.isSome = true := by rw [h]; exact Bool.false_ne_true
  rw [dataOf, dataOf, headerOf?_cons_of_none h]
  split
  · exact List.eraseP_cons_of_neg hkept
  · rfl

theorem headerOf?_cons_of_takes (h : r.texts? = some row) (htakes : mode.takes row = true) :
    headerOf? mode (r :: rest) = some row := by
  rw [headerOf?, List.filterMap_cons_some h, List.head?_cons, Option.filter_some, if_pos htakes]

theorem dataOf_cons_of_takes (h : r.texts? = some row) (htakes : mode.takes row = true) :
    dataOf mode (r :: rest) = rest := by
  have hheader : r.texts?.isSome = true := by rw [h]; rfl
  rw [dataOf, headerOf?_cons_of_takes h htakes, if_pos Option.isSome_some]
  exact List.eraseP_cons_of_pos hheader

theorem headerOf?_cons_of_not_takes (h : r.texts? = some row) (htakes : ¬ mode.takes row = true) :
    headerOf? mode (r :: rest) = none := by
  rw [headerOf?, List.filterMap_cons_some h, List.head?_cons, Option.filter_some, if_neg htakes]

theorem dataOf_cons_of_not_takes (h : r.texts? = some row) (htakes : ¬ mode.takes row = true) :
    dataOf mode (r :: rest) = r :: rest := by
  rw [dataOf, headerOf?_cons_of_not_takes h htakes, if_neg (by exact Bool.false_ne_true)]

/-- All records are data but for the header. -/
theorem length_dataOf (mode : HeaderMode) (records : List Csv.Record) :
    (dataOf mode records).length + (if (headerOf? mode records).isSome then 1 else 0) =
      records.length := by
  induction records with
  | nil => rfl
  | cons r rest ih =>
    cases htexts : r.texts? with
    | none =>
      rw [dataOf_cons_of_none htexts, headerOf?_cons_of_none htexts, List.length_cons,
        List.length_cons, ← ih]
      omega
    | some row =>
      by_cases htakes : mode.takes row = true
      · rw [dataOf_cons_of_takes htexts htakes, headerOf?_cons_of_takes htexts htakes]
        rfl
      · rw [dataOf_cons_of_not_takes htexts htakes, headerOf?_cons_of_not_takes htexts htakes]
        rfl

end Records

namespace Entry

/-! ## Entries -/

/-- Whether an entry is the header. -/
def isHeader : Entry → Bool
  | header _ => true
  | _ => false

/-- What an import tells of an entry that it passes over. -/
def warning? : Entry → Option Event
  | rejected place fault => some (.skippedLine place fault)
  | bytes place flaw => some (.skippedBytes place flaw)
  | _ => none

variable (header : Option (List String)) (r : Csv.Record)

/-- The entry of a record of data has the cell of the record. -/
theorem cell?_ofRecord : (ofRecord header r).cell? = r.cell? header := by
  rw [ofRecord, Csv.Record.cell?]
  cases r.texts? with
  | none => rfl
  | some row =>
    rw [Option.bind_some]
    simp only [ofRow]
    cases Cell.ofFields header row <;> rfl

/-- A record of data is passed over if it gives no cell. -/
theorem isSkipped_ofRecord : (ofRecord header r).isSkipped = (r.cell? header).isNone := by
  rw [ofRecord, Csv.Record.cell?]
  cases r.texts? with
  | none => rfl
  | some row =>
    rw [Option.bind_some]
    simp only [ofRow]
    cases Cell.ofFields header row <;> rfl

/-- A record of data is never the header. -/
theorem isHeader_ofRecord : (ofRecord header r).isHeader = false := by
  rw [ofRecord]
  cases r.texts? with
  | none => rfl
  | some row =>
    simp only [ofRow]
    cases Cell.ofFields header row <;> rfl

theorem filter_map_ofRecord (records : List Csv.Record) :
    (records.map (ofRecord header)).filter (!·.isHeader) = records.map (ofRecord header) := by
  rw [List.filter_eq_self]
  intro e he
  obtain ⟨r, -, rfl⟩ := List.mem_map.1 he
  rw [isHeader_ofRecord]
  rfl

/-- **The entries of a file**, but for the header, are those of its data. -/
theorem filter_ofRecords (mode : HeaderMode) (records : List Csv.Record) :
    (ofRecords mode records).filter (!·.isHeader) =
      (dataOf mode records).map (ofRecord (headerOf? mode records)) := by
  induction records with
  | nil => rfl
  | cons r rest ih =>
    rw [ofRecords]
    cases htexts : r.texts? with
    | none =>
      have hentry : ofRecord (headerOf? mode rest) r = ofBytes r := by
        simp only [ofRecord, htexts]
      rw [dataOf_cons_of_none htexts, headerOf?_cons_of_none htexts, List.map_cons, hentry, ← ih]
      rfl
    | some row =>
      -- the first text settles the header, and all records behind it are data
      by_cases htakes : mode.takes row = true
      · rw [dataOf_cons_of_takes htexts htakes, headerOf?_cons_of_takes htexts htakes]
        simp only [htakes, if_true]
        exact filter_map_ofRecord (some row) rest
      · have hentry : ofRecord none r = ofRow none r.position row := by
          simp only [ofRecord, htexts]
        have hall := filter_map_ofRecord none (r :: rest)
        rw [List.map_cons, hentry] at hall
        rw [dataOf_cons_of_not_takes htexts htakes, headerOf?_cons_of_not_takes htexts htakes,
          List.map_cons, hentry]
        simp only [htakes, Bool.false_eq_true, if_false]
        exact hall

/-- What the header has no part in, an import makes of the data. -/
theorem filterMap_ofRecords {α : Type} {f : Entry → Option α}
    (hheader : ∀ unknown, f (.header unknown) = none) (mode : HeaderMode)
    (records : List Csv.Record) :
    (ofRecords mode records).filterMap f =
      (dataOf mode records).filterMap fun r => f (ofRecord (headerOf? mode records) r) := by
  have hdata : (ofRecords mode records).filterMap f =
      ((ofRecords mode records).filter (!·.isHeader)).filterMap f := by
    rw [List.filterMap_filter]
    refine List.filterMap_congr fun e _ => ?_
    cases e with
    | header unknown => exact hheader unknown
    | cell c => rfl
    | rejected place fault => rfl
    | bytes place flaw => rfl
  rw [hdata, filter_ofRecords, List.filterMap_map]
  rfl

/-- The entries that are passed over are the records of data that give no cell. -/
theorem countP_ofRecords (mode : HeaderMode) (records : List Csv.Record) :
    (ofRecords mode records).countP isSkipped =
      (dataOf mode records).countP fun r => (r.cell? (headerOf? mode records)).isNone := by
  have hdata : (ofRecords mode records).countP isSkipped =
      ((ofRecords mode records).filter (!·.isHeader)).countP isSkipped := by
    rw [List.countP_filter]
    refine List.countP_congr fun e _ => ?_
    cases e <;> simp [isSkipped, isHeader]
  rw [hdata, filter_ofRecords, List.countP_map]
  exact List.countP_congr fun r _ => by rw [Function.comp_apply, isSkipped_ofRecord]

/-- An entry is told of exactly if it is passed over. -/
theorem length_filterMap_warning? (entries : List Entry) :
    (entries.filterMap warning?).length = entries.countP isSkipped := by
  rw [List.length_filterMap_eq_countP]
  refine List.countP_congr fun e _ => ?_
  cases e <;> simp [warning?, isSkipped]

end Entry

/-- **The cells of a file** are those that its data give. -/
theorem cellsIn_ofRecords (mode : HeaderMode) (records : List Csv.Record) :
    cellsIn (Entry.ofRecords mode records) = accepted mode records := by
  rw [cellsIn, Entry.filterMap_ofRecords (fun _ => rfl), accepted]
  exact List.filterMap_congr fun r _ => Entry.cell?_ofRecord _ r

/-- Every record of data gives a cell or is passed over. -/
theorem length_accepted (mode : HeaderMode) (records : List Csv.Record) :
    (accepted mode records).length +
        (dataOf mode records).countP (fun r => (r.cell? (headerOf? mode records)).isNone) =
      (dataOf mode records).length := by
  rw [accepted, List.length_filterMap_eq_countP,
    List.length_eq_countP_add_countP (fun r => (r.cell? (headerOf? mode records)).isSome)]
  congr 1
  exact List.countP_congr fun r _ => by simp

end CellExchange
