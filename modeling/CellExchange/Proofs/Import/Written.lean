import CellExchange.Proofs.Csv.Lines
import CellExchange.Proofs.Gzip.Member
import CellExchange.Proofs.Import.Account
import CellExchange.Proofs.Row.RoundTrip

/-! # Cell files that were written

What an import meets in a file that begins with the written header and goes on with the rows of
cells. The fields of a written row are plain (`isPlainRow_toFields`), so **the records of the file
are the rows** (`CellFile.ofReads_document`). **Their entries are the cells that an import takes**,
with their times cut down to whole seconds; every other row is passed over
(`Entry.ofRecords_written`), and so is the header if it is taken for a row. -/

namespace CellExchange

/-! ## Plain fields -/

theorem isPlainText_ofList {cs : List Char} (h : ∀ c ∈ cs, IsPlain c) :
    IsPlainText (String.ofList cs) := by
  intro c hc
  rw [String.toList_ofList] at hc
  exact h c hc

theorem isPlainText_numeral (n : Int) : IsPlainText (Numeral.text n) := by
  refine isPlainText_ofList fun c hc => ?_
  obtain rfl | hdigit := Numeral.mem_render hc
  · decide
  · exact isPlain_of_isDigit hdigit

theorem isPlainText_double (x : Double) : IsPlainText x.text := by
  refine isPlainText_ofList fun c hc => ?_
  have hsign : ∀ negative, c ∈ (if negative = true then ['-'] else []) → IsPlain c := by
    rintro (_ | _) hc
    · exact nomatch hc
    · rw [List.mem_singleton.1 hc]
      decide
  cases x with
  | nan =>
    obtain rfl | rfl | rfl : c = 'N' ∨ c = 'a' ∨ c = 'N' := by simpa [Double.render] using hc
    all_goals decide
  | infinite negative =>
    obtain hc | hc := List.mem_append.1 hc
    · exact hsign negative hc
    · obtain rfl | rfl | rfl : c = 'i' ∨ c = 'n' ∨ c = 'f' := by simpa using hc
      all_goals decide
  | finite negative units =>
    obtain hc | hc := List.mem_append.1 hc
    · exact hsign negative hc
    · obtain rfl | hdigit := Double.mem_magnitudeText hc
      · decide
      · exact isPlain_of_isDigit hdigit

/-- Every field that is written is plain. -/
theorem isPlainText_field (c : Cell) (column : Column) : IsPlainText (c.field column) := by
  cases column with
  | radio =>
    rw [Cell.field]
    cases c.radio <;> decide
  | psc =>
    rw [Cell.field]
    split
    · decide
    · exact isPlainText_numeral _
  | changeable =>
    rw [Cell.field]
    split <;> decide
  | averageSignal => exact (by decide : IsPlainText "")
  | lon | lat => exact isPlainText_double _
  | mcc | mnc | lac | cid | range | samples | created | updated => exact isPlainText_numeral _

/-- A row that is written is plain. -/
theorem isPlainRow_toFields (c : Cell) : Csv.IsPlainRow c.toFields := by
  constructor
  · intro s hs
    obtain ⟨column, -, rfl⟩ := List.mem_map.1 hs
    exact isPlainText_field c column
  · rw [Cell.length_toFields]
    decide

/-- The header that is written is plain. -/
theorem isPlainRow_header : Csv.IsPlainRow Column.header :=
  ⟨by decide +kernel, by decide⟩

/-! ## The start of a file -/

/-- The first byte of a file is the first byte of the first piece that is not empty. -/
theorem exists_first_piece {pieces : List (List UInt8)} {b : UInt8} {bytes : List UInt8}
    (h : pieces.flatten = b :: bytes) :
    ∃ first rest, pieces.dropWhile List.isEmpty = (b :: first) :: rest ∧
      (pieces.filter (!·.isEmpty)).head? = some (b :: first) ∧ first ++ rest.flatten = bytes := by
  induction pieces with
  | nil => exact nomatch h
  | cons piece rest ih =>
    cases piece with
    | nil => exact ih h
    | cons c first =>
      obtain ⟨rfl, hbytes⟩ := List.cons.inj h
      exact ⟨first, rest, rfl, rfl, hbytes⟩

/-- A file that does not begin with the first byte of a byte order mark is scanned from its start.
-/
theorem Csv.begin_of_flatten {pieces : List (List UInt8)} {b : UInt8} {bytes : List UInt8}
    (h : pieces.flatten = b :: bytes) (hb : b ≠ 0xEF) : Csv.begin pieces = ({}, b :: bytes) := by
  obtain ⟨first, rest, hpieces, -, hbytes⟩ := exists_first_piece h
  have hmark : Csv.byteOrderMark.isPrefixOf (b :: first) = false := by
    rw [Csv.byteOrderMark, List.isPrefixOf_cons_cons, beq_eq_false_iff_ne.2 hb.symm,
      Bool.false_and]
  rw [Csv.begin, hpieces]
  simp only [hmark, Bool.false_eq_true, if_false]
  rw [List.cons_append, hbytes]

/-- A file that does not begin with the first byte of a byte order mark is read to its end. -/
theorem CellFile.untilEnd_of_flatten {f : CellFile} {b : UInt8} {bytes : List UInt8}
    (h : f.pieces.flatten = b :: bytes) (hb : b ≠ 0xEF) : f.untilEnd = f := by
  obtain ⟨first, rest, -, hhead, -⟩ := exists_first_piece h
  rw [CellFile.untilEnd, hhead, if_neg]
  intro hmark
  exact hb (List.cons.inj (Option.some.inj hmark)).1

/-- **A file that reads without a fault** is scanned from its start in one go, if it does not begin
with the first byte of a byte order mark. -/
theorem CellFile.ofReads_of_joined {reads : Reads} {data : ByteArray} {b : UInt8}
    {bytes : List UInt8} (hfault : reads.fault = none)
    (hflaw : (Gzip.read reads.bytes).flaw = none)
    (hpieces : joined (Gzip.read reads.bytes).pieces = data)
    (hstart : data.data.toList = b :: bytes) (hb : b ≠ 0xEF) :
    let scan := ({} : Csv.Scan).feed data.data.toList
    (ofReads reads).fault = none ∧
      (ofReads reads).records = scan.complete ++ scan.pending.toList := by
  intro scan
  have hflatten : ((Gzip.read reads.bytes).pieces.map ByteArray.toList).flatten = b :: bytes := by
    rw [flatten_toList, hpieces, hstart]
  have hfile : ofReads reads =
      { pieces := (Gzip.read reads.bytes).pieces.map ByteArray.toList } := by
    rw [ofReads]
    simp only [hflaw, hfault]
    exact untilEnd_of_flatten hflatten hb
  rw [hfile]
  refine ⟨rfl, ?_⟩
  simp only [records, Csv.scan, Csv.begin_of_flatten hflatten hb, scan, hstart]

/-- A file that holds data in one gzip member gives the records of the data. -/
theorem CellFile.ofReads_member {data : ByteArray} {b : UInt8}
    (hstart : data.data.toList.head? = some b) (hb : b ≠ 0xEF) :
    let scan := ({} : Csv.Scan).feed data.data.toList
    (ofReads ⟨[Gzip.member data], none⟩).fault = none ∧
      (ofReads ⟨[Gzip.member data], none⟩).records = scan.complete ++ scan.pending.toList := by
  obtain ⟨bytes, hbytes⟩ := List.head?_eq_some_iff.1 hstart
  obtain ⟨hpieces, hflaw⟩ := Gzip.read_member data
  have hmember : (⟨[Gzip.member data], none⟩ : Reads).bytes = Gzip.member data :=
    ByteArray.empty_append
  rw [← hmember] at hpieces hflaw
  exact ofReads_of_joined rfl hflaw hpieces hbytes hb

/-! ## Records -/

/-- A document that begins with the header begins with its first letter. -/
theorem Csv.exists_bytesOf_document (rows : List (List String)) :
    ∃ bytes, bytesOf (Csv.document (Column.header :: rows)) = 0x72 :: bytes := by
  have hhead : (Csv.lineBytes (Column.header.map bytesOf)).head? = some 0x72 := by decide +kernel
  obtain ⟨bytes, hline⟩ := List.head?_eq_some_iff.1 hhead
  rw [Csv.document_cons, bytesOf_append, Csv.bytesOf_line isPlainRow_header, hline,
    List.cons_append]
  exact ⟨_, rfl⟩

/-- **The records of a document** that begins with the header are its rows, in whatever pieces it
arrives, and reading it meets no fault. -/
theorem CellFile.untilEnd_document {pieces : List (List UInt8)} {rows : List (List String)}
    (hbytes : pieces.flatten = bytesOf (Csv.document (Column.header :: rows)))
    (hplain : ∀ row ∈ rows, Csv.IsPlainRow row) :
    let file := ({ pieces } : CellFile).untilEnd
    file.fault = none ∧
      file.records.map Csv.Record.texts? = (Column.header :: rows).map some := by
  intro file
  -- the document begins with a letter and not with a byte order mark
  obtain ⟨bytes, hstart⟩ := Csv.exists_bytesOf_document rows
  have hfile : file = { pieces } := untilEnd_of_flatten (hbytes.trans hstart) (by decide)
  have hrows : ∀ row ∈ Column.header :: rows, Csv.IsPlainRow row :=
    List.forall_mem_cons.2 ⟨isPlainRow_header, hplain⟩
  obtain ⟨htexts, hpending⟩ := Csv.records_document hrows
  rw [hfile]
  refine ⟨rfl, ?_⟩
  simp only [records, Csv.scan, Csv.begin_of_flatten (hbytes.trans hstart) (by decide), ← hstart,
    hpending, Option.toList_none, List.append_nil, htexts]

/-- **The records of a file that was written** are the header and its rows, and reading it meets no
fault. -/
theorem CellFile.ofReads_document {reads : Reads} {rows : List (List String)}
    (hfault : reads.fault = none) (hflaw : (Gzip.read reads.bytes).flaw = none)
    (hbytes : joined (Gzip.read reads.bytes).pieces =
      (Csv.document (Column.header :: rows)).toUTF8)
    (hplain : ∀ row ∈ rows, Csv.IsPlainRow row) :
    (ofReads reads).fault = none ∧
      (ofReads reads).records.map Csv.Record.texts? = (Column.header :: rows).map some := by
  have hfile : ofReads reads =
      ({ pieces := (Gzip.read reads.bytes).pieces.map ByteArray.toList } : CellFile).untilEnd := by
    rw [ofReads]
    simp only [hflaw, hfault]
  rw [hfile]
  refine untilEnd_document ?_ hplain
  rw [flatten_toList, hbytes]
  rfl

/-! ## Entries -/

namespace Entry

variable {c : Cell} {r : Csv.Record} {header : Option (List String)}

/-- The entry of a row that was written: its cell, if an import takes it. -/
theorem ofRecord_of_isAcceptable (htexts : r.texts? = some c.toFields)
    (hreread : Cell.ofFields header c.toFields = c.reread) (h : c.IsAcceptable) :
    ofRecord header r = cell c.floored := by
  simp only [ofRecord, htexts, ofRow, hreread, Cell.reread_of_isAcceptable h]

/-- The entry of a row that was written, if no import takes its cell: it is passed over. -/
theorem ofRecord_of_not_isAcceptable (htexts : r.texts? = some c.toFields)
    (hreread : Cell.ofFields header c.toFields = c.reread) (h : ¬ c.IsAcceptable) :
    ∃ fault, ofRecord header r = rejected r.position fault := by
  obtain ⟨fault, hfault⟩ := Cell.reread_of_not_isAcceptable h
  exact ⟨fault, by simp only [ofRecord, htexts, ofRow, hreread, hfault]⟩

/-- The entries of rows that were written. -/
theorem map_ofRecord_written {cells : List Cell} {records : List Csv.Record}
    (hreread : ∀ c ∈ cells, Cell.ofFields header c.toFields = c.reread)
    (htexts : records.map Csv.Record.texts? = (cells.map Cell.toFields).map some) :
    cellsIn (records.map (ofRecord header)) =
        (cells.filter fun c => c.IsAcceptable).map Cell.floored ∧
      (records.map (ofRecord header)).countP isSkipped =
        cells.countP fun c => ¬ c.IsAcceptable := by
  induction cells generalizing records with
  | nil =>
    rw [List.map_eq_nil_iff.1 htexts]
    exact ⟨rfl, rfl⟩
  | cons c cells ih =>
    obtain ⟨r, rest, rfl, hr, hrest⟩ := List.map_eq_cons_iff.1 htexts
    have hc := hreread c List.mem_cons_self
    obtain ⟨hcells, hcount⟩ := ih (fun d hd => hreread d (List.mem_cons_of_mem c hd)) hrest
    by_cases h : c.IsAcceptable
    · have hnot : ¬ decide (¬ c.IsAcceptable) = true := by
        rw [decide_eq_true_eq]
        exact not_not_intro h
      rw [List.map_cons, ofRecord_of_isAcceptable hr hc h]
      constructor
      · show c.floored :: cellsIn (rest.map (ofRecord header)) = _
        rw [hcells, List.filter_cons, if_pos (decide_eq_true h), List.map_cons]
      · rw [List.countP_cons, List.countP_cons, hcount, if_neg hnot]
        rfl
    · obtain ⟨fault, hrejected⟩ := ofRecord_of_not_isAcceptable hr hc h
      rw [List.map_cons, hrejected]
      constructor
      · show cellsIn (rest.map (ofRecord header)) = _
        rw [hcells, List.filter_cons, if_neg (by rw [decide_eq_true_eq]; exact h)]
      · rw [List.countP_cons, List.countP_cons, hcount, if_pos (decide_eq_true h)]
        rfl

/-- **The entries of a file that was written**, in any mode: the cells that an import takes, in
order, and every other row is passed over; without a header, so is the row that the header is. -/
theorem ofRecords_written {cells : List Cell} (hdated : ∀ c ∈ cells, c.IsDated)
    {records : List Csv.Record}
    (htexts : records.map Csv.Record.texts? =
      (Column.header :: cells.map Cell.toFields).map some) (mode : HeaderMode) :
    cellsIn (ofRecords mode records) =
        (cells.filter fun c => c.IsAcceptable).map Cell.floored ∧
      (ofRecords mode records).countP isSkipped =
        (cells.countP fun c => ¬ c.IsAcceptable) + if mode = .absent then 1 else 0 := by
  obtain ⟨r, rest, rfl, hr, hrest⟩ := List.map_eq_cons_iff.1 htexts
  have hnamed : mode ≠ .absent → ofRecords mode (r :: rest) =
      ofHeader Column.header :: rest.map (ofRecord (some Column.header)) := by
    intro hmode
    have htakes : mode.takes Column.header = true := by
      cases mode with
      | detect => exact isHeader_header
      | present => rfl
      | absent => exact absurd rfl hmode
    simp only [ofRecords, hr, htakes, if_true]
  by_cases hmode : mode = .absent
  · -- the header is taken for a row, and its second field is no number
    obtain ⟨hcells, hcount⟩ := map_ofRecord_written
      (fun c hc => Cell.ofFields_toFields (hdated c hc)) hrest
    have hentries : ofRecords mode (r :: rest) =
        rejected r.position (.value 1 (.numeral .invalidDigit)) :: rest.map (ofRecord none) := by
      rw [hmode]
      simp only [ofRecords, hr, HeaderMode.takes, Bool.false_eq_true, if_false, ofRow,
        ofFields_header]
    rw [hentries, if_pos hmode]
    constructor
    · exact hcells
    · rw [List.countP_cons_of_pos rfl, hcount]
  · -- the rows are read by the names of the header
    obtain ⟨hcells, hcount⟩ := map_ofRecord_written
      (fun c hc => Cell.ofFields_header_toFields (hdated c hc)) hrest
    rw [hnamed hmode, if_neg hmode]
    constructor
    · exact hcells
    · rw [List.countP_cons_of_neg (by decide +kernel), hcount]
      rfl

end Entry

end CellExchange
