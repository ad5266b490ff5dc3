import CellExchange.Proofs.Import.Written

/-! # Lines of cells

The text of a snapshot, character by character. A plain row is one line, in which nothing but its
commas stands between its fields (`Csv.splitOn_rowChars`), and a document of plain rows is as many
lines as it has rows (`Csv.splitOn_document`). **Every cell is one plain line**
(`Csv.document_lines`), whatever its numbers are, and a reader takes the lines for just the rows
that they were written for. -/

namespace CellExchange.Csv

variable {row : List String} {rows : List (List String)}

/-! ## Characters of a row -/

/-- The characters of a plain row, without the end of its line. -/
def rowChars (row : List String) : List Char := (String.intercalate "," row).toList

theorem rowChars_cons_cons (first second : String) (rest : List String) :
    rowChars (first :: second :: rest) = first.toList ++ ',' :: rowChars (second :: rest) := by
  rw [rowChars, String.intercalate_cons_cons, String.toList_append, String.toList_append,
    List.append_assoc]
  rfl

/-- A plain row has plain characters and commas. -/
theorem mem_rowChars (h : ∀ s ∈ row, IsPlainText s) {c : Char} (hc : c ∈ rowChars row) :
    c = ',' ∨ IsPlain c := by
  induction row with
  | nil => exact absurd hc List.not_mem_nil
  | cons first rest ih =>
    obtain ⟨hfirst, hrest⟩ := List.forall_mem_cons.1 h
    cases rest with
    | nil =>
      rw [rowChars, String.intercalate_singleton] at hc
      exact Or.inr (hfirst c hc)
    | cons second rest =>
      rw [rowChars_cons_cons, List.mem_append, List.mem_cons] at hc
      obtain hc | hc | hc := hc
      · exact Or.inr (hfirst c hc)
      · exact Or.inl hc
      · exact ih hrest hc

/-- **A plain row is split at its commas** into its fields. -/
theorem splitOn_rowChars (h : IsPlainRow row) :
    (rowChars row).splitOn ',' = row.map String.toList := by
  have hcomma : ∀ cs ∈ row.map String.toList, ',' ∉ cs := by
    rintro cs hcs hmem
    obtain ⟨s, hs, rfl⟩ := List.mem_map.1 hcs
    exact (h.1 s hs ',' hmem).2.2.1 rfl
  have hsome : row.map String.toList ≠ [] := by
    rw [ne_eq, List.map_eq_nil_iff]
    exact List.length_pos_iff.1 (Nat.lt_trans Nat.zero_lt_one h.2)
  rw [rowChars, String.toList_intercalate]
  exact List.splitOn_intercalate ',' hcomma hsome

/-- A list has one part more than separators. -/
theorem length_splitOn {α : Type} [BEq α] [LawfulBEq α] (a : α) (l : List α) :
    (l.splitOn a).length = l.count a + 1 := by
  induction l with
  | nil => rfl
  | cons b l ih =>
    rw [List.splitOn_cons_eq_if_modifyHead, List.count_cons]
    split
    · rw [List.length_cons, ih]
    · rw [List.length_modifyHead, ih, Nat.add_zero]

theorem count_rowChars (h : IsPlainRow row) : (rowChars row).count ',' + 1 = row.length := by
  rw [← length_splitOn, splitOn_rowChars h, List.length_map]

/-! ## Lines of a document -/

/-- **A document of plain rows is split at its line feeds** into its rows, and nothing stands behind
the last one. -/
theorem splitOn_document (h : ∀ row ∈ rows, IsPlainRow row) :
    (document rows).toList.splitOn '\n' = rows.map rowChars ++ [[]] := by
  induction rows with
  | nil => rfl
  | cons row rows ih =>
    obtain ⟨hrow, hrows⟩ := List.forall_mem_cons.1 h
    have hline : '\n' ∉ rowChars row := fun hmem =>
      (mem_rowChars hrow.1 hmem).elim (by decide) (by decide)
    have hchars : (document (row :: rows)).toList =
        rowChars row ++ '\n' :: (document rows).toList := by
      rw [document_cons, line_of_isPlainRow hrow, String.toList_append, String.toList_append,
        List.append_assoc]
      rfl
    rw [hchars, List.splitOn_append_cons_self, List.splitOn_eq_singleton hline, ih hrows]
    rfl

/-! ## Lines of cells -/

/-- **Every cell is one plain line**, whatever its numbers are. The text of the header and some
cells has a line for each of them, which ends in a line feed. A line has thirteen commas and
characters of ASCII that show, no quotation mark among them, and the texts between its commas are
the fields of the row. Whatever the pieces are in which the text arrives, a reader of cell files
finds the header and the rows, in order. -/
theorem document_lines (cells : List Cell) :
    let rows := Column.header :: cells.map Cell.toFields
    (∃ lines : List (List Char), (document rows).toList.splitOn '\n' = lines ++ [[]] ∧
      lines.length = cells.length + 1 ∧
      (∀ line ∈ lines, line.count ',' = 13 ∧
        ∀ c ∈ line, c ≠ '"' ∧ c ≠ '\r' ∧ c ≠ ' ' ∧ c.toNat < 128) ∧
      lines.map (fun line => (line.splitOn ',').map String.ofList) = rows) ∧
    ∀ pieces : List (List UInt8), pieces.flatten = bytesOf (document rows) →
      let file := ({ pieces } : CellFile).untilEnd
      file.fault = none ∧ file.records.map Record.texts? = rows.map some := by
  intro rows
  have hcells : ∀ row ∈ cells.map Cell.toFields, IsPlainRow row :=
    List.forall_mem_map.2 fun c _ => isPlainRow_toFields c
  have hrows : ∀ row ∈ rows, IsPlainRow row := List.forall_mem_cons.2 ⟨isPlainRow_header, hcells⟩
  have hlength : ∀ row ∈ rows, row.length = 14 :=
    List.forall_mem_cons.2 ⟨rfl, List.forall_mem_map.2 fun c _ => c.length_toFields⟩
  refine ⟨⟨rows.map rowChars, splitOn_document hrows, ?_, ?_, ?_⟩, fun pieces hbytes =>
    CellFile.untilEnd_document hbytes hcells⟩
  · rw [List.length_map, List.length_cons, List.length_map]
  · refine List.forall_mem_map.2 fun row hrow => ⟨?_, fun c hc => ?_⟩
    · have hcount := count_rowChars (hrows row hrow)
      rw [hlength row hrow] at hcount
      exact Nat.succ.inj hcount
    · obtain rfl | hplain := mem_rowChars (hrows row hrow).1 hc
      · decide
      · exact ⟨hplain.2.2.2, hplain.ne_of_lt (by decide), hplain.ne_of_lt (by decide),
          Nat.lt_trans hplain.2.1 (by decide)⟩
  · rw [List.map_map]
    refine (List.map_congr_left fun row hrow => ?_).trans (List.map_id rows)
    rw [Function.comp_apply, splitOn_rowChars (hrows row hrow), List.map_map]
    exact (List.map_congr_left fun s _ => String.ofList_toList).trans (List.map_id row)

/-- A cell of no radio type, with no scrambling code and the least numbers that there are. -/
def leastCell : Cell where
  radio := .unknown
  mcc := Int32.minValue
  mnc := Int32.minValue
  lac := Int32.minValue
  cid := Int64.minValue
  psc := -1
  lat := .nan
  lon := .infinite true
  range := Int32.minValue
  samples := Int32.minValue
  changeable := false
  created := ⟨0⟩
  modified := ⟨-1⟩

/-- The row of the cell begins with an empty field and has two others, and its text is read byte by
byte. -/
theorem document_lines_leastCell :
    let text := document [Column.header, leastCell.toFields]
    let file := ({ pieces := (bytesOf text).map ([·]) } : CellFile).untilEnd
    (∃ lines : List (List Char), text.toList.splitOn '\n' = lines ++ [[]] ∧ lines.length = 2 ∧
      ∀ line ∈ lines, line.count ',' = 13) ∧
    file.records.map Record.texts? = [some Column.header, some ["", "-2147483648", "-2147483648",
      "-2147483648", "-9223372036854775808", "", "-inf", "NaN", "-2147483648", "-2147483648", "0",
      "0", "-1", ""]] := by
  obtain ⟨⟨lines, hsplit, hlength, hlines, -⟩, hread⟩ := document_lines [leastCell]
  refine ⟨⟨lines, hsplit, hlength, fun line hline => (hlines line hline).1⟩, ?_⟩
  have hfields : leastCell.toFields = ["", "-2147483648", "-2147483648", "-2147483648",
      "-9223372036854775808", "", "-inf", "NaN", "-2147483648", "-2147483648", "0", "0", "-1",
      ""] := by decide +kernel
  have hpieces (bytes : List UInt8) : (bytes.map ([·])).flatten = bytes := by
    rw [← List.flatMap_def]
    exact List.flatMap_singleton' bytes
  rw [← hfields]
  exact (hread _ (hpieces _)).2

end CellExchange.Csv
