import CellExchange.Csv.Document
import CellExchange.Proofs.Text.Plain

/-! # Lines read back

A row of plain fields, more than one of them, is written without quotation marks
(`line_of_isPlainRow`). **A document of such rows reads back as its rows** (`records_document`). The
scan is followed field by field: plain bytes join the field under way (`Scan.At.feed_plain`), a
comma ends it, and a line feed ends the record (`Scan.At.feed_line`). Where the records stand in the
document plays no part, so the scan is known up to positions only (`Scan.At`). -/

namespace CellExchange.Csv

/-! ## Lines of plain fields -/

/-- Rows of plain texts, with more than one field each. -/
def IsPlainRow (row : List String) : Prop := (∀ s ∈ row, IsPlainText s) ∧ 1 < row.length

instance (row : List String) : Decidable (IsPlainRow row) := inferInstanceAs (Decidable (_ ∧ _))

theorem isMark_of_isPlain {c : Char} (h : IsPlain c) : isMark c = false := by
  have hbreak : c ≠ '\n' ∧ c ≠ '\r' := ⟨h.ne_of_lt (by decide), h.ne_of_lt (by decide)⟩
  obtain ⟨-, -, hcomma, hquote⟩ := h
  simp [isMark, hcomma, hquote, hbreak]

/-- A plain text is written as it is. -/
theorem written_of_isPlainText {s : String} (h : IsPlainText s) : written s = s := by
  rw [written, if_neg]
  rw [List.any_eq_true]
  rintro ⟨c, hc, hmark⟩
  rw [isMark_of_isPlain (h c hc)] at hmark
  cases hmark

/-- **A plain row is written as its fields with commas between them.** -/
theorem line_of_isPlainRow {row : List String} (h : IsPlainRow row) :
    line row = String.intercalate "," row ++ "\n" := by
  obtain ⟨hplain, hlength⟩ := h
  have hwritten : row.map written = row := by
    rw [List.map_congr_left fun s hs => written_of_isPlainText (hplain s hs), List.map_id']
  -- a row of two fields has a comma, so its line is not empty
  have hsome : String.intercalate "," row ≠ "" := by
    match row, hlength with
    | first :: second :: rest, _ =>
      rw [String.intercalate_cons_cons, ne_eq, ← String.toList_inj]
      simp
  rw [line, hwritten]
  simp only [if_neg hsome]

/-! ## Bytes of lines -/

/-- The bytes of a line of fields. -/
def lineBytes : List (List UInt8) → List UInt8
  | [] => [Scan.lineFeed]
  | [field] => field ++ [Scan.lineFeed]
  | field :: rest => field ++ Scan.comma :: lineBytes rest

theorem bytesOf_intercalate (fields : List String) :
    bytesOf (String.intercalate "," fields ++ "\n") = lineBytes (fields.map bytesOf) := by
  induction fields with
  | nil => rfl
  | cons field rest ih =>
    cases rest with
    | nil => rw [String.intercalate_singleton, bytesOf_append]; rfl
    | cons next rest =>
      rw [String.intercalate_cons_cons, bytesOf_append, bytesOf_append, bytesOf_append,
        List.append_assoc, List.append_assoc, ← bytesOf_append (String.intercalate _ _), ih]
      rfl

/-- A plain row is written as the bytes of its line. -/
theorem bytesOf_line {row : List String} (h : IsPlainRow row) :
    bytesOf (line row) = lineBytes (row.map bytesOf) := by
  rw [line_of_isPlainRow h, bytesOf_intercalate]

/-- A document of plain rows is written as the bytes of its lines. -/
theorem bytesOf_document {rows : List (List String)} (h : ∀ row ∈ rows, IsPlainRow row) :
    bytesOf (document rows) = rows.flatMap fun row => lineBytes (row.map bytesOf) := by
  induction rows with
  | nil => rfl
  | cons row rest ih =>
    obtain ⟨hrow, hrest⟩ := List.forall_mem_cons.1 h
    rw [document_cons, bytesOf_append, ih hrest, bytesOf_line hrow, List.flatMap_cons]

/-! ## Following a scan -/

namespace Scan

/-- What is known of a scan: where it stands, the field and the fields under way, and the fields of
the complete records. -/
structure At (s : Scan) (place : Place) (field : List UInt8) (fields : List (List UInt8))
    (rows : List (List (List UInt8))) : Prop where
  /-- Where it stands. -/
  place_eq : s.place = place
  /-- The field under way, last byte first. -/
  field_eq : s.field = field
  /-- The complete fields of the record under way, last one first. -/
  fields_eq : s.fields = fields
  /-- The fields of the complete records, last record first. -/
  rows_eq : s.records.map Record.fields = rows

variable {s : Scan} {place : Place} {field : List UInt8} {fields : List (List UInt8)}
  {rows : List (List (List UInt8))} {b : UInt8}

theorem at_start : ({} : Scan).At .recordStart [] [] [] := ⟨rfl, rfl, rfl, rfl⟩

/-- Whether plain text goes on at a place: it is outside quotation. -/
def IsOpen (place : Place) : Prop :=
  place = .recordStart ∨ place = .fieldStart ∨ place = .plain

/-- Outside quotation every byte but a quotation mark is plain text, unless it is a line break
before a record. -/
theorem step_of_isOpen (hplace : s.place = place) (hopen : IsOpen place) (hquote : b ≠ quote)
    (hbreak : place = .recordStart → endsRecord b = false) :
    s.step b = (s.count b).plainStep b := by
  have hfirst : (s.count b).firstStep b = (s.count b).plainStep b := if_neg hquote
  have hcount : (s.count b).place = place := hplace
  simp only [step, hcount]
  obtain rfl | rfl | rfl := hopen
  · simp only [hbreak rfl, Bool.false_eq_true, if_false]
    exact hfirst
  · exact hfirst
  · rfl

/-- A plain byte joins the field under way. -/
theorem At.step_plain (h : s.At place field fields rows) (hopen : IsOpen place)
    (hb : IsPlainByte b) : (s.step b).At .plain (b :: field) fields rows := by
  obtain ⟨hcomma, hquote, hends⟩ := hb
  have hstep : s.step b = (s.count b).keep .plain b := by
    rw [step_of_isOpen h.place_eq hopen hquote fun _ => hends, plainStep, if_neg hcomma, hends]
    rfl
  rw [hstep]
  exact ⟨rfl, congrArg (b :: ·) h.field_eq, h.fields_eq, h.rows_eq⟩

/-- Where a scan stands behind plain bytes: at the same place if there are none. -/
def behind (place : Place) : List UInt8 → Place
  | [] => place
  | _ :: _ => .plain

theorem isOpen_behind (hopen : IsOpen place) (bytes : List UInt8) :
    IsOpen (behind place bytes) := by
  cases bytes with
  | nil => exact hopen
  | cons b rest => exact Or.inr (Or.inr rfl)

/-- Plain bytes join the field under way. -/
theorem At.feed_plain (h : s.At place field fields rows) (hopen : IsOpen place)
    {bytes : List UInt8} (hbytes : ∀ b ∈ bytes, IsPlainByte b) :
    (s.feed bytes).At (behind place bytes) (bytes.reverse ++ field) fields rows := by
  induction bytes generalizing s place field with
  | nil => exact h
  | cons b rest ih =>
    have hstep := h.step_plain hopen (hbytes b List.mem_cons_self)
    have hfeed := ih hstep (Or.inr (Or.inr rfl)) fun c hc => hbytes c (List.mem_cons_of_mem b hc)
    have hplace : behind .plain rest = behind place (b :: rest) := by
      cases rest <;> rfl
    rw [feed_cons, List.reverse_cons, List.append_assoc, ← hplace]
    exact hfeed

/-- A comma ends the field under way. -/
theorem At.step_comma (h : s.At place field fields rows) (hopen : IsOpen place) :
    (s.step comma).At .fieldStart [] (field.reverse :: fields) rows := by
  have hstep : s.step comma = (s.count comma).endField := by
    rw [step_of_isOpen h.place_eq hopen (by decide) fun _ => by decide, plainStep, if_pos rfl]
  rw [hstep]
  refine ⟨rfl, rfl, ?_, h.rows_eq⟩
  show s.field.reverse :: s.fields = _
  rw [h.field_eq, h.fields_eq]

/-- A line feed ends the record under way. -/
theorem At.step_lineFeed (h : s.At place field fields rows) (hopen : IsOpen place)
    (hplace : place ≠ .recordStart) :
    (s.step lineFeed).At .recordStart [] [] ((field.reverse :: fields).reverse :: rows) := by
  have hstep : s.step lineFeed = (s.count lineFeed).endRecord := by
    rw [step_of_isOpen h.place_eq hopen (by decide) fun hstart => absurd hstart hplace, plainStep,
      if_neg (by decide)]
    rfl
  rw [hstep]
  refine ⟨rfl, rfl, rfl, ?_⟩
  show (s.field.reverse :: s.fields).reverse :: s.records.map Record.fields = _
  rw [h.field_eq, h.fields_eq, h.rows_eq]

/-- Plain fields, each a run of plain bytes. -/
def PlainFields (row : List (List UInt8)) : Prop := ∀ field ∈ row, ∀ b ∈ field, IsPlainByte b

/-- The rest of a line, from behind a comma or from its start, ends the record. -/
theorem At.feed_line {first : List UInt8} {rest : List (List UInt8)}
    (h : s.At place [] fields rows) (hopen : IsOpen place) (hplain : PlainFields (first :: rest))
    (hlast : place = .recordStart → rest ≠ []) :
    (s.feed (lineBytes (first :: rest))).At .recordStart [] []
      ((fields.reverse ++ first :: rest) :: rows) := by
  -- the induction is on the fields behind the first; each comma opens a field at `fieldStart`
  induction rest generalizing s place fields first with
  | nil =>
    have hfield := h.feed_plain hopen (hplain first List.mem_cons_self)
    -- a line feed at the start of a record is skipped, so the record has to be begun
    have hplace : behind place first ≠ .recordStart := by
      cases first with
      | nil => exact fun hstart => hlast hstart rfl
      | cons b bytes => exact Place.noConfusion
    have hend := hfield.step_lineFeed (isOpen_behind hopen first) hplace
    rw [List.append_nil, List.reverse_reverse, List.reverse_cons] at hend
    rw [lineBytes, feed_append, feed_cons, feed_nil]
    exact hend
  | cons next rest ih =>
    have hfield := h.feed_plain hopen (hplain first List.mem_cons_self)
    have hcomma := hfield.step_comma (isOpen_behind hopen first)
    rw [List.append_nil, List.reverse_reverse] at hcomma
    have hend := ih hcomma (Or.inr (Or.inl rfl))
      (fun field hfield => hplain field (List.mem_cons_of_mem first hfield)) Place.noConfusion
    rw [List.reverse_cons, List.append_assoc] at hend
    rw [lineBytes, feed_append, feed_cons]
    · exact hend
    · exact List.cons_ne_nil _ _

/-- **Lines are read as their rows**, one after another. -/
theorem At.feed_lines {lines : List (List (List UInt8))}
    (h : s.At .recordStart [] [] rows)
    (hlines : ∀ row ∈ lines, PlainFields row ∧ 1 < row.length) :
    (s.feed (lines.flatMap lineBytes)).At .recordStart [] [] (lines.reverse ++ rows) := by
  induction lines generalizing s rows with
  | nil => exact h
  | cons row lines ih =>
    obtain ⟨hplain, hlength⟩ := hlines row List.mem_cons_self
    cases row with
    | nil => exact absurd hlength (Nat.not_lt_zero _)
    | cons first rest =>
      have hrest : rest ≠ [] := by
        rintro rfl
        exact Nat.lt_irrefl 1 hlength
      have hline := h.feed_line (Or.inl rfl) hplain fun _ => hrest
      have hmore := ih hline fun row hrow => hlines row (List.mem_cons_of_mem _ hrow)
      rw [List.flatMap_cons, feed_append, List.reverse_cons, List.append_assoc]
      exact hmore

end Scan

/-! ## Documents -/

/-- The bytes of the fields of a plain row are plain. -/
theorem plainFields_of_isPlainRow {row : List String} (h : IsPlainRow row) :
    Scan.PlainFields (row.map bytesOf) := by
  intro field hfield b hb
  obtain ⟨s, hs, rfl⟩ := List.mem_map.1 hfield
  exact isPlainByte_of_mem_bytesOf (h.1 s hs) hb

/-- A record whose fields are the bytes of plain texts is read as those texts. -/
theorem texts?_of_fields {r : Record} {row : List String} (hplain : ∀ s ∈ row, IsPlainText s)
    (hfields : r.fields = row.map bytesOf) : r.texts? = some row := by
  have hdecode : (row.map bytesOf).mapM decode? = some row := by
    clear hfields hplain
    induction row with
    | nil => rfl
    | cons s rest ih =>
      rw [List.map_cons, List.mapM_cons, decode?_bytesOf, ih]
      rfl
  have htrim : row.map Text.trimmed = row := by
    rw [List.map_congr_left fun s hs => trimmed_of_isPlainText (hplain s hs), List.map_id']
  rw [Record.texts?, hfields, hdecode, Option.map_some, htrim]

/-- Records whose fields are the bytes of plain rows are read as those rows. -/
theorem map_texts?_of_map_fields {records : List Record} {rows : List (List String)}
    (h : ∀ row ∈ rows, IsPlainRow row)
    (hfields : records.map Record.fields = rows.map (List.map bytesOf)) :
    records.map Record.texts? = rows.map some := by
  induction rows generalizing records with
  | nil => rw [List.map_eq_nil_iff.1 hfields]; rfl
  | cons row rows ih =>
    obtain ⟨r, rest, rfl, hr, hrest⟩ := List.map_eq_cons_iff.1 hfields
    rw [List.map_cons, List.map_cons, texts?_of_fields (h row List.mem_cons_self).1 hr,
      ih (fun other hother => h other (List.mem_cons_of_mem row hother)) hrest]

/-- **A document that is written reads back as its rows**, with nothing left over. -/
theorem records_document {rows : List (List String)} (h : ∀ row ∈ rows, IsPlainRow row) :
    let s := ({} : Scan).feed (bytesOf (document rows))
    s.complete.map Record.texts? = rows.map some ∧ s.pending = none := by
  intro s
  have hlines : ∀ line ∈ rows.map (List.map bytesOf), Scan.PlainFields line ∧ 1 < line.length := by
    intro line hline
    obtain ⟨row, hrow, rfl⟩ := List.mem_map.1 hline
    exact ⟨plainFields_of_isPlainRow (h row hrow), by rw [List.length_map]; exact (h row hrow).2⟩
  have hfeed := Scan.at_start.feed_lines hlines
  rw [List.append_nil, List.flatMap_map, ← bytesOf_document h] at hfeed
  have hfields : s.complete.map Record.fields = rows.map (List.map bytesOf) := by
    rw [Scan.complete, List.map_reverse, hfeed.rows_eq, List.reverse_reverse]
  exact ⟨map_texts?_of_map_fields h hfields, by rw [Scan.pending, if_pos hfeed.place_eq]⟩

end CellExchange.Csv
