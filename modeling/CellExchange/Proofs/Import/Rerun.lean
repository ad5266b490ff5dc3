import CellExchange.Proofs.Import.Written

/-! # Importing a file again

An import may stop early: the store refuses a batch, or reading fails behind the data because the
file at hand is a damaged copy. **Importing the whole file afterwards makes good for it**: the rows
are those that one import of the file makes (`rows_importFile_again`), in the same order, whatever
the sizes of the batches are and wherever the first import stopped. The reason is that an import
leaves behind the rows of the first cells of its file, and that storing those cells again together
with all that follow changes nothing that counts (`CellTable.putAll_of_prefix`). -/

namespace CellExchange

/-! ## Damaged copies -/

/-- Entries of the first records are the first entries: what a record is depends on those before it
only. -/
theorem Entry.ofRecords_initial (mode : HeaderMode) {first records : List Csv.Record}
    (h : first <+: records) : ofRecords mode first <+: ofRecords mode records := by
  induction first generalizing records with
  | nil => exact List.nil_prefix
  | cons r rest ih =>
    -- the first row settles the header for all records behind it, in both lists alike
    obtain ⟨more, rfl⟩ := h
    have hrest : rest <+: rest ++ more := List.prefix_append rest more
    rw [List.cons_append, ofRecords, ofRecords]
    cases r.texts? with
    | none => exact List.cons_prefix_cons.2 ⟨rfl, ih hrest⟩
    | some row =>
      by_cases htakes : mode.takes row = true
      · simp only [htakes, if_true]
        exact List.cons_prefix_cons.2 ⟨rfl, hrest.map _⟩
      · simp only [htakes]
        exact List.cons_prefix_cons.2 ⟨rfl, hrest.map _⟩

namespace CellFile

/-- Whether two files give the same data, behind a byte order mark if there is one; a fault behind
the data does not count. -/
def SameData (f g : CellFile) : Prop := Csv.begin f.pieces = Csv.begin g.pieces

/-- A file with the data of a whole one gives the first records of it: all of them, or all but the
last if that is not ended by a line break. -/
theorem records_initial {copy whole : CellFile} (same : copy.SameData whole)
    (hwhole : whole.fault = none) : copy.records <+: whole.records := by
  have hscan : Csv.scan copy.pieces = Csv.scan whole.pieces := by
    rw [Csv.scan, Csv.scan, show Csv.begin copy.pieces = Csv.begin whole.pieces from same]
  rw [records, records, hwhole, hscan]
  cases copy.fault with
  | none => exact List.prefix_refl _
  | some fault => exact List.prefix_append _ _

/-- The cells of a damaged copy are the first cells of the file. -/
theorem cellsIn_initial {copy whole : CellFile} (same : copy.SameData whole)
    (hwhole : whole.fault = none) (mode : HeaderMode) :
    cellsIn (copy.entries mode) <+: cellsIn (whole.entries mode) :=
  (Entry.ofRecords_initial mode (records_initial same hwhole)).filterMap _

/-- Two files that hold the same document give the same data, in whatever pieces they come. -/
theorem sameData_of_document {copy whole : Reads} {rows : List (List String)}
    (hcopy : joined (Gzip.read copy.bytes).pieces =
      (Csv.document (Column.header :: rows)).toUTF8)
    (hwhole : joined (Gzip.read whole.bytes).pieces =
      (Csv.document (Column.header :: rows)).toUTF8) :
    (ofReads copy).SameData (ofReads whole) := by
  obtain ⟨bytes, hstart⟩ := Csv.exists_bytesOf_document rows
  have hbegin : ∀ reads : Reads, joined (Gzip.read reads.bytes).pieces =
      (Csv.document (Column.header :: rows)).toUTF8 →
      Csv.begin (ofReads reads).pieces = ({}, 0x72 :: bytes) := by
    intro reads hreads
    have hfirst := (flatten_toList (Gzip.read reads.bytes).pieces).trans
      ((congrArg (fun b : ByteArray => b.data.toList) hreads).trans hstart)
    rw [ofReads, untilEnd_of_flatten hfirst (by decide)]
    exact Csv.begin_of_flatten hfirst (by decide)
  exact (hbegin copy hcopy).trans (hbegin whole hwhole).symm

end CellFile

namespace Load

/-! ## Two imports -/

/-- **Importing again makes good for an import that stopped early.** Let a first import read a file
or a damaged copy of it into a store that may refuse a batch. When the connection is back and the
whole file is imported, in batches of any size, the rows of the store are those that one import of
the file into the store makes. -/
theorem rows_importFile_again (start : MemoryStore) {whole copy : Reads}
    (complete : (CellFile.ofReads whole).fault = none)
    (same : (CellFile.ofReads copy).SameData (CellFile.ofReads whole))
    (path₁ path₂ path₃ : String) (mode : HeaderMode) (size₁ size₂ size₃ : Nat) :
    let first := (importFile path₁ (.ok copy) mode size₁).runOn start
    let again := (importFile path₂ (.ok whole) mode size₂).runOn first.2.world.reconnect
    let once := (importFile path₃ (.ok whole) mode size₃).runOn start.reconnect
    (∃ l, again.1 = .ok l) ∧ (∃ l, once.1 = .ok l) ∧
      again.2.world.rows = once.2.world.rows := by
  intro first again once
  obtain ⟨cells, hcells, hfirst⟩ := importFile_leaves path₁ copy mode size₁ start
  obtain ⟨l, k, hagain, hrows, -⟩ :=
    importFile_of_isReliable first.2.world.isReliable_reconnect complete path₂ mode size₂
  obtain ⟨l', k', honce, hrows', -⟩ :=
    importFile_of_isReliable start.isReliable_reconnect complete path₃ mode size₃
  -- what the first import stored are the first cells of the whole file, damaged copy or not
  have hprefix : cells <+: cellsIn ((CellFile.ofReads whole).entries mode) :=
    hcells.trans (CellFile.cellsIn_initial same complete mode)
  have heq : k.world.rows = k'.world.rows := by
    rw [hrows, hrows', MemoryStore.rows_reconnect, MemoryStore.rows_reconnect,
      show first.2.world.rows = _ from hfirst]
    exact CellTable.putAll_of_prefix start.rows hprefix
  refine ⟨⟨l, congrArg Prod.fst hagain⟩, ⟨l', congrArg Prod.fst honce⟩, ?_⟩
  calc again.2.world.rows = k.world.rows := by rw [show again = _ from hagain]
    _ = k'.world.rows := heq
    _ = once.2.world.rows := by rw [show once = _ from honce]

/-- The rows of two sightings of one cell. -/
def twoSightings : List (List String) :=
  [["GSM", "262", "2", "801", "1", "", "13", "52", "900", "7", "1", "0", "0", ""],
    ["GSM", "262", "2", "801", "1", "", "14", "53", "500", "9", "0", "5", "5", ""]]

/-- A file with the two sightings, and possibly more bytes behind it. -/
def sightingsFile (after : ByteArray) : Reads :=
  ⟨[Gzip.member (Csv.document (Column.header :: twoSightings)).toUTF8 ++ after], none⟩

/-- An empty store that loses its connection after one batch. -/
def losing : MemoryStore := { failAfter := some 1 }

/-- A first import, of a copy with a byte too many, stores one sighting and loses the other. -/
theorem rows_importFile_again_twoSightings :
    ((importFile "cells.csv.gz" (.ok (sightingsFile .empty)) .detect 5).runOn
        ((importFile "cells.csv.gz" (.ok (sightingsFile ⟨#[0]⟩)) .detect 1).runOn
          losing).2.world.reconnect).2.world.rows =
      ((importFile "cells.csv.gz" (.ok (sightingsFile .empty)) .detect 2).runOn
        losing.reconnect).2.world.rows := by
  -- the byte behind the member breaks the reading off, but all data have arrived by then
  have hbytes : ∀ after, (sightingsFile after).bytes = _ := fun _ => ByteArray.empty_append
  have hwhole := hbytes .empty
  rw [ByteArray.append_empty] at hwhole
  obtain ⟨hpieces, hflaw⟩ := Gzip.read_member (Csv.document (Column.header :: twoSightings)).toUTF8
  rw [← hwhole] at hpieces hflaw
  have hsome : 0 < (⟨#[0]⟩ : ByteArray).size := by decide
  obtain ⟨hcopy, -⟩ := Gzip.read_member_append
    (Csv.document (Column.header :: twoSightings)).toUTF8 hsome (by decide)
  rw [← hbytes] at hcopy
  have complete : (CellFile.ofReads (sightingsFile .empty)).fault = none :=
    (CellFile.ofReads_document rfl hflaw hpieces (by decide +kernel)).1
  obtain ⟨-, -, hrows⟩ := rows_importFile_again losing complete
    (CellFile.sameData_of_document hcopy hpieces) "cells.csv.gz" "cells.csv.gz" "cells.csv.gz"
    .detect 1 5 2
  exact hrows

end Load

end CellExchange
