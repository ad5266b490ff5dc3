import CellExchange.Proofs.Import.Data
import CellExchange.Proofs.Import.Handing
import CellExchange.Proofs.Import.Written

/-! # The header of an imported file

Two things that the header of a file should do, and exactly when it does.

**Only the first record can be the header** (`Load.importFile_headerFirst_iff`): every record behind
it is data, read by the names in the first record or by place. This fails for one kind of file only,
where the header comes late (`Entry.HeaderLate`): the first record is no text, and the first one
that is text is taken for the header.

**The column that makes a record the header is the one read as radio type**
(`Load.radio_of_mem_handed`): a record looks like the header whatever the case of its first name,
but only the name that is written exactly so is read as radio type. -/

namespace CellExchange

namespace Entry

variable {mode : HeaderMode} {records : List Csv.Record}

/-! ## The place of the header -/

/-- Whether only the first of some records can be the header among their entries: there is one entry
for each record, and every record behind the first one is data, read by the names in the first
record or by place. -/
structure HeaderFirst (records : List Csv.Record) (entries : List Entry) : Prop where
  /-- Each record has its entry. -/
  length_eq : entries.length = records.length
  /-- The records behind the first one are read by its names or by place. -/
  tail_eq : ∃ header, (header = none ∨ header = records.head?.bind Csv.Record.texts?) ∧
    entries.tail = records.tail.map (ofRecord header)
  /-- Each of them is a cell or passed over. -/
  tail_data : ∀ e ∈ entries.tail, (∃ c, e = cell c) ∨ e.isSkipped = true

/-- Whether the header of a file comes late: the first record is no text, and the first one that is
text is taken for the header. -/
def HeaderLate (mode : HeaderMode) (records : List Csv.Record) : Prop :=
  (∃ r ∈ records.head?, r.texts? = none) ∧
    ∃ row ∈ (records.filterMap Csv.Record.texts?).head?, mode.takes row = true

instance (mode : HeaderMode) (records : List Csv.Record) : Decidable (HeaderLate mode records) :=
  inferInstanceAs (Decidable (_ ∧ _))

/-- A record behind the place of the header is a cell or passed over. -/
theorem ofRecord_cases (header : Option (List String)) (r : Csv.Record) :
    (∃ c, ofRecord header r = cell c) ∨ (ofRecord header r).isSkipped = true := by
  rw [ofRecord]
  cases r.texts? with
  | none => exact Or.inr rfl
  | some row =>
    simp only [ofRow]
    cases Cell.ofFields header row with
    | ok c => exact Or.inl ⟨c, rfl⟩
    | error fault => exact Or.inr rfl

/-- Each record has one entry. -/
theorem length_ofRecords (mode : HeaderMode) (records : List Csv.Record) :
    (ofRecords mode records).length = records.length := by
  induction records with
  | nil => rfl
  | cons r rest ih =>
    rw [ofRecords]
    cases r.texts? with
    | none => exact congrArg (· + 1) ih
    | some row => by_cases htakes : mode.takes row = true <;> simp [htakes]

/-- All records are read by place exactly if the first text among them is not taken for the header.
-/
theorem ofRecords_eq_map_iff :
    ofRecords mode records = records.map (ofRecord none) ↔
      ∀ row ∈ (records.filterMap Csv.Record.texts?).head?, mode.takes row ≠ true := by
  induction records with
  | nil => exact iff_of_true rfl nofun
  | cons r rest ih =>
    rw [ofRecords, List.map_cons]
    cases htexts : r.texts? with
    | none =>
      have hentry : ofRecord none r = ofBytes r := by simp only [ofRecord, htexts]
      rw [List.filterMap_cons_none htexts, hentry]
      exact (List.cons_inj_right _).trans ih
    | some row =>
      have hentry : ofRecord none r = ofRow none r.position row := by simp only [ofRecord, htexts]
      rw [List.filterMap_cons_some htexts, List.head?_cons]
      simp only [Option.mem_def, Option.some.injEq, forall_eq']
      by_cases htakes : mode.takes row = true
      · rw [if_pos htakes]
        refine iff_of_false (fun h => ?_) (not_not_intro htakes)
        -- the header is neither a cell nor passed over
        have hheader := (List.cons.inj h).1
        obtain ⟨c, hcell⟩ | hskip := ofRecord_cases none r
        · rw [hcell] at hheader
          cases hheader
        · rw [← hheader] at hskip
          cases hskip
      · rw [if_neg htakes, hentry]
        exact iff_of_true rfl htakes

/-- Records that are all read in one way, by the names in the first one or by place, are data. -/
theorem headerFirst_of_tail {header : Option (List String)} {entries : List Entry}
    (hlength : entries.length = records.length)
    (hheader : header = none ∨ header = records.head?.bind Csv.Record.texts?)
    (htail : entries.tail = records.tail.map (ofRecord header)) : HeaderFirst records entries where
  length_eq := hlength
  tail_eq := ⟨header, hheader, htail⟩
  tail_data := by
    intro e he
    rw [htail] at he
    obtain ⟨r, -, rfl⟩ := List.mem_map.1 he
    exact ofRecord_cases header r

section First

variable {r : Csv.Record} {rest : List Csv.Record}

/-- A first record that is text decides for all others. -/
theorem headerFirst_of_texts {row : List String} (htexts : r.texts? = some row) :
    HeaderFirst (r :: rest) (ofRecords mode (r :: rest)) := by
  have hlength := length_ofRecords mode (r :: rest)
  by_cases htakes : mode.takes row = true
  · refine headerFirst_of_tail hlength (Or.inr htexts.symm) ?_
    simp only [ofRecords, htexts, htakes, if_true, List.tail_cons]
  · refine headerFirst_of_tail hlength (Or.inl rfl) ?_
    simp only [ofRecords, htexts, htakes, Bool.false_eq_true, if_false, List.tail_cons]

/-- Behind a first record that is no text, all others have to be read by place. -/
theorem headerFirst_cons_iff (htexts : r.texts? = none) :
    HeaderFirst (r :: rest) (ofRecords mode (r :: rest)) ↔
      ofRecords mode rest = rest.map (ofRecord none) := by
  have hlength := length_ofRecords mode (r :: rest)
  have hentries : ofRecords mode (r :: rest) = ofBytes r :: ofRecords mode rest := by
    simp only [ofRecords, htexts]
  rw [hentries] at hlength ⊢
  constructor
  · rintro ⟨-, ⟨header, hheader, htail⟩, -⟩
    have hnone : header = none := hheader.elim id fun h => h.trans htexts
    rwa [hnone] at htail
  · intro htail
    exact headerFirst_of_tail hlength (Or.inl rfl) htail

end First

/-- **The header is the first record, if there is one**, exactly if it does not come late. -/
theorem headerFirst_iff (mode : HeaderMode) (records : List Csv.Record) :
    HeaderFirst records (ofRecords mode records) ↔ ¬ HeaderLate mode records := by
  cases records with
  | nil => exact iff_of_true (headerFirst_of_tail rfl (Or.inl rfl) rfl) fun h => nomatch h.2
  | cons r rest =>
    cases htexts : r.texts? with
    | some row =>
      refine iff_of_true (headerFirst_of_texts htexts) ?_
      rintro ⟨⟨first, hfirst, hnone⟩, -⟩
      cases hfirst
      rw [htexts] at hnone
      cases hnone
    | none =>
      rw [headerFirst_cons_iff htexts, ofRecords_eq_map_iff, HeaderLate,
        List.filterMap_cons_none htexts]
      simp only [List.head?_cons, Option.mem_def, Option.some.injEq, exists_eq_left', htexts,
        true_and, not_exists, not_and]

end Entry

namespace Load

variable {σ : Type} [CellStore σ]

/-- **Only the first record of a file can be its header**, exactly if the header does not come late.
Whatever the file, the mode, the size of the batches and the store, an import that is done has
handed over the cells among the entries and counted those that are passed over; one that failed has
handed over the first of these cells. The ledger of the store, which tells what was handed over,
changes nothing. -/
theorem importFile_headerFirst_iff (path : String) (reads : Reads) (mode : HeaderMode) (size : Nat)
    (start : σ) :
    let records := (CellFile.ofReads reads).records
    let entries := (CellFile.ofReads reads).entries mode
    let run := (importFile path (.ok reads) mode size).runOn (⟨start, []⟩ : Ledger σ)
    (Entry.HeaderFirst records entries ↔ ¬ Entry.HeaderLate mode records) ∧
      (importFile path (.ok reads) mode size).runOn start = (run.1, Ledger.without run.2) ∧
      ((∃ load k, run = (.ok load, k) ∧ k.world.handed = cellsIn entries ∧
          load.rows = k.world.handed.length ∧ load.skipped = entries.countP Entry.isSkipped) ∨
        ∃ failure k, run = (.error failure, k) ∧ k.world.handed <+: cellsIn entries) :=
  ⟨Entry.headerFirst_iff mode _, (mirrors_importFile path reads mode size).runOn start,
    importFile_handing path reads mode size start⟩

/-- A line that is no text, and a line of data. -/
def strayByte : ByteArray := [0xFF, 0x0A].toByteArray ++ "GSM,262,1,2,3\n".toUTF8

/-- The line of data is taken for the header, though it is the second one: it is neither stored nor
counted. -/
theorem importFile_strayByte :
    let reads : Reads := ⟨[Gzip.member strayByte], none⟩
    let records := (CellFile.ofReads reads).records
    records.length = 2 ∧
      ¬ Entry.HeaderFirst records ((CellFile.ofReads reads).entries .present) ∧
      ∃ load k, (importFile "cells.csv.gz" (.ok reads) .present 1000).runOn
          ({} : MemoryStore) = (.ok load, k) ∧
        k.world.rows = [] ∧ load.rows = 0 ∧ load.skipped = 1 := by
  intro reads records
  have hstart : strayByte.data.toList.head? = some 0xFF := by decide +kernel
  obtain ⟨hwhole, hrecords⟩ := CellFile.ofReads_member hstart (by decide)
  have hlate : Entry.HeaderLate .present records := by
    rw [show records = _ from hrecords]
    decide +kernel
  obtain ⟨load, k, hrun, hstored, hcount, hskipped⟩ :=
    importFile_of_isReliable (MemoryStore.isReliable_of_failAfter (s := {}) rfl) hwhole
      "cells.csv.gz" .present 1000
  rw [CellFile.entries, hrecords] at hstored hcount hskipped
  refine ⟨?_, fun h => (Entry.headerFirst_iff .present records).1 h hlate, load, k, hrun, hstored,
    hcount, hskipped⟩
  rw [show records = _ from hrecords]
  decide +kernel

/-! ## The radio type -/

/-- The cells of a file with a header are those of its rows, read by the names in the header. -/
theorem exists_of_mem_cellsIn {header : Option (List String)} {records : List Csv.Record} {c : Cell}
    (h : c ∈ cellsIn (records.map (Entry.ofRecord header))) :
    ∃ r ∈ records, ∃ row, r.texts? = some row ∧ Cell.ofFields header row = .ok c := by
  obtain ⟨e, he, hcell⟩ := List.mem_filterMap.1 h
  obtain ⟨r, hr, rfl⟩ := List.mem_map.1 he
  rw [Entry.cell?_ofRecord] at hcell
  exact ⟨r, hr, Csv.Record.cell?_eq_some_iff.1 hcell⟩

/-- **The column that makes a record the header is the one read as radio type**, if its name is
written exactly so: then the radio type of each cell that is handed over is what the first field of
its own row names. (It also is if the header names a column of data twice, for then no cell is
handed over.) In no other case is it so for all rows. -/
theorem radio_of_mem_handed {reads : Reads} {r : Csv.Record} {rest : List Csv.Record}
    {names : List String} (hrecords : (CellFile.ofReads reads).records = r :: rest)
    (htexts : r.texts? = some names) (hheader : isHeader names = true) (path : String) (size : Nat)
    (start : σ) :
    let run := (importFile path (.ok reads) .detect size).runOn (⟨start, []⟩ : Ledger σ)
    ((names.head? = some Column.radio.name ∨ ¬ Column.NamedOnce names) →
      ∀ c ∈ run.2.world.handed, ∃ s ∈ rest, ∃ row, s.texts? = some row ∧
        Cell.ofFields (some names) row = .ok c ∧ c.radio = Radio.ofName (row.headD "")) ∧
    (¬ (names.head? = some Column.radio.name ∨ ¬ Column.NamedOnce names) →
      ∃ row c, Cell.ofFields (some names) row = .ok c ∧ c.radio ≠ Radio.ofName (row.headD "")) := by
  intro run
  constructor
  · intro hname c hc
    have hentries : (CellFile.ofReads reads).entries .detect =
        Entry.ofHeader names :: rest.map (Entry.ofRecord (some names)) := by
      simp only [CellFile.entries, hrecords, Entry.ofRecords, htexts, HeaderMode.takes, hheader,
        if_true]
    have hhanded : run.2.world.handed <+: cellsIn ((CellFile.ofReads reads).entries .detect) := by
      obtain ⟨load, k, hrun, hcells, -⟩ | ⟨failure, k, hrun, hcells⟩ :=
        importFile_handing path reads .detect size start
      · rw [show run = _ from hrun, hcells]
      · rw [show run = _ from hrun]
        exact hcells
    have hcell := hhanded.subset hc
    rw [hentries] at hcell
    obtain ⟨s, hs, row, hrow, hread⟩ := exists_of_mem_cellsIn hcell
    refine ⟨s, hs, row, hrow, hread, ?_⟩
    obtain hfirst | htwice := hname
    · exact Cell.radio_ofFields hfirst hread
    · exact absurd (Cell.namedOnce_of_ofFields hread) htwice
  · intro hname
    rw [not_or, not_not] at hname
    exact Cell.exists_ofFields_of_head?_ne hheader hname.1 hname.2

/-- A header and a row of data of a GSM cell. -/
def gsmUnder (header : String) : ByteArray := (header ++ "\nGSM,262,1,2,3\n").toUTF8

/-- What an empty store is handed over of a file that holds data in one gzip member. -/
theorem handed_member {data : ByteArray} {b : UInt8} (hstart : data.data.toList.head? = some b)
    (hb : b ≠ 0xEF) (path : String) (mode : HeaderMode) (size : Nat) :
    let scan := ({} : Csv.Scan).feed data.data.toList
    ((importFile path (.ok ⟨[Gzip.member data], none⟩) mode size).runOn
        (⟨{}, []⟩ : Ledger MemoryStore)).2.world.handed =
      cellsIn (Entry.ofRecords mode (scan.complete ++ scan.pending.toList)) := by
  intro scan
  obtain ⟨hwhole, hrecords⟩ := CellFile.ofReads_member hstart hb
  have hreliable : ({} : MemoryStore).IsReliable := MemoryStore.isReliable_of_failAfter rfl
  obtain ⟨l, k, hplain, -⟩ := importFile_of_isReliable hreliable hwhole path mode size
  have hmirror := (mirrors_importFile path ⟨[Gzip.member data], none⟩ mode size).runOn
    ({} : MemoryStore)
  obtain ⟨load, k', hrun, hcells, -⟩ | ⟨failure, k', hrun, -⟩ :=
    importFile_handing path ⟨[Gzip.member data], none⟩ mode size ({} : MemoryStore)
  · rw [hrun, hcells, CellFile.entries, hrecords]
  · -- the ledger would change the outcome
    rw [hplain, hrun] at hmirror
    exact nomatch congrArg Prod.fst hmirror

/-- Under a header in small letters the cell is one of GSM. -/
theorem radio_of_mem_handed_lowerCase :
    let run := (importFile "cells.csv.gz"
      (.ok ⟨[Gzip.member (gsmUnder "radio,mcc,net,area,cell")], none⟩) .detect 1000).runOn
        (⟨{}, []⟩ : Ledger MemoryStore)
    run.2.world.handed.length = 1 ∧ ∀ c ∈ run.2.world.handed, c.radio = .gsm := by
  dsimp only
  have hstart : (gsmUnder "radio,mcc,net,area,cell").data.toList.head? = some 0x72 := by
    decide +kernel
  obtain ⟨-, hrecords⟩ := CellFile.ofReads_member hstart (by decide)
  have htexts := congrArg (List.map Csv.Record.texts?) hrecords
  obtain ⟨r, rest, hread, hr, hrest⟩ := List.map_eq_cons_iff.1 (htexts.trans
    (by decide +kernel : _ = [some ["radio", "mcc", "net", "area", "cell"],
      some ["GSM", "262", "1", "2", "3"]]))
  refine ⟨?_, fun c hc => ?_⟩
  · rw [handed_member hstart (by decide)]
    decide +kernel
  · have hheader : isHeader ["radio", "mcc", "net", "area", "cell"] = true := by decide +kernel
    have hagree := radio_of_mem_handed hread hr hheader "cells.csv.gz" 1000 ({} : MemoryStore)
    obtain ⟨s, hs, row, hrow, -, hradio⟩ := hagree.1 (Or.inl rfl) c hc
    have hmem : some row ∈ rest.map Csv.Record.texts? := hrow ▸ List.mem_map_of_mem hs
    rw [hrest, List.mem_singleton, Option.some.injEq] at hmem
    rw [hradio, hmem]
    decide +kernel

/-- Under a header in capital letters the same cell has no radio type. -/
theorem radio_of_mem_handed_upperCase :
    let reads : Reads := ⟨[Gzip.member (gsmUnder "RADIO,mcc,net,area,cell")], none⟩
    let run := (importFile "cells.csv.gz" (.ok reads) .detect 1000).runOn
      (⟨{}, []⟩ : Ledger MemoryStore)
    (CellFile.ofReads reads).records.map Csv.Record.texts? =
        [some ["RADIO", "mcc", "net", "area", "cell"], some ["GSM", "262", "1", "2", "3"]] ∧
      isHeader ["RADIO", "mcc", "net", "area", "cell"] = true ∧
      run.2.world.handed.map (fun c => c.radio) = [.unknown] ∧ Radio.ofName "GSM" = .gsm := by
  dsimp only
  have hstart : (gsmUnder "RADIO,mcc,net,area,cell").data.toList.head? = some 0x52 := by
    decide +kernel
  obtain ⟨-, hrecords⟩ := CellFile.ofReads_member hstart (by decide)
  refine ⟨?_, by decide +kernel, ?_, by decide +kernel⟩
  · rw [hrecords]
    decide +kernel
  · rw [handed_member hstart (by decide)]
    decide +kernel

end Load

end CellExchange
