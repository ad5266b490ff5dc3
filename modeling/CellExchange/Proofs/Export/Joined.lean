import CellExchange.Proofs.Export.RoundTrip
import CellExchange.Proofs.Import.Data

/-! # Files of several snapshots

Files that were written can be joined: what stands in the one file behind another is a member of its
own, and its header is a row among the others. **Importing the joined file is importing the files
one after another** (`Snapshot.importFile_joined`), in a store of any kind that takes every batch: it
leaves the same rows in the same order, although batches now go over the ends of files, and it counts
the same cells. The one difference is that every header but the first is passed over.

Whatever store a snapshot is of, its rows are rows of cells (`Snapshot.exists_cells_of_write`), so
they read back. The text of a joined file is one document (`Snapshot.joined_texts`), whose first
record is the header; any other header is no row of a cell (`rowCell?_header`), so the cells of the
file are those of its snapshots, in order (`Snapshot.filterMap_headedRows`). -/

namespace CellExchange

/-! ## Rows under the standard header -/

/-- The cell of a row, if an import takes it. -/
def rowCell? (row : List String) : Option Cell :=
  (Cell.ofFields (some Column.header) row).toOption

/-- A header among the rows is no row of a cell. -/
theorem rowCell?_header : rowCell? Column.header = none := by
  rw [rowCell?, Cell.ofFields_header_of_le (Nat.le_refl _), ofFields_header]
  rfl

/-- What an import makes of a file that begins with the header depends on the texts of its rows
only. -/
theorem Entry.ofRecords_texts {records : List Csv.Record} {rows : List (List String)}
    (htexts : records.map Csv.Record.texts? = (Column.header :: rows).map some) :
    cellsIn (ofRecords .detect records) = rows.filterMap rowCell? ∧
      (ofRecords .detect records).countP isSkipped =
        rows.countP fun row => (rowCell? row).isNone := by
  obtain ⟨r, rest, rfl, hr, hrest⟩ := List.map_eq_cons_iff.1 htexts
  have htakes : HeaderMode.detect.takes Column.header = true := isHeader_header
  rw [cellsIn_ofRecords, countP_ofRecords, accepted, headerOf?_cons_of_takes hr htakes,
    dataOf_cons_of_takes hr htakes]
  constructor
  · have hcells := congrArg (List.filterMap fun texts => texts.bind rowCell?) hrest
    rw [List.filterMap_map, List.filterMap_map] at hcells
    exact hcells
  · have hcount := congrArg (List.countP fun texts => (texts.bind rowCell?).isNone) hrest
    rw [List.countP_map, List.countP_map] at hcount
    exact hcount

/-- Documents one behind another are a document. -/
theorem Csv.document_append (first rest : List (List String)) :
    document (first ++ rest) = document first ++ document rest := by
  induction first with
  | nil => exact String.empty_append.symm
  | cons row first ih =>
    unfold document at ih ⊢
    rw [List.cons_append, List.map_cons, List.map_cons, String.join_cons, String.join_cons, ih,
      String.append_assoc]

namespace Snapshot

variable {σ : Type} [CellStore σ] {selection : Selection} {path : String}

/-! ## Rows that are written -/

/-- The rows of a page are added as rows of cells. -/
theorem exists_cells_of_addRows {s s' : Snapshot} {page : List CellRow}
    (h : s.addRows page = .ok s') :
    ∃ cells : List Cell, s'.rows.toList = s.rows.toList ++ cells.map Cell.toFields := by
  by_cases hknown : AllKnown page
  · rw [addRows_ok hknown] at h
    cases h
    exact ⟨_, toList_rows_addCells s _⟩
  · obtain ⟨known, r, rest, rfl, hall, hr, -⟩ := exists_unknown hknown
    rw [addRows_unknown hall hr] at h
    cases h

theorem exists_cells_of_collect {limit offset : Int} {bound : Nat} {s s' : Snapshot}
    {j k : Journal σ} (h : collect selection limit bound offset s j = .ok s' k) :
    ∃ cells : List Cell, s'.rows.toList = s.rows.toList ++ cells.map Cell.toFields := by
  induction bound generalizing offset s j with
  | zero =>
    cases h
    exact ⟨[], (List.append_nil _).symm⟩
  | succ bound ih =>
    rw [collect] at h
    obtain ⟨page, i, -, h⟩ := Job.bind_eq_ok h
    split at h
    · -- an empty page is the last one
      cases h
      exact ⟨[], (List.append_nil _).symm⟩
    · cases hadd : { s with pages := s.pages + 1 : Snapshot }.addRows page with
      | error failure =>
        simp only [hadd] at h
        cases h
      | ok s₁ =>
        simp only [hadd] at h
        obtain ⟨first, hfirst⟩ := exists_cells_of_addRows hadd
        obtain ⟨u, i', -, h⟩ := Job.bind_eq_ok h
        obtain ⟨rest, hrest⟩ := ih h
        refine ⟨first ++ rest, ?_⟩
        rw [hrest, hfirst, List.append_assoc, List.map_append]

/-- **The rows of a snapshot** of any store are rows of cells. -/
theorem exists_cells_of_write {s : Snapshot} {pageSize : Nat} {j k : Journal σ}
    (h : write selection path pageSize j = .ok s k) :
    ∃ cells : List Cell, s.rows.toList = cells.map Cell.toFields := by
  unfold write at h
  obtain ⟨u, i, -, h⟩ := Job.bind_eq_ok h
  obtain ⟨limit, i', -, h⟩ := Job.bind_eq_ok h
  obtain ⟨j', i'', -, h⟩ := Job.bind_eq_ok h
  exact exists_cells_of_collect h

/-- Whether a snapshot is one that was written: the selected rows of a store of any kind. -/
def IsWritten (s : Snapshot) : Prop :=
  ∃ (σ : Type) (_ : CellStore σ) (source : σ) (selection : Selection) (path : String)
    (pageSize : Nat) (left : Journal σ),
    (write selection path pageSize).runOn source = (.ok s, left)

/-- The rows of a snapshot that was written are plain. -/
theorem IsWritten.isPlainRow {s : Snapshot} (h : s.IsWritten) {row : List String}
    (hrow : row ∈ s.rows.toList) : Csv.IsPlainRow row := by
  obtain ⟨σ, _, source, selection, path, pageSize, left, hrun⟩ := h
  obtain ⟨cells, hcells⟩ := exists_cells_of_write (Job.of_runOn_ok hrun)
  rw [hcells] at hrow
  obtain ⟨c, -, rfl⟩ := List.mem_map.1 hrow
  exact isPlainRow_toFields c

/-! ## Rows of a joined file -/

variable {snapshots : List Snapshot}

/-- The cells of a snapshot that an import takes. -/
def taken (s : Snapshot) : List Cell := s.rows.toList.filterMap rowCell?

/-- The number of rows of a snapshot that an import passes over. -/
def passedOver (s : Snapshot) : Nat := s.rows.toList.countP fun row => (rowCell? row).isNone

/-- The rows of some snapshots, each behind its header. -/
def headedRows (snapshots : List Snapshot) : List (List String) :=
  snapshots.flatMap fun s => Column.header :: s.rows.toList

/-- The cells of headed rows are those of the snapshots. -/
theorem filterMap_headedRows (snapshots : List Snapshot) :
    (headedRows snapshots).filterMap rowCell? = snapshots.flatMap taken := by
  unfold headedRows
  rw [List.filterMap_flatMap]
  refine congrArg (List.flatMap · snapshots) (funext fun s => ?_)
  rw [List.filterMap_cons_none rowCell?_header, taken]

/-- Of headed rows, every header is passed over too. -/
theorem countP_headedRows (snapshots : List Snapshot) :
    (headedRows snapshots).countP (fun row => (rowCell? row).isNone) =
      (snapshots.map passedOver).sum + snapshots.length := by
  induction snapshots with
  | nil => rfl
  | cons s rest ih =>
    have hheader : (rowCell? Column.header).isNone = true := by
      rw [rowCell?_header]
      rfl
    have hrows := List.countP_cons_of_pos (p := fun row => (rowCell? row).isNone)
      (l := s.rows.toList) hheader
    unfold headedRows at ih ⊢
    rw [List.flatMap_cons, List.countP_append, ih, hrows, List.map_cons, List.sum_cons,
      List.length_cons, passedOver]
    omega

theorem headedRows_cons (s : Snapshot) (rest : List Snapshot) :
    headedRows (s :: rest) = Column.header :: (s.rows.toList ++ headedRows rest) :=
  List.flatMap_cons

/-- **The text of a joined file** is one document. -/
theorem joined_texts (snapshots : List Snapshot) :
    joined (snapshots.map fun s => s.text.toUTF8) =
      (Csv.document (headedRows snapshots)).toUTF8 := by
  induction snapshots with
  | nil => rfl
  | cons s rest ih =>
    have hdocument : Csv.document (headedRows (s :: rest)) =
        s.text ++ Csv.document (headedRows rest) := by
      rw [headedRows_cons, ← List.cons_append, Csv.document_append, text]
    rw [List.map_cons, joined_cons, ih, hdocument]
    exact String.toByteArray_append.symm

/-- The members of a joined file. -/
theorem map_file (snapshots : List Snapshot) :
    snapshots.map file = (snapshots.map fun s => s.text.toUTF8).map Gzip.member := by
  rw [List.map_map]
  exact List.map_congr_left fun s _ => rfl

/-- **A joined file reads back**: its records are the rows of its snapshots, each behind its header,
and reading it meets no fault. -/
theorem ofReads_joined (hne : snapshots ≠ []) (hwritten : ∀ s ∈ snapshots, s.IsWritten) :
    (CellFile.ofReads (FileNode.data (joined (snapshots.map file))).reads).fault = none ∧
      (CellFile.ofReads (FileNode.data (joined (snapshots.map file))).reads).records.map
        Csv.Record.texts? = (headedRows snapshots).map some := by
  have hbytes := FileNode.bytes_reads (joined (snapshots.map file))
  have hdatas : snapshots.map (fun s => s.text.toUTF8) ≠ [] := mt List.map_eq_nil_iff.1 hne
  obtain ⟨hpieces, hflaw⟩ := Gzip.read_members hdatas
  rw [← map_file, ← hbytes] at hflaw
  rw [← map_file, joined_texts, ← hbytes] at hpieces
  obtain ⟨s, rest, rfl⟩ := List.exists_cons_of_ne_nil hne
  -- the document begins with one header; the others are rows, and as plain as those
  rw [headedRows_cons] at hpieces ⊢
  refine CellFile.ofReads_document rfl hflaw hpieces fun row hrow => ?_
  obtain hrow | hrow := List.mem_append.1 hrow
  · exact (hwritten s List.mem_cons_self).isPlainRow hrow
  · obtain ⟨later, hlater, hrow⟩ := List.mem_flatMap.1 hrow
    obtain rfl | hrow := List.mem_cons.1 hrow
    · exact isPlainRow_header
    · exact (hwritten later (List.mem_cons_of_mem s hlater)).isPlainRow hrow

/-! ## Imports -/

variable {good : σ → Prop} {rows : σ → CellTable} {j : Journal σ}

/-- Importing a joined file stores the cells of its snapshots, and passes over the inner headers. -/
theorem importJoined_ok (faithful : CellStore.Faithful good rows) (hgood : good j.world)
    (hne : snapshots ≠ []) (hwritten : ∀ s ∈ snapshots, s.IsWritten) (name : String) (size : Nat) :
    ∃ l k, Load.importFile name (.ok (FileNode.data (joined (snapshots.map file))).reads) .detect
        size j = .ok l k ∧
      good k.world ∧ rows k.world = (rows j.world).putAll (snapshots.flatMap taken) ∧
      l.rows = (snapshots.flatMap taken).length ∧
      l.skipped = (snapshots.map passedOver).sum + (snapshots.length - 1) := by
  obtain ⟨hfault, htexts⟩ := ofReads_joined hne hwritten
  obtain ⟨s, rest, rfl⟩ := List.exists_cons_of_ne_nil hne
  -- the header of the first file is the header of the whole one
  rw [headedRows_cons] at htexts
  obtain ⟨hcells, hskips⟩ := Entry.ofRecords_texts htexts
  rw [List.filterMap_append, filterMap_headedRows, ← taken, ← List.flatMap_cons] at hcells
  rw [List.countP_append, countP_headedRows, ← passedOver, ← Nat.add_assoc, ← List.sum_cons,
    ← List.map_cons] at hskips
  obtain ⟨l, k, hrun, hleft, hrows, hcount, hskipped⟩ :=
    Load.importFile_of_faithful faithful hgood hfault name .detect size
  rw [CellFile.entries, hcells] at hrows hcount
  rw [CellFile.entries, hskips] at hskipped
  exact ⟨l, k, hrun, hleft, hrows, hcount, hskipped⟩

/-- Importing the file of one snapshot stores its cells. -/
theorem importOne_ok (faithful : CellStore.Faithful good rows) (hgood : good j.world)
    {s : Snapshot} (hwritten : s.IsWritten) (name : String) (size : Nat) :
    ∃ l k, Load.importFile name (.ok (FileNode.data s.file).reads) .detect size j = .ok l k ∧
      good k.world ∧ rows k.world = (rows j.world).putAll s.taken ∧
      l.rows = s.taken.length ∧ l.skipped = s.passedOver := by
  have hjoined := importJoined_ok faithful hgood (List.cons_ne_nil s [])
    (List.forall_mem_singleton.2 hwritten) name size
  rw [List.map_singleton, joined_cons, joined_nil, ByteArray.append_empty, List.flatMap_singleton,
    List.map_singleton, List.sum_singleton, List.length_singleton, Nat.sub_self,
    Nat.add_zero] at hjoined
  exact hjoined

/-- The imports of files one after another. -/
def importEach (files : List (String × Snapshot)) (size : Nat) : Job σ (List Load) :=
  files.mapM fun f => Load.importFile f.1 (.ok (FileNode.data f.2.file).reads) .detect size

theorem importEach_cons (f : String × Snapshot) (rest : List (String × Snapshot)) (size : Nat) :
    importEach (σ := σ) (f :: rest) size = (do
      let l ← Load.importFile f.1 (.ok (FileNode.data f.2.file).reads) .detect size
      let loads ← importEach rest size
      return l :: loads) :=
  List.mapM_cons

/-- **Importing files one after another** stores the cells of one after those of another. -/
theorem importEach_ok (faithful : CellStore.Faithful good rows) (hgood : good j.world)
    {files : List (String × Snapshot)} (hwritten : ∀ f ∈ files, f.2.IsWritten) (size : Nat) :
    ∃ loads k, importEach files size j = .ok loads k ∧
      rows k.world = (rows j.world).putAll ((files.map Prod.snd).flatMap taken) ∧
      (loads.map Load.rows).sum = ((files.map Prod.snd).flatMap taken).length ∧
      (loads.map Load.skipped).sum = ((files.map Prod.snd).map passedOver).sum := by
  induction files generalizing j with
  | nil => exact ⟨[], j, rfl, rfl, rfl, rfl⟩
  | cons f rest ih =>
    obtain ⟨hfirst, hrest⟩ := List.forall_mem_cons.1 hwritten
    obtain ⟨l, i, hload, hstored, hrows, hcount, hskipped⟩ :=
      importOne_ok faithful hgood hfirst f.1 size
    obtain ⟨loads, k, hloads, hall, hcounts, hskips⟩ := ih hstored hrest
    refine ⟨l :: loads, k, ?_, ?_, ?_, ?_⟩
    · rw [importEach_cons, Job.bind_ok hload, Job.bind_ok hloads, Job.pure_apply]
    · rw [hall, hrows, List.map_cons, List.flatMap_cons, CellTable.putAll_append]
    · rw [List.map_cons, List.sum_cons, hcount, hcounts, List.map_cons, List.flatMap_cons,
        List.length_append]
    · rw [List.map_cons, List.sum_cons, hskipped, hskips, List.map_cons, List.map_cons,
        List.sum_cons]

/-- **Importing a joined file is importing its files one after another**: in a store of any kind
that takes every batch, the same rows are left in the same order, and the loads are those of the
files together, except that every header but the first is passed over. This is so for files that
were written of stores of any kind, with any filters and pages of any size, and for batches of any
size. -/
theorem importFile_joined (faithful : CellStore.Faithful good rows) {start : σ} (hgood : good start)
    {files : List (String × Snapshot)} (hne : files ≠ [])
    (hwritten : ∀ f ∈ files, f.2.IsWritten) (name : String) (size : Nat) :
    ∃ load k loads left,
      (Load.importFile name (.ok (FileNode.data (joined (files.map (·.2.file)))).reads) .detect
        size).runOn start = (.ok load, k) ∧
      (importEach files size).runOn start = (.ok loads, left) ∧
      rows k.world = rows left.world ∧
      load.rows = (loads.map Load.rows).sum ∧
      load.skipped = (loads.map Load.skipped).sum + (files.length - 1) := by
  have hall : ∀ s ∈ files.map Prod.snd, s.IsWritten := List.forall_mem_map.2 hwritten
  obtain ⟨load, k, hload, -, hrows, hcount, hskipped⟩ :=
    importJoined_ok (j := ⟨start, #[]⟩) faithful hgood (mt List.map_eq_nil_iff.1 hne) hall
      name size
  obtain ⟨loads, left, hloads, hstored, hcounts, hskips⟩ :=
    importEach_ok (j := ⟨start, #[]⟩) faithful hgood hwritten size
  rw [List.map_map] at hload
  rw [List.length_map] at hskipped
  refine ⟨load, k, loads, left, Job.runOn_ok hload, Job.runOn_ok hloads, ?_, ?_, ?_⟩
  · rw [hrows, hstored]
  · rw [hcount, hcounts]
  · rw [hskipped, hskips]

/-- The first of the early rows, seen again. -/
def seenAgain : CellTable :=
  (earlyRows.take 1).map fun r => { r with samples := 9, modified := ⟨1500000000⟩ }

/-- The files of two stores in one: a batch over the end of the first file stores both sightings of
the cell, and passed over are the early row without a cell and the second header. -/
theorem importFile_joined_seenAgain :
    ∃ first left₁ second left₂,
      (write {} "early.csv.gz" 1).runOn ({ rows := earlyRows } : MemoryStore) =
        (.ok first, left₁) ∧
      (write {} "again.csv.gz" 5).runOn ({ rows := seenAgain } : MemoryStore) =
        (.ok second, left₂) ∧
      ∃ load k,
        (Load.importFile "both.csv.gz"
          (.ok (FileNode.data (joined [first.file, second.file])).reads) .detect 10).runOn
            ({} : MemoryStore) = (.ok load, k) ∧
        k.world.rows = (earlyRows.take 1).map (fun r =>
          { r with samples := 9, created := .ofSeconds (-2), modified := .ofSeconds 1 }) ∧
        load.rows = 2 ∧ load.skipped = 2 := by
  obtain ⟨first, left₁, hfirst, hrows₁, -⟩ :=
    @write_ok {} { rows := earlyRows } "early.csv.gz" 1 (by decide +kernel) (by decide) (by decide)
      (by decide +kernel)
  obtain ⟨second, left₂, hsecond, hrows₂, -⟩ :=
    @write_ok {} { rows := seenAgain } "again.csv.gz" 5 (by decide +kernel) (by decide) (by decide)
      (by decide +kernel)
  let files : List (String × Snapshot) := [("early.csv.gz", first), ("again.csv.gz", second)]
  have hwritten : ∀ f ∈ files, f.2.IsWritten := by
    refine List.forall_mem_cons.2 ⟨⟨_, _, _, _, _, _, _, hfirst⟩, ?_⟩
    exact List.forall_mem_singleton.2 ⟨_, _, _, _, _, _, _, hsecond⟩
  have hgood : ({} : MemoryStore).IsReliable := MemoryStore.isReliable_of_failAfter rfl
  obtain ⟨load, k, loads, left, hload, hloads, hrows, hcount, hskipped⟩ :=
    importFile_joined MemoryStore.faithful hgood (List.cons_ne_nil _ _) hwritten "both.csv.gz" 10
  -- what the imports of the two files do
  obtain ⟨loads', left', heach, hstored, hcounts, hskips⟩ :=
    importEach_ok (j := ⟨({} : MemoryStore), #[]⟩) MemoryStore.faithful hgood hwritten 10
  obtain ⟨rfl, rfl⟩ : loads = loads' ∧ left = left' := by
    have h := (Job.of_runOn_ok hloads).symm.trans heach
    injection h with hsame hleft
    exact ⟨hsame, hleft⟩
  have htaken : ([first, second] : List Snapshot).flatMap taken =
      [first.rows.toList, second.rows.toList].flatMap (·.filterMap rowCell?) := rfl
  refine ⟨first, left₁, second, left₂, hfirst, hsecond, load, k, hload, ?_, ?_, ?_⟩
  · rw [hrows, hstored]
    show CellTable.putAll [] ([first, second].flatMap taken) = _
    rw [htaken, hrows₁, hrows₂]
    decide +kernel
  · rw [hcount, hcounts]
    show ([first, second].flatMap taken).length = _
    rw [htaken, hrows₁, hrows₂]
    decide +kernel
  · rw [hskipped, hskips]
    show ([first.rows.toList, second.rows.toList].map
      (·.countP fun row => (rowCell? row).isNone)).sum + 1 = _
    rw [hrows₁, hrows₂]
    decide +kernel

end Snapshot

end CellExchange
