import CellExchange.Export.Publication
import CellExchange.Proofs.Bucket.Key
import CellExchange.Proofs.Bucket.Upload
import CellExchange.Proofs.Export.Paging
import CellExchange.Proofs.Numeral

/-! # Publishing as a whole

An export writes its file and then uploads it. **Publishing is all or nothing**
(`Publishing.publish_outcome`): a failure, on whatever page it comes, leaves the bucket as it was,
with no request made of it (`Publishing.publish_error`); a success leaves the complete file under
the key of its name and every other object as it was (`Publishing.publish_ok`). The store keeps its
rows either way, and to publish once more changes nothing. -/

namespace CellExchange

/-- The name of the file of a window is the name of a file. -/
theorem Window.isFileName_fileName (w : Window) : Path.IsFileName w.fileName := by
  have hword : '/' ∉ w.kind.word.toList := by cases w.kind <;> decide
  have hyear : '/' ∉ Date.yearText w.fileTime.date.year := by
    rw [Date.yearText]
    split
    · exact Numeral.notMem_padded rfl _ _
    · rw [List.mem_cons, not_or]
      refine ⟨?_, Numeral.notMem_padded rfl _ _⟩
      split <;> decide
  have htwo : ∀ n, '/' ∉ Numeral.padded 2 n := Numeral.notMem_padded rfl 2
  constructor
  · rw [fileName, Instant.stamp]
    simp only [String.toList_append, List.mem_append, String.toList_ofList, not_or]
    refine ⟨⟨⟨⟨?_, hword⟩, ?_⟩, ⟨⟨⟨⟨⟨hyear, ?_⟩, htwo _⟩, ?_⟩, htwo _⟩, ?_⟩, htwo _⟩, ?_⟩
    all_goals decide
  · have hlong : 4 ≤ w.fileName.toList.length := by
      have hfirst : "MLS-".toList.length = 4 := by decide
      rw [fileName]
      simp only [String.toList_append, List.length_append, hfirst]
      omega
    intro hshort
    have hfew := (show ∀ cs ∈ [[], ['.'], ['.', '.']], cs.length < 4 by decide) _ hshort
    omega

namespace Publishing

variable {directory : String} {window : Window} {pageSize : Nat} {start : Publishing MemoryStore}

/-- What is told before a snapshot is written. -/
def opening (directory : String) (window : Window) : Array Event :=
  #[.exporting window.fileName, .acquired directory]

/-- Uploads a snapshot that was written to a file in a scratch directory. -/
def uploadSnapshot {σ : Type} (workspace : Workspace) (name : String) (s : Snapshot) :
    Job (Publishing σ) Publication := do
  Job.tell (.wrote s.rows.size s.pages)
  let key ← Job.within (.upload name)
    (onBucket (Bucket.upload (workspace.file name) (.ok (FileNode.data s.file).reads)))
  let _ ← workspace.release
  Job.tell (.uploaded key.text)
  return ⟨key, s⟩

/-- Publishing writes the snapshot to a scratch directory, and uploads what was written. -/
theorem publish_apply {σ : Type} [CellStore σ] (directory : String) (window : Window)
    (pageSize : Nat) (start : Publishing σ) :
    publish directory window pageSize ⟨start, #[]⟩ =
      (Job.within (.write window.fileName) (onStore
        (Snapshot.write window.selection (Path.join directory window.fileName) pageSize)) >>=
          uploadSnapshot { directory } window.fileName)
        ⟨start, opening directory window⟩ := by
  have hacquire : ∀ (g : Workspace → Job (Publishing σ) Publication) (j : Journal _),
      (Workspace.acquire directory >>= g) j =
        g { directory } ⟨j.world, j.events.push (.acquired directory)⟩ := fun _ _ => rfl
  rw [publish, Job.tell_bind, hacquire]
  rfl

/-- A run that has a result has put the snapshot under the key of the file's name. -/
theorem publish_eq_ok {σ : Type} [CellStore σ] {directory : String} {window : Window}
    {pageSize : Nat} {start : Publishing σ} {p : Publication} {left : Journal (Publishing σ)}
    (h : (publish directory window pageSize).runOn start = (.ok p, left)) :
    p.key = .ofName window.fileName ∧
      ∃ requests, left.world.bucket = (start.bucket.asked requests).put p.key p.snapshot.file := by
  have hrun := Job.of_runOn_ok h
  rw [publish_apply] at hrun
  obtain ⟨s, i, hwrite, hupload⟩ := Job.bind_eq_ok hrun
  obtain ⟨store, -, rfl⟩ := Job.on_eq_ok (Job.within_eq_ok hwrite)
  rw [uploadSnapshot, Job.tell_bind] at hupload
  obtain ⟨key, m, hkey, hreported⟩ := Job.bind_eq_ok hupload
  obtain ⟨bucket, hbucket, rfl⟩ := Job.on_eq_ok (Job.within_eq_ok hkey)
  obtain ⟨hnamed, requests, hput⟩ := Bucket.upload_eq_ok hbucket
  rw [Workspace.file, ObjectKey.ofPath_join window.isFileName_fileName] at hnamed
  rw [FileNode.bytes_reads] at hput
  -- removing the directory and telling the key leave the bucket as it is
  cases hreported
  exact ⟨(Except.ok.inj hnamed).symm, requests, hput⟩

/-- **A snapshot that cannot be written** ends the job before anything is asked of the bucket. -/
theorem publish_error
    (created : checkPath (Path.join directory window.fileName) = .ok ()) (positive : 1 ≤ pageSize)
    (h : ¬ (pageSize ≤ 9223372036854775807 ∧
      AllKnown (start.store.rows.filter window.selection.selects))) :
    ∃ failure left, (publish directory window pageSize).runOn start = (.error failure, left) ∧
      left.world.bucket = start.bucket ∧ left.world.store.rows = start.store.rows := by
  obtain ⟨failure, k, hwrite, hrows⟩ :=
    Snapshot.write_fails (j := ⟨start.store, opening directory window⟩) created positive h
  have hstore : onStore _ ⟨start, opening directory window⟩ = _ := Job.on_error hwrite
  have hrun := publish_apply directory window pageSize start
  rw [Job.bind_error (Job.within_error hstore)] at hrun
  exact ⟨_, _, Job.runOn_error hrun, rfl, hrows⟩

/-- **A snapshot that is written** is uploaded under the key of its name. -/
theorem publish_ok
    (created : checkPath (Path.join directory window.fileName) = .ok ()) (positive : 1 ≤ pageSize)
    (granted : ∀ call, start.bucket.refuses call = false)
    (fits : pageSize ≤ 9223372036854775807)
    (known : AllKnown (start.store.rows.filter window.selection.selects)) :
    ∃ s requests left, (publish directory window pageSize).runOn start =
        (.ok ⟨.ofName window.fileName, s⟩, left) ∧
      left.world.bucket =
        (start.bucket.asked requests).put (.ofName window.fileName) s.file ∧
      left.world.store.rows = start.store.rows ∧
      s.rows.toList = (CellTable.cells (start.store.rows.filter window.selection.selects)).map
        Cell.toFields ∧
      s.pages = (start.store.rows.filter window.selection.selects).length ⌈/⌉ pageSize := by
  obtain ⟨s, k, hwrite, hrows, hpages, hfetched⟩ := Snapshot.write_eq_ok
    (j := ⟨start.store, opening directory window⟩) created positive fits known
  have hstore : onStore _ ⟨start, opening directory window⟩ = _ := Job.on_ok hwrite
  -- the staged file is read back whole
  have hbytes := FileNode.bytes_reads s.file
  have hwhole : (FileNode.data s.file).reads.fault = none := rfl
  have hnamed := ObjectKey.ofPath_join window.isFileName_fileName directory
  have hupload := Bucket.upload_ok
    (j := ⟨start.bucket, k.events.push (.wrote s.rows.size s.pages)⟩) hnamed (granted .create)
    (Bucket.not_fails_of_granted granted hwhole)
  rw [hbytes] at hupload
  have hbucket : onBucket (σ := MemoryStore) _
    ⟨⟨k.world, start.bucket⟩, k.events.push (.wrote s.rows.size s.pages)⟩ = _ := Job.on_ok hupload
  have hrun := publish_apply directory window pageSize start
  rw [Job.bind_ok (Job.within_ok hstore), uploadSnapshot, Job.tell_bind, Workspace.file,
    Job.bind_ok (Job.within_ok hbucket)] at hrun
  exact ⟨s, _, _, Job.runOn_ok hrun, rfl, hfetched.rows_eq, hrows, hpages⟩

/-- **Publishing is all or nothing.** It succeeds exactly if the page size fits in 64 bits with a
sign and the radio numbers of all selected rows are known. If it fails, the bucket is as it was. If
it succeeds, only the object of the file's key is another one, and it is the complete file: the
header and every selected row, each once and in the order of the table; the key and the counts of
rows and pages are reported. The rows of the store stay as they are in both cases, and publishing
the same window once more leaves the objects as they then are. -/
theorem publish_outcome (start : Publishing MemoryStore) (window : Window) (directory : String)
    (pageSize : Nat) (created : checkPath (Path.join directory window.fileName) = .ok ())
    (positive : 1 ≤ pageSize) (granted : ∀ call, start.bucket.refuses call = false) :
    let selected := start.store.rows.filter window.selection.selects
    let run := (publish directory window pageSize).runOn start
    ((∃ p k, run = (.ok p, k)) ↔ pageSize ≤ 9223372036854775807 ∧ AllKnown selected) ∧
    (∀ failure k, run = (.error failure, k) → k.world.bucket = start.bucket) ∧
    (∀ p k, run = (.ok p, k) → ObjectKey.ofPath window.fileName = .ok p.key ∧
      (∀ key, key ≠ p.key → k.world.bucket.get? key = start.bucket.get? key) ∧
      (∃ object, k.world.bucket.get? p.key = some object ∧
        joined (Gzip.read object).pieces = (Csv.document
          (Column.header :: (CellTable.cells selected).map Cell.toFields)).toUTF8 ∧
        (Gzip.read object).flaw = none) ∧
      p.snapshot.rows.size = selected.length ∧
      p.snapshot.pages = selected.length ⌈/⌉ pageSize) ∧
    run.2.world.store.rows = start.store.rows ∧
    ∀ other, checkPath (Path.join other window.fileName) = .ok () →
      ((publish other window pageSize).runOn run.2.world).2.world.bucket.objects =
        run.2.world.bucket.objects := by
  intro selected run
  by_cases h : pageSize ≤ 9223372036854775807 ∧ AllKnown selected
  · obtain ⟨s, requests, left, hrun, hbucket, hstore, hrows, hpages⟩ :=
      publish_ok created positive granted h.1 h.2
    have hrun : run = _ := hrun
    rw [hrun]
    refine ⟨iff_of_true ⟨_, _, rfl⟩ h, fun _ _ hk => ?_, fun p k hk => ?_, hstore, ?_⟩
    · cases hk
    · cases hk
      obtain ⟨hpieces, hflaw⟩ := Gzip.read_member s.text.toUTF8
      have htext : s.text =
          Csv.document (Column.header :: (CellTable.cells selected).map Cell.toFields) := by
        rw [Snapshot.text, hrows]
      refine ⟨ObjectKey.ofPath_of_isFileName window.isFileName_fileName, fun key hkey => ?_,
        ⟨s.file, ?_, hpieces.trans (congrArg String.toUTF8 htext), hflaw⟩, ?_, hpages⟩
      · rw [hbucket, Bucket.get?_put_of_ne hkey]
        rfl
      · rw [hbucket, Bucket.get?_put]
      · rw [← Array.length_toList, hrows, List.length_map, CellTable.length_cells h.2]
    · -- the same rows are written, so the same file is put where it is
      intro other hother
      have hgranted : ∀ call, left.world.bucket.refuses call = false := by
        rw [hbucket]
        exact granted
      have hknown : AllKnown (left.world.store.rows.filter window.selection.selects) := by
        rw [hstore]
        exact h.2
      obtain ⟨s', requests', again, hrunAgain, hbucketAgain, -, hrowsAgain, -⟩ :=
        publish_ok hother positive hgranted h.1 hknown
      rw [hstore, ← hrows] at hrowsAgain
      rw [hrunAgain, hbucketAgain, Snapshot.file_congr hrowsAgain, hbucket,
        Bucket.objects_put_put]
  · obtain ⟨failure, left, hrun, hbucket, hstore⟩ := publish_error created positive h
    have hrun : run = _ := hrun
    rw [hrun]
    refine ⟨iff_of_false ?_ h, fun _ k hk => ?_, fun _ _ hk => ?_, hstore, ?_⟩
    · rintro ⟨_, _, hk⟩
      cases hk
    · cases hk
      exact hbucket
    · cases hk
    · intro other hother
      have hagain : ¬ (pageSize ≤ 9223372036854775807 ∧
          AllKnown (left.world.store.rows.filter window.selection.selects)) := by
        rw [hstore]
        exact h
      obtain ⟨_, again, hrun, hbucket, -⟩ := publish_error hother positive hagain
      rw [hrun, hbucket]

/-- A store with some rows, and a bucket with an object of an earlier run and another one. -/
def afterEarlierRun (rows : CellTable) : Publishing MemoryStore where
  store := { rows }
  bucket := { objects := [(.ofName "MLS-full-cell-export-1970-01-01T000000.csv.gz", ⟨#[7]⟩),
    (.ofName "other.csv.gz", ⟨#[8]⟩)] }

/-- A row of unknown radio type behind two pages of other rows ends the job, and the object of the
earlier run stays; without it the two rows take the place of this object, and of no other. -/
theorem publish_outcome_afterEarlierRun :
    let window : Window := ⟨.full, {}, ⟨0⟩⟩
    (∃ failure k, (publish "/tmp/export" window 1).runOn
        (afterEarlierRun Snapshot.mixedRows) = (.error failure, k) ∧
      k.world.bucket = (afterEarlierRun Snapshot.mixedRows).bucket) ∧
    ∃ p k, (publish "/tmp/export" window 1).runOn
        (afterEarlierRun (Snapshot.mixedRows.take 3)) = (.ok p, k) ∧
      k.world.bucket.get? p.key ≠ some ⟨#[7]⟩ ∧
      k.world.bucket.get? (.ofName "other.csv.gz") = some ⟨#[8]⟩ ∧
      p.snapshot.rows.size = 2 ∧ p.snapshot.pages = 2 := by
  intro window
  have hpath : checkPath (Path.join "/tmp/export" window.fileName) = .ok () := by decide +kernel
  constructor
  · obtain ⟨hsucceeds, hfails, -⟩ := publish_outcome (afterEarlierRun Snapshot.mixedRows) window
      "/tmp/export" 1 hpath (by decide) fun _ => rfl
    cases hrun : (publish "/tmp/export" window 1).runOn (afterEarlierRun Snapshot.mixedRows) with
    | mk outcome k =>
      cases outcome with
      | ok p => exact absurd (hsucceeds.1 ⟨p, k, hrun⟩).2 (by decide +kernel)
      | error failure => exact ⟨failure, k, rfl, hfails failure k hrun⟩
  · obtain ⟨hsucceeds, -, hpublished, -⟩ :=
      publish_outcome (afterEarlierRun (Snapshot.mixedRows.take 3)) window "/tmp/export" 1 hpath
        (by decide) fun _ => rfl
    obtain ⟨p, k, hrun⟩ := hsucceeds.2 (by decide +kernel)
    obtain ⟨hkey, hothers, ⟨object, hobject, -, hflaw⟩, hrows, hpages⟩ := hpublished p k hrun
    refine ⟨p, k, hrun, ?_, ?_, hrows.trans (by decide +kernel), hpages.trans (by decide +kernel)⟩
    · -- one byte is no file
      rw [hobject]
      rintro ⟨⟩
      exact absurd hflaw (by decide +kernel)
    · refine (hothers _ ?_).trans (by decide +kernel)
      intro hsame
      rw [← hsame] at hkey
      exact absurd (congrArg Except.toOption hkey) (by decide +kernel)

end Publishing

end CellExchange
