import CellExchange.Import.Download
import CellExchange.Proofs.Import.Account
import CellExchange.Proofs.Import.Written

/-! # Imports from the provider

**Only a complete download reaches the store** (`Fetching.load_outcome`). If the provider answers
with status 200 and its whole body arrives (`Provider.Service.Delivers`), an import from the provider
comes to what the import of a file with these bytes comes to, and leaves the store as that does, in
whatever pieces the body arrived. Otherwise it fails and leaves the store as it was: the provider
cannot be reached, it answers with another status, its body is cut off, or the file cannot be
created.

`Provider.Service.exists_download_iff` says when a download has a result. An import from the provider
tells of the download before it imports the file, and an import does not look at what was told before
(`Load.importFile_prepend`). -/

namespace CellExchange

namespace Provider.Service

variable {s s' : Service} {account : Account} {address : Url} {answer : Answer}
  {name path : String} {body : ByteArray} {j : Journal Service}

/-! ## Asking -/

theorem get_of_unreachable (hanswer : s.answer address = none) :
    get address s = .error (.of (.http (.unreachable address.text))) s := by
  simp only [get, bind, EStateM.bind, EStateM.get, hanswer]
  rfl

theorem get_of_reached (hanswer : s.answer address = some answer) :
    get address s =
      let s' := { s with requests := s.requests.push ("GET " ++ address.target ++ " HTTP/1.1") }
      if isStatus answer.status = true then
        if isInterim answer.status = true then .error (.of (.http (.interimStatus address.text))) s'
        else .ok answer s'
      else .error (.of (.http (.noStatus address.text))) s' := by
  simp only [get, bind, EStateM.bind, EStateM.get, hanswer]
  cases isStatus answer.status <;> cases isInterim answer.status <;> rfl

/-- An answer comes from the service, which was reached. -/
theorem get_eq_ok (h : get address s = .ok answer s') : s.answer address = some answer := by
  cases hanswer : s.answer address with
  | none =>
    rw [get_of_unreachable hanswer] at h
    cases h
  | some given =>
    rw [get_of_reached hanswer] at h
    dsimp only at h
    split_ifs at h
    cases h
    rfl

/-- An answer with status 200 is given to every request that reaches the service. -/
theorem exists_get (hanswer : s.answer address = some answer) (hstatus : answer.status = 200) :
    ∃ s', get address s = .ok answer s' := by
  rw [get_of_reached hanswer, hstatus]
  exact ⟨_, rfl⟩

/-! ## Downloading -/

/-- Whether the service delivers some bytes as the file of a name: the request reaches it, and its
answer has status 200 and a whole body, whose pieces make the bytes. -/
def Delivers (s : Service) (account : Account) (name : String) (body : ByteArray) : Prop :=
  ∃ address answer, account.address name = .ok address ∧ s.answer address = some answer ∧
    answer.status = 200 ∧ answer.complete = true ∧ joined answer.pieces = body

/-- A download that has a result has a whole body, kept in a file that can be created. -/
theorem delivers_of_download {k : Journal Service}
    (h : download account name path j = .ok body k) :
    checkPath path = .ok () ∧ j.world.Delivers account name body := by
  unfold download at h
  cases haddress : account.address name with
  | error fault =>
    simp only [haddress] at h
    cases h
  | ok address =>
    simp only [haddress] at h
    obtain ⟨answer, i, hact, h⟩ := Job.bind_eq_ok h
    obtain ⟨w, hget, rfl⟩ := Job.act_eq_ok hact
    split at h
    · cases h
    · next hstatus =>
      obtain ⟨u, i, hcreate, h⟩ := Job.bind_eq_ok h
      cases hpath : checkPath path with
      | error fault =>
        rw [hpath] at hcreate
        cases hcreate
      | ok u =>
        split at h
        · cases h
        · next hcomplete =>
          cases h
          refine ⟨rfl, address, answer, haddress, get_eq_ok hget, not_not.1 hstatus, ?_, rfl⟩
          simpa using hcomplete

/-- A whole body that is delivered is the result of a download to a file that can be created. -/
theorem exists_download (hpath : checkPath path = .ok ())
    (hdelivers : j.world.Delivers account name body) :
    ∃ k, download account name path j = .ok body k := by
  obtain ⟨address, answer, haddress, hanswer, hstatus, hcomplete, rfl⟩ := hdelivers
  obtain ⟨s', hget⟩ := exists_get hanswer hstatus
  unfold download
  simp only [haddress]
  rw [Job.bind_ok (Job.act_ok hget)]
  simp only [hstatus, hpath, hcomplete]
  exact ⟨_, rfl⟩

/-- **A download has a result** exactly if a whole body is delivered and its file can be created. -/
theorem exists_download_iff :
    (∃ k, download account name path j = .ok body k) ↔
      checkPath path = .ok () ∧ j.world.Delivers account name body := by
  constructor
  · rintro ⟨k, h⟩
    exact delivers_of_download h
  · rintro ⟨hpath, hdelivers⟩
    exact exists_download hpath hdelivers

end Provider.Service

/-- A cell file is what its bytes are, and the fault behind them. -/
theorem CellFile.ofReads_congr {r r' : Reads} (hbytes : r.bytes = r'.bytes)
    (hfault : r.fault = r'.fault) : ofReads r = ofReads r' := by
  unfold ofReads
  rw [hbytes, hfault]

namespace Fetching

section Parts

variable {σ α : Type} {w : Fetching σ} {events : Array Event} {a : α} {failure : Failure}

theorem onStore_ok {x : Job σ α} {i : Journal σ} (h : x ⟨w.store, events⟩ = .ok a i) :
    onStore x ⟨w, events⟩ = .ok a ⟨{ w with store := i.world }, i.events⟩ := by
  simp only [onStore, Job.on, h]

theorem onStore_error {x : Job σ α} {i : Journal σ} (h : x ⟨w.store, events⟩ = .error failure i) :
    onStore x ⟨w, events⟩ = .error failure ⟨{ w with store := i.world }, i.events⟩ := by
  simp only [onStore, Job.on, h]

theorem onProvider_ok {x : Job Provider.Service α} {i : Journal Provider.Service}
    (h : x ⟨w.provider, events⟩ = .ok a i) :
    onProvider x ⟨w, events⟩ = .ok a ⟨{ w with provider := i.world }, i.events⟩ := by
  simp only [onProvider, Job.on, h]

theorem onProvider_error {x : Job Provider.Service α} {i : Journal Provider.Service}
    (h : x ⟨w.provider, events⟩ = .error failure i) :
    onProvider x ⟨w, events⟩ = .error failure ⟨{ w with provider := i.world }, i.events⟩ := by
  simp only [onProvider, Job.on, h]

/-- A job on the store behind some events, with the scratch directory removed at its end: it ends as
the job on the store alone ends, and leaves the store as that does. -/
theorem onStore_release (directory : String) {x : Job σ α}
    (hx : x ⟨w.store, events⟩ = Job.seen (Job.prepend events) (x ⟨w.store, #[]⟩)) :
    let released : Job (Fetching σ) α := do
      let a ← onStore x
      let _ ← Workspace.release ⟨directory, true⟩
      return a
    (∃ a i k, x ⟨w.store, #[]⟩ = .ok a i ∧ released ⟨w, events⟩ = .ok a k ∧
        k.world.store = i.world) ∨
      ∃ failure i k, x ⟨w.store, #[]⟩ = .error failure i ∧
        released ⟨w, events⟩ = .error failure k ∧ k.world.store = i.world := by
  intro released
  -- the directory is removed only behind a result, and that does not touch the store
  cases hrun : x ⟨w.store, #[]⟩ with
  | ok a i =>
    rw [hrun] at hx
    exact Or.inl ⟨a, i, _, rfl, Job.bind_ok (onStore_ok hx), rfl⟩
  | error failure i =>
    rw [hrun] at hx
    exact Or.inr ⟨failure, i, _, rfl, Job.bind_error (onStore_error hx), rfl⟩

end Parts

variable {σ : Type} [CellStore σ] {directory last name path : String} {account : Provider.Account}
  {size : Nat} {start : Fetching σ} {body : ByteArray}

/-- Whether a file of the provider is staged at a path of a scratch directory: its name names a
file, and that can be created there. -/
def Stages (directory name path : String) : Prop :=
  ∃ last, localName name = .ok last ∧ path = Path.join directory last ∧ checkPath path = .ok ()

/-- The journal of an import when its download starts. -/
def waiting (start : Fetching σ) (directory name : String) : Journal Provider.Service :=
  ⟨start.provider, #[.acquired directory, .downloading name]⟩

/-- A name that names no file stops an import at once. -/
theorem load_of_localName_error {cause : Cause} (hname : localName name = .error cause) :
    (load directory account name size).runOn start = (.error (.of cause), ⟨start, #[]⟩) := by
  apply Job.runOn_error
  unfold load
  rw [hname]
  rfl

/-- An import whose name names a file tells that it waits for it, and downloads it. -/
theorem load_apply (hname : localName name = .ok last) :
    load directory account name size ⟨start, #[]⟩ = (do
      let body ← Job.within (.download name)
        (onProvider (Provider.Service.download account name (Path.join directory last)))
      Job.tell (.downloaded name body.size)
      let l ← onStore (Load.importFile (Path.join directory last) (.ok (FileNode.data body).reads)
        .detect size)
      let _ ← Workspace.release ⟨directory, true⟩
      return l) ⟨start, #[.acquired directory, .downloading name]⟩ := by
  unfold load
  rw [hname]
  rfl

/-- A download that fails stops an import before the store is asked for anything. -/
theorem load_of_download_error {failure : Failure} {k : Journal Provider.Service}
    (hname : localName name = .ok last)
    (hdownload : Provider.Service.download account name (Path.join directory last)
      (waiting start directory name) = .error failure k) :
    (load directory account name size).runOn start =
      (.error (failure.within (.download name)), ⟨{ start with provider := k.world }, k.events⟩) := by
  apply Job.runOn_error
  rw [load_apply hname]
  exact Job.bind_error (Job.within_error (onProvider_error hdownload))

/-- A download that has a result is imported as a file with the bytes that arrived. -/
theorem load_of_download {k : Journal Provider.Service} (hname : localName name = .ok last)
    (hdownload : Provider.Service.download account name (Path.join directory last)
      (waiting start directory name) = .ok body k) :
    let fetched := (load directory account name size).runOn start
    let imported := (Load.importFile (Path.join directory last) (.ok (FileNode.data body).reads)
      .detect size).runOn start.store
    fetched.1 = imported.1 ∧ fetched.2.world.store = imported.2.world := by
  intro fetched imported
  have hload : load directory account name size ⟨start, #[]⟩ = (do
      let l ← onStore (Load.importFile (Path.join directory last) (.ok (FileNode.data body).reads)
        .detect size)
      let _ ← Workspace.release ⟨directory, true⟩
      return l) ⟨{ start with provider := k.world }, k.events.push (.downloaded name body.size)⟩ := by
    rw [load_apply hname, Job.bind_ok (Job.within_ok (onProvider_ok hdownload)), Job.tell_bind]
  have himport := Load.importFile_prepend (Path.join directory last) (FileNode.data body).reads
    .detect size start.store (k.events.push (.downloaded name body.size))
  obtain ⟨l, i, k, hrun, hreleased, hstore⟩ | ⟨failure, i, k, hrun, hreleased, hstore⟩ :=
    onStore_release (w := { start with provider := k.world }) directory himport
  · have hfetched : fetched = (.ok l, k) := Job.runOn_ok (hload.trans hreleased)
    have himported : imported = (.ok l, i) := Job.runOn_ok hrun
    rw [hfetched, himported]
    exact ⟨rfl, hstore⟩
  · have hfetched : fetched = (.error failure, k) := Job.runOn_error (hload.trans hreleased)
    have himported : imported = (.error failure, i) := Job.runOn_error hrun
    rw [hfetched, himported]
    exact ⟨rfl, hstore⟩

/-- **Only a complete download reaches the store.** If the provider delivers a whole body for a file
that can be staged, an import from the provider comes to what the import of a file with these bytes
comes to, and leaves the store as that does. Otherwise it fails, and leaves the store as it was. -/
theorem load_outcome (start : Fetching σ) (directory : String) (account : Provider.Account)
    (name : String) (size : Nat) :
    let fetched := (load directory account name size).runOn start
    (∀ path body, Stages directory name path → start.provider.Delivers account name body →
      let imported := (Load.importFile path (.ok (FileNode.data body).reads) .detect size).runOn
        start.store
      fetched.1 = imported.1 ∧ fetched.2.world.store = imported.2.world) ∧
    ((¬ ∃ path body, Stages directory name path ∧ start.provider.Delivers account name body) →
      (∃ failure, fetched.1 = .error failure) ∧ fetched.2.world.store = start.store) := by
  intro fetched
  constructor
  · rintro path body ⟨last, hname, rfl, hpath⟩ hdelivers
    obtain ⟨k, hdownload⟩ :=
      (Provider.Service.exists_download_iff (j := waiting start directory name)).2
        ⟨hpath, hdelivers⟩
    exact load_of_download hname hdownload
  · intro hnot
    cases hname : localName name with
    | error cause =>
      have hfetched : fetched = _ := load_of_localName_error hname
      rw [hfetched]
      exact ⟨⟨_, rfl⟩, rfl⟩
    | ok last =>
      -- the store is not asked for anything before the download has a result
      cases hdownload : Provider.Service.download account name (Path.join directory last)
          (waiting start directory name) with
      | ok body k =>
        obtain ⟨hpath, hdelivers⟩ := Provider.Service.exists_download_iff.1 ⟨k, hdownload⟩
        exact absurd ⟨_, body, ⟨last, hname, rfl, hpath⟩, hdelivers⟩ hnot
      | error failure k =>
        have hfetched : fetched = _ := load_of_download_error hname hdownload
        rw [hfetched]
        exact ⟨⟨_, rfl⟩, rfl⟩

/-- A line with one cell. -/
def oneLine : ByteArray := "GSM,262,1,2,3\n".toUTF8

/-- The line, compressed. -/
def oneMember : ByteArray := Gzip.member oneLine

/-- A local import of this file stores its cell. -/
theorem importFile_oneMember (path : String) :
    ∃ l k, (Load.importFile path (.ok (FileNode.data oneMember).reads) .detect 10).runOn
        ({} : MemoryStore) = (.ok l, k) ∧ l.rows = 1 ∧ k.world.rows.map CellRow.cid = [3] := by
  have hstart : oneLine.data.toList.head? = some 0x47 := by decide +kernel
  obtain ⟨hwhole, hrecords⟩ := CellFile.ofReads_member hstart (by decide)
  have hfile : CellFile.ofReads (FileNode.data oneMember).reads =
      CellFile.ofReads ⟨[Gzip.member oneLine], none⟩ :=
    CellFile.ofReads_congr ((FileNode.bytes_reads oneMember).trans ByteArray.empty_append.symm) rfl
  rw [← hfile] at hwhole hrecords
  obtain ⟨l, k, hrun, hrows, hcount, -⟩ :=
    Load.importFile_of_isReliable (MemoryStore.isReliable_of_failAfter (s := {}) rfl) hwhole path
      .detect 10
  rw [CellFile.entries, hrecords] at hrows hcount
  refine ⟨l, k, hrun, hcount.trans (by decide +kernel), ?_⟩
  rw [hrows]
  decide +kernel

/-- A provider that answers with this file in two pieces, whose body may end too early. It is reached
by encrypted connections to its host. -/
def inPieces (complete : Bool) : Provider.Service where
  answer u :=
    if u.secure && u.host == "provider.test" then
      some ⟨200, [oneMember.extract 0 20, oneMember.extract 20 oneMember.size], complete⟩
    else none

theorem complete_answer_inPieces {complete : Bool} {address : Url} {answer : Provider.Answer}
    (h : (inPieces complete).answer address = some answer) : answer.complete = complete := by
  dsimp only [inPieces] at h
  split_ifs at h
  cases h
  rfl

/-- Who asks that provider. -/
def asker : Provider.Account := ⟨"https://provider.test/downloads", "secret"⟩

/-- Whatever file is asked for, the request goes to that provider. -/
theorem address_asker (name : String) :
    ∃ address : Url, asker.address name = .ok address ∧ address.secure = true ∧
      address.host = "provider.test" := by
  have hparse : Url.parse asker.url =
      .ok ⟨true, "provider.test", 443, "/downloads".toList, none⟩ := by decide +kernel
  refine ⟨_, by rw [Provider.Account.address, hparse]; rfl, rfl, rfl⟩

/-- An import from that provider into an empty store. -/
def loadInPieces (complete : Bool) : Except Failure Load × Journal (Fetching MemoryStore) :=
  (load "scratch" asker "diffs/cells.csv.gz" 10).runOn ⟨{}, inPieces complete⟩

/-- A whole body brings its cell into the store; the same pieces of a body that ends too early bring
nothing. -/
theorem load_outcome_inPieces :
    (∃ l, (loadInPieces true).1 = .ok l ∧ l.rows = 1 ∧
      (loadInPieces true).2.world.store.rows.map CellRow.cid = [3]) ∧
    (∃ failure, (loadInPieces false).1 = .error failure) ∧
      (loadInPieces false).2.world.store.rows = [] := by
  constructor
  · have hjoined : joined [oneMember.extract 0 20, oneMember.extract 20 oneMember.size] =
        oneMember :=
      joined_extracts_append_rest oneMember 20 (show 1 * 20 ≤ oneMember.size by decide +kernel)
    have hstages : Stages "scratch" "diffs/cells.csv.gz" "scratch/cells.csv.gz" :=
      ⟨"cells.csv.gz", by decide +kernel, by decide +kernel, by decide +kernel⟩
    obtain ⟨address, haddress, hsecure, hhost⟩ := address_asker "diffs/cells.csv.gz"
    have hdelivers : (inPieces true).Delivers asker "diffs/cells.csv.gz" oneMember :=
      ⟨address, _, haddress, if_pos (by rw [hsecure, hhost]; decide), rfl, rfl, hjoined⟩
    obtain ⟨hresult, hstore⟩ := (load_outcome (⟨{}, inPieces true⟩ : Fetching MemoryStore) "scratch"
      asker "diffs/cells.csv.gz" 10).1 _ _ hstages hdelivers
    obtain ⟨l, k, hrun, hrows, hcid⟩ := importFile_oneMember "scratch/cells.csv.gz"
    dsimp only at hresult hstore
    rw [hrun, ← loadInPieces] at hresult hstore
    rw [hstore]
    exact ⟨l, hresult, hrows, hcid⟩
  · obtain ⟨hfailed, hstore⟩ :=
      (load_outcome (⟨{}, inPieces false⟩ : Fetching MemoryStore) "scratch" asker
        "diffs/cells.csv.gz" 10).2 (by
          rintro ⟨path, body, -, address, answer, -, hanswer, -, hcomplete, -⟩
          cases hcomplete.symm.trans (complete_answer_inPieces hanswer))
    dsimp only at hfailed hstore
    rw [← loadInPieces] at hfailed hstore
    rw [hstore]
    exact ⟨hfailed, rfl⟩

end Fetching

end CellExchange
