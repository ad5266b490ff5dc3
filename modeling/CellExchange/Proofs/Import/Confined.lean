import CellExchange.Proofs.Import.Fetching
import CellExchange.Proofs.Path
import CellExchange.Proofs.Provider.Request

/-! # Imports that stay in their directory

The name of a provider's file comes from outside, and it may be any text. **An import does not leave
its scratch directory** (`Fetching.load_confined`): the name is refused before anything is done, or
the file stands in the directory itself, under the last name of the path that the name is. What the
provider is asked for is the name as it was given. A name is refused exactly if nothing is left of
it without the slashes and single dots at its end, or if it then ends in two dots.

Where a job works is seen from what it tells, `Event.KeepsTo`, and from the steps of its failures.
Every part of a load keeps to it, so the load does (`Job.Leads`). -/

namespace CellExchange

/-- Whether an event names no directory but a given one, and the path of no file but a given one. -/
def Event.KeepsTo (directory path : String) : Event → Prop
  | .acquired d | .removing d => d = directory
  | .importing p => p = path
  | _ => True

namespace Load

variable {σ : Type} [CellStore σ] (directory path : String)

omit [CellStore σ] in
theorem leads_tellAll {P : Event → Prop} {events : List Event} (h : ∀ e ∈ events, P e) :
    Job.Leads (Job.Extends Journal.events P) (tellAll events : Job σ Unit) := by
  induction events with
  | nil => exact Job.leads_pure ()
  | cons e rest ih =>
    rw [tellAll]
    refine (Job.leads_tell (h e List.mem_cons_self)).bind fun _ => ih fun e' he' => ?_
    exact h e' (List.mem_cons_of_mem e he')

theorem leads_flush (l : Load) :
    Job.Leads (Job.Extends Journal.events (Event.KeepsTo directory path)) (l.flush : Job σ Load) :=
  ((Job.leads_act _).within _).bind fun _ => (Job.leads_tell trivial).bind fun _ =>
    Job.leads_pure _

theorem leads_add (size : Nat) (l : Load) (e : Entry) :
    Job.Leads (Job.Extends Journal.events (Event.KeepsTo directory path))
      (l.add size e : Job σ Load) := by
  cases e with
  | header unknown =>
    refine (leads_tellAll fun e he => ?_).bind fun _ => Job.leads_pure l
    obtain ⟨name, -, rfl⟩ := List.mem_map.1 he
    exact trivial
  | rejected place fault => exact (Job.leads_tell trivial).bind fun _ => Job.leads_pure _
  | bytes place flaw => exact (Job.leads_tell trivial).bind fun _ => Job.leads_pure _
  | cell c =>
    simp only [add]
    split
    · exact leads_flush directory path _
    · exact Job.leads_pure _

theorem leads_addAll (size : Nat) (l : Load) (entries : List Entry) :
    Job.Leads (Job.Extends Journal.events (Event.KeepsTo directory path))
      (l.addAll size entries : Job σ Load) := by
  induction entries generalizing l with
  | nil => exact Job.leads_pure l
  | cons e rest ih => exact (leads_add directory path size l e).bind ih

theorem leads_file (f : CellFile) (mode : HeaderMode) (size : Nat) :
    Job.Leads (Job.Extends Journal.events (Event.KeepsTo directory path))
      (file f mode size : Job σ Load) := by
  refine (leads_addAll directory path size {} _).bind fun l => ?_
  cases f.fault with
  | some fault => exact (Job.leads_fail _).within _
  | none =>
    dsimp only
    split
    · exact Job.leads_pure l
    · exact leads_flush directory path l

/-- An import names the path that it is given. -/
theorem leads_importFile (reads : Reads) (mode : HeaderMode) (size : Nat) :
    Job.Leads (Job.Extends Journal.events (Event.KeepsTo directory path))
      (importFile path (.ok reads) mode size : Job σ Load) := by
  rw [importFile_eq]
  have hpath : Event.KeepsTo directory path (.importing path) := rfl
  exact (Job.leads_tell hpath).bind fun _ =>
    ((leads_file directory path _ mode size).within _).bind fun _ =>
      (Job.leads_tell trivial).bind fun _ => Job.leads_pure _

end Load

namespace Provider.Service

variable {account : Account} {address : Url} {answer : Answer} {name path : String}
  {j : Journal Service}

/-! ## Requests -/

/-- Whether a request line asks for a file of a name, at the end of its query. -/
def AsksFor (name line : String) : Prop :=
  ∃ (address : Url) (query : List Char), line = "GET " ++ address.target ++ " HTTP/1.1" ∧
    address.query = some query ∧
    (Sql.Address.formPairs query).getLast? = some ("filename", name)

/-- The address of a file of the provider ends in the name of the file. -/
theorem asksFor_address (h : account.address name = .ok address) :
    AsksFor name ("GET " ++ address.target ++ " HTTP/1.1") := by
  rw [Account.address] at h
  cases hparse : Url.parse account.url with
  | error fault =>
    rw [hparse] at h
    cases h
  | ok u =>
    rw [hparse] at h
    cases h
    obtain ⟨query, hquery, hpairs⟩ :=
      u.formPairs_addQuery [("apiKey", account.apiKey), ("filename", name)]
    refine ⟨_, query, rfl, hquery, ?_⟩
    rw [hpairs, List.getLast?_append]
    rfl

/-- Whether a request for a file of the provider reaches the service. -/
def IsReached (s : Service) (account : Account) (name : String) : Prop :=
  ∃ address, account.address name = .ok address ∧ (s.answer address).isSome = true

/-- A request that reaches the service is sent, and then it fails or has an answer. -/
theorem act_get_of_reached (h : (j.world.answer address).isSome = true) :
    ∃ k : Journal Service,
      k.world.requests = j.world.requests.push ("GET " ++ address.target ++ " HTTP/1.1") ∧
      ((∃ failure, Job.act (get address) j = .error failure k ∧ failure.steps = []) ∨
        ∃ answer, Job.act (get address) j = .ok answer k) := by
  obtain ⟨answer, hanswer⟩ := Option.isSome_iff_exists.1 h
  have hreached := get_of_reached hanswer
  dsimp only at hreached
  -- what comes back announces an answer, is one, or is no status
  split_ifs at hreached
  · exact ⟨_, rfl, Or.inl ⟨_, Job.act_error hreached, rfl⟩⟩
  · exact ⟨_, rfl, Or.inr ⟨_, Job.act_ok hreached⟩⟩
  · exact ⟨_, rfl, Or.inl ⟨_, Job.act_error hreached, rfl⟩⟩

/-- A request that does not reach the service fails, and is not sent. -/
theorem act_get_of_unreached (h : ¬ (j.world.answer address).isSome = true) :
    ∃ failure, Job.act (get address) j = .error failure j ∧ failure.steps = [] :=
  ⟨_, Job.act_error (get_of_unreachable (Option.not_isSome_iff_eq_none.1 h)), rfl⟩

/-- A failure to ask is a failure outside every step. -/
theorem failsIn_get (address : Url) : Job.FailsIn (· = []) (Job.act (get address)) := by
  intro j failure k hfails
  by_cases hreached : (j.world.answer address).isSome = true
  · obtain ⟨i, -, ⟨failure', hget, hsteps⟩ | ⟨answer, hget⟩⟩ := act_get_of_reached hreached
    · cases hget.symm.trans hfails
      exact hsteps
    · cases hget.symm.trans hfails
  · obtain ⟨failure', hget, hsteps⟩ := act_get_of_unreached hreached
    cases hget.symm.trans hfails
    exact hsteps

/-! ## Downloads -/

/-- What a download makes of an answer. -/
def receive (name path : String) (answer : Answer) : Job Service ByteArray := do
  if answer.status ≠ 200 then Job.fail (.providerStatus name answer.status)
  Job.within (.create path) (Job.ofExcept ((checkPath path).mapError .file))
  if !answer.complete then Job.fail (.http .cutOff)
  let body := answer.pieces.foldl (· ++ ·) .empty
  Job.tell (.downloadedBytes body.size name)
  return body

/-- A download that has an address asks, and receives what is answered. -/
theorem download_eq (h : account.address name = .ok address) :
    download account name path = Job.act (get address) >>= receive name path := by
  unfold download
  simp only [h]
  rfl

theorem download_of_address_error {fault : AddressFault} (h : account.address name = .error fault) :
    download account name path = Job.fail (.http (.address fault)) := by
  unfold download
  simp only [h]

/-- What telling of the bytes that arrived leads to, receiving an answer leads to. -/
theorem leads_receive {R : Journal Service → Journal Service → Prop}
    [IsPreorder (Journal Service) R] (path : String) (answer : Answer)
    (htell : ∀ size, Job.Leads R (Job.tell (.downloadedBytes size name))) :
    Job.Leads R (receive name path answer) := by
  -- the status is looked at before the file is created, and the end of the body behind that
  unfold receive
  dsimp only
  refine Job.leads_guard fun _ => ((Job.leads_ofExcept _).within _).bind fun _ => ?_
  exact Job.leads_guard fun _ => (htell _).bind fun _ => Job.leads_pure _

/-- An answer is not received when the file is created, or outside every step. -/
theorem failsIn_receive (name path : String) (answer : Answer) :
    Job.FailsIn (fun steps => steps = [] ∨ steps = [.create path]) (receive name path answer) := by
  unfold receive
  dsimp only
  refine Job.failsIn_guard (Or.inl rfl) fun _ =>
    (Job.failsIn_ofExcept (Or.inr rfl) _).within.bind fun _ => ?_
  exact Job.failsIn_guard (Or.inl rfl) fun _ => (Job.failsIn_tell _).bind fun _ =>
    Job.failsIn_pure _

/-- What a download tells names no directory and no path. -/
theorem leads_download (directory file : String) (account : Account) (name path : String) :
    Job.Leads (Job.Extends Journal.events (Event.KeepsTo directory file))
      (download account name path) := by
  cases haddress : account.address name with
  | error fault =>
    rw [download_of_address_error haddress]
    exact Job.leads_fail _
  | ok address =>
    rw [download_eq haddress]
    exact (Job.leads_act _).bind fun answer =>
      leads_receive path answer fun _ => Job.leads_tell trivial

/-- A download fails outside every step, or when it creates its file. -/
theorem failsIn_download (account : Account) (name path : String) :
    Job.FailsIn (fun steps => steps = [] ∨ steps = [.create path])
      (download account name path) := by
  cases haddress : account.address name with
  | error fault =>
    rw [download_of_address_error haddress]
    exact Job.failsIn_fail (Or.inl rfl) _
  | ok address =>
    rw [download_eq haddress]
    exact Job.FailsIn.bind (fun j f k h => Or.inl (failsIn_get address j f k h)) fun answer =>
      failsIn_receive name path answer

/-- **A download asks once for its file**, if a request reaches the service, and else for
nothing. -/
theorem requests_download (account : Account) (name path : String) (j : Journal Service) :
    (j.world.IsReached account name → ∃ line, AsksFor name line ∧
      ((download account name path).after j).world.requests = j.world.requests.push line) ∧
    (¬ j.world.IsReached account name →
      ((download account name path).after j).world.requests = j.world.requests) := by
  cases haddress : account.address name with
  | error fault =>
    rw [download_of_address_error haddress]
    refine ⟨?_, fun _ => rfl⟩
    rintro ⟨address, hok, -⟩
    cases haddress.symm.trans hok
  | ok address =>
    -- receiving an answer asks for nothing more
    have hreceive (answer : Answer) :
        Job.Leads (Job.Keeps (·.world.requests)) (receive name path answer) :=
      leads_receive path answer fun _ _ => rfl
    have hsent := Job.part_after_bind (x := Job.act (get address)) hreceive j
    rw [download_eq haddress, hsent]
    constructor
    · rintro ⟨address', hok, hreached⟩
      cases haddress.symm.trans hok
      refine ⟨_, asksFor_address haddress, ?_⟩
      obtain ⟨k, hk, ⟨failure, hget, -⟩ | ⟨answer, hget⟩⟩ := act_get_of_reached hreached
      · rw [Job.after_error hget, hk]
      · rw [Job.after_ok hget, hk]
    · intro hnot
      obtain ⟨failure, hget, -⟩ := act_get_of_unreached fun hreached =>
        hnot ⟨address, haddress, hreached⟩
      rw [Job.after_error hget]

end Provider.Service

namespace Fetching

variable {σ : Type} [CellStore σ] {directory last name path : String} {account : Provider.Account}
  {size : Nat} {start : Fetching σ}

/-- An import from the provider, from its download on. -/
def fetch (directory path : String) (account : Provider.Account) (name : String) (size : Nat) :
    Job (Fetching σ) Load := do
  let body ← Job.within (.download name)
    (onProvider (Provider.Service.download account name path))
  Job.tell (.downloaded name body.size)
  let l ← onStore (Load.importFile path (.ok (FileNode.data body).reads) .detect size)
  let _ ← Workspace.release ⟨directory, true⟩
  return l

/-- What is told from the download on names no other directory and no other path. -/
theorem leads_fetch (directory path : String) (account : Provider.Account) (name : String)
    (size : Nat) : Job.Leads (Job.Extends Journal.events (Event.KeepsTo directory path))
      (fetch directory path account name size : Job (Fetching σ) Load) := by
  have hdownload := Provider.Service.leads_download directory path account name path
  have hdirectory : Event.KeepsTo directory path (.removing directory) := rfl
  exact (hdownload.on.within _).bind fun body => (Job.leads_tell trivial).bind fun _ =>
    ((Load.leads_importFile directory path _ .detect size).on).bind fun l =>
      ((Job.leads_tell hdirectory).bind fun _ => Job.leads_pure _).bind fun _ => Job.leads_pure l

/-- What is asked for from the download on is what the download asks for. -/
theorem requests_fetch (directory path : String) (account : Provider.Account) (name : String)
    (size : Nat) (i : Journal (Fetching σ)) :
    ((fetch directory path account name size).after i).world.provider.requests =
      ((Provider.Service.download account name path).after
        ⟨i.world.provider, i.events⟩).world.requests := by
  have htell (e : Event) : Job.Leads (Job.Keeps (·.world.provider.requests))
      (Job.tell e : Job (Fetching σ) Unit) := fun _ => rfl
  have hstore (x : Job σ Load) : Job.Leads (Job.Keeps (·.world.provider.requests))
      (onStore x : Job (Fetching σ) Load) := by
    intro i
    rw [onStore, Job.after_on]
    rfl
  refine (Job.part_after_bind (fun body => (htell _).bind fun _ => (hstore _).bind fun l =>
    ((htell _).bind fun _ => Job.leads_pure _).bind fun _ => Job.leads_pure l) i).trans ?_
  rw [Job.after_within, onProvider, Job.after_on]

/-- Steps that name no path but that of the file: the download, the creation of the file in it, and
the import of the file with what the store says. -/
def IsStaged (name path : String) (steps : List Step) : Prop :=
  steps = [.download name] ∨ steps = [.download name, .create path] ∨
    steps.head? = some (.import path)

theorem failsIn_fetch (directory path : String) (account : Provider.Account) (name : String)
    (size : Nat) : Job.FailsIn (IsStaged name path)
      (fetch directory path account name size : Job (Fetching σ) Load) := by
  have hdownload : Job.FailsIn (IsStaged name path) (Job.within (.download name)
      (onProvider (Provider.Service.download account name path)) :
        Job (Fetching σ) ByteArray) := by
    refine Job.FailsIn.within (Job.FailsIn.on fun j failure k h => ?_)
    obtain hsteps | hsteps := Provider.Service.failsIn_download account name path j failure k h
    · exact Or.inl (congrArg _ hsteps)
    · exact Or.inr (Or.inl (congrArg _ hsteps))
  have himport (reads : Reads) : Job.FailsIn (IsStaged name path)
      (Load.importFile path (.ok reads) .detect size : Job σ Load) := by
    rw [Load.importFile_eq]
    exact (Job.failsIn_tell _).bind fun _ => (Job.FailsIn.within fun _ _ _ _ =>
      Or.inr (Or.inr rfl)).bind fun _ => (Job.failsIn_tell _).bind fun _ => Job.failsIn_pure _
  exact hdownload.bind fun body => (Job.failsIn_tell _).bind fun _ => (himport _).on.bind fun l =>
    ((Job.failsIn_tell _).bind fun _ => Job.failsIn_pure _).bind fun _ => Job.failsIn_pure l

/-- **An import does not leave its directory.** Take the slashes and single dots off the end of the
name of a provider's file. If nothing is left, or two dots stand behind its last slash, and only
then, the name is refused, and nothing is done: no directory is made, nothing is told, nothing is
asked for and nothing is stored. Otherwise the file gets the name behind the last slash, which has
no slash and is neither empty nor one or two dots, and stands with it in the scratch directory
itself. The import names no other directory and no other path, neither in what it tells nor when it
fails. The provider, if it is reached, is asked once, for the file of the name as it was given. -/
theorem load_confined (start : Fetching σ) (directory : String) (account : Provider.Account)
    (name : String) (size : Nat) :
    let run := (load directory account name size).runOn start
    let last := Path.lastName (Path.trimmed name)
    let path := Path.join directory last
    let refused := Path.trimmed name = "" ∨ last = ".."
    (refused ↔ run = (.error (.of (.invalidFileName name)), ⟨start, #[]⟩)) ∧
    (¬ refused →
      Path.IsFileName last ∧
      (∀ place, placeOf place path = placeOf place directory ++ [last]) ∧
      (∃ told : List Event,
        run.2.events.toList = .acquired directory :: .downloading name :: told ∧
        ∀ e ∈ told, e.KeepsTo directory path) ∧
      (∀ failure left, run = (.error failure, left) → IsStaged name path failure.steps) ∧
      (start.provider.IsReached account name →
        ∃ line, Provider.Service.AsksFor name line ∧
          run.2.world.provider.requests = start.provider.requests.push line) ∧
      (¬ start.provider.IsReached account name →
        run.2.world.provider.requests = start.provider.requests)) := by
  intro run last path refused
  by_cases hrefused : refused
  · have hname : localName name = .error (.invalidFileName name) := by
      rw [localName, Path.fileName?_eq, if_pos hrefused]
    refine ⟨iff_of_true hrefused (load_of_localName_error hname), fun h => absurd hrefused h⟩
  · have hname : localName name = .ok last := by
      rw [localName, Path.fileName?_eq, if_neg hrefused]
    have hfetch : load directory account name size ⟨start, #[]⟩ =
        fetch directory path account name size
          ⟨start, #[.acquired directory, .downloading name]⟩ := load_apply hname
    have hleft : run.2 = (fetch directory path account name size).after
        ⟨start, #[.acquired directory, .downloading name]⟩ :=
      (Job.runOn_snd _ _).trans (Job.after_congr hfetch)
    have hfile := Path.isFileName_lastName hrefused
    obtain ⟨told, htold, hkeeps⟩ := leads_fetch directory path account name size
      ⟨start, #[.acquired directory, .downloading name]⟩
    have hasked := requests_fetch directory path account name size
      ⟨start, #[.acquired directory, .downloading name]⟩
    have hrequests := Provider.Service.requests_download account name path
      (waiting start directory name)
    rw [← hleft] at htold hasked
    refine ⟨iff_of_false hrefused fun hrun => ?_, fun _ => ⟨hfile,
      fun place => Path.placeOf_join hfile place directory, ⟨told, ?_, hkeeps⟩,
      fun failure left hrun => ?_, ?_⟩⟩
    · -- the directory is made before anything else is done
      rw [hrun] at htold
      have hnone := congrArg Array.size htold
      simp at hnone
    · rw [htold, Array.toList_append]
      rfl
    · have herror := Job.of_runOn_error hrun
      rw [hfetch] at herror
      exact failsIn_fetch directory path account name size _ failure left herror
    · rw [hasked]
      exact hrequests

/-- A name that goes up is refused. A name that begins at the root, with slashes and a dot at its
end, is asked for as it is, and its file stands in the scratch directory. -/
theorem load_confined_leadingOut :
    let start : Fetching MemoryStore := ⟨{}, inPieces true⟩
    (load "/tmp/scratch" asker "diffs/../" 10).runOn start =
        (.error (.of (.invalidFileName "diffs/../")), ⟨start, #[]⟩) ∧
      placeOf ["home"] (Path.join "/tmp/scratch" "passwd") = ["tmp", "scratch", "passwd"] ∧
      let run := (load "/tmp/scratch" asker "/etc//passwd/./" 10).runOn start
      (∃ told : List Event,
        run.2.events.toList =
          .acquired "/tmp/scratch" :: .downloading "/etc//passwd/./" :: told ∧
        ∀ e ∈ told, e.KeepsTo "/tmp/scratch" (Path.join "/tmp/scratch" "passwd")) ∧
      ∃ line, Provider.Service.AsksFor "/etc//passwd/./" line ∧
        run.2.world.provider.requests = #[line] := by
  intro start
  have hlast : Path.lastName (Path.trimmed "/etc//passwd/./") = "passwd" := by decide +kernel
  have hkept : ¬ (Path.trimmed "/etc//passwd/./" = "" ∨
      Path.lastName (Path.trimmed "/etc//passwd/./") = "..") := by decide +kernel
  have hreached : (inPieces true).IsReached asker "/etc//passwd/./" := by
    obtain ⟨address, haddress, hsecure, hhost⟩ := address_asker "/etc//passwd/./"
    exact ⟨address, haddress, by simp [inPieces, hsecure, hhost]⟩
  obtain ⟨-, hplace, htold, -, hasked, -⟩ :=
    (load_confined start "/tmp/scratch" asker "/etc//passwd/./" 10).2 hkept
  rw [hlast] at hplace htold
  exact ⟨(load_confined start "/tmp/scratch" asker "diffs/../" 10).1.1 (by decide +kernel),
    (hplace ["home"]).trans (by decide +kernel), htold, hasked hreached⟩

end Fetching

end CellExchange
