import CellExchange.Proofs.Import.Data

/-! # The log of an import

What an import tells of the records that it passes over (`skippings`), for stores of any kind. One
entry adds its own warning, if it has one, also if the store refuses the batch that the entry makes
full (`Load.skippings_add`). So **an import tells of the records that it passes over, in file order
and no others** (`Load.skippings_importFile`): of all of them if it has a result, and of the first
ones if it fails. -/

namespace CellExchange

/-- Whether an event tells of a record that is passed over. -/
def Event.isSkipping : Event → Bool
  | skippedLine _ _ | skippedBytes _ _ => true
  | _ => false

/-- The records that some events say are passed over. -/
def skippings (events : Array Event) : List Event := events.toList.filter Event.isSkipping

theorem skippings_push (events : Array Event) (e : Event) :
    skippings (events.push e) = skippings events ++ [e].filter Event.isSkipping := by
  rw [skippings, skippings, Array.toList_push, List.filter_append]

/-- The names in a header are no records that are passed over. -/
theorem skippings_header (events : Array Event) (unknown : List String) :
    skippings (events ++ (unknown.map Event.unknownColumn).toArray) = skippings events := by
  have hnone : (unknown.map Event.unknownColumn).filter Event.isSkipping = [] := by
    rw [List.filter_eq_nil_iff]
    intro e he
    obtain ⟨name, -, rfl⟩ := List.mem_map.1 he
    exact Bool.false_ne_true
  rw [skippings, skippings, Array.toList_append, List.filter_append, hnone, List.append_nil]

namespace Load

variable {σ : Type} [CellStore σ]

/-- Storing the batch tells of no record, whether the store takes it or refuses it. -/
theorem skippings_flush (l : Load) (j : Journal σ) :
    skippings (l.flush.after j).events = skippings j.events := by
  cases hupsert : CellStore.upsert l.batch.toList j.world with
  | ok u w =>
    have hflush : l.flush j = .ok l.stored
        ⟨w, j.events.push (.committed l.stored.batches l.stored.rows)⟩ := by
      rw [flush, Job.bind_ok (Job.within_ok (Job.act_ok hupsert))]
      rfl
    rw [Job.after_ok hflush, skippings_push]
    exact List.append_nil _
  | error f w =>
    have hflush : l.flush j = .error (f.within (.storeBatch (l.batches + 1))) ⟨w, j.events⟩ := by
      rw [flush, Job.bind_error (Job.within_error (Job.act_error hupsert))]
    rw [Job.after_error hflush]

/-- **One entry** adds its warning, if it has one. -/
theorem skippings_add (size : Nat) (l : Load) (e : Entry) (j : Journal σ) :
    skippings ((l.add size e).after j).events =
      skippings j.events ++ [e].filterMap Entry.warning? := by
  cases e with
  | header unknown =>
    have htell : l.add size (.header unknown) j = .ok l
        ⟨j.world, j.events ++ (unknown.map Event.unknownColumn).toArray⟩ := by
      rw [add, Job.bind_ok (tellAll_apply _), Job.pure_apply]
    rw [Job.after_ok htell, skippings_header]
    exact (List.append_nil _).symm
  | cell c =>
    have hnone : [Entry.cell c].filterMap Entry.warning? = [] := rfl
    rw [add, hnone, List.append_nil]
    by_cases hfull : size ≤ (l.batch.push c).size
    · rw [if_pos hfull, skippings_flush]
    · rw [if_neg hfull]
      rfl
  | rejected place fault | bytes place flaw => exact skippings_push j.events _

/-- **Any entries** add their warnings; if the store refuses a batch, those of the first entries. -/
theorem skippings_addAll (size : Nat) (entries : List Entry) (l : Load) (j : Journal σ) :
    ∃ taken, taken <+: entries ∧
      skippings ((l.addAll size entries).after j).events =
        skippings j.events ++ taken.filterMap Entry.warning? ∧
      ∀ l' k, l.addAll size entries j = .ok l' k → taken = entries := by
  -- what is told of the entries met, whether the load goes on or stops
  let told (met : List Entry) (k : Journal σ) : Prop :=
    skippings k.events = skippings j.events ++ met.filterMap Entry.warning?
  have hnone : told [] j := (List.append_nil _).symm
  have hall := addAll_induction size (fun met (_ : Load) k => told met k)
    (fun met _ k => told met k) ?_ (l := l) hnone entries
  · obtain ⟨l', k, hadd, htold⟩ | ⟨met, failure, k, hmet, hadd, htold⟩ := hall
    · refine ⟨entries, List.prefix_refl _, ?_, fun _ _ _ => rfl⟩
      rwa [Job.after_ok hadd]
    · refine ⟨met, hmet, ?_, fun l' k hok => nomatch hadd.symm.trans hok⟩
      rwa [Job.after_error hadd]
  · intro met l₁ j₁ e hmet
    have hlog := skippings_add size l₁ e j₁
    rw [hmet, List.append_assoc, ← List.filterMap_append] at hlog
    cases hadd : l₁.add size e j₁ with
    | ok l₂ k =>
      rw [Job.after_ok hadd] at hlog
      exact Or.inl ⟨l₂, k, rfl, hlog⟩
    | error failure k =>
      rw [Job.after_error hadd] at hlog
      exact Or.inr ⟨failure, k, rfl, hlog⟩

/-! ## Whole files -/

theorem skippings_file (f : CellFile) (mode : HeaderMode) (size : Nat) (j : Journal σ) :
    ∃ taken, taken <+: f.entries mode ∧
      skippings ((file f mode size).after j).events =
        skippings j.events ++ taken.filterMap Entry.warning? ∧
      ∀ l k, file f mode size j = .ok l k → taken = f.entries mode := by
  obtain ⟨taken, htaken, hlog, hall⟩ := skippings_addAll size (f.entries mode) {} j
  refine ⟨taken, htaken, ?_, fun l k hok => ?_⟩
  · -- the end of a file tells of no record, whether a batch is stored there or not
    rw [← hlog]
    cases hadd : ({} : Load).addAll size (f.entries mode) j with
    | error failure i => rw [Job.after_error (file_stops hadd), Job.after_error hadd]
    | ok l i =>
      rw [Job.after_ok hadd]
      obtain ⟨fault, -, hfile⟩ | ⟨-, -, hfile⟩ | ⟨-, -, hfile⟩ := file_ends hadd
      · rw [Job.after_error hfile]
      · rw [Job.after_ok hfile]
      · rw [Job.after_congr hfile, skippings_flush]
  · rw [file] at hok
    obtain ⟨l₁, i, hadd, -⟩ := Job.bind_eq_ok hok
    exact hall l₁ i hadd

/-- **What an import tells of the records that it passes over**: all of it if the import has a
result, and the first of it if not. -/
theorem skippings_importFile (path : String) (reads : Reads) (mode : HeaderMode) (size : Nat)
    (start : σ) :
    let run := (importFile path (.ok reads) mode size).runOn start
    ∃ taken, taken <+: (CellFile.ofReads reads).entries mode ∧
      skippings run.2.events = taken.filterMap Entry.warning? ∧
      ∀ l k, run = (.ok l, k) → taken = (CellFile.ofReads reads).entries mode := by
  intro run
  obtain ⟨taken, htaken, hlog, hall⟩ :=
    skippings_file (CellFile.ofReads reads) mode size
      (⟨start, #[.importing path]⟩ : Journal σ)
  refine ⟨taken, htaken, ?_⟩
  obtain ⟨l, k, hfile, hrun⟩ | ⟨failure, k, hfile, hrun⟩ :=
    importFile_cases path reads mode size start
  · rw [Job.after_ok hfile] at hlog
    refine ⟨?_, fun _ _ _ => hall l k hfile⟩
    rw [show run = _ from hrun, skippings_push, hlog]
    exact List.append_nil _
  · rw [Job.after_error hfile] at hlog
    refine ⟨?_, fun l i hok => nomatch hrun.symm.trans hok⟩
    rw [show run = _ from hrun, hlog]
    rfl

end Load

end CellExchange
