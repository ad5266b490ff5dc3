import CellExchange.Proofs.Bucket.Transfer
import CellExchange.Proofs.Job

/-! # What an upload comes to

An upload that was begun puts the parts of its file (`partsOf`), whatever the pieces are in which
the file is read. **It succeeds exactly if nothing fails**: then the upload is completed once,
behind all parts, and the file is the object of its key (`upload_outcome`). If something fails, the
upload fails and no object appears.

What was begun is then given up, with one exception (`FailsUnaborted`): a part is refused and none
of the parts that are waited for while the file is read is, whatever the order in which the parts are
answered. The refusal shows only when the upload is finished, and there it ends the job without an
abort (`upload_unaborted`). -/

namespace CellExchange

/-- The parts of a file. -/
def partsOf (bytes : ByteArray) : List ByteArray := Reads.cut partSize bytes

/-- How many parts a file has. -/
def partCount (bytes : ByteArray) : Nat := (partsOf bytes).length

namespace Bucket

/-- Whether one of the first parts is refused. -/
def RefusesPart (b : Bucket) (count : Nat) : Prop :=
  ∃ n, 1 ≤ n ∧ n ≤ count ∧ b.refuses (.part n) = true

theorem refusesPart_succ {b : Bucket} {count : Nat} :
    b.RefusesPart (count + 1) ↔
      b.RefusesPart count ∨ b.refuses (.part (count + 1)) = true := by
  constructor
  · rintro ⟨n, hn, hle, hrefused⟩
    obtain hlt | rfl := Nat.lt_or_eq_of_le hle
    · exact Or.inl ⟨n, hn, Nat.le_of_lt_succ hlt, hrefused⟩
    · exact Or.inr hrefused
  · rintro (⟨n, hn, hle, hrefused⟩ | hrefused)
    · exact ⟨n, hn, Nat.le_succ_of_le hle, hrefused⟩
    · exact ⟨count + 1, Nat.le_add_left 1 count, Nat.le_refl _, hrefused⟩

theorem refusesAny_range'_iff {b : Bucket} {count : Nat} :
    b.refusesAny (List.range' 1 count) = true ↔ b.RefusesPart count := by
  rw [refusesAny_iff]
  constructor
  · rintro ⟨n, hmem, hrefused⟩
    have hbounds := List.mem_range'_1.1 hmem
    exact ⟨n, hbounds.1, by omega, hrefused⟩
  · rintro ⟨n, hn, hle, hrefused⟩
    exact ⟨n, List.mem_range'_1.2 ⟨hn, by omega⟩, hrefused⟩

/-- Whether anything fails in an upload that was begun: reading the file, putting a part, or
completing. -/
def Fails (b : Bucket) (reads : Reads) : Prop :=
  reads.fault ≠ none ∨ b.RefusesPart (partCount reads.bytes) ∨ b.refuses .complete = true

/-- Whether an upload fails by a part, and none of the parts that are waited for while the file is
read is refused, in the order in which the bucket answers. -/
def FailsUnaborted (b : Bucket) (reads : Reads) : Prop :=
  reads.fault = none ∧ b.RefusesPart (partCount reads.bytes) ∧
    b.refusesAny (Transfer.waitedFor b.answersFirst reads.pieces) = false

/-- A file with fewer full parts before its last piece than may be under way is read without waiting
for any part, so every refused part shows too late. -/
theorem failsUnaborted_iff_of_lt {b : Bucket} {reads : Reads}
    (h : (joined reads.pieces.dropLast).size / partSize < maxInFlight) :
    b.FailsUnaborted reads ↔ reads.fault = none ∧ b.RefusesPart (partCount reads.bytes) := by
  have hnone : Transfer.waitedFor b.answersFirst reads.pieces = [] := by
    rw [← List.length_eq_zero_iff, Transfer.length_waitedFor]
    omega
  rw [FailsUnaborted, hnone]
  exact and_congr_right fun _ => and_iff_left rfl

/-- If parts are answered in the order in which they were put, a refused part shows in time when it
is full before the last piece and is none of the last parts that are, which may stay under way. -/
theorem failsUnaborted_iff_of_oldestFirst {b : Bucket} (h : b.answersFirst = .oldestFirst)
    (reads : Reads) :
    b.FailsUnaborted reads ↔ reads.fault = none ∧ b.RefusesPart (partCount reads.bytes) ∧
      ¬ b.RefusesPart ((joined reads.pieces.dropLast).size / partSize - (maxInFlight - 1)) := by
  rw [FailsUnaborted, h, Transfer.waitedFor_oldestFirst, ← Bool.not_eq_true, refusesAny_range'_iff]

/-- Requests made before change nothing about what fails. -/
theorem fails_asked (b : Bucket) (requests : List BucketRequest) (reads : Reads) :
    (b.asked requests).Fails reads ↔ b.Fails reads := by
  simp only [Fails, RefusesPart, asked_refuses]

theorem failsUnaborted_asked (b : Bucket) (requests : List BucketRequest) (reads : Reads) :
    (b.asked requests).FailsUnaborted reads ↔ b.FailsUnaborted reads := by
  simp only [FailsUnaborted, RefusesPart, asked_refuses, asked_answersFirst, asked_refusesAny]

/-- Nothing fails in an upload of a whole file to a bucket that grants every request. -/
theorem not_fails_of_granted {b : Bucket} (granted : ∀ call, b.refuses call = false)
    {reads : Reads} (hwhole : reads.fault = none) : ¬ b.Fails reads := by
  rintro (hfault | ⟨n, -, -, hpart⟩ | hcomplete)
  · exact hfault hwhole
  · exact Bool.false_ne_true ((granted _).symm.trans hpart)
  · exact Bool.false_ne_true ((granted _).symm.trans hcomplete)

end Bucket

namespace Transfer

variable {start b : Bucket} {key : ObjectKey} {seen : ByteArray} {t : Transfer}

/-! ## Finishing -/

/-- The parts put and the rest are the parts of the bytes seen. -/
theorem Flow.partsOf_eq (h : Flow start key seen t b) :
    partsOf seen = t.parts.toList ++ if t.buffer.size = 0 then [] else [t.buffer] := by
  rw [partsOf, ← h.bytes_eq]
  exact Reads.cut_joined_append h.full h.room

/-- Of the parts that were put, one is refused if one that is under way is. -/
theorem Flow.refusesAny_flight_iff (h : Flow start key seen t b) :
    start.refusesAny t.flight = true ↔ start.RefusesPart t.parts.size := by
  rw [Bucket.refusesAny_iff]
  constructor
  · rintro ⟨n, hn, hrefused⟩
    exact ⟨n, (h.put_of_mem n hn).1, (h.put_of_mem n hn).2, hrefused⟩
  · rintro ⟨n, hn, hle, hrefused⟩
    refine ⟨n, by_contra fun hnot => ?_, hrefused⟩
    rw [h.granted n hn hle hnot] at hrefused
    exact Bool.false_ne_true hrefused

/-- Putting the rest makes the parts complete. -/
theorem Flow.put_rest (h : Flow start key seen t b) :
    ∃ t', (if t.buffer.size = 0 then pure t else t.put t.buffer : Action Bucket Transfer) b =
        .ok t' (start.asked (partRequests key 0 (partsOf seen))) ∧
      t'.key = key ∧ t'.object = seen ∧
      (start.refusesAny t'.flight = true ↔ start.RefusesPart (partCount seen)) := by
  have hparts := h.partsOf_eq
  have hbytes := h.bytes_eq
  by_cases hempty : t.buffer.size = 0
  · -- the file ends with a full part, and nothing more is put
    rw [if_pos hempty, List.append_nil] at hparts
    rw [ByteArray.size_eq_zero_iff.1 hempty, ByteArray.append_empty] at hbytes
    refine ⟨t, ?_, h.key_eq, ?_, ?_⟩
    · rw [if_pos hempty, hparts, ← h.bucket_eq]
      rfl
    · rw [object, ← Array.foldl_toList]
      exact hbytes
    · rw [partCount, hparts, Array.length_toList]
      exact h.refusesAny_flight_iff
  · -- the rest is the last part, and it joins those under way
    rw [if_neg hempty] at hparts
    refine ⟨{ t with parts := t.parts.push t.buffer, flight := t.flight ++ [t.parts.size + 1] },
      ?_, h.key_eq, ?_, ?_⟩
    · rw [if_neg hempty, put_apply, hparts, partRequests_append, Array.length_toList, Nat.zero_add,
        ← Bucket.asked_asked, ← h.bucket_eq, h.key_eq]
      rfl
    · rw [object, ← Array.foldl_toList, Array.toList_push]
      show joined (t.parts.toList ++ [t.buffer]) = seen
      rw [joined_append, joined_cons, joined_nil, ByteArray.append_empty, hbytes]
    · have hlast : start.refusesAny [t.parts.size + 1] = start.refuses (.part (t.parts.size + 1)) :=
        Bool.or_false _
      rw [partCount, hparts, List.length_append, Array.length_toList, List.length_singleton,
        Bucket.refusesPart_succ, Bucket.refusesAny_append, hlast, Bool.or_eq_true,
        h.refusesAny_flight_iff]

/-- Waiting for all parts. -/
theorem wait_all (t : Transfer) (b : Bucket) :
    t.wait 0 b =
      if b.refusesAny t.flight then .error (.of .bucket) b else .ok { t with flight := [] } b := by
  have hall : awaited 0 t.flight = t.flight.length := Nat.sub_zero _
  rw [wait_apply, hall, AnswerOrder.unanswered_length,
    Bucket.refusesAny_perm (AnswerOrder.perm_answered_length b.answersFirst t.flight)]

/-- The request that completes an upload. -/
def completing (key : ObjectKey) : BucketRequest := ⟨.complete, key, none⟩

/-- The request that gives an upload up. -/
def aborting (key : ObjectKey) : BucketRequest := ⟨.abort, key, none⟩

/-- Waiting for all parts and completing. -/
def close (t : Transfer) : Action Bucket Unit := do
  let t ← t.wait 0
  if ← Bucket.request ⟨.complete, t.key, none⟩ then
    modify (·.put t.key t.object)
  else
    Bucket.demand ⟨.abort, t.key, none⟩
    throw (.of .bucket)

/-- Finishing is putting the rest, and closing. -/
theorem finish_eq (t : Transfer) :
    t.finish = (if t.buffer.size = 0 then pure t else t.put t.buffer) >>= close := by
  by_cases hempty : t.buffer.size = 0
  · simp only [finish, hempty, if_true]
    rfl
  · simp only [finish, hempty, if_false]
    rfl

/-- A part that was refused ends the job when all parts are waited for, with no further request. -/
theorem Flow.finish_refused_part (h : Flow start key seen t b)
    (hparts : start.RefusesPart (partCount seen)) :
    t.finish b = .error (.of .bucket) (start.asked (partRequests key 0 (partsOf seen))) := by
  obtain ⟨t', hput, -, -, hflight⟩ := h.put_rest
  have hwait := wait_all t' (start.asked (partRequests key 0 (partsOf seen)))
  rw [Bucket.asked_refusesAny, if_pos (hflight.2 hparts)] at hwait
  rw [finish_eq]
  simp only [bind, EStateM.bind, hput, close, hwait]

/-- When all parts are granted the upload is to be completed. -/
theorem Flow.finish_granted_parts (h : Flow start key seen t b)
    (hparts : ¬ start.RefusesPart (partCount seen)) :
    t.finish b =
      (if start.refuses .complete then
        .error (.of .bucket) (start.asked
          (partRequests key 0 (partsOf seen) ++ [completing key, aborting key]))
      else
        .ok () ((start.asked
          (partRequests key 0 (partsOf seen) ++ [completing key])).put key seen)) := by
  obtain ⟨t', hput, hkey, hobject, hflight⟩ := h.put_rest
  have hwait := wait_all t' (start.asked (partRequests key 0 (partsOf seen)))
  rw [Bucket.asked_refusesAny, if_neg (mt hflight.1 hparts)] at hwait
  rw [finish_eq]
  simp only [bind, EStateM.bind, hput, close, hwait, Bucket.request_apply, hkey, Bucket.grants,
    Bucket.asked_refuses, Bucket.asked_asked]
  by_cases hcomplete : start.refuses .complete = true
  · -- giving up may be refused too; the job ends with the same failure
    simp only [hcomplete, Bool.not_true, Bool.false_eq_true, if_false, if_true, EStateM.bind,
      Bucket.demand_apply, Bucket.asked_refuses, Bucket.asked_asked, List.append_assoc]
    cases start.refuses .abort <;> rfl
  · simp only [Bool.eq_false_iff.2 hcomplete, Bool.not_false, Bool.false_eq_true, if_false, if_true]
    show EStateM.Result.ok () (Bucket.put _ key t'.object) = _
    rw [hobject]
    rfl

/-! ## The whole transfer -/

/-- The parts waited for while a file is read are among its parts. -/
theorem refusesPart_of_waitedFor {pieces : List ByteArray}
    (h : b.refusesAny (waitedFor b.answersFirst pieces) = true) :
    b.RefusesPart (partCount (joined pieces)) := by
  obtain ⟨n, hmem, hrefused⟩ := Bucket.refusesAny_iff.1 h
  obtain hnone | ⟨hn, hle⟩ := mem_waitedFrom hmem
  · exact absurd hnone List.not_mem_nil
  · refine ⟨n, hn, Nat.le_trans hle ?_, hrefused⟩
    rw [Nat.zero_add, partCount, partsOf, Reads.cut, List.length_map, List.length_range]
    exact Nat.div_le_div_right (Nat.le_sub_one_of_lt (Nat.lt_add_of_pos_right partSize_pos))

/-- No request for a part gives the upload up. -/
theorem abort_notMem_partRequests (key : ObjectKey) (first : Nat) (parts : List ByteArray) :
    BucketCall.abort ∉ (partRequests key first parts).map (·.call) := by
  induction parts generalizing first with
  | nil => exact List.not_mem_nil
  | cons part rest ih =>
    rw [partRequests, List.map_cons, List.mem_cons, not_or]
    exact ⟨BucketCall.noConfusion, ih _⟩

/-- All parts are put under the key of the transfer. -/
theorem key_of_mem_partRequests {first : Nat} {parts : List ByteArray} {r : BucketRequest}
    (h : r ∈ partRequests key first parts) : r.key = key := by
  induction parts generalizing first with
  | nil => exact absurd h List.not_mem_nil
  | cons part rest ih =>
    rw [partRequests, List.mem_cons] at h
    exact h.elim (fun hr => congrArg BucketRequest.key hr) ih

/-- Requests that a transfer makes: parts are put, and some requests for the same key follow. -/
theorem key_of_mem_append {first : Nat} {parts : List ByteArray} {last : List BucketRequest}
    (hlast : ∀ r ∈ last, r.key = key) :
    ∀ r ∈ partRequests key first parts ++ last, r.key = key := by
  intro r hr
  exact (List.mem_append.1 hr).elim key_of_mem_partRequests (hlast r)

variable {j : Journal Bucket} {file : Reads}

/-- A transfer that does not get to the end of its file is given up. -/
theorem run_of_copy_error {failure : Failure} {parts : List ByteArray}
    (hcopy : copy { key } file.fault file.pieces j.world =
      .error failure (j.world.asked (partRequests key 0 parts))) :
    ∃ requests events,
      run key file j = .error failure ⟨j.world.asked requests, events⟩ ∧
      (∀ r ∈ requests, r.key = key) ∧ .abort ∈ requests.map (·.call) := by
  have hdemand : Bucket.demand ⟨.abort, key, none⟩ (j.world.asked (partRequests key 0 parts)) = _ :=
    Bucket.demand_apply _ _
  rw [Bucket.asked_asked, Bucket.asked_refuses] at hdemand
  have hkeys : ∀ r ∈ partRequests key 0 parts ++ [aborting key], r.key = key :=
    key_of_mem_append fun r hr => by rw [List.mem_singleton.1 hr, aborting]
  have hgiven : .abort ∈ (partRequests key 0 parts ++ [aborting key]).map (·.call) := by
    rw [List.map_append, List.mem_append]
    exact Or.inr List.mem_cons_self
  rw [run, Job.act_error hcopy]
  -- giving up may be refused too, which is told but changes nothing
  cases habort : j.world.refuses .abort with
  | true =>
    rw [habort] at hdemand
    exact ⟨_, _, by simp only [Job.act, hdemand]; rfl, hkeys, hgiven⟩
  | false =>
    rw [habort] at hdemand
    exact ⟨_, _, by simp only [Job.act, hdemand]; rfl, hkeys, hgiven⟩

/-- A transfer that gets to the end of its file ends as finishing does. -/
theorem run_of_copy_ok {t : Transfer} {b : Bucket}
    (hcopy : copy { key } file.fault file.pieces j.world = .ok t b) :
    run key file j = (Job.act t.finish >>= fun _ => pure t.total : Job Bucket Nat) ⟨b, j.events⟩ := by
  rw [run, Job.act_ok hcopy]

/-- **A transfer in which nothing fails** completes the upload, and the file is the object. -/
theorem run_ok (key : ObjectKey) (h : ¬ j.world.Fails file) :
    run key file j = .ok file.bytes.size ⟨(j.world.asked
      (partRequests key 0 (partsOf file.bytes) ++ [completing key])).put key file.bytes,
      j.events⟩ := by
  rw [Bucket.Fails, not_or, not_or, Decidable.not_not] at h
  obtain ⟨hfault, hparts, hcomplete⟩ := h
  -- no part is refused, so none is of those waited for while the file is read
  have hwaited : j.world.refusesAny (waitedFor j.world.answersFirst file.pieces) = false :=
    Bool.eq_false_iff.2 fun hrefused => hparts (refusesPart_of_waitedFor hrefused)
  obtain ⟨t, b, hcopy, hflow⟩ :=
    (flow_start j.world key).copy_granted file.fault file.pieces hwaited
  rw [ByteArray.empty_append] at hflow
  have hend : copy { key } file.fault file.pieces j.world = .ok t b := by
    rw [hcopy, hfault]
    rfl
  have hfinish := hflow.finish_granted_parts hparts
  rw [if_neg hcomplete] at hfinish
  rw [run_of_copy_ok hend, Job.bind_ok (Job.act_ok hfinish), Job.pure_apply, hflow.total_eq]
  rfl

/-- **A transfer in which something fails** fails with no object made, and it is given up unless a
refused part shows only at the end. -/
theorem run_error (key : ObjectKey) (h : j.world.Fails file) :
    ∃ cause requests events,
      run key file j = .error (.of cause) ⟨j.world.asked requests, events⟩ ∧
      (∀ r ∈ requests, r.key = key) ∧
      (.abort ∈ requests.map (·.call) ↔ ¬ j.world.FailsUnaborted file) := by
  have hstart := flow_start j.world key
  cases hearly : j.world.refusesAny (waitedFor j.world.answersFirst file.pieces) with
  | true =>
    -- a refused part is noticed while the file is read
    obtain ⟨parts, hcopy⟩ := hstart.copy_refused file.fault file.pieces hearly
    obtain ⟨requests, events, hrun, hkeys, habort⟩ := run_of_copy_error hcopy
    refine ⟨_, requests, events, hrun, hkeys, iff_of_true habort fun hlate => ?_⟩
    exact Bool.false_ne_true (hlate.2.2.symm.trans hearly)
  | false =>
    -- the whole file is read, as far as it can be
    obtain ⟨t, b, hcopy, hflow⟩ := hstart.copy_granted file.fault file.pieces hearly
    rw [ByteArray.empty_append] at hflow
    cases hfault : file.fault with
    | some fault =>
      -- the file cannot be read to its end
      have hend : copy { key } file.fault file.pieces j.world = .error (.of (.file fault))
          (j.world.asked (partRequests key 0 t.parts.toList)) := by
        rw [hcopy, hfault, ← hflow.bucket_eq]
        rfl
      obtain ⟨requests, events, hrun, hkeys, habort⟩ := run_of_copy_error hend
      refine ⟨_, requests, events, hrun, hkeys, iff_of_true habort ?_⟩
      exact fun hlate => Option.some_ne_none fault (hfault.symm.trans hlate.1)
    | none =>
      have hend : copy { key } file.fault file.pieces j.world = .ok t b := by
        rw [hcopy, hfault]
        rfl
      by_cases hparts : j.world.RefusesPart (partCount file.bytes)
      · -- a refused part is noticed at the end
        have hfinish := hflow.finish_refused_part hparts
        refine ⟨.bucket, partRequests key 0 (partsOf file.bytes), j.events, ?_,
          fun _ => key_of_mem_partRequests, iff_of_false (abort_notMem_partRequests _ _ _) ?_⟩
        · rw [run_of_copy_ok hend, Job.bind_error (Job.act_error hfinish)]
          rfl
        · exact not_not_intro ⟨hfault, hparts, hearly⟩
      · -- completing is refused
        have hcomplete : j.world.refuses .complete = true :=
          (h.resolve_left (not_not_intro hfault)).resolve_left hparts
        have hfinish := hflow.finish_granted_parts hparts
        rw [if_pos hcomplete] at hfinish
        refine ⟨.bucket,
          partRequests key 0 (partsOf file.bytes) ++ [completing key, aborting key], j.events,
          ?_, key_of_mem_append (by simp [completing, aborting]), iff_of_true ?_ ?_⟩
        · rw [run_of_copy_ok hend, Job.bind_error (Job.act_error hfinish)]
          rfl
        · rw [List.map_append, List.mem_append]
          exact Or.inr (List.mem_cons_of_mem _ List.mem_cons_self)
        · exact fun hlate => hparts hlate.2.1

end Transfer

namespace Bucket

/-! ## Uploads -/

variable {b : Bucket} {path : String} {key : ObjectKey}

/-- An upload that was begun is the transfer of its file. -/
theorem upload_eq (named : ObjectKey.ofPath path = .ok key) (reads : Reads) :
    upload path (.ok reads) = (do
      Job.act (demand ⟨.create, key, none⟩)
      let total ← Job.within (.upload key.text) (Transfer.run key reads)
      Job.tell (.uploadedBytes total key.text)
      return key) := by
  simp only [upload, named, Except.mapError, Job.within_ofExcept_bind]
  rfl

/-- Granted to begin, an upload asks to, and goes on. -/
theorem act_demand_create {j : Journal Bucket} (begun : j.world.refuses .create = false)
    (key : ObjectKey) :
    Job.act (demand ⟨.create, key, none⟩) j =
      .ok () ⟨j.world.asked [⟨.create, key, none⟩], j.events⟩ := by
  have hdemand : demand ⟨.create, key, none⟩ j.world =
      .ok () (j.world.asked [⟨.create, key, none⟩]) := by
    rw [demand_apply, begun]
    rfl
  exact Job.act_ok hdemand

/-- An upload in which nothing fails makes the file the object of its key. -/
theorem upload_ok {j : Journal Bucket} (named : ObjectKey.ofPath path = .ok key)
    (begun : j.world.refuses .create = false) {reads : Reads} (hfails : ¬ j.world.Fails reads) :
    upload path (.ok reads) j = .ok key
      ⟨(j.world.asked (⟨.create, key, none⟩ ::
          Transfer.partRequests key 0 (partsOf reads.bytes) ++
            [Transfer.completing key])).put key reads.bytes,
        j.events.push (.uploadedBytes reads.bytes.size key.text)⟩ := by
  have hrun := Transfer.run_ok (j := ⟨j.world.asked [⟨.create, key, none⟩], j.events⟩) key
    (mt (fails_asked _ _ reads).1 hfails)
  rw [upload_eq named, Job.bind_ok (act_demand_create begun key), Job.bind_ok (Job.within_ok hrun),
    Job.tell_bind, Job.pure_apply, asked_asked, List.singleton_append, List.cons_append]

/-- An upload that has a result has made the file the object of the key that its path has. -/
theorem upload_eq_ok {j k : Journal Bucket} {reads : Reads}
    (h : upload path (.ok reads) j = .ok key k) :
    ObjectKey.ofPath path = .ok key ∧
      ∃ requests, k.world = (j.world.asked requests).put key reads.bytes := by
  cases hnamed : ObjectKey.ofPath path with
  | error cause =>
    rw [upload, hnamed] at h
    cases h
  | ok named =>
    by_cases begun : j.world.refuses .create = true
    · -- an upload that may not begin has no result
      have hdemand : demand ⟨.create, named, none⟩ j.world =
          .error (.of .bucket) (j.world.asked [⟨.create, named, none⟩]) := by
        rw [demand_apply, if_pos begun]
      rw [upload_eq hnamed, Job.bind_error (Job.act_error hdemand)] at h
      cases h
    · have begun : j.world.refuses .create = false := Bool.not_eq_true _ ▸ begun
      by_cases hfails : j.world.Fails reads
      · obtain ⟨cause, requests, events, hrun, -⟩ :=
          Transfer.run_error (j := ⟨j.world.asked [⟨.create, named, none⟩], j.events⟩) named
            ((fails_asked _ _ _).2 hfails)
        rw [upload_eq hnamed, Job.bind_ok (act_demand_create begun named),
          Job.bind_error (Job.within_error hrun)] at h
        cases h
      · rw [upload_ok hnamed begun hfails] at h
        cases h
        exact ⟨rfl, _, rfl⟩

/-- **What an upload comes to** that is begun under a key. If something fails, the upload fails, no
object appears or changes, and the upload is given up unless its parts fail without being waited for
while the file is read. If nothing fails, exactly this is asked: to begin, to put the parts of the
file, and once, behind them, to complete; and the file is the object of the key. -/
theorem upload_outcome (named : ObjectKey.ofPath path = .ok key)
    (begun : b.refuses .create = false) (reads : Reads) :
    let outcome := (upload path (.ok reads)).runOn b
    (b.Fails reads →
      ∃ cause requests, outcome.1 = .error ((Failure.of cause).within (.upload key.text)) ∧
        outcome.2.world = b.asked requests ∧ (∀ r ∈ requests, r.key = key) ∧
        (.abort ∈ requests.map (·.call) ↔ ¬ b.FailsUnaborted reads)) ∧
    (¬ b.Fails reads →
      outcome.1 = .ok key ∧
        outcome.2.world = (b.asked (⟨.create, key, none⟩ ::
          Transfer.partRequests key 0 (partsOf reads.bytes) ++
            [Transfer.completing key])).put key reads.bytes) := by
  intro outcome
  -- the request that begins is granted, so the rest of the job is the transfer
  have hcreate := act_demand_create (j := ⟨b, #[]⟩) begun key
  constructor
  · intro hfails
    obtain ⟨cause, requests, events, hrun, hkeys, habort⟩ :=
      Transfer.run_error (j := ⟨b.asked [⟨.create, key, none⟩], #[]⟩) key
        ((fails_asked _ _ _).2 hfails)
    rw [failsUnaborted_asked] at habort
    have hupload : outcome = (.error ((Failure.of cause).within (.upload key.text)),
        ⟨(b.asked [⟨.create, key, none⟩]).asked requests, events⟩) := by
      apply Job.runOn_error
      rw [upload_eq named, Job.bind_ok hcreate, Job.bind_error (Job.within_error hrun)]
    rw [hupload]
    refine ⟨cause, ⟨.create, key, none⟩ :: requests, rfl, asked_asked _ _ _,
      List.forall_mem_cons.2 ⟨rfl, hkeys⟩, ?_⟩
    -- the request that begins is no abort
    rw [List.map_cons, List.mem_cons]
    exact (or_iff_right BucketCall.noConfusion).trans habort
  · intro hfails
    have hupload : outcome = (.ok key, _) :=
      Job.runOn_ok (upload_ok (j := ⟨b, #[]⟩) named begun hfails)
    rw [hupload]
    exact ⟨rfl, rfl⟩

/-- An upload that cannot be completed is given up. -/
theorem upload_outcome_refused_complete :
    ∃ requests, ((upload "out/x.csv.gz" (.ok ⟨["radio".toUTF8], none⟩)).runOn
        { refuses := fun call => call = .complete }).2.world =
          asked { refuses := fun call => call = .complete } requests ∧
      .abort ∈ requests.map (·.call) := by
  have hnamed : ObjectKey.ofPath "out/x.csv.gz" = .ok ⟨"x.csv.gz".toList⟩ := by cbv
  obtain ⟨cause, requests, -, hworld, -, habort⟩ :=
    (upload_outcome (b := { refuses := fun call => call = .complete }) hnamed rfl
      ⟨["radio".toUTF8], none⟩).1 (Or.inr (Or.inr rfl))
  refine ⟨requests, hworld, habort.2 ?_⟩
  rintro ⟨-, ⟨n, -, -, hrefused⟩, -⟩
  exact absurd hrefused (by simp)

/-- A file of one part, which is refused: the upload fails and is not given up. -/
theorem upload_unaborted :
    let outcome := (upload "out/x.csv.gz" (.ok ⟨["radio".toUTF8], none⟩)).runOn
      { refuses := fun call => call = .part 1 }
    outcome.1 = .error ((Failure.of .bucket).within (.upload "export/x.csv.gz")) ∧
      outcome.2.world.requests.toList.map (·.call) = [.create, .part 1] := by
  constructor
  · cbv
  · cbv

end Bucket

end CellExchange
