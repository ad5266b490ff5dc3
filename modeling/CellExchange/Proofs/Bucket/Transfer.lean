import CellExchange.Bucket.Upload
import CellExchange.Proofs.Bucket.Answers
import CellExchange.Proofs.Files

/-! # Parts under way

What a transfer has done after some bytes of its file (`Transfer.Flow`): the parts put are full and
hold the bytes together with the buffer, the requests are those parts in order, and of the parts that
are not under way any more none was refused. Each step of the copying keeps the flow: waiting
(`Flow.wait_ok`), which stops at a part that was refused (`Flow.wait_error`), and writing
(`Flow.write`).

Over a whole file, copying stops if a part is refused among those that are answered while the file is
read (`waitedFor`), and nowhere else but at a fault of the file (`Flow.copy_refused`,
`Flow.copy_granted`). A refused part that is answered later is not noticed then. How many parts are
waited for does not depend on the order of the answers (`length_waitedFor`); if they come in the order
in which the parts were put, it is the first parts (`waitedFor_oldestFirst`). -/

namespace CellExchange

namespace Bucket

/-- The bucket after some more requests. -/
def asked (b : Bucket) (requests : List BucketRequest) : Bucket :=
  { b with requests := b.requests ++ requests.toArray }

@[simp] theorem asked_nil (b : Bucket) : b.asked [] = b := by
  rw [asked, Array.append_empty]

@[simp] theorem asked_asked (b : Bucket) (first rest : List BucketRequest) :
    (b.asked first).asked rest = b.asked (first ++ rest) := by
  simp only [asked, Array.append_assoc, List.append_toArray]

@[simp] theorem asked_refuses (b : Bucket) (requests : List BucketRequest) :
    (b.asked requests).refuses = b.refuses := rfl

@[simp] theorem asked_answersFirst (b : Bucket) (requests : List BucketRequest) :
    (b.asked requests).answersFirst = b.answersFirst := rfl

@[simp] theorem asked_objects (b : Bucket) (requests : List BucketRequest) :
    (b.asked requests).objects = b.objects := rfl

/-- Whether a bucket grants a request. -/
def grants (b : Bucket) (call : BucketCall) : Bool := !b.refuses call

/-- A request is noted, and granted or not. -/
theorem request_apply (r : BucketRequest) (b : Bucket) :
    request r b = .ok (b.grants r.call) (b.asked [r]) := by
  show EStateM.Result.ok _ ({ b with requests := b.requests.push r } : Bucket) = _
  rw [asked, Array.append_singleton]
  rfl

/-- A request that has to be granted is noted too, and stops the job if it is refused. -/
theorem demand_apply (r : BucketRequest) (b : Bucket) :
    demand r b =
      if b.refuses r.call then .error (.of .bucket) (b.asked [r]) else .ok () (b.asked [r]) := by
  simp only [demand, bind, EStateM.bind, request_apply, grants]
  cases b.refuses r.call <;> rfl

/-- Whether one of some parts is refused. -/
def refusesAny (b : Bucket) (parts : List Nat) : Bool := parts.any fun n => b.refuses (.part n)

theorem refusesAny_iff {b : Bucket} {parts : List Nat} :
    b.refusesAny parts = true ↔ ∃ n ∈ parts, b.refuses (.part n) = true := List.any_eq_true

@[simp] theorem refusesAny_append (b : Bucket) (first rest : List Nat) :
    b.refusesAny (first ++ rest) = (b.refusesAny first || b.refusesAny rest) := List.any_append

@[simp] theorem asked_refusesAny (b : Bucket) (requests : List BucketRequest) (parts : List Nat) :
    (b.asked requests).refusesAny parts = b.refusesAny parts := rfl

theorem refusesAny_perm {parts others : List Nat} (h : parts.Perm others) (b : Bucket) :
    b.refusesAny parts = b.refusesAny others := h.any_eq

/-! ## Objects -/

/-- What is looked up is found without the entries of another key. -/
theorem lookup_filter_of_ne {key other : ObjectKey} (h : other ≠ key)
    (objects : List (ObjectKey × ByteArray)) :
    (objects.filter fun p => p.1 != key).lookup other = objects.lookup other := by
  induction objects with
  | nil => rfl
  | cons p rest ih =>
    rw [List.filter_cons, List.lookup_cons]
    by_cases hkey : p.1 = key
    · have hother : (other == p.1) = false := beq_eq_false_iff_ne.2 (hkey ▸ h)
      rw [if_neg (by simp [hkey]), ih, hother]
    · rw [if_pos (bne_iff_ne.2 hkey), List.lookup_cons, ih]

@[simp] theorem get?_put (b : Bucket) (key : ObjectKey) (object : ByteArray) :
    (b.put key object).get? key = some object :=
  List.lookup_cons_self

/-- An object that is put leaves those of other keys as they are. -/
theorem get?_put_of_ne {key other : ObjectKey} (h : other ≠ key) (b : Bucket)
    (object : ByteArray) : (b.put key object).get? other = b.get? other := by
  rw [get?, put, List.lookup_cons, beq_eq_false_iff_ne.2 h]
  exact lookup_filter_of_ne h b.objects

/-- An object that is put where it is leaves the objects as they are. -/
theorem objects_put_put (b : Bucket) (key : ObjectKey) (object : ByteArray)
    (requests : List BucketRequest) :
    (((b.put key object).asked requests).put key object).objects = (b.put key object).objects := by
  simp [put, List.filter_filter]

end Bucket

namespace Transfer

/-! ## Full parts -/

theorem partSize_pos : 0 < partSize := by decide

/-- Cutting the full parts off some bytes loses nothing. -/
theorem joined_fullParts (bytes : ByteArray) :
    joined (fullParts bytes).1 ++ (fullParts bytes).2 = bytes :=
  joined_extracts_append_rest bytes partSize (Nat.div_mul_le_self _ _)

/-- The rest behind the full parts is not a full part. -/
theorem size_rest_lt (bytes : ByteArray) : (fullParts bytes).2.size < partSize := by
  have hrest : (fullParts bytes).2.size = bytes.size % partSize := by
    have hdiv := Nat.div_add_mod bytes.size partSize
    rw [Nat.mul_comm] at hdiv
    simp only [fullParts, ByteArray.size_extract, Nat.min_self]
    omega
  rw [hrest]
  exact Nat.mod_lt _ partSize_pos

/-- Every full part has the size of a part. -/
theorem size_of_mem_fullParts {bytes part : ByteArray} (h : part ∈ (fullParts bytes).1) :
    part.size = partSize := by
  simp only [fullParts, List.mem_map, List.mem_range] at h
  obtain ⟨i, hi, rfl⟩ := h
  have hend : (i + 1) * partSize ≤ bytes.size :=
    Nat.le_trans (Nat.mul_le_mul_right _ hi) (Nat.div_mul_le_self _ _)
  rw [ByteArray.size_extract, Nat.min_eq_left hend, Nat.succ_mul]
  exact Nat.add_sub_cancel_left _ _

/-- Parts of full size have as many bytes as they are many. -/
theorem size_joined {parts : List ByteArray} (h : ∀ part ∈ parts, part.size = partSize) :
    (joined parts).size = parts.length * partSize := by
  induction parts with
  | nil => rw [List.length_nil, Nat.zero_mul]; rfl
  | cons part rest ih =>
    rw [joined_cons, ByteArray.size_append, h part List.mem_cons_self, List.length_cons,
      Nat.succ_mul, ih fun p hp => h p (List.mem_cons_of_mem part hp), Nat.add_comm]

/-! ## Waiting -/

/-- Waiting for some answers fails if one of them is a refusal, and leaves the other parts under
way. -/
theorem settle_eq (b : Bucket) (count : Nat) (flight : List Nat) :
    settle b count flight =
      if b.refusesAny (b.answersFirst.answered count flight) then none
      else some (b.answersFirst.unanswered count flight) := by
  induction count generalizing flight with
  | zero => rfl
  | succ count ih =>
    cases flight with
    | nil => rfl
    | cons oldest rest =>
      rw [settle, AnswerOrder.answered, AnswerOrder.unanswered, Bucket.refusesAny, List.any_cons,
        ← Bucket.refusesAny, ih]
      cases b.refuses (.part (b.answersFirst oldest rest)) <;> rfl

theorem wait_apply (t : Transfer) (limit : Nat) (b : Bucket) :
    t.wait limit b =
      if b.refusesAny (b.answersFirst.answered (awaited limit t.flight) t.flight) then
        .error (.of .bucket) b
      else
        .ok { t with flight := b.answersFirst.unanswered (awaited limit t.flight) t.flight } b := by
  simp only [wait, bind, EStateM.bind, get, getThe, MonadStateOf.get, EStateM.get, settle_eq]
  cases b.refusesAny (b.answersFirst.answered (awaited limit t.flight) t.flight) <;> rfl

/-! ## The flow -/

/-- The requests for parts, which are counted from 1. -/
def partRequests (key : ObjectKey) (first : Nat) : List ByteArray → List BucketRequest
  | [] => []
  | part :: rest => ⟨.part (first + 1), key, some part⟩ :: partRequests key (first + 1) rest

theorem partRequests_append (key : ObjectKey) (first : Nat) (parts more : List ByteArray) :
    partRequests key first (parts ++ more) =
      partRequests key first parts ++ partRequests key (first + parts.length) more := by
  induction parts generalizing first with
  | nil => rfl
  | cons part rest ih =>
    rw [List.cons_append, partRequests, partRequests, ih, List.cons_append, List.length_cons,
      Nat.add_right_comm, Nat.add_assoc]

/-- What a transfer has done that began with a bucket and has taken some bytes. -/
structure Flow (start : Bucket) (key : ObjectKey) (seen : ByteArray) (t : Transfer) (b : Bucket) :
    Prop where
  /-- The key is the same all along. -/
  key_eq : t.key = key
  /-- The parts and the buffer hold the bytes. -/
  bytes_eq : joined t.parts.toList ++ t.buffer = seen
  /-- Every part is full. -/
  full : ∀ part ∈ t.parts.toList, part.size = partSize
  /-- The buffer is not. -/
  room : t.buffer.size < partSize
  /-- Nothing was asked but to put the parts. -/
  bucket_eq : b = start.asked (partRequests key 0 t.parts.toList)
  /-- The parts under way were put. -/
  put_of_mem : ∀ n ∈ t.flight, 1 ≤ n ∧ n ≤ t.parts.size
  /-- The other parts that were put were granted. -/
  granted : ∀ n, 1 ≤ n → n ≤ t.parts.size → n ∉ t.flight → start.refuses (.part n) = false
  /-- The bytes are counted. -/
  total_eq : t.total = seen.size

variable {start b : Bucket} {key : ObjectKey} {seen : ByteArray} {t : Transfer}

theorem flow_start (start : Bucket) (key : ObjectKey) :
    Flow start key .empty { key } start where
  key_eq := rfl
  bytes_eq := ByteArray.append_empty
  full := by simp
  room := partSize_pos
  bucket_eq := start.asked_nil.symm
  put_of_mem := by simp
  granted := by
    intro n hn hle
    exact absurd (Nat.le_trans hn hle) (Nat.not_succ_le_zero 0)
  total_eq := rfl

/-- As many parts are put as fit in the bytes. -/
theorem Flow.size_parts (h : Flow start key seen t b) :
    t.parts.size = seen.size / partSize := by
  have hsize : seen.size = t.buffer.size + partSize * t.parts.size := by
    rw [← h.bytes_eq, ByteArray.size_append, size_joined h.full, Array.length_toList,
      Nat.mul_comm, Nat.add_comm]
  rw [hsize, Nat.add_mul_div_left _ _ partSize_pos, Nat.div_eq_of_lt h.room, Nat.zero_add]

/-! ## One step -/

theorem put_apply (t : Transfer) (part : ByteArray) (b : Bucket) :
    t.put part b =
      .ok { t with parts := t.parts.push part, flight := t.flight ++ [t.parts.size + 1] }
        (b.asked [⟨.part (t.parts.size + 1), t.key, some part⟩]) := by
  simp only [put, bind, EStateM.bind, Bucket.request_apply]
  rfl

/-- A transfer behind which parts are put, with a new buffer. -/
def taking (t : Transfer) (parts : List ByteArray) (buffer : ByteArray) : Transfer where
  key := t.key
  buffer := buffer
  parts := t.parts ++ parts.toArray
  flight := t.flight ++ List.range' (t.parts.size + 1) parts.length
  total := t.total

/-- Parts are put in order, and each joins those under way. -/
theorem putAll_apply (t : Transfer) (parts : List ByteArray) (b : Bucket) :
    t.putAll parts b =
      .ok (t.taking parts t.buffer) (b.asked (partRequests t.key t.parts.size parts)) := by
  induction parts generalizing t b with
  | nil => simp [putAll, taking, partRequests, pure, EStateM.pure]
  | cons part rest ih =>
    -- `putAll` pushes one part at a time, `taking` appends them all
    have hparts : t.parts.push part ++ rest.toArray = t.parts ++ (part :: rest).toArray := by
      apply Array.ext'
      simp only [Array.toList_append, Array.toList_push, List.append_assoc, List.singleton_append]
    rw [putAll]
    simp only [bind, EStateM.bind, put_apply]
    rw [ih, Bucket.asked_asked]
    simp only [taking, hparts, Array.size_push, List.length_cons, List.range'_succ,
      List.append_assoc, List.singleton_append]
    rfl

/-- A transfer that has counted more bytes. -/
def counting (t : Transfer) (bytes : ByteArray) : Transfer :=
  { t with total := t.total + bytes.size }

theorem write_apply (t : Transfer) (bytes : ByteArray) (b : Bucket) :
    t.write bytes b =
      .ok ((t.counting bytes).taking (fullParts (t.buffer ++ bytes)).1
          (fullParts (t.buffer ++ bytes)).2)
        (b.asked (partRequests t.key t.parts.size (fullParts (t.buffer ++ bytes)).1)) := by
  rw [write]
  cases fullParts (t.buffer ++ bytes) with
  | mk parts rest => exact putAll_apply { t.counting bytes with buffer := rest } parts b

/-- Full parts and a buffer that together hold more bytes keep the flow. -/
theorem Flow.taking (h : Flow start key seen t b) {parts : List ByteArray}
    {buffer bytes : ByteArray} (hbytes : joined parts ++ buffer = t.buffer ++ bytes)
    (hfull : ∀ part ∈ parts, part.size = partSize) (hroom : buffer.size < partSize) :
    Flow start key (seen ++ bytes) ((t.counting bytes).taking parts buffer)
      (b.asked (partRequests t.key t.parts.size parts)) := by
  have hparts : ((t.counting bytes).taking parts buffer).parts.toList =
      t.parts.toList ++ parts := by
    rw [Transfer.taking, Array.toList_append]
    rfl
  have hsize : ((t.counting bytes).taking parts buffer).parts.size =
      t.parts.size + parts.length := by
    rw [← Array.length_toList, hparts, List.length_append, Array.length_toList]
  have hflight (n : Nat) : n ∈ ((t.counting bytes).taking parts buffer).flight ↔
      n ∈ t.flight ∨ t.parts.size + 1 ≤ n ∧ n < t.parts.size + 1 + parts.length := by
    rw [← List.mem_range'_1, ← List.mem_append]
    rfl
  -- bytes, fullness, requests, the parts under way, those that were granted, and the count
  refine ⟨h.key_eq, ?_, ?_, hroom, ?_, ?_, ?_, ?_⟩
  · rw [hparts, joined_append, ByteArray.append_assoc]
    show _ ++ (joined parts ++ buffer) = _
    rw [hbytes, ← ByteArray.append_assoc, h.bytes_eq]
  · intro part hpart
    rw [hparts, List.mem_append] at hpart
    exact hpart.elim (h.full part) (hfull part)
  · rw [hparts, partRequests_append, h.bucket_eq, Bucket.asked_asked, h.key_eq,
      Array.length_toList, Nat.zero_add]
  · intro n hn
    rw [hsize]
    obtain hn | hn := (hflight n).1 hn
    · have hput := h.put_of_mem n hn
      omega
    · omega
  · intro n hn hle hnot
    rw [hflight, not_or] at hnot
    exact h.granted n hn (by omega) hnot.1
  · rw [ByteArray.size_append, ← h.total_eq]
    rfl

/-- More bytes never fill fewer parts. -/
theorem div_partSize_le (seen more : Nat) : seen / partSize ≤ (seen + more) / partSize :=
  Nat.div_le_div_right (Nat.le_add_right seen more)

/-- The parts that become full when more bytes come behind some. -/
def filledBy (seen more : Nat) : List Nat :=
  List.range' (seen / partSize + 1) ((seen + more) / partSize - seen / partSize)

theorem bounds_of_mem_filledBy {n seen more : Nat} (h : n ∈ filledBy seen more) :
    1 ≤ n ∧ n ≤ (seen + more) / partSize := by
  obtain ⟨hlow, hhigh⟩ := List.mem_range'_1.1 h
  rw [Nat.add_right_comm, Nat.add_sub_cancel' (div_partSize_le seen more)] at hhigh
  exact ⟨Nat.le_trans (Nat.le_add_left 1 _) hlow, Nat.le_of_lt_succ hhigh⟩

/-- Writing keeps the flow, and waits for nothing: the parts that become full join those under
way. -/
theorem Flow.write (h : Flow start key seen t b) (bytes : ByteArray) :
    ∃ t' b', t.write bytes b = .ok t' b' ∧ t'.flight = t.flight ++ filledBy seen.size bytes.size ∧
      Flow start key (seen ++ bytes) t' b' := by
  have hflow := h.taking (joined_fullParts (t.buffer ++ bytes)) (fun _ => size_of_mem_fullParts)
    (size_rest_lt _)
  have hcount := hflow.size_parts
  refine ⟨_, _, write_apply t bytes b, ?_, hflow⟩
  rw [Transfer.taking, ByteArray.size_append] at hcount
  rw [Transfer.taking, filledBy, ← hcount, ← h.size_parts, Array.size_append]
  simp only [List.size_toArray, Nat.add_sub_cancel_left, counting]

/-- Waiting for parts that were all granted keeps the flow. -/
theorem Flow.wait_ok (h : Flow start key seen t b) {limit : Nat}
    (hgranted : start.refusesAny
      (start.answersFirst.answered (awaited limit t.flight) t.flight) = false) :
    ∃ t', t.wait limit b = .ok t' b ∧
      t'.flight = start.answersFirst.unanswered (awaited limit t.flight) t.flight ∧
      Flow start key seen t' b := by
  refine ⟨{ t with
      flight := start.answersFirst.unanswered (awaited limit t.flight) t.flight },
    ?_, rfl, h.key_eq, h.bytes_eq, h.full, h.room, h.bucket_eq, ?_, ?_, h.total_eq⟩
  · rw [wait_apply, h.bucket_eq]
    exact if_neg (Bool.eq_false_iff.1 hgranted)
  · intro n hn
    exact h.put_of_mem n (AnswerOrder.mem_of_mem_unanswered hn)
  · intro n hn hle hnot
    -- a part that is not under way now was answered before, or just now
    by_cases hbefore : n ∈ t.flight
    · have hanswered := ((start.answersFirst.perm_answered (awaited limit t.flight)
        t.flight).mem_iff.2 hbefore)
      refine Bool.eq_false_iff.2 fun hrefused => Bool.eq_false_iff.1 hgranted ?_
      exact Bucket.refusesAny_iff.2
        ⟨n, (List.mem_append.1 hanswered).resolve_right hnot, hrefused⟩
    · exact h.granted n hn hle hbefore

/-- Waiting for a part that was refused fails. -/
theorem Flow.wait_error (h : Flow start key seen t b) {limit : Nat}
    (hrefused : start.refusesAny
      (start.answersFirst.answered (awaited limit t.flight) t.flight) = true) :
    t.wait limit b = .error (.of .bucket) b := by
  rw [wait_apply, h.bucket_eq]
  exact if_pos hrefused

/-! ## The whole file -/

/-- The parts that are waited for while pieces are read behind a number of bytes, when some parts are
under way. -/
def waitedFrom (order : AnswerOrder) (seen : Nat) (flight : List Nat) : List ByteArray → List Nat
  | [] => []
  | piece :: rest =>
    let count := awaited maxInFlight flight
    order.answered count flight ++ waitedFrom order (seen + piece.size)
      (order.unanswered count flight ++ filledBy seen piece.size) rest

/-- The parts that are waited for while a file is read, in the order in which they are answered. -/
def waitedFor (order : AnswerOrder) (pieces : List ByteArray) : List Nat :=
  waitedFrom order 0 [] pieces

/-- How copying ends that met no refusal. -/
def copied (t : Transfer) (b : Bucket) : Option FileFault → EStateM.Result Failure Bucket Transfer
  | none => .ok t b
  | some fault => .error (.of (.file fault)) b

/-- One turn, which waits and then writes a piece, keeps the flow if the parts waited for are
granted, and the other pieces are copied behind it. -/
theorem Flow.copy_piece (h : Flow start key seen t b) (fault : Option FileFault)
    (piece : ByteArray) (rest : List ByteArray)
    (hgranted : start.refusesAny
      (start.answersFirst.answered (awaited maxInFlight t.flight) t.flight) = false) :
    ∃ t' b', t.copy fault (piece :: rest) b = t'.copy fault rest b' ∧
      t'.flight = start.answersFirst.unanswered (awaited maxInFlight t.flight) t.flight ++
        filledBy seen.size piece.size ∧
      Flow start key (seen ++ piece) t' b' := by
  obtain ⟨t₁, hwait, hleft, hflow⟩ := h.wait_ok hgranted
  obtain ⟨t₂, b₂, hwrite, hflight, hflow⟩ := hflow.write piece
  refine ⟨t₂, b₂, ?_, hleft ▸ hflight, hflow⟩
  rw [copy]
  simp only [bind, EStateM.bind, hwait, hwrite]

/-- **Copying meets no refusal** if the parts waited for are granted: it takes the whole file and
ends as the file does. -/
theorem Flow.copy_granted (h : Flow start key seen t b) (fault : Option FileFault)
    (pieces : List ByteArray)
    (hgranted : start.refusesAny (waitedFrom start.answersFirst seen.size t.flight pieces) = false) :
    ∃ t' b', t.copy fault pieces b = copied t' b' fault ∧
      Flow start key (seen ++ joined pieces) t' b' := by
  induction pieces generalizing seen t b with
  | nil =>
    refine ⟨t, b, ?_, ?_⟩
    · cases fault <;> rfl
    · rw [joined_nil, ByteArray.append_empty]
      exact h
  | cons piece rest ih =>
    rw [waitedFrom, Bucket.refusesAny_append, Bool.or_eq_false_iff] at hgranted
    obtain ⟨t₁, b₁, hturn, hflight, hflow⟩ := h.copy_piece fault piece rest hgranted.1
    rw [← ByteArray.size_append, ← hflight] at hgranted
    obtain ⟨t₂, b₂, hcopy, hflow⟩ := ih hflow hgranted.2
    refine ⟨t₂, b₂, hturn.trans hcopy, ?_⟩
    rw [joined_cons, ← ByteArray.append_assoc]
    exact hflow

/-- **Copying stops at a refused part** if one of those waited for is; then nothing was asked but to
put parts. -/
theorem Flow.copy_refused (h : Flow start key seen t b) (fault : Option FileFault)
    (pieces : List ByteArray)
    (hrefused : start.refusesAny (waitedFrom start.answersFirst seen.size t.flight pieces) = true) :
    ∃ parts, t.copy fault pieces b =
      .error (.of .bucket) (start.asked (partRequests key 0 parts)) := by
  induction pieces generalizing seen t b with
  | nil => exact absurd hrefused Bool.false_ne_true
  | cons piece rest ih =>
    -- a refused part is waited for in this turn, or in a later one
    cases hnow : start.refusesAny
        (start.answersFirst.answered (awaited maxInFlight t.flight) t.flight) with
    | true =>
      refine ⟨t.parts.toList, ?_⟩
      rw [copy]
      simp only [bind, EStateM.bind, h.wait_error hnow]
      rw [h.bucket_eq]
    | false =>
      obtain ⟨t₁, b₁, hturn, hflight, hflow⟩ := h.copy_piece fault piece rest hnow
      rw [waitedFrom, Bucket.refusesAny_append, hnow, Bool.false_or, ← ByteArray.size_append,
        ← hflight] at hrefused
      obtain ⟨parts, hcopy⟩ := ih hflow hrefused
      exact ⟨parts, hturn.trans hcopy⟩

/-! ## The parts that are waited for -/

variable {order : AnswerOrder} {n count : Nat} {flight : List Nat} {pieces : List ByteArray}

/-- The parts waited for were under way or become full by the pieces. -/
theorem mem_waitedFrom (h : n ∈ waitedFrom order count flight pieces) :
    n ∈ flight ∨ (1 ≤ n ∧ n ≤ (count + (joined pieces).size) / partSize) := by
  induction pieces generalizing count flight with
  | nil => exact absurd h List.not_mem_nil
  | cons piece rest ih =>
    rw [joined_cons, ByteArray.size_append, ← Nat.add_assoc]
    rw [waitedFrom, List.mem_append] at h
    obtain h | h := h
    · exact Or.inl (AnswerOrder.mem_of_mem_answered h)
    · obtain h | h := ih h
      · obtain h | h := List.mem_append.1 h
        · exact Or.inl (AnswerOrder.mem_of_mem_unanswered h)
        · obtain ⟨hlow, hhigh⟩ := bounds_of_mem_filledBy h
          exact Or.inr ⟨hlow, Nat.le_trans hhigh (div_partSize_le _ _)⟩
      · exact Or.inr h

/-- The number of parts waited for, when some parts are under way at first. -/
theorem length_waitedFrom (order : AnswerOrder) (count : Nat) (flight : List Nat)
    (piece : ByteArray) (rest : List ByteArray) :
    (waitedFrom order count flight (piece :: rest)).length =
      flight.length + ((count + (joined (piece :: rest).dropLast).size) / partSize -
        count / partSize) - (maxInFlight - 1) := by
  have hnow : (order.answered (awaited maxInFlight flight) flight).length =
      flight.length - (maxInFlight - 1) := order.length_answered (Nat.sub_le _ _)
  -- the bytes only become more, so each piece adds the parts that it makes full
  induction rest generalizing count flight piece with
  | nil =>
    rw [waitedFrom, waitedFrom, List.append_nil, hnow, List.dropLast_singleton, joined_nil]
    simp
  | cons next rest ih =>
    have hlater := ih (count + piece.size)
      (order.unanswered (awaited maxInFlight flight) flight ++ filledBy count piece.size) next
      (order.length_answered (Nat.sub_le _ _))
    have hfirst := div_partSize_le count piece.size
    have hrest := div_partSize_le (count + piece.size) (joined (next :: rest).dropLast).size
    rw [List.length_append, AnswerOrder.length_unanswered, filledBy, List.length_range',
      awaited] at hlater
    rw [waitedFrom, List.length_append, hnow, filledBy, awaited, hlater,
      List.dropLast_cons_of_ne_nil (List.cons_ne_nil next rest), joined_cons,
      ByteArray.size_append, ← Nat.add_assoc]
    omega

/-- **The number of parts waited for** while a file is read is that of the parts full before its last
piece, but for as many as may be under way. -/
theorem length_waitedFor (order : AnswerOrder) (pieces : List ByteArray) :
    (waitedFor order pieces).length =
      (joined pieces.dropLast).size / partSize - (maxInFlight - 1) := by
  cases pieces with
  | nil => rfl
  | cons piece rest =>
    rw [waitedFor, length_waitedFrom, Nat.zero_add, Nat.zero_div, Nat.sub_zero, List.length_nil,
      Nat.zero_add]

/-- Parts that are answered in order are waited for in order. -/
theorem exists_waitedFrom_oldestFirst (first under count : Nat)
    (h : first + under = count / partSize) (pieces : List ByteArray) :
    ∃ total, waitedFrom .oldestFirst count (List.range' (first + 1) under) pieces =
      List.range' (first + 1) total := by
  induction pieces generalizing count first under with
  | nil => exact ⟨0, rfl⟩
  | cons piece rest ih =>
    obtain ⟨now, hnow⟩ : ∃ now, awaited maxInFlight (List.range' (first + 1) under) = now := ⟨_, rfl⟩
    have hle : now ≤ under := by
      rw [← hnow, awaited, List.length_range']
      exact Nat.sub_le _ _
    have hmono := div_partSize_le count piece.size
    -- the parts under way are those behind the `first + now` parts that were waited for
    have hflight : List.range' (first + now + 1) (under - now) ++ filledBy count piece.size =
        List.range' (first + now + 1) ((count + piece.size) / partSize - (first + now)) := by
      have hnext : count / partSize + 1 = first + now + 1 + (under - now) := by omega
      rw [filledBy, hnext, List.range'_append_1]
      congr 1
      omega
    obtain ⟨later, hlater⟩ := ih (first + now)
      ((count + piece.size) / partSize - (first + now)) (count + piece.size) (by omega)
    have hunder : List.range' (first + 1) under =
        List.range' (first + 1) now ++ List.range' (first + now + 1) (under - now) := by
      rw [Nat.add_right_comm first now 1, List.range'_append_1, Nat.add_sub_cancel' hle]
    obtain ⟨hanswered, hunanswered⟩ :=
      AnswerOrder.answered_oldestFirst now (List.range' (first + 1) under)
    rw [hunder, List.take_left' List.length_range'] at hanswered
    rw [hunder, List.drop_left' List.length_range'] at hunanswered
    refine ⟨now + later, ?_⟩
    rw [waitedFrom, hnow, hunder, hanswered, hunanswered, hflight, hlater,
      Nat.add_right_comm first now 1, List.range'_append_1]

/-- **If parts are answered in the order in which they were put**, the parts waited for are the
first. -/
theorem waitedFor_oldestFirst (pieces : List ByteArray) :
    waitedFor .oldestFirst pieces =
      List.range' 1 ((joined pieces.dropLast).size / partSize - (maxInFlight - 1)) := by
  obtain ⟨total, htotal⟩ := exists_waitedFrom_oldestFirst 0 0 0 (Nat.zero_div _).symm pieces
  have hlength := length_waitedFor .oldestFirst pieces
  have hwaited : waitedFor .oldestFirst pieces = List.range' 1 total := htotal
  rw [hwaited, List.length_range'] at hlength
  rw [hwaited, hlength]

end Transfer

end CellExchange
