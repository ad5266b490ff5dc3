import CellExchange.Proofs.Bucket.Upload

/-! # The parts of a file

A bucket takes a part only if it is large enough, except for the last one. **A transfer in which
nothing fails puts such parts** (`Transfer.run_parts`): as many as are needed, all of them full but
the last, which is not empty, and in order they make the file. The pieces in which the file is read
do not matter; where they end, a part may be short of its end, full, or begun.

What one piece does to the parts and the buffer is `Transfer.Flow`, which copying keeps. What is
left is how bytes are cut (`Reads.exists_cut_eq_concat`). -/

namespace CellExchange

namespace Reads

theorem length_cut (size : Nat) (bytes : ByteArray) :
    (cut size bytes).length = bytes.size ⌈/⌉ size := by
  rw [cut, List.length_map, List.length_range, Nat.ceilDiv_eq_add_pred_div]

/-- Bytes are cut into full pieces and a last one, which is not empty. -/
theorem exists_cut_eq_concat {size : Nat} (hsize : 0 < size) {bytes : ByteArray}
    (hbytes : bytes.size ≠ 0) :
    ∃ full last, cut size bytes = full ++ [last] ∧ (∀ piece ∈ full, piece.size = size) ∧
      1 ≤ last.size ∧ last.size ≤ size := by
  -- `count` full pieces begin and end inside the bytes, and the next one begins inside them
  obtain ⟨count, hcount⟩ : ∃ count, (bytes.size + size - 1) / size = count + 1 :=
    Nat.exists_eq_succ_of_ne_zero (Nat.div_pos (by omega) hsize).ne'
  have hlow : (count + 1) * size ≤ bytes.size + size - 1 :=
    (Nat.le_div_iff_mul_le hsize).1 (Nat.le_of_eq hcount.symm)
  have hhigh : bytes.size + size - 1 < (count + 1 + 1) * size :=
    (Nat.div_lt_iff_lt_mul hsize).1 (by omega)
  rw [Nat.succ_mul] at hlow
  rw [Nat.succ_mul, Nat.succ_mul] at hhigh
  rw [cut, hcount, List.range_succ, List.map_append]
  refine ⟨_, _, rfl, ?_, ?_⟩
  · intro piece hpiece
    obtain ⟨i, hi, rfl⟩ := List.mem_map.1 hpiece
    have hend : (i + 1) * size ≤ count * size := Nat.mul_le_mul_right size (List.mem_range.1 hi)
    rw [ByteArray.size_extract, Nat.succ_mul]
    rw [Nat.succ_mul] at hend
    omega
  · rw [ByteArray.size_extract, Nat.succ_mul]
    omega

end Reads

namespace Transfer

variable {key : ObjectKey} {j : Journal Bucket} {file : Reads}

/-- The requests for parts ask for one part after another. -/
theorem map_call_partRequests (key : ObjectKey) (first : Nat) (parts : List ByteArray) :
    (partRequests key first parts).map (·.call) =
      (List.range' (first + 1) parts.length).map .part := by
  induction parts generalizing first with
  | nil => rfl
  | cons part rest ih =>
    rw [partRequests, List.map_cons, ih, List.length_cons, List.range'_succ, List.map_cons]

/-- They bring the parts. -/
theorem filterMap_body_partRequests (key : ObjectKey) (first : Nat) (parts : List ByteArray) :
    (partRequests key first parts).filterMap (·.body) = parts := by
  induction parts generalizing first with
  | nil => rfl
  | cons part rest ih => exact congrArg (part :: ·) (ih (first + 1))

/-- **The parts of a file are parts that a bucket takes.** A transfer in which nothing fails, of a
file that is not empty and is read in any pieces, puts as many parts as 5 MiB go into the file,
rounded up, counted from 1, and then completes the upload. Every part but the last is of 5 MiB, the
last has at least one byte and at most 5 MiB, and in order they make the file. The number of bytes
that is reported is the size of the file. -/
theorem run_parts (key : ObjectKey) (nonempty : file.bytes.size ≠ 0)
    (granted : ¬ j.world.Fails file) :
    ∃ (requests : List BucketRequest) (left : Journal Bucket) (parts : List ByteArray),
      run key file j = .ok file.bytes.size left ∧
      left.world.requests = j.world.requests ++ requests.toArray ∧
      requests.map (·.call) = (List.range' 1 parts.length).map .part ++ [.complete] ∧
      requests.filterMap (·.body) = parts ∧
      parts.length = file.bytes.size ⌈/⌉ (5 * 2 ^ 20) ∧
      (∃ full last, parts = full ++ [last] ∧ (∀ part ∈ full, part.size = 5 * 2 ^ 20) ∧
        1 ≤ last.size ∧ last.size ≤ 5 * 2 ^ 20) ∧
      joined parts = file.bytes := by
  refine ⟨_, _, partsOf file.bytes, run_ok key granted, rfl, ?_, ?_, ?_, ?_, ?_⟩
  · rw [List.map_append, map_call_partRequests]
    rfl
  · rw [List.filterMap_append, filterMap_body_partRequests]
    exact List.append_nil _
  · exact Reads.length_cut partSize file.bytes
  · exact Reads.exists_cut_eq_concat partSize_pos nonempty
  · exact Reads.joined_cut partSize_pos file.bytes

/-- Some zeros. -/
def zeros (count : Nat) : ByteArray := ⟨Array.replicate count 0⟩

/-- A file of 12 MiB. The first part ends inside the second piece, and the second part inside the
third one. -/
def threePieces : Reads := ⟨[zeros (3 * 2 ^ 20), zeros (4 * 2 ^ 20), zeros (5 * 2 ^ 20)], none⟩

/-- The file of 12 MiB is put in two full parts and a last one of 2 MiB. -/
theorem run_parts_threePieces :
    ∃ (requests : List BucketRequest) (left : Journal Bucket),
      run ⟨"x.csv.gz".toList⟩ threePieces ⟨{}, #[]⟩ = .ok (12 * 2 ^ 20) left ∧
      left.world.requests = requests.toArray ∧
      (requests.filterMap (·.body)).map ByteArray.size =
        [5 * 2 ^ 20, 5 * 2 ^ 20, 2 * 2 ^ 20] := by
  have hzeros : ∀ count, (zeros count).size = count := fun count => Array.size_replicate
  have hsize : threePieces.bytes.size = 12 * 2 ^ 20 := by
    show (joined threePieces.pieces).size = _
    simp only [threePieces, joined_cons, joined_nil, ByteArray.size_append, hzeros]
    rfl
  obtain ⟨requests, left, parts, hrun, hrequests, -, hparts, hcount, ⟨full, last, hends, hfull, -⟩,
      hjoined⟩ :=
    run_parts (j := ⟨{}, #[]⟩) ⟨"x.csv.gz".toList⟩ (by rw [hsize]; decide)
      (Bucket.not_fails_of_granted (fun _ => rfl) (show threePieces.fault = none from rfl))
  rw [hsize] at hrun hcount
  -- two parts are full, and the last one has the other bytes
  have hlength : full.length = 2 := by
    have hthree : (12 * 2 ^ 20) ⌈/⌉ (5 * 2 ^ 20) = 3 := by decide
    rw [hthree, hends, List.length_append, List.length_singleton] at hcount
    exact Nat.succ.inj hcount
  have hlast : last.size = 2 * 2 ^ 20 := by
    rw [hends, joined_append, joined_cons, joined_nil, ByteArray.append_empty] at hjoined
    have htotal := congrArg ByteArray.size hjoined
    rw [ByteArray.size_append, size_joined hfull, hlength, hsize] at htotal
    have htwo : 2 * partSize = 10 * 2 ^ 20 := rfl
    omega
  refine ⟨requests, left, hrun, hrequests.trans Array.empty_append, ?_⟩
  rw [hparts, hends, List.map_append, List.map_congr_left hfull, List.map_const', hlength,
    List.map_singleton, hlast]
  rfl

end Transfer

end CellExchange
