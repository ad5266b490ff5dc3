import CellExchange.Files
import Mathlib

/-! # Bytes in pieces

Files arrive in pieces and leave in parts; what counts is what the pieces make when they are put
together (`joined`). Cutting bytes into pieces of one size and joining them again gives the bytes
back, with the end of the bytes short or not (`joined_extracts`, `Reads.joined_cut`). -/

namespace CellExchange

/-- What pieces of bytes make together. -/
def joined (pieces : List ByteArray) : ByteArray := pieces.foldl (· ++ ·) .empty

@[simp] theorem joined_nil : joined [] = .empty := rfl

/-- Joining behind some bytes is joining, and then putting the bytes in front. -/
theorem foldl_eq_append_joined (start : ByteArray) (pieces : List ByteArray) :
    pieces.foldl (· ++ ·) start = start ++ joined pieces := by
  induction pieces generalizing start with
  | nil => exact ByteArray.append_empty.symm
  | cons piece rest ih =>
    rw [joined, List.foldl_cons, List.foldl_cons, ih, ih, ByteArray.empty_append,
      ByteArray.append_assoc]

@[simp] theorem joined_cons (piece : ByteArray) (rest : List ByteArray) :
    joined (piece :: rest) = piece ++ joined rest := by
  rw [joined, List.foldl_cons, foldl_eq_append_joined, ByteArray.empty_append]

@[simp] theorem joined_append (first rest : List ByteArray) :
    joined (first ++ rest) = joined first ++ joined rest := by
  rw [joined, List.foldl_append, foldl_eq_append_joined]
  rfl

/-- The bytes of a list are the bytes of the array. -/
theorem toList_loop (bytes : ByteArray) (i : Nat) (found : List UInt8) :
    ByteArray.toList.loop bytes i found = found.reverse ++ bytes.data.toList.drop i := by
  fun_induction ByteArray.toList.loop bytes i found with
  | case1 i found hlt ih =>
    have hlength : i < bytes.data.toList.length := hlt
    have hbyte : bytes.get! i = bytes.data.toList[i] := getElem!_pos bytes.data i hlt
    rw [ih, List.drop_eq_getElem_cons hlength, hbyte, List.reverse_cons, List.append_assoc]
    rfl
  | case2 i found hge =>
    rw [List.drop_eq_nil_of_le (Nat.le_of_not_lt hge), List.append_nil]

theorem toList_eq (bytes : ByteArray) : bytes.toList = bytes.data.toList := by
  rw [ByteArray.toList, toList_loop]
  rfl

/-- The bytes of pieces, one piece after another, are the bytes that the pieces make. -/
theorem flatten_toList (pieces : List ByteArray) :
    (pieces.map ByteArray.toList).flatten = (joined pieces).data.toList := by
  induction pieces with
  | nil => rfl
  | cons piece rest ih =>
    rw [List.map_cons, List.flatten_cons, ih, joined_cons, ByteArray.data_append,
      Array.toList_append, toList_eq]

/-- Cutting `count` pieces of one size gives the bytes up to the end of the last one. -/
theorem joined_extracts (bytes : ByteArray) (size count : Nat) :
    joined ((List.range count).map fun i => bytes.extract (i * size) ((i + 1) * size)) =
      bytes.extract 0 (count * size) := by
  induction count with
  | zero => rw [Nat.zero_mul, ByteArray.extract_same]; rfl
  | succ count ih =>
    have hend : count * size ≤ (count + 1) * size := Nat.mul_le_mul_right size (Nat.le_succ count)
    rw [List.range_succ, List.map_append, joined_append, ih, List.map_singleton, joined_cons,
      joined_nil, ByteArray.append_empty, ByteArray.extract_append_extract,
      Nat.min_eq_left (Nat.zero_le _), Nat.max_eq_right hend]

/-- A whole number of pieces and the rest behind them. -/
theorem joined_extracts_append_rest (bytes : ByteArray) (size : Nat) {count : Nat}
    (h : count * size ≤ bytes.size) :
    joined ((List.range count).map fun i => bytes.extract (i * size) ((i + 1) * size)) ++
      bytes.extract (count * size) bytes.size = bytes := by
  rw [joined_extracts, ByteArray.extract_append_extract, Nat.min_eq_left (Nat.zero_le _),
    Nat.max_eq_right h, ByteArray.extract_zero_size]

namespace Reads

/-- Cutting a file into pieces loses nothing. -/
theorem joined_cut {size : Nat} (hsize : 0 < size) (bytes : ByteArray) :
    joined (cut size bytes) = bytes := by
  -- the number of pieces is rounded up, so they reach the end
  have hcount : bytes.size ≤ (bytes.size + size - 1) / size * size := by
    have hdiv := Nat.div_add_mod (bytes.size + size - 1) size
    have hmod := Nat.mod_lt (bytes.size + size - 1) hsize
    rw [Nat.mul_comm size] at hdiv
    omega
  rw [cut, joined_extracts]
  apply ByteArray.ext
  rw [ByteArray.data_extract]
  exact Array.extract_eq_self_of_le hcount

/-- A piece of full size is cut off first. -/
theorem cut_append {size : Nat} (hsize : 0 < size) {piece : ByteArray} (h : piece.size = size)
    (bytes : ByteArray) : cut size (piece ++ bytes) = piece :: cut size bytes := by
  have hcount : ((piece ++ bytes).size + size - 1) / size = (bytes.size + size - 1) / size + 1 := by
    rw [← Nat.add_div_right _ hsize, ByteArray.size_append, h]
    congr 1
    omega
  rw [cut, cut, hcount, List.range_succ_eq_map, List.map_cons, List.map_map]
  refine List.cons_eq_cons.2 ⟨?_, List.map_congr_left fun i _ => ?_⟩
  · rw [Nat.zero_mul, Nat.zero_add, Nat.one_mul, ← h]
    exact ByteArray.extract_append_eq_left rfl
  · have hstart : (i + 1) * size = piece.size + i * size := by
      rw [h, Nat.succ_mul, Nat.add_comm]
    have hend : (i + 1 + 1) * size = piece.size + (i + 1) * size := by
      rw [h, Nat.succ_mul, Nat.add_comm]
    show (piece ++ bytes).extract ((i + 1) * size) ((i + 1 + 1) * size) = _
    rw [hend, hstart, ByteArray.extract_append_size_add, ← hstart]

/-- Bytes that fill no piece are a piece of their own, unless there are none. -/
theorem cut_of_size_lt {size : Nat} {bytes : ByteArray} (h : bytes.size < size) :
    cut size bytes = if bytes.size = 0 then [] else [bytes] := by
  by_cases hempty : bytes.size = 0
  · have hcount : (bytes.size + size - 1) / size = 0 := Nat.div_eq_of_lt (by omega)
    rw [if_pos hempty, cut, hcount]
    rfl
  · have hcount : (bytes.size + size - 1) / size = 1 := by
      rw [show bytes.size + size - 1 = bytes.size - 1 + size by omega,
        Nat.add_div_right _ (by omega), Nat.div_eq_of_lt (by omega)]
    rw [if_neg hempty, cut, hcount]
    show [bytes.extract (0 * size) (1 * size)] = _
    rw [Nat.zero_mul, Nat.one_mul, ← Nat.max_eq_left (Nat.le_of_lt h),
      ByteArray.extract_zero_max_size]

/-- Cutting gives back full pieces with a rest behind them. -/
theorem cut_joined_append {size : Nat} {pieces : List ByteArray}
    (hfull : ∀ piece ∈ pieces, piece.size = size) {rest : ByteArray} (hrest : rest.size < size) :
    cut size (joined pieces ++ rest) = pieces ++ if rest.size = 0 then [] else [rest] := by
  induction pieces with
  | nil => rw [joined_nil, ByteArray.empty_append, cut_of_size_lt hrest]; rfl
  | cons piece more ih =>
    have hpiece : piece.size = size := hfull piece List.mem_cons_self
    rw [joined_cons, ByteArray.append_assoc, cut_append (Nat.zero_lt_of_lt hrest) hpiece,
      ih fun p hp => hfull p (List.mem_cons_of_mem piece hp)]
    rfl

end Reads

/-- **A file that was written reads back**: what a reader meets are its bytes, without a fault. -/
theorem FileNode.bytes_reads (bytes : ByteArray) : (data bytes).reads.bytes = bytes :=
  Reads.joined_cut (by decide) bytes

end CellExchange
