import CellExchange.Store.Database
import Mathlib

/-! # Cells in batches

Cells are handed on in batches that are full, but for the last one (`Batched`): an import hands its
cells to a store in such batches, and a database stores a batch with statements of such pieces
(`batched_chunks`). How many batches there are is settled by the number of cells
(`Batched.length_eq`). -/

namespace CellExchange

/-- Whether some cells are cut into batches of a size: all batches are full but the last one, which
holds a cell at least. -/
structure Batched (size : Nat) (batches : List (List Cell)) : Prop where
  /-- The batches before the last one are full. -/
  full : ∀ batch ∈ batches.dropLast, batch.length = size
  /-- The last batch is neither empty nor too large. -/
  last : ∀ batch ∈ batches.getLast?, 1 ≤ batch.length ∧ batch.length ≤ size

section Batched

variable {size : Nat} {batches : List (List Cell)} {batch : List Cell}

/-- Full batches, and one more that has a cell. -/
theorem batched_concat (hfull : ∀ b ∈ batches, b.length = size)
    (hlast : 1 ≤ batch.length ∧ batch.length ≤ size) : Batched size (batches ++ [batch]) where
  full := by
    rw [List.dropLast_concat]
    exact hfull
  last := by
    rw [List.getLast?_concat]
    rintro b hb
    cases hb
    exact hlast

/-- Full batches. -/
theorem batched_of_full (hsize : 1 ≤ size) (hfull : ∀ b ∈ batches, b.length = size) :
    Batched size batches where
  full b hb := hfull b (List.mem_of_mem_dropLast hb)
  last b hb := by
    rw [hfull b (List.mem_of_getLast? hb)]
    exact ⟨hsize, Nat.le_refl size⟩

/-- As many batches are needed as there are batches of the size in the cells, the last one counted
even if it is not full. -/
theorem Batched.length_eq (h : Batched size batches) :
    batches.length = batches.flatten.length ⌈/⌉ size := by
  rcases List.eq_nil_or_concat batches with rfl | ⟨init, last, rfl⟩
  · exact (zero_ceilDiv size).symm
  · have hfull := h.full
    obtain ⟨hsome, hroom⟩ := h.last last (by rw [List.concat_eq_append, List.getLast?_concat]; rfl)
    rw [List.concat_eq_append, List.dropLast_concat] at hfull
    have hinit : init.flatten.length = init.length * size := by
      rw [List.length_flatten, List.map_congr_left hfull, List.map_const', List.sum_replicate,
        smul_eq_mul]
    -- the last batch counts once, however few cells it holds
    have hcells : (init.flatten ++ last).length + size - 1 =
        (last.length - 1) + (init.length + 1) * size := by
      rw [List.length_append, hinit, Nat.succ_mul]
      omega
    rw [List.concat_eq_append, List.flatten_append, List.flatten_singleton,
      Nat.ceilDiv_eq_add_pred_div, hcells, Nat.add_mul_div_right _ _ (by omega),
      Nat.div_eq_of_lt (by omega), List.length_append]
    exact (Nat.zero_add _).symm

/-- A full batch before others. -/
theorem Batched.cons (h : Batched size batches) (hne : batches ≠ []) (hfull : batch.length = size) :
    Batched size (batch :: batches) where
  full := by
    rw [List.dropLast_cons_of_ne_nil hne, List.forall_mem_cons]
    exact ⟨hfull, h.full⟩
  last := by
    rw [List.getLast?_cons_of_ne_nil hne]
    exact h.last

/-- **Every batch holds** a cell at least, and no more than the size. -/
theorem Batched.length_le (h : Batched size batches) (hsize : 1 ≤ size) :
    ∀ b ∈ batches, 1 ≤ b.length ∧ b.length ≤ size := by
  rintro b hb
  rcases List.eq_nil_or_concat batches with rfl | ⟨init, last, rfl⟩
  · cases hb
  have hfull := h.full
  have hlast := h.last last (by rw [List.concat_eq_append, List.getLast?_concat]; rfl)
  rw [List.concat_eq_append, List.dropLast_concat] at hfull
  rw [List.concat_eq_append, List.mem_append, List.mem_singleton] at hb
  rcases hb with hb | rfl
  · rw [hfull b hb]
    exact ⟨hsize, Nat.le_refl size⟩
  · exact hlast

/-! ## The pieces of a list -/

variable {bound : Nat} {cells : List Cell}

theorem chunks_nil (size bound : Nat) : chunks size bound [] = [] := by
  cases bound <;> rfl

theorem chunks_succ (size bound : Nat) (hne : cells ≠ []) :
    chunks size (bound + 1) cells = cells.take size :: chunks size bound (cells.drop size) := by
  rw [chunks]
  exact hne

/-- **The pieces of a list** are full but for the last one. -/
theorem batched_chunks (hsize : 1 ≤ size) (enough : cells.length ≤ bound) :
    Batched size (chunks size bound cells) := by
  induction bound generalizing cells with
  | zero => exact batched_of_full hsize nofun
  | succ bound ih =>
    rcases eq_or_ne cells [] with rfl | hne
    · exact batched_of_full hsize nofun
    have hpos : 0 < cells.length := List.length_pos_iff.2 hne
    rw [chunks_succ size bound hne]
    rcases eq_or_ne (cells.drop size) [] with hend | hmore
    · -- the last piece
      rw [hend, chunks_nil]
      have hlast : 1 ≤ (cells.take size).length ∧ (cells.take size).length ≤ size := by
        rw [List.length_take]
        omega
      exact batched_concat (List.forall_mem_nil _) hlast
    · -- another piece follows, so this one is full
      have hlength : size < cells.length :=
        Nat.lt_of_not_le fun h => hmore (List.drop_eq_nil_iff.2 h)
      obtain ⟨bound, rfl⟩ : ∃ n, bound = n + 1 := ⟨bound - 1, by omega⟩
      refine (ih ?_).cons ?_ ?_
      · rw [List.length_drop]
        omega
      · rw [chunks_succ size bound hmore]
        exact List.cons_ne_nil _ _
      · rw [List.length_take]
        omega

end Batched

end CellExchange
