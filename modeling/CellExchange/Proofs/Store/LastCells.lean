import CellExchange.Proofs.Store.Collapse

/-! # Which cells of a list are kept

Of each network identity `lastPerKey` keeps the last cell, and **this says which cells are kept**
(`lastPerKey_keeps`): those at whose place no later place of their identity follows, so that every
identity of the list is kept once, in the order of the list, and keeping again changes nothing. Of
two lists one behind the other, the first one keeps what it keeps alone, but for the identities that
come again in the second (`lastPerKey_append`).

The last places can be noted on the way: one pass over a list notes the place of every cell under
its identity, over what was noted before (`lastPlaces`), and a second pass keeps the cells whose own
place is noted. Both ways keep the same cells (`lastPerKey_eq_keptByPlace`), and what is noted in
the end are the last places (`getElem?_lastPlaces_eq_some_iff`). -/

namespace CellExchange

deriving instance Hashable for Radio

deriving instance Hashable for CellKey

variable {cells : List Cell} {k : CellKey}

/-! ## Identities -/

theorem mem_map_toCellKey_iff : k ∈ cells.map Cell.toCellKey ↔ cellsOf k cells ≠ [] := by
  rw [List.mem_map, cellsOf, ne_eq, List.filter_eq_nil_iff]
  simp

/-- Of each identity there are as many cells as its identity is listed. -/
theorem count_map_toCellKey (k : CellKey) (cells : List Cell) :
    (cells.map Cell.toCellKey).count k = (cellsOf k cells).length := by
  rw [List.count, List.countP_map, List.countP_eq_length_filter, cellsOf]
  congr 1

/-- The first cell of a list is kept unless its identity comes again. -/
theorem lastPerKey_cons (c : Cell) (rest : List Cell) :
    lastPerKey (c :: rest) =
      if c.toCellKey ∈ rest.map Cell.toCellKey then lastPerKey rest else c :: lastPerKey rest := by
  rw [lastPerKey]
  exact if_congr (any_sameKey_iff.trans mem_map_toCellKey_iff.symm) rfl rfl

/-- The identities that are kept are those of the list. -/
theorem mem_map_lastPerKey : k ∈ (lastPerKey cells).map Cell.toCellKey ↔
    k ∈ cells.map Cell.toCellKey := by
  rw [mem_map_toCellKey_iff, mem_map_toCellKey_iff, cellsOf_lastPerKey]
  simp

/-- **No identity is kept twice.** -/
theorem nodup_lastPerKey (cells : List Cell) :
    ((lastPerKey cells).map Cell.toCellKey).Nodup := by
  rw [List.nodup_iff_count_le_one]
  intro k
  rw [count_map_toCellKey, cellsOf_lastPerKey]
  cases (cellsOf k cells).getLast? with
  | none => exact Nat.zero_le 1
  | some c => exact Nat.le_refl 1

/-! ## Keeping again -/

/-- All cells are kept if no identity comes twice. -/
theorem lastPerKey_of_nodup (h : (cells.map Cell.toCellKey).Nodup) : lastPerKey cells = cells := by
  induction cells with
  | nil => rfl
  | cons c rest ih =>
    obtain ⟨hc, hrest⟩ := List.nodup_cons.1 h
    rw [lastPerKey_cons, if_neg hc, ih hrest]

/-- **Keeping again changes nothing.** -/
theorem lastPerKey_lastPerKey (cells : List Cell) :
    lastPerKey (lastPerKey cells) = lastPerKey cells :=
  lastPerKey_of_nodup (nodup_lastPerKey cells)

/-- **Of two lists one behind the other** the first one keeps what it keeps alone, without the
identities of the second. -/
theorem lastPerKey_append (first second : List Cell) :
    lastPerKey (first ++ second) =
      (lastPerKey first).filter (fun c => c.toCellKey ∉ second.map Cell.toCellKey) ++
        lastPerKey second := by
  induction first with
  | nil => rfl
  | cons c rest ih =>
    rw [List.cons_append, lastPerKey_cons, lastPerKey_cons, ih, List.map_append]
    -- the identity comes again in the rest of the first list, in the second one, or nowhere
    by_cases hrest : c.toCellKey ∈ rest.map Cell.toCellKey
    · rw [if_pos (List.mem_append_left _ hrest), if_pos hrest]
    · rw [if_neg hrest]
      by_cases hsecond : c.toCellKey ∈ second.map Cell.toCellKey
      · rw [if_pos (List.mem_append_right _ hsecond),
          List.filter_cons_of_neg (by simpa using hsecond)]
      · have hnowhere : c.toCellKey ∉ rest.map Cell.toCellKey ++ second.map Cell.toCellKey :=
          fun h => (List.mem_append.1 h).elim hrest hsecond
        rw [if_neg hnowhere, List.filter_cons_of_pos (by simpa using hsecond), List.cons_append]

theorem lastPerKey_concat (cells : List Cell) (c : Cell) :
    lastPerKey (cells ++ [c]) =
      (lastPerKey cells).filter (fun d => d.toCellKey ≠ c.toCellKey) ++ [c] := by
  rw [lastPerKey_append]
  congr 1
  refine List.filter_congr fun d _ => ?_
  simp

/-! ## Last places -/

/-- Whether no later place of a list has the identity of a cell at a place. -/
def IsLast (cells : List Cell) (p : Cell × Nat) : Prop :=
  ∀ q ∈ cells.zipIdx, p.2 < q.2 → q.1.toCellKey ≠ p.1.toCellKey

instance (cells : List Cell) : DecidablePred (IsLast cells) := fun p =>
  inferInstanceAs (Decidable (∀ q ∈ cells.zipIdx, p.2 < q.2 → q.1.toCellKey ≠ p.1.toCellKey))

/-- The places of the cells of a list by their identities, of each identity the one noted last. -/
def lastPlaces (cells : List Cell) : Std.HashMap CellKey Nat :=
  cells.zipIdx.foldl (fun places p => places.insert p.1.toCellKey p.2) ∅

/-- The cells of a list whose own places are noted under their identities. -/
def keptByPlace (cells : List Cell) : List Cell :=
  (cells.zipIdx.filter fun p => (lastPlaces cells)[p.1.toCellKey]? == some p.2).map Prod.fst

theorem zipIdx_concat (cells : List Cell) (c : Cell) :
    (cells ++ [c]).zipIdx = cells.zipIdx ++ [(c, cells.length)] := by
  simp [List.zipIdx_append]

theorem lt_length_of_mem_zipIdx {p : Cell × Nat} (h : p ∈ cells.zipIdx) : p.2 < cells.length :=
  (List.getElem?_eq_some_iff.1 (List.mem_zipIdx_iff_getElem?.1 h)).1

/-- The place of a further cell is noted over that of an earlier one of its identity. -/
theorem getElem?_lastPlaces_concat (cells : List Cell) (c : Cell) (k : CellKey) :
    (lastPlaces (cells ++ [c]))[k]? =
      if c.toCellKey = k then some cells.length else (lastPlaces cells)[k]? := by
  rw [lastPlaces, zipIdx_concat, List.foldl_append, List.foldl_cons, List.foldl_nil,
    Std.HashMap.getElem?_insert]
  simp only [beq_iff_eq]
  rfl

/-- **What is noted in the end** are the last places. -/
theorem getElem?_lastPlaces_eq_some_iff {p : Cell × Nat} (h : p ∈ cells.zipIdx) :
    (lastPlaces cells)[p.1.toCellKey]? = some p.2 ↔ IsLast cells p := by
  induction cells using List.reverseRecOn with
  | nil => cases h
  | append_singleton cells c ih =>
    rw [getElem?_lastPlaces_concat, IsLast, zipIdx_concat]
    simp only [List.forall_mem_append, List.forall_mem_singleton]
    rw [zipIdx_concat, List.mem_append, List.mem_singleton] at h
    obtain h | rfl := h
    · -- an earlier cell: the further one is behind it, and may have its identity
      have hlt := lt_length_of_mem_zipIdx h
      by_cases hc : c.toCellKey = p.1.toCellKey
      · rw [if_pos hc, Option.some_inj]
        exact iff_of_false hlt.ne' fun hlast => hlast.2 hlt hc
      · rw [if_neg hc, ih h, and_iff_left fun _ => hc]
        exact Iff.rfl
    · -- the further cell: no place is behind it
      refine iff_of_true (if_pos rfl) ⟨fun q hq hlt => ?_, fun hlt => absurd hlt (lt_irrefl _)⟩
      exact absurd (lt_length_of_mem_zipIdx hq) (Nat.lt_asymm hlt)

/-- **Two passes keep the cells that are kept.** -/
theorem lastPerKey_eq_keptByPlace (cells : List Cell) : lastPerKey cells = keptByPlace cells := by
  induction cells using List.reverseRecOn with
  | nil => rfl
  | append_singleton cells c ih =>
    have hlast : (lastPlaces (cells ++ [c]))[c.toCellKey]? = some cells.length := by
      rw [getElem?_lastPlaces_concat, if_pos rfl]
    -- an earlier cell is still kept if the further one has another identity
    have hearlier : ∀ p ∈ cells.zipIdx,
        ((lastPlaces (cells ++ [c]))[p.1.toCellKey]? == some p.2) =
          (decide (p.1.toCellKey ≠ c.toCellKey) &&
            (lastPlaces cells)[p.1.toCellKey]? == some p.2) := by
      intro p hp
      rw [getElem?_lastPlaces_concat]
      by_cases hc : c.toCellKey = p.1.toCellKey
      · simp [hc, (lt_length_of_mem_zipIdx hp).ne']
      · simp [hc, Ne.symm hc]
    rw [lastPerKey_concat, ih, keptByPlace, keptByPlace, zipIdx_concat, List.filter_append,
      List.filter_congr hearlier, List.map_append, List.filter_map, List.filter_filter]
    simp [hlast]

/-- The cells that are kept are those at last places. -/
theorem lastPerKey_eq_filter (cells : List Cell) :
    lastPerKey cells = (cells.zipIdx.filter fun p => IsLast cells p).map Prod.fst := by
  rw [lastPerKey_eq_keptByPlace, keptByPlace]
  congr 1
  refine List.filter_congr fun p hp => ?_
  rw [Bool.eq_iff_iff, beq_iff_eq, decide_eq_true_eq, getElem?_lastPlaces_eq_some_iff hp]

/-- **Which cells are kept.** They stand in the order of the list, have each identity of the list
once, and are the cells behind whose place the list has no other cell of their identity. Keeping
again changes nothing; and of two lists one behind the other, the first one loses the identities of
the second, and the second one keeps what it keeps alone. -/
theorem lastPerKey_keeps (cells : List Cell) :
    (lastPerKey cells).Sublist cells ∧
      ((lastPerKey cells).map Cell.toCellKey).Nodup ∧
      (∀ k, k ∈ (lastPerKey cells).map Cell.toCellKey ↔ k ∈ cells.map Cell.toCellKey) ∧
      lastPerKey cells = (cells.zipIdx.filter fun p =>
        ∀ q ∈ cells.zipIdx, p.2 < q.2 → q.1.toCellKey ≠ p.1.toCellKey).map Prod.fst ∧
      lastPerKey (lastPerKey cells) = lastPerKey cells ∧
      ∀ first second, lastPerKey (first ++ second) =
        (lastPerKey first).filter (fun c => c.toCellKey ∉ second.map Cell.toCellKey) ++
          lastPerKey second :=
  ⟨lastPerKey_sublist cells, nodup_lastPerKey cells, fun _ => mem_map_lastPerKey,
    lastPerKey_eq_filter cells, lastPerKey_lastPerKey cells, lastPerKey_append⟩

end CellExchange
