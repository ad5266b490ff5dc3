import CellExchange.Proofs.Store.Rows

/-! # The identities of the rows

The rows of a table are in the order in which their network identities first came. Storing cells
leaves the identities that are there in their places, and those that are new follow in the order in
which they first come among the cells (`CellTable.map_identity_putAll`); so **no identity gets a
second row** (`CellTable.nodup_identity_putAll`).

Where no identity has two rows, a row is found by its identity (`CellTable.row?_eq_some_iff`). What
a table holds after cells are stored then depends on the cells of each identity and their order
alone: **cells of different identities can be stored in any order**, up to the order of the rows
(`CellTable.perm_putAll`). -/

namespace CellExchange

/-- The network identity of a row, with the number of the radio type. -/
def CellRow.identity (r : CellRow) : Int16 × Int32 × Int32 × Int32 × Int64 :=
  (r.radio, r.mcc, r.mnc, r.lac, r.cid)

/-- The identity that the row of a cell has. -/
def CellKey.identity (k : CellKey) : Int16 × Int32 × Int32 × Int32 × Int64 :=
  (k.radio.code, k.mcc, k.mnc, k.lac, k.cid)

theorem CellRow.identity_ofCell (c : Cell) : (ofCell c).identity = c.toCellKey.identity := rfl

theorem CellRow.holds_iff_identity {r : CellRow} {k : CellKey} :
    r.holds k = true ↔ r.identity = k.identity := by
  rw [holds_iff]
  simp only [identity, CellKey.identity, Prod.mk.injEq]

/-- The cells of one network identity, in order. -/
def cellsOf (k : CellKey) (cells : List Cell) : List Cell := cells.filter fun c => c.toCellKey = k

theorem toCellKey_of_mem_cellsOf {k : CellKey} {cells : List Cell} {c : Cell}
    (h : c ∈ cellsOf k cells) : c.toCellKey = k := by
  simpa using (List.mem_filter.1 h).2

theorem mem_cellsOf_self {cells : List Cell} {c : Cell} :
    c ∈ cellsOf c.toCellKey cells ↔ c ∈ cells := by
  simp [cellsOf]

namespace CellTable

variable {t : CellTable} {cells : List Cell} {c : Cell} {k : CellKey} {r : CellRow}

/-! ## The order of the identities -/

/-- The identities of a table after a cell is stored: those before, and the cell's own if it is
new. -/
theorem map_identity_put (t : CellTable) (c : Cell) :
    (t.put c).map CellRow.identity =
      if c.toCellKey.identity ∈ t.map CellRow.identity then t.map CellRow.identity
      else t.map CellRow.identity ++ [c.toCellKey.identity] := by
  induction t with
  | nil => rfl
  | cons r rows ih =>
    -- the row is the one for the cell, or the cell is stored behind it
    by_cases hc : r.holds c.toCellKey = true
    · rw [put_cons_of_holds rows hc, if_pos]
      · rfl
      · rw [List.map_cons, CellRow.holds_iff_identity.1 hc]
        exact List.mem_cons_self
    · have hne : c.toCellKey.identity ≠ r.identity :=
        fun h => hc (CellRow.holds_iff_identity.2 h.symm)
      rw [put_cons_of_not_holds rows (Bool.eq_false_iff.2 hc), List.map_cons, List.map_cons, ih]
      simp only [List.mem_cons, hne, false_or]
      split <;> rfl

/-- The identities of cells that are not among some known ones, in the order in which they first
come. -/
def newIdentities (known : List (Int16 × Int32 × Int32 × Int32 × Int64)) (cells : List Cell) :
    List (Int16 × Int32 × Int32 × Int32 × Int64) :=
  ((cells.map fun c => c.toCellKey.identity).filter fun i => i ∉ known).eraseDups

/-- **The identities of a table after cells are stored**: those before, in their places, and then
the new ones. -/
theorem map_identity_putAll (t : CellTable) (cells : List Cell) :
    (t.putAll cells).map CellRow.identity =
      t.map CellRow.identity ++ newIdentities (t.map CellRow.identity) cells := by
  induction cells generalizing t with
  | nil => exact (List.append_nil _).symm
  | cons c rest ih =>
    rw [putAll_cons, ih, map_identity_put, newIdentities, newIdentities, List.map_cons]
    split
    · next hknown => rw [List.filter_cons_of_neg (by simpa using hknown)]
    · next hnew =>
      -- what comes behind a new identity is new if it is another one
      have hrest : ∀ i, (decide (i ∉ t.map CellRow.identity ++ [c.toCellKey.identity])) =
          (!(i == c.toCellKey.identity) && decide (i ∉ t.map CellRow.identity)) := by
        intro i
        rw [Bool.eq_iff_iff]
        simp [and_comm]
      rw [List.filter_cons_of_pos (by simpa using hnew), List.eraseDups_cons, List.filter_filter,
        List.append_assoc, List.singleton_append]
      simp only [hrest]

/-- The identities after cells are stored are those before and those of the cells. -/
theorem mem_identity_putAll {i : Int16 × Int32 × Int32 × Int32 × Int64} :
    i ∈ (t.putAll cells).map CellRow.identity ↔
      i ∈ t.map CellRow.identity ∨ ∃ c ∈ cells, c.toCellKey.identity = i := by
  have hcells : (∃ c ∈ cells, c.toCellKey.identity = i) ↔
      i ∈ cells.map fun c => c.toCellKey.identity := List.mem_map.symm
  rw [map_identity_putAll, List.mem_append, newIdentities, List.mem_eraseDups, List.mem_filter,
    hcells]
  by_cases hknown : i ∈ t.map CellRow.identity
  · exact iff_of_true (Or.inl hknown) (Or.inl hknown)
  · exact or_congr_right (and_iff_left (decide_eq_true hknown))

theorem nodup_identity_put (h : (t.map CellRow.identity).Nodup) (c : Cell) :
    ((t.put c).map CellRow.identity).Nodup := by
  rw [map_identity_put]
  split
  · exact h
  · next hnew =>
    -- a new identity comes to the end, and no row before has it
    exact List.nodup_append.2 ⟨h, List.nodup_singleton _, fun a ha b hb heq =>
      hnew (List.mem_singleton.1 hb ▸ heq ▸ ha)⟩

/-- **No identity gets a second row.** -/
theorem nodup_identity_putAll (h : (t.map CellRow.identity).Nodup) (cells : List Cell) :
    ((t.putAll cells).map CellRow.identity).Nodup := by
  induction cells generalizing t with
  | nil => exact h
  | cons c rest ih => exact ih (nodup_identity_put h c)

/-- A cell of a new identity becomes the row behind a table. -/
theorem put_of_notMem (h : c.toCellKey.identity ∉ t.map CellRow.identity) :
    t.put c = t ++ [.ofCell c] := by
  induction t with
  | nil => rfl
  | cons r rows ih =>
    rw [List.map_cons, List.mem_cons, not_or] at h
    have hr : r.holds c.toCellKey = false :=
      Bool.eq_false_iff.2 fun hr => h.1 (CellRow.holds_iff_identity.1 hr).symm
    rw [put_cons_of_not_holds rows hr, ih h.2, List.cons_append]

/-- Cells of new identities, no two of one, become the rows behind a table. -/
theorem putAll_of_nodup
    (h : (t.map CellRow.identity ++ cells.map fun c => c.toCellKey.identity).Nodup) :
    t.putAll cells = t ++ cells.map CellRow.ofCell := by
  induction cells generalizing t with
  | nil => exact (List.append_nil t).symm
  | cons c rest ih =>
    have hnew : c.toCellKey.identity ∉ t.map CellRow.identity := fun hmem =>
      (List.nodup_append.1 h).2.2 _ hmem _ List.mem_cons_self rfl
    rw [putAll_cons, put_of_notMem hnew, ih, List.map_cons, List.append_assoc,
      List.singleton_append]
    rwa [List.map_append, List.map_singleton, List.append_assoc, List.singleton_append]

/-! ## Rows by their identity -/

/-- Where no identity has two rows, the row of an identity is the one that has it. -/
theorem row?_eq_some_iff (h : (t.map CellRow.identity).Nodup) :
    t.row? k = some r ↔ r ∈ t ∧ r.holds k = true := by
  constructor
  · intro hrow
    have hfind : t.find? (fun r => r.holds k) = some r := hrow
    have hholds := List.find?_some hfind
    exact ⟨List.mem_of_find?_eq_some hfind, hholds⟩
  · rintro ⟨hmem, hr⟩
    induction t with
    | nil => exact absurd hmem List.not_mem_nil
    | cons q rows ih =>
      obtain ⟨hq, hrows⟩ := List.nodup_cons.1 h
      rw [row?_cons]
      obtain rfl | hlater := List.mem_cons.1 hmem
      · rw [if_pos hr]
      · -- the first row has another identity than the one behind it
        rw [if_neg, ih hrows hlater]
        intro hfirst
        refine hq (List.mem_map.2 ⟨r, hlater, ?_⟩)
        rw [CellRow.holds_iff_identity.1 hr, CellRow.holds_iff_identity.1 hfirst]

/-- The rows after cells are stored: those of other identities, and the rows of the identities of
the cells. -/
theorem mem_putAll_iff (h : (t.map CellRow.identity).Nodup) :
    r ∈ t.putAll cells ↔ r ∈ t.others cells ∨
      ∃ c ∈ cells, CellRow.after (t.row? c.toCellKey) (cellsOf c.toCellKey cells) = some r := by
  have hrow : ∀ c : Cell, CellRow.after (t.row? c.toCellKey) (cellsOf c.toCellKey cells) = some r ↔
      r ∈ t.putAll cells ∧ r.holds c.toCellKey = true := by
    intro c
    rw [← row?_eq_some_iff (nodup_identity_putAll h cells), row?_putAll, cellsOf]
  simp only [hrow]
  rw [← others_putAll, others, List.mem_filter, List.all_eq_true]
  constructor
  · intro hmem
    by_cases hcell : ∃ c ∈ cells, r.holds c.toCellKey = true
    · obtain ⟨c, hc, hr⟩ := hcell
      exact Or.inr ⟨c, hc, hmem, hr⟩
    · refine Or.inl ⟨hmem, fun c hc => ?_⟩
      rw [Bool.not_eq_true', Bool.eq_false_iff]
      exact fun hr => hcell ⟨c, hc, hr⟩
  · rintro (⟨hmem, -⟩ | ⟨c, -, hmem, -⟩)
    exacts [hmem, hmem]

/-- Only the identities of the cells decide which rows are not theirs. -/
theorem others_congr {first second : List Cell}
    (h : ∀ c, c ∈ first ↔ c ∈ second) (t : CellTable) : t.others first = t.others second := by
  refine List.filter_congr fun r _ => ?_
  rw [Bool.eq_iff_iff, List.all_eq_true, List.all_eq_true]
  simp only [h]

/-- **Cells of different identities can be stored in any order**: if two lists have the cells of
each identity in one order, they leave the same rows. -/
theorem perm_putAll {first second : List Cell} (h : (t.map CellRow.identity).Nodup)
    (same : ∀ k, cellsOf k first = cellsOf k second) :
    (t.putAll first).Perm (t.putAll second) := by
  have hmem : ∀ c, c ∈ first ↔ c ∈ second := by
    intro c
    rw [← mem_cellsOf_self, same, mem_cellsOf_self]
  refine (List.perm_ext_iff_of_nodup (nodup_identity_putAll h first).of_map
    (nodup_identity_putAll h second).of_map).2 fun r => ?_
  rw [mem_putAll_iff h, mem_putAll_iff h, others_congr hmem]
  simp only [hmem, same]

end CellTable

end CellExchange
