import CellExchange.Store.Table
import Mathlib

/-! # The rows of a table as cells are stored

What storing cells does to a table, said in two ways. **By network identity**: `CellTable.row?` is
the row of an identity, and `row?_putAll` gives it after any list of cells in closed form
(`CellRow.after`): the row keeps its identity and what tells of the first sighting, and takes all
else from the last cell of its identity. **By the table as a whole**: cells that find their rows can
be stored in any order up to the last of each identity (`put_comm`, `put_put`), so storing a list a
second time changes nothing (`putAll_putAll`), not even the order of the rows. -/

namespace CellExchange

/-- Different radio types have different numbers. -/
theorem Radio.code_inj {r s : Radio} : r.code = s.code ↔ r = s := by
  cases r <;> cases s <;> decide

namespace CellRow

/-! ## The identity of a row -/

theorem holds_iff {r : CellRow} {k : CellKey} :
    r.holds k = true ↔
      r.radio = k.radio.code ∧ r.mcc = k.mcc ∧ r.mnc = k.mnc ∧ r.lac = k.lac ∧ r.cid = k.cid := by
  simp only [holds, Bool.and_eq_true, beq_iff_eq, and_assoc]

/-- A row is the row of one identity at most. -/
theorem holds_unique {r : CellRow} {j k : CellKey} (hj : r.holds j = true)
    (hk : r.holds k = true) : j = k := by
  obtain ⟨radio, mcc, mnc, lac, cid⟩ := j
  obtain ⟨radio', mcc', mnc', lac', cid'⟩ := k
  obtain ⟨h₁, h₂, h₃, h₄, h₅⟩ := holds_iff.1 hj
  obtain ⟨h₁', h₂', h₃', h₄', h₅'⟩ := holds_iff.1 hk
  have hradio : radio = radio' := Radio.code_inj.1 (h₁.symm.trans h₁')
  simp only [CellKey.mk.injEq]
  exact ⟨hradio, h₂.symm.trans h₂', h₃.symm.trans h₃', h₄.symm.trans h₄', h₅.symm.trans h₅'⟩

@[simp] theorem holds_refresh (r : CellRow) (c : Cell) (k : CellKey) :
    (r.refresh c).holds k = r.holds k := rfl

@[simp] theorem holds_ofCell_self (c : Cell) : (ofCell c).holds c.toCellKey = true :=
  holds_iff.2 ⟨rfl, rfl, rfl, rfl, rfl⟩

/-- A fresh row is the row of its cell's identity only. -/
theorem holds_ofCell {c : Cell} {k : CellKey} :
    (ofCell c).holds k = true ↔ c.toCellKey = k := by
  constructor
  · intro h
    exact holds_unique (holds_ofCell_self c) h
  · rintro rfl
    exact holds_ofCell_self c

/-! ## Rows and further sightings -/

/-- Of two sightings only the later one shows. -/
@[simp] theorem refresh_refresh (r : CellRow) (c d : Cell) :
    (r.refresh c).refresh d = r.refresh d := rfl

@[simp] theorem refresh_ofCell (c : Cell) : (ofCell c).refresh c = ofCell c := rfl

/-- The row of an identity after sightings of its cell: the first one makes the row if there is
none, and the last one gives the values that change. -/
def after (o : Option CellRow) : List Cell → Option CellRow
  | [] => o
  | first :: rest => some ((o.getD (ofCell first)).refresh (rest.getLastD first))

@[simp] theorem after_nil (o : Option CellRow) : after o [] = o := rfl

/-- One sighting makes or refreshes the row. -/
theorem after_singleton (o : Option CellRow) (c : Cell) :
    after o [c] = some ((o.getD (ofCell c)).refresh c) := rfl

/-- Sightings one after another: those behind the first find a row. -/
theorem after_cons (o : Option CellRow) (c : Cell) (cells : List Cell) :
    after o (c :: cells) = after (after o [c]) cells := by
  cases cells with
  | nil => rfl
  | cons d rest => simp only [after, Option.getD_some, List.getLastD_cons, List.getLastD_nil,
      refresh_refresh]

end CellRow

namespace CellTable

/-! ## The row of an identity -/

/-- The row of a network identity. -/
def row? (t : CellTable) (k : CellKey) : Option CellRow := t.find? fun r => r.holds k

@[simp] theorem row?_nil (k : CellKey) : row? [] k = none := rfl

theorem row?_cons (r : CellRow) (rows : CellTable) (k : CellKey) :
    row? (r :: rows) k = if r.holds k then some r else row? rows k := by
  simp only [row?, List.find?_cons]
  cases r.holds k <;> rfl

/-- Storing a cell changes the row of its identity and no other. -/
theorem row?_put (t : CellTable) (c : Cell) (k : CellKey) :
    (t.put c).row? k =
      if c.toCellKey = k then CellRow.after (t.row? k) [c] else t.row? k := by
  induction t with
  | nil =>
    rw [put_nil, row?_cons]
    simp only [CellRow.holds_ofCell, CellRow.after_singleton, row?_nil, Option.getD_none,
      CellRow.refresh_ofCell]
  | cons r rows ih =>
    by_cases hc : r.holds c.toCellKey = true
    · rw [put_cons_of_holds rows hc, row?_cons, row?_cons, CellRow.holds_refresh]
      by_cases hk : c.toCellKey = k
      · subst hk
        simp [hc, CellRow.after_singleton]
      · have hother : r.holds k = false := by
          rw [Bool.eq_false_iff]
          exact fun h => hk (CellRow.holds_unique hc h)
        simp [hk, hother]
    · rw [put_cons_of_not_holds rows (Bool.eq_false_iff.2 hc), row?_cons, row?_cons, ih]
      by_cases hk : c.toCellKey = k
      · subst hk
        simp [hc]
      · simp [hk]

/-- The row of an identity after cells are stored one after another depends on the cells of that
identity only. -/
theorem row?_putAll (t : CellTable) (cells : List Cell) (k : CellKey) :
    (t.putAll cells).row? k =
      CellRow.after (t.row? k) (cells.filter fun c => c.toCellKey = k) := by
  induction cells generalizing t with
  | nil => rfl
  | cons c rest ih =>
    rw [putAll_cons, ih, row?_put]
    by_cases hk : c.toCellKey = k
    · rw [if_pos hk, List.filter_cons_of_pos (by simpa using hk), ← CellRow.after_cons]
    · rw [if_neg hk, List.filter_cons_of_neg (by simpa using hk)]

/-! ## Other rows -/

/-- The rows that are not of the identity of any of some cells. -/
def others (cells : List Cell) (t : CellTable) : CellTable :=
  t.filter fun r => cells.all fun c => !r.holds c.toCellKey

/-- Rows that no row of a cell's identity is among stay as they are when the cell is stored. -/
theorem filter_put {p : CellRow → Bool} {c : Cell}
    (hp : ∀ r : CellRow, r.holds c.toCellKey = true → p r = false) (t : CellTable) :
    (t.put c).filter p = t.filter p := by
  induction t with
  | nil =>
    rw [put_nil, List.filter_cons_of_neg]
    rw [hp _ (CellRow.holds_ofCell_self c)]
    exact Bool.false_ne_true
  | cons r rows ih =>
    by_cases hc : r.holds c.toCellKey = true
    · have hold : ¬ p r = true := Bool.eq_false_iff.1 (hp r hc)
      have hnew : ¬ p (r.refresh c) = true := Bool.eq_false_iff.1 (hp _ hc)
      rw [put_cons_of_holds rows hc, List.filter_cons_of_neg hold, List.filter_cons_of_neg hnew]
    · rw [put_cons_of_not_holds rows (Bool.eq_false_iff.2 hc), List.filter_cons, List.filter_cons,
        ih]

/-- **Storing cells leaves all other rows as they are**, in their order. -/
theorem others_putAll (t : CellTable) (cells : List Cell) :
    (t.putAll cells).others cells = t.others cells := by
  -- by induction on a part of the cells: the rows looked at are those of none of all the cells
  suffices h : ∀ part ⊆ cells, (t.putAll part).others cells = t.others cells from
    h cells (List.Subset.refl cells)
  intro part hpart
  induction part generalizing t with
  | nil => rfl
  | cons c rest ih =>
    rw [putAll_cons, ih _ fun d hd => hpart (List.mem_cons_of_mem c hd)]
    refine filter_put (fun r hr => ?_) t
    rw [List.all_eq_false]
    exact ⟨c, hpart List.mem_cons_self, by rw [hr]; exact Bool.false_ne_true⟩

/-! ## Storing in another order -/

/-- Whether a table has a row of an identity. -/
def Knows (t : CellTable) (k : CellKey) : Prop := ∃ r ∈ t, r.holds k = true

theorem knows_cons {r : CellRow} {rows : CellTable} {k : CellKey} :
    Knows (r :: rows) k ↔ r.holds k = true ∨ Knows rows k := by
  simp [Knows]

/-- A stored cell has a row, and no cell loses its row when another is stored. -/
theorem knows_put {t : CellTable} {c : Cell} {k : CellKey} :
    (t.put c).Knows k ↔ c.toCellKey = k ∨ t.Knows k := by
  induction t with
  | nil => simp [Knows, CellRow.holds_ofCell]
  | cons r rows ih =>
    by_cases hc : r.holds c.toCellKey = true
    · rw [put_cons_of_holds rows hc, knows_cons, knows_cons, CellRow.holds_refresh]
      constructor
      · exact Or.inr
      · rintro (rfl | h)
        exacts [Or.inl hc, h]
    · rw [put_cons_of_not_holds rows (Bool.eq_false_iff.2 hc), knows_cons, knows_cons, ih]
      exact or_left_comm

theorem knows_putAll {t : CellTable} {cells : List Cell} {k : CellKey} :
    (t.putAll cells).Knows k ↔ (∃ c ∈ cells, c.toCellKey = k) ∨ t.Knows k := by
  induction cells generalizing t with
  | nil => simp
  | cons c rest ih =>
    rw [putAll_cons, ih, knows_put]
    simp only [List.mem_cons, exists_eq_or_imp, or_assoc, or_left_comm]

/-- Of two cells of one identity only the later one shows, if the identity has a row. -/
theorem put_put {t : CellTable} {c d : Cell} (known : t.Knows d.toCellKey)
    (same : c.toCellKey = d.toCellKey) : (t.put c).put d = t.put d := by
  induction t with
  | nil => obtain ⟨r, hr, -⟩ := known; cases hr
  | cons r rows ih =>
    by_cases hd : r.holds d.toCellKey = true
    · have hc : r.holds c.toCellKey = true := by rw [same]; exact hd
      rw [put_cons_of_holds rows hc, put_cons_of_holds rows (by simpa using hd),
        put_cons_of_holds rows hd, CellRow.refresh_refresh]
    · have hd' : r.holds d.toCellKey = false := Bool.eq_false_iff.2 hd
      have hc : r.holds c.toCellKey = false := by rw [same]; exact hd'
      rw [put_cons_of_not_holds rows hc, put_cons_of_not_holds _ hd',
        put_cons_of_not_holds rows hd', ih ((knows_cons.1 known).resolve_left hd)]

/-- Cells of two identities can be stored in either order, if the one stored second has a row. -/
theorem put_comm {t : CellTable} {c d : Cell} (known : t.Knows d.toCellKey)
    (other : c.toCellKey ≠ d.toCellKey) : (t.put c).put d = (t.put d).put c := by
  induction t with
  | nil => obtain ⟨r, hr, -⟩ := known; cases hr
  | cons r rows ih =>
    -- whichever cell has this row, the other one is stored behind it
    by_cases hd : r.holds d.toCellKey = true
    · have hc : r.holds c.toCellKey = false := by
        rw [Bool.eq_false_iff]
        exact fun hc => other (CellRow.holds_unique hc hd)
      rw [put_cons_of_not_holds rows hc, put_cons_of_holds _ hd, put_cons_of_holds rows hd,
        put_cons_of_not_holds rows (by simpa using hc)]
    · have hd' : r.holds d.toCellKey = false := Bool.eq_false_iff.2 hd
      rw [put_cons_of_not_holds rows hd']
      by_cases hc : r.holds c.toCellKey = true
      · rw [put_cons_of_holds rows hc, put_cons_of_holds _ hc,
          put_cons_of_not_holds rows (by simpa using hd')]
      · have hc' : r.holds c.toCellKey = false := Bool.eq_false_iff.2 hc
        rw [put_cons_of_not_holds rows hc', put_cons_of_not_holds _ hd',
          put_cons_of_not_holds _ hc', ih ((knows_cons.1 known).resolve_left hd)]

/-! ## Storing again -/

/-- Storing a cell twice is storing it once. -/
theorem put_self (t : CellTable) (c : Cell) : (t.put c).put c = t.put c := by
  induction t with
  | nil => rw [put_nil, put_cons_of_holds [] (CellRow.holds_ofCell_self c), CellRow.refresh_ofCell]
  | cons r rows ih =>
    by_cases hc : r.holds c.toCellKey = true
    · rw [put_cons_of_holds rows hc, put_cons_of_holds rows (by simpa using hc),
        CellRow.refresh_refresh]
    · have hc' : r.holds c.toCellKey = false := Bool.eq_false_iff.2 hc
      rw [put_cons_of_not_holds rows hc', put_cons_of_not_holds _ hc', ih]

/-- A cell that is stored at the end need not be stored before cells that all have rows. -/
theorem put_putAll_put (t : CellTable) (cells : List Cell) (c : Cell)
    (known : ∀ d ∈ cells, t.Knows d.toCellKey) :
    ((t.put c).putAll cells).put c = (t.putAll cells).put c := by
  induction cells generalizing t with
  | nil => exact put_self t c
  | cons d rest ih =>
    have hd : t.Knows d.toCellKey := known d List.mem_cons_self
    have hrest : ∀ e ∈ rest, (t.put d).Knows e.toCellKey :=
      fun e he => knows_put.2 (Or.inr (known e (List.mem_cons_of_mem d he)))
    -- the next cell either replaces `c` or is stored before it
    rw [putAll_cons, putAll_cons]
    by_cases h : c.toCellKey = d.toCellKey
    · rw [put_put hd h]
    · rw [put_comm hd h, ih _ hrest]

/-- **Storing cells a second time changes nothing**, wherever their identities are repeated. -/
theorem putAll_putAll (t : CellTable) (cells : List Cell) :
    (t.putAll cells).putAll cells = t.putAll cells := by
  -- from the end: the last cell need not be stored the first time
  induction cells using List.reverseRecOn with
  | nil => rfl
  | append_singleton cells c ih =>
    have known : ∀ d ∈ cells, (t.putAll cells).Knows d.toCellKey :=
      fun d hd => knows_putAll.2 (Or.inl ⟨d, hd, rfl⟩)
    simp only [putAll_append, putAll_cons, putAll_nil]
    rw [put_putAll_put _ _ _ known, ih]

/-- Storing the first cells of a list and then the whole list is storing the whole list. -/
theorem putAll_of_prefix (t : CellTable) {first cells : List Cell} (h : first <+: cells) :
    (t.putAll first).putAll cells = t.putAll cells := by
  obtain ⟨rest, rfl⟩ := h
  rw [putAll_append, putAll_putAll, ← putAll_append]

end CellTable

end CellExchange
