import CellExchange.Proofs.Store.Identity
import CellExchange.Proofs.Store.Statements

/-! # Storing only the last cell of each identity

A database is given, of each network identity in a batch, only the last cell (`lastPerKey`); a table
in memory takes the batch cell by cell. **For an identity that has a row both leave the same row.**
For a new identity they agree on every value but two: whether the cell is changeable and when it was
created come from the first cell of the identity in one case and from the last in the other
(`row?_effects_statements_eq_iff`). -/

namespace CellExchange

/-- What a cell tells of its first sighting, which later sightings do not change. -/
def Cell.sighting (c : Cell) : Bool × Instant := (c.changeable, c.created)

/-- A row with another first sighting. -/
def CellRow.withSighting (s : Bool × Instant) (r : CellRow) : CellRow :=
  { r with changeable := s.1, created := s.2 }

/-! ## What is kept of an identity -/

/-- Whether a later cell has the identity of a cell. -/
theorem any_sameKey_iff {c : Cell} {rest : List Cell} :
    (rest.any fun d => d.cid == c.cid && d.toCellKey == c.toCellKey) = true ↔
      cellsOf c.toCellKey rest ≠ [] := by
  rw [List.any_eq_true]
  constructor
  · rintro ⟨d, hd, h⟩
    rw [Bool.and_eq_true] at h
    exact List.ne_nil_of_mem (List.mem_filter.2 ⟨hd, by simpa using h.2⟩)
  · intro hne
    obtain ⟨d, hd⟩ := List.exists_mem_of_ne_nil _ hne
    have hkey : d.toCellKey = c.toCellKey := toCellKey_of_mem_cellsOf hd
    refine ⟨d, (List.mem_filter.1 hd).1, ?_⟩
    rw [Bool.and_eq_true, beq_iff_eq, beq_iff_eq]
    exact ⟨congrArg CellKey.cid hkey, hkey⟩

/-- Of each identity the last cell is kept. -/
theorem cellsOf_lastPerKey (k : CellKey) (cells : List Cell) :
    cellsOf k (lastPerKey cells) = (cellsOf k cells).getLast?.toList := by
  induction cells with
  | nil => rfl
  | cons c rest ih =>
    rw [lastPerKey]
    by_cases hc : c.toCellKey = k
    · have hcons : cellsOf k (c :: rest) = c :: cellsOf k rest :=
        List.filter_cons_of_pos (by simpa using hc)
      by_cases hlater : cellsOf k rest = []
      · -- it is the last one of its identity, and kept
        rw [if_neg (by rw [any_sameKey_iff, hc]; exact not_not_intro hlater), hcons, hlater]
        have hkept : cellsOf k (c :: lastPerKey rest) = c :: cellsOf k (lastPerKey rest) :=
          List.filter_cons_of_pos (by simpa using hc)
        rw [hkept, ih, hlater]
        rfl
      · -- a later one replaces it
        rw [if_pos (by rw [any_sameKey_iff, hc]; exact hlater), ih, hcons,
          List.getLast?_cons_of_ne_nil hlater]
    · have hcons : ∀ cells, cellsOf k (c :: cells) = cellsOf k cells :=
        fun cells => List.filter_cons_of_neg (by simpa using hc)
      split
      · rw [ih, hcons]
      · rw [hcons, hcons, ih]

namespace CellRow

/-! ## Rows after all cells and after the last one -/

@[simp] theorem withSighting_withSighting (r : CellRow) (s u : Bool × Instant) :
    (r.withSighting s).withSighting u = r.withSighting u := rfl

/-- A fresh row after a later sighting: the later cell's row but for the first sighting. -/
theorem refresh_ofCell_eq {first last : Cell} (h : last.toCellKey = first.toCellKey) :
    (ofCell first).refresh last = (ofCell last).withSighting first.sighting := by
  have hradio : last.radio = first.radio := congrArg CellKey.radio h
  have hmcc : last.mcc = first.mcc := congrArg CellKey.mcc h
  have hmnc : last.mnc = first.mnc := congrArg CellKey.mnc h
  have hlac : last.lac = first.lac := congrArg CellKey.lac h
  have hcid : last.cid = first.cid := congrArg CellKey.cid h
  simp only [refresh, ofCell, withSighting, Cell.sighting, hradio, hmcc, hmnc, hlac, hcid]

theorem withSighting_ofCell_eq_iff {c : Cell} {s : Bool × Instant} :
    ofCell c = (ofCell c).withSighting s ↔ s = c.sighting := by
  obtain ⟨changeable, created⟩ := s
  constructor
  · intro h
    have hchangeable : c.changeable = changeable := congrArg CellRow.changeable h
    have hcreated : c.created = created := congrArg CellRow.created h
    rw [Cell.sighting, hchangeable, hcreated]
  · intro h
    rw [h]
    rfl

/-- The row that sightings of a new cell make: the last one's but for the first sighting. -/
theorem after_none {k : CellKey} {first : Cell} {rest : List Cell}
    (hk : ∀ c ∈ first :: rest, c.toCellKey = k) :
    after none (first :: rest) =
      some ((ofCell (rest.getLastD first)).withSighting first.sighting) := by
  have hmem : rest.getLastD first ∈ first :: rest := by
    rw [List.getLastD_eq_getLast?]
    cases h : rest.getLast? with
    | none => exact List.mem_cons_self
    | some last => exact List.mem_cons_of_mem first (List.mem_of_getLast? h)
  have hkey : (rest.getLastD first).toCellKey = first.toCellKey :=
    (hk _ hmem).trans (hk first List.mem_cons_self).symm
  rw [after, Option.getD_none, refresh_ofCell_eq hkey]

/-- The row that only the last of some sightings leaves. -/
theorem after_getLast? (o : Option CellRow) (first : Cell) (rest : List Cell) :
    after o (first :: rest).getLast?.toList =
      some ((o.getD (ofCell (rest.getLastD first))).refresh (rest.getLastD first)) := by
  rw [List.getLast?_cons, ← List.getLastD_eq_getLast?]
  rfl

variable (o : Option CellRow) {k : CellKey} {cells : List Cell}
  (hk : ∀ c ∈ cells, c.toCellKey = k)

include hk

/-- The last sighting alone leaves the row that all sightings leave, up to the first sighting. -/
theorem map_withSighting_after (s : Bool × Instant) :
    (after o cells.getLast?.toList).map (withSighting s) =
      (after o cells).map (withSighting s) := by
  cases cells with
  | nil => rfl
  | cons first rest =>
    rw [after_getLast?]
    cases o with
    | some r => rfl
    | none =>
      -- a fresh row takes the first sighting from the cell it is made of
      rw [after_none hk, Option.getD_none, refresh_ofCell, Option.map_some, Option.map_some,
        withSighting_withSighting]

/-- The last sighting alone leaves the row that all sightings leave if there is a row already, and
otherwise only if it tells of the first sighting what the first one tells. -/
theorem after_getLast?_eq_iff :
    after o cells.getLast?.toList = after o cells ↔
      o.isSome ∨ cells.head?.map Cell.sighting = cells.getLast?.map Cell.sighting := by
  cases cells with
  | nil => simp
  | cons first rest =>
    rw [after_getLast?]
    cases o with
    | some r => simp [after]
    | none =>
      rw [after_none hk, Option.getD_none, refresh_ofCell, Option.some_inj,
        withSighting_ofCell_eq_iff, List.getLast?_cons, ← List.getLastD_eq_getLast?]
      simp

end CellRow

namespace CellTable

/-! ## Tables after a batch and after its last cells -/

theorem row?_putAll_lastPerKey (t : CellTable) (batch : List Cell) (k : CellKey) :
    (t.putAll (lastPerKey batch)).row? k =
      CellRow.after (t.row? k) (cellsOf k batch).getLast?.toList := by
  rw [row?_putAll, ← cellsOf_lastPerKey]
  rfl

/-- **The statements of a batch and the batch stored cell by cell** leave, for each identity, rows
that agree on all values but the two that tell of the first sighting. They are the same row exactly
if the identity had a row before, or its first and its last cell in the batch agree on the first
sighting. -/
theorem row?_effects_statements_eq_iff (t : CellTable) (table : Sql.TableName) (batch : List Cell)
    (k : CellKey) :
    let stored := Sql.Statement.effects t (DatabaseStore.statements table batch)
    (∀ s, (stored.row? k).map (CellRow.withSighting s) =
        ((t.putAll batch).row? k).map (CellRow.withSighting s)) ∧
      (stored.row? k = (t.putAll batch).row? k ↔
        (t.row? k).isSome ∨
          (cellsOf k batch).head?.map Cell.sighting =
            (cellsOf k batch).getLast?.map Cell.sighting) := by
  have hkey : ∀ c ∈ cellsOf k batch, c.toCellKey = k := fun c hc => toCellKey_of_mem_cellsOf hc
  have hlast : (Sql.Statement.effects t (DatabaseStore.statements table batch)).row? k =
      CellRow.after (t.row? k) (cellsOf k batch).getLast?.toList := by
    rw [Sql.Statement.effects_statements, row?_putAll_lastPerKey]
  have hall : (t.putAll batch).row? k = CellRow.after (t.row? k) (cellsOf k batch) :=
    row?_putAll t batch k
  simp only [hlast, hall]
  exact ⟨CellRow.map_withSighting_after _ hkey, CellRow.after_getLast?_eq_iff _ hkey⟩

/-- A cell as it was first seen. -/
def firstSeen : Cell where
  radio := .gsm
  mcc := 262
  mnc := 1
  lac := 2
  cid := 1
  psc := -1
  lat := .ofInt 52
  lon := .ofInt 13
  range := 100
  samples := 5
  changeable := true
  created := .ofSeconds 1400000000
  modified := .ofSeconds 1400000000

/-- The same cell as it was seen again, by someone who tells another story of its beginning. -/
def seenAgain : Cell :=
  { firstSeen with
    range := 900, samples := 2, changeable := false, created := .ofSeconds 1500000000,
    modified := .ofSeconds 1500000000 }

/-- A new cell that is twice in a batch: its row depends on which way the batch is stored. -/
theorem row?_effects_statements_ne :
    (Sql.Statement.effects [] (DatabaseStore.statements .cell [firstSeen, seenAgain])).row?
        firstSeen.toCellKey ≠
      (CellTable.putAll [] [firstSeen, seenAgain]).row? firstSeen.toCellKey := by
  decide +kernel

end CellTable

end CellExchange
