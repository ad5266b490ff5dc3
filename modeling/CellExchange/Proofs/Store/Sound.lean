import CellExchange.Proofs.Export.RoundTrip
import CellExchange.Proofs.Row.Checked
import CellExchange.Proofs.Store.Identity

/-! # Sound tables

What is true of every table that checked cells are stored in, one after another
(`CellTable.IsSound`): no two rows have one network identity, the radio numbers are known, and the
values of each row are those that a real cell can have, with coordinates that are there and times
that are whole seconds.

**Storing a checked cell keeps a table sound** (`CellTable.IsSound.put`), and so does storing any
number of them. The rows of a sound table have cells, which are checked again
(`CellTable.IsSound.cells`); so what is written of them reads back whole. -/

namespace CellExchange

theorem Instant.ofSeconds_second_iff {t : Instant} : ofSeconds t.second = t ↔ t.subsecond = 0 := by
  obtain ⟨n⟩ := t
  simp only [ofSeconds, second, subsecond, perSecond, mk.injEq]
  omega

/-- Whether a number is the stand-in for a coordinate that is not known, or no further from zero
than a bound. -/
structure Double.IsCoordinate (bound : Int) (x : Double) : Prop where
  /-- It is a number, and no infinity. -/
  finite : x.isFinite = true
  /-- It is the stand-in or within the bound. -/
  value : x = unknownCoordinate ∨ x.within (-bound) bound = true

theorem Double.isCoordinate_iff {bound : Int} {x : Double} :
    x.IsCoordinate bound ↔ x.isWhole (-255) = true ∨ x.within (-bound) bound = true := by
  constructor
  · intro h
    refine h.value.imp_left fun hunknown => ?_
    rw [hunknown]
    decide +kernel
  · rintro (hwhole | hwithin)
    · have hunknown : x = unknownCoordinate := eq_ofInt_of_isWhole (by decide) hwhole
      exact ⟨by rw [hunknown]; decide +kernel, Or.inl hunknown⟩
    · exact ⟨isFinite_of_within hwithin, Or.inr hwithin⟩

namespace CellRow

/-! ## Rows -/

/-- Whether a row has values that rows of checked cells have. -/
structure IsSound (r : CellRow) : Prop where
  /-- The radio number is known. -/
  radio : r.radio ∈ [-1, 0, 1, 2]
  /-- The country code is absent or one. -/
  mcc : r.mcc.toInt = -1 ∨ (1 ≤ r.mcc.toInt ∧ r.mcc.toInt ≤ 999)
  /-- The network code is absent or one. -/
  mnc : -1 ≤ r.mnc.toInt
  /-- The area code is absent or one. -/
  lac : -1 ≤ r.lac.toInt
  /-- The cell number is absent or one. -/
  cid : -1 ≤ r.cid.toInt
  /-- The scrambling code is absent or one. -/
  psc : -1 ≤ r.psc.toInt
  /-- The number of observations is absent or one. -/
  samples : -1 ≤ r.samples.toInt
  /-- The range is no distance below zero. -/
  range : 0 ≤ r.range.toInt
  /-- The latitude is there. -/
  lat : ∃ x, r.lat = some x ∧ x.IsCoordinate 90
  /-- The longitude is there. -/
  lon : ∃ x, r.lon = some x ∧ x.IsCoordinate 180
  /-- The time of the first sighting is a whole second. -/
  created : r.created.subsecond = 0
  /-- The time of the last change is a whole second. -/
  modified : r.modified.subsecond = 0
  /-- The calendar has dates for both. -/
  dated : r.created.InCalendar ∧ r.modified.InCalendar

variable {r : CellRow} {c : Cell}

theorem isSound_ofCell (h : c.IsChecked) : (ofCell c).IsSound where
  radio := by
    show c.radio.code ∈ [-1, 0, 1, 2]
    cases c.radio <;> decide
  mcc := h.acceptable.mcc
  mnc := h.acceptable.mnc
  lac := h.acceptable.lac
  cid := h.acceptable.cid
  psc := h.acceptable.psc
  samples := h.acceptable.samples
  range := h.acceptable.range
  lat := ⟨c.lat, rfl, Double.isCoordinate_iff.2 h.acceptable.lat⟩
  lon := ⟨c.lon, rfl, Double.isCoordinate_iff.2 h.acceptable.lon⟩
  created := Instant.ofSeconds_second_iff.1 (congrArg Cell.created h.floored_eq)
  modified := Instant.ofSeconds_second_iff.1 (congrArg Cell.modified h.floored_eq)
  dated := h.dated

/-- A row that is refreshed has its own identity and first sighting, and all else of the cell. -/
theorem IsSound.refresh (h : r.IsSound) (hc : c.IsChecked) : (r.refresh c).IsSound :=
  let fresh := isSound_ofCell hc
  { h with
    psc := fresh.psc, samples := fresh.samples, range := fresh.range, lat := fresh.lat,
    lon := fresh.lon, modified := fresh.modified, dated := ⟨h.dated.1, fresh.dated.2⟩ }

/-- No sound row sums up an area. -/
theorem IsSound.cid_ne (h : r.IsSound) : r.cid ≠ aggregateCell := by
  intro hcid
  have hle := h.cid
  rw [hcid] at hle
  exact absurd hle (by decide)

/-- **A sound row has a cell**, and it is checked. -/
theorem IsSound.toCell? (h : r.IsSound) : ∃ c, r.toCell? = some c ∧ c.IsChecked := by
  obtain ⟨c, hcell⟩ := Option.ne_none_iff_exists'.1 (toCell?_ne_none h.radio)
  refine ⟨c, hcell, ?_⟩
  obtain ⟨radio, -, rfl⟩ := Option.map_eq_some_iff.1 hcell
  obtain ⟨lat, hlat, hlatitude⟩ := h.lat
  obtain ⟨lon, hlon, hlongitude⟩ := h.lon
  -- the coordinates are there, so the cell has no stand-in that the row has not
  refine ⟨⟨h.range, h.mcc, h.mnc, h.lac, h.cid, h.psc, h.samples, ?_, ?_⟩, h.dated, ?_⟩
  · rw [hlat, Option.getD_some]
    exact Double.isCoordinate_iff.1 hlatitude
  · rw [hlon, Option.getD_some]
    exact Double.isCoordinate_iff.1 hlongitude
  · simp only [Cell.floored, Instant.ofSeconds_second_iff.2 h.created,
      Instant.ofSeconds_second_iff.2 h.modified]

end CellRow

namespace CellTable

variable {t : CellTable} {c : Cell}

/-! ## Tables -/

/-- Whether no two rows of a table have one identity, and every row is sound. -/
structure IsSound (t : CellTable) : Prop where
  /-- No two rows have one identity. -/
  distinct : (t.map CellRow.identity).Nodup
  /-- Every row is sound. -/
  rows : ∀ r ∈ t, r.IsSound

theorem isSound_nil : IsSound [] := ⟨List.nodup_nil, fun _ hr => absurd hr List.not_mem_nil⟩

/-- A row after a cell is stored was there, is the cell's own new row, or is refreshed by the cell.
-/
theorem mem_put {r : CellRow} (h : r ∈ t.put c) :
    r ∈ t ∨ r = .ofCell c ∨ ∃ q ∈ t, r = q.refresh c := by
  induction t with
  | nil => exact Or.inr (Or.inl (List.mem_singleton.1 h))
  | cons q rows ih =>
    by_cases hc : q.holds c.toCellKey = true
    · rw [put_cons_of_holds rows hc] at h
      obtain rfl | h := List.mem_cons.1 h
      · exact Or.inr (Or.inr ⟨q, List.mem_cons_self, rfl⟩)
      · exact Or.inl (List.mem_cons_of_mem q h)
    · rw [put_cons_of_not_holds rows (Bool.eq_false_iff.2 hc)] at h
      obtain rfl | h := List.mem_cons.1 h
      · exact Or.inl List.mem_cons_self
      · obtain h | h | ⟨p, hp, h⟩ := ih h
        · exact Or.inl (List.mem_cons_of_mem q h)
        · exact Or.inr (Or.inl h)
        · exact Or.inr (Or.inr ⟨p, List.mem_cons_of_mem q hp, h⟩)

/-- **Storing a checked cell** keeps a table sound. -/
theorem IsSound.put (h : t.IsSound) (hc : c.IsChecked) : (t.put c).IsSound := by
  refine ⟨nodup_identity_put h.distinct c, fun r hr => ?_⟩
  obtain hr | rfl | ⟨q, hq, rfl⟩ := mem_put hr
  · exact h.rows r hr
  · exact CellRow.isSound_ofCell hc
  · exact (h.rows q hq).refresh hc

/-- **Storing any checked cells** keeps a table sound. -/
theorem IsSound.putAll (h : t.IsSound) {cells : List Cell} (hcells : ∀ c ∈ cells, c.IsChecked) :
    (t.putAll cells).IsSound := by
  induction cells generalizing t with
  | nil => exact h
  | cons c rest ih =>
    obtain ⟨hc, hrest⟩ := List.forall_mem_cons.1 hcells
    exact ih (h.put hc) hrest

/-! ## The cells of sound tables -/

theorem IsSound.allKnown (h : t.IsSound) (s : Selection) : AllKnown (t.filter s.selects) :=
  fun r hr => CellRow.toCell?_ne_none (h.rows r (List.mem_filter.1 hr).1).radio

/-- The cells of the rows of a sound table are checked. -/
theorem IsSound.cells (h : t.IsSound) (s : Selection) :
    ∀ c ∈ CellTable.cells (t.filter s.selects), c.IsChecked := by
  intro c hc
  obtain ⟨r, hr, hcell⟩ := List.mem_filterMap.1 hc
  obtain ⟨d, hd, hchecked⟩ := (h.rows r (List.mem_filter.1 hr).1).toCell?
  rwa [← Option.some.inj (hd.symm.trans hcell)]

end CellTable

end CellExchange
