import CellExchange.Proofs.Reading
import CellExchange.Row.Checking
import Mathlib.Data.List.Nodup

/-! # Rows read by name

What the header of a file changes about its rows. Reading by name goes over the names of the header
(`Draft.readNames_cons_ok` says all that one name can do to a draft), so each fact about it is an
induction on the names.

**With the standard header** a row is read as it is by place, but every one that ends before the
reserved column is rejected (`Draft.ofNamedRow_header`): the name of that column means no column of
data, so its field has to be there. That is the one difference between a file with the standard
header and a file without one (`Cell.toOption_ofFields_header_iff`).

**With any header** that names the radio column first, the radio type of a cell is what the first
field of its row names (`Cell.radio_ofFields`). A first name that only looks like the radio column
does not do (`Cell.exists_ofFields_of_head?_ne`), unless the header names a column of data twice,
for then every row is rejected (`Cell.namedOnce_of_ofFields`). -/

namespace CellExchange

namespace Column

/-- Whether a header names no column of data twice. -/
def NamedOnce (names : List String) : Prop := (names.filterMap dataOfName?).Nodup

instance (names : List String) : Decidable (NamedOnce names) :=
  inferInstanceAs (Decidable (List.Nodup _))

/-- The column that a published name means to the reader: itself, unless it is reserved. -/
theorem dataOfName?_name (c : Column) :
    dataOfName? c.name = if c = .averageSignal then none else some c := by
  cases c <;> decide +kernel

/-- A column is found by its own name only. -/
theorem name_of_dataOfName? {name : String} {c : Column} (h : dataOfName? name = some c) :
    c.name = name := by
  rw [dataOfName?] at h
  exact beq_iff_eq.1 (List.find?_some (p := fun c : Column => c.name == name) h)

/-- A name that only looks like the radio column means no column of data. -/
theorem dataOfName?_of_sameLetters {name : String}
    (hsame : Text.sameLetters (Text.trim name.toList) radio.name.toList = true)
    (hname : name ≠ radio.name) : dataOfName? name = none := by
  cases h : dataOfName? name with
  | none => rfl
  | some c =>
    have hc := name_of_dataOfName? h
    subst hc
    cases c with
    | radio => exact absurd rfl hname
    | _ => exact absurd hsame (by decide +kernel)

end Column

namespace Draft

variable {d d' : Draft} {c : Column} {s name : String} {place : Nat} {met : List Column}
  {names fields : List String}

theorem setAt_eq_ok_iff : d.setAt place c s = .ok d' ↔ d.set c s = .ok d' := by
  rw [setAt]
  cases d.set c s <;> simp

/-! ## One name -/

theorem readNames_of_unknown (hname : Column.dataOfName? name = none) :
    readNames place met d (name :: names) (s :: fields) =
      readNames (place + 1) met d names fields := by
  rw [readNames.eq_def]
  simp only [hname]

theorem readNames_of_column (hname : Column.dataOfName? name = some c) (hmet : c ∉ met) :
    readNames place met d (name :: names) (s :: fields) =
      d.setAt place c s >>= fun d => readNames (place + 1) (c :: met) d names fields := by
  rw [readNames.eq_def]
  simp only [hname, if_neg hmet]

/-- **One name**, if reading goes on behind it: it means no column of data, or one that was not met
before, whose field is read if it is there. -/
theorem readNames_cons_ok (h : readNames place met d (name :: names) fields = .ok d') :
    (Column.dataOfName? name = none ∧
        readNames (place + 1) met d names fields.tail = .ok d') ∨
      ∃ c d₁, Column.dataOfName? name = some c ∧ c ∉ met ∧ (d₁ = d ∨ ∃ s, d.set c s = .ok d₁) ∧
        readNames (place + 1) (c :: met) d₁ names fields.tail = .ok d' := by
  rw [readNames.eq_def] at h
  cases hname : Column.dataOfName? name with
  | none =>
    cases fields with
    | nil =>
      simp only [hname] at h
      cases h
    | cons s fields =>
      simp only [hname] at h
      exact Or.inl ⟨rfl, h⟩
  | some c =>
    simp only [hname] at h
    by_cases hmet : c ∈ met
    · rw [if_pos hmet] at h
      cases h
    · rw [if_neg hmet] at h
      cases fields with
      | nil =>
        by_cases hradio : c = .radio
        · rw [if_pos hradio] at h
          cases h
        · rw [if_neg hradio] at h
          exact Or.inr ⟨c, d, rfl, hmet, Or.inl rfl, h⟩
      | cons s fields =>
        obtain ⟨d₁, hset, h⟩ := bind_eq_ok_iff.1 h
        exact Or.inr ⟨c, d₁, rfl, hmet, Or.inr ⟨s, setAt_eq_ok_iff.1 hset⟩, h⟩

/-! ## The standard header -/

/-- The names of some columns of data, none met before, and then the reserved column: the fields are
read as by place, and then the one of the reserved column has to be there. -/
theorem readNames_data (columns : List Column) (hnodup : columns.Nodup)
    (hdata : Column.averageSignal ∉ columns) (hmet : ∀ c ∈ columns, c ∉ met) (place : Nat)
    (d : Draft) (fields : List String) :
    readNames place met d ((columns ++ [Column.averageSignal]).map Column.name) fields =
      readPlaces place d columns fields >>= fun d =>
        if fields.length ≤ columns.length then .error .endOfRow else .ok d := by
  induction columns generalizing met place d fields with
  | nil => cases fields <;> rfl
  | cons c columns ih =>
    have hrest := List.nodup_cons.1 hnodup
    have hreserved : c ≠ .averageSignal := fun h => hdata (h ▸ List.mem_cons_self)
    have hname : Column.dataOfName? c.name = some c := by
      rw [Column.dataOfName?_name, if_neg hreserved]
    have hnew : c ∉ met := hmet c List.mem_cons_self
    -- no column comes twice, so none behind this one has been met
    have hmet' : ∀ other ∈ columns, other ∉ c :: met := by
      intro other hother
      rw [List.mem_cons, not_or]
      exact ⟨fun h => hrest.1 (h ▸ hother), hmet other (List.mem_cons_of_mem c hother)⟩
    have ih := ih hrest.2 (fun h => hdata (List.mem_cons_of_mem c h)) hmet' (place + 1)
    rw [List.cons_append, List.map_cons]
    cases fields with
    | nil =>
      rw [readNames.eq_def]
      simp only [hname, if_neg hnew]
      -- without fields both sides are the end of the row, met here or further on
      by_cases hradio : c = .radio
      · rw [if_pos hradio]
        rfl
      · rw [if_neg hradio, ih]
        cases columns <;> rfl
    | cons s fields =>
      rw [readNames_of_column hname hnew, readPlaces]
      cases d.setAt place c s with
      | error fault => rfl
      | ok d =>
        simp only [List.length_cons, Nat.add_le_add_iff_right]
        exact ih d fields

/-- **A row read by the standard header** is the row read by place, if it has all columns. -/
theorem ofNamedRow_header (row : List String) :
    ofNamedRow Column.header row =
      ofRow row >>= fun d => if row.length ≤ Column.data.length then .error .endOfRow else .ok d :=
  readNames_data Column.data (by decide) (by decide) (fun _ _ => List.not_mem_nil) 0 {} row

/-! ## The radio type -/

/-- The field of any other column leaves the radio type as it is. -/
theorem radio_of_set (h : d.set c s = .ok d') (hc : c ≠ .radio) : d'.radio = d.radio := by
  cases c with
  | radio => exact absurd rfl hc
  | averageSignal | changeable => cases h; rfl
  | _ =>
    obtain ⟨value, -, rfl⟩ := map_eq_ok_iff.1 h
    rfl

/-- Once the radio column was met, the radio type stays as it is. -/
theorem radio_of_readNames (hmet : Column.radio ∈ met)
    (h : readNames place met d names fields = .ok d') : d'.radio = d.radio := by
  induction names generalizing place met d fields with
  | nil => cases h; rfl
  | cons name names ih =>
    obtain ⟨-, h⟩ | ⟨c, d₁, -, hnew, hset, h⟩ := readNames_cons_ok h
    · exact ih hmet h
    · rw [ih (List.mem_cons_of_mem c hmet) h]
      obtain rfl | ⟨s, hset⟩ := hset
      · rfl
      · exact radio_of_set hset fun hc => hnew (hc ▸ hmet)

/-- The radio type of a cell is the one that its draft names. -/
theorem radio_of_toCell {cell : Cell} (h : d.toCell = .ok cell) :
    cell.radio = Radio.ofName d.radio := by
  obtain ⟨range, -, h⟩ := bind_eq_ok_iff.1 h
  obtain ⟨changeable, -, h⟩ := bind_eq_ok_iff.1 h
  obtain ⟨created, -, h⟩ := bind_eq_ok_iff.1 h
  obtain ⟨modified, -, h⟩ := bind_eq_ok_iff.1 h
  dsimp only at h
  split at h
  · cases h
  · cases h
    rfl

/-! ## Columns named twice -/

/-- Reading by name succeeds only if no column comes twice. -/
theorem namedOnce_of_readNames (h : readNames place met d names fields = .ok d') :
    Column.NamedOnce names ∧ ∀ c ∈ names.filterMap Column.dataOfName?, c ∉ met := by
  induction names generalizing place met d fields with
  | nil => exact ⟨List.nodup_nil, fun c hc => absurd hc List.not_mem_nil⟩
  | cons name names ih =>
    obtain ⟨hname, h⟩ | ⟨c, d₁, hname, hnew, -, h⟩ := readNames_cons_ok h
    · rw [Column.NamedOnce, List.filterMap_cons_none hname]
      exact ih h
    · obtain ⟨honce, hmet⟩ := ih h
      rw [Column.NamedOnce, List.filterMap_cons_some hname]
      refine ⟨List.nodup_cons.2 ⟨fun hc => hmet c hc List.mem_cons_self, honce⟩, ?_⟩
      rw [List.forall_mem_cons]
      exact ⟨hnew, fun other hother hmem => hmet other hother (List.mem_cons_of_mem c hmem)⟩

/-- An empty field leaves an empty draft, in any column. -/
theorem set_empty (c : Column) : ({} : Draft).set c "" = .ok {} := by
  cases c <;> rfl

/-- If no column comes twice, a row of empty fields reads as an empty draft. -/
theorem readNames_empty (honce : Column.NamedOnce names)
    (hmet : ∀ c ∈ names.filterMap Column.dataOfName?, c ∉ met) (place : Nat) :
    readNames place met {} names (names.map fun _ => "") = .ok {} := by
  induction names generalizing place met with
  | nil => rfl
  | cons name names ih =>
    rw [List.map_cons]
    cases hname : Column.dataOfName? name with
    | none =>
      rw [Column.NamedOnce, List.filterMap_cons_none hname] at honce
      rw [List.filterMap_cons_none hname] at hmet
      rw [readNames_of_unknown hname]
      exact ih honce hmet (place + 1)
    | some c =>
      rw [Column.NamedOnce, List.filterMap_cons_some hname, List.nodup_cons] at honce
      rw [List.filterMap_cons_some hname, List.forall_mem_cons] at hmet
      rw [readNames_of_column hname hmet.1, setAt_eq_ok_iff.2 (set_empty c)]
      refine ih honce.2 (fun other hother => ?_) (place + 1)
      rw [List.mem_cons, not_or]
      exact ⟨fun h => honce.1 (h ▸ hother), hmet.2 other hother⟩

end Draft

namespace Cell

variable {names row : List String} {c : Cell}

/-! ## Rows with the standard header and without -/

theorem ofFields_header_of_le (h : Column.header.length ≤ row.length) :
    ofFields (some Column.header) row = ofFields none row := by
  have hlong : ¬ row.length ≤ Column.data.length := Nat.not_le.2 h
  simp only [ofFields, Draft.ofNamedRow_header, if_neg hlong]
  cases Draft.ofRow row <;> rfl

theorem ofFields_header_of_lt (h : row.length < Column.header.length) :
    ∃ fault, ofFields (some Column.header) row = .error fault := by
  have hshort : row.length ≤ Column.data.length := Nat.lt_succ_iff.1 h
  simp only [ofFields, Draft.ofNamedRow_header, if_pos hshort]
  cases Draft.ofRow row with
  | error fault => exact ⟨fault, rfl⟩
  | ok d => exact ⟨.endOfRow, rfl⟩

/-- **The standard header makes no difference** exactly for rows with all columns, and for rows that
are rejected without it too. -/
theorem toOption_ofFields_header_iff (row : List String) :
    (ofFields (some Column.header) row).toOption = (ofFields none row).toOption ↔
      Column.header.length ≤ row.length ∨ (ofFields none row).toOption = none := by
  obtain hlt | hle := Nat.lt_or_ge row.length Column.header.length
  · obtain ⟨fault, hfault⟩ := ofFields_header_of_lt hlt
    rw [hfault, or_iff_right (Nat.not_le.2 hlt)]
    exact eq_comm
  · rw [ofFields_header_of_le hle]
    exact iff_of_true rfl (Or.inl hle)

/-- A row of three fields is a cell without the standard header only. -/
theorem toOption_ofFields_header_ne :
    ¬ ∀ row : List String, row ≠ [] →
      (ofFields (some Column.header) row).toOption = (ofFields none row).toOption := by
  intro h
  exact absurd (h ["gsm", "1", "2"] (List.cons_ne_nil _ _)) (by decide +kernel)

/-! ## Rows with any header -/

/-- **The radio type of a cell** is what the first field of its row names, if the header names the
radio column first. -/
theorem radio_ofFields (hfirst : names.head? = some Column.radio.name)
    (h : ofFields (some names) row = .ok c) : c.radio = Radio.ofName (row.headD "") := by
  obtain ⟨rest, rfl⟩ := List.head?_eq_some_iff.1 hfirst
  obtain ⟨d, hread, hcell⟩ := bind_eq_ok_iff.1 h
  rw [Draft.radio_of_toCell hcell]
  cases row with
  | nil => cases hread
  | cons s fields => exact congrArg Radio.ofName (Draft.radio_of_readNames List.mem_cons_self hread)

/-- A header that names a column of data twice makes no cell of any row. -/
theorem namedOnce_of_ofFields (h : ofFields (some names) row = .ok c) :
    Column.NamedOnce names := by
  obtain ⟨d, hread, -⟩ := bind_eq_ok_iff.1 h
  exact (Draft.namedOnce_of_readNames hread).1

/-- **A header whose first name only looks like the radio column** makes cells whose radio type is
not what the first field of their row names. -/
theorem exists_ofFields_of_head?_ne (hheader : isHeader names = true)
    (hfirst : names.head? ≠ some Column.radio.name) (honce : Column.NamedOnce names) :
    ∃ row c, ofFields (some names) row = .ok c ∧ c.radio ≠ Radio.ofName (row.headD "") := by
  cases names with
  | nil => exact absurd hheader Bool.false_ne_true
  | cons name rest =>
    have hname : Column.dataOfName? name = none :=
      Column.dataOfName?_of_sameLetters hheader fun h => hfirst (congrArg some h)
    rw [Column.NamedOnce, List.filterMap_cons_none hname] at honce
    -- the radio type in the first field is passed over, and the other fields are empty
    have hread : Draft.ofNamedRow (name :: rest) ("GSM" :: rest.map fun _ => "") = .ok {} := by
      rw [Draft.ofNamedRow, Draft.readNames_of_unknown hname]
      exact Draft.readNames_empty honce (fun _ _ => List.not_mem_nil) 1
    have hok : ({} : Draft).toCell.isOk = true := by decide +kernel
    cases hcell : ({} : Draft).toCell with
    | error fault =>
      rw [hcell] at hok
      exact absurd hok Bool.false_ne_true
    | ok c =>
      refine ⟨_, c, bind_eq_ok_iff.2 ⟨{}, hread, hcell⟩, ?_⟩
      rw [Draft.radio_of_toCell hcell]
      exact (by decide +kernel : Radio.ofName "" ≠ Radio.ofName "GSM")

end Cell

end CellExchange
