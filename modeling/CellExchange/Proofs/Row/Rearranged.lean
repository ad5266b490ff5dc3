import CellExchange.Proofs.Row.Named

/-! # Rows with their columns in another order

A header may name the columns in any order, leave some out and put foreign names between them.
**Neither matters** (`Cell.ofFields_rearranged`): a row is read by such a header as the row is read
by place that holds the value of every column where it belongs (`rearranged`), with an empty field
for each column that the header lacks. Only a header that names a column of data twice rejects every
row.

A draft is looked at as a value for each column (`Draft.value`). A field that is read gives its
column a value that depends on nothing but the field (`Draft.readValue_of_set`), and leaves the
others (`Draft.value_of_set`); so what a list of fields with different columns makes of a draft can
be told for each column by looking it up (`Draft.setAll_eq_ok_iff`), whatever the order. Reading by place and reading by name
are two ways to make such a list. -/

namespace CellExchange

variable {names fields header row : List String} {name s : String} {c other : Column}

/-! ## The values of a draft -/

namespace Draft

variable {d d' : Draft} {place : Nat} {met columns : List Column}

/-- The value of a draft in one column. -/
inductive Value where
  /-- A text that is a value even if it is empty. -/
  | name (s : String)
  /-- A whole number. -/
  | whole (n : Option Int)
  /-- A number with a fraction. -/
  | real (x : Option Double)
  /-- A text that is absent if it is empty. -/
  | text (s : Option String)
  /-- The reserved column has none. -/
  | reserved

/-- What a draft holds for a column. -/
def value (d : Draft) : Column → Value
  | .radio => .name d.radio
  | .mcc => .whole d.mcc
  | .mnc => .whole d.mnc
  | .lac => .whole d.lac
  | .cid => .whole d.cid
  | .psc => .whole d.psc
  | .lon => .real d.lon
  | .lat => .real d.lat
  | .range => .real d.range
  | .samples => .whole d.samples
  | .changeable => .text d.changeable
  | .created => .whole d.created
  | .updated => .whole d.updated
  | .averageSignal => .reserved

/-- A draft is its values. -/
theorem ext_value (h : ∀ c, d.value c = d'.value c) : d = d' := by
  cases d with
  | mk =>
    cases d' with
    | mk =>
      have hwhole : ∀ {m n : Option Int}, Value.whole m = .whole n → m = n := Value.whole.inj
      have hreal : ∀ {x y : Option Double}, Value.real x = .real y → x = y := Value.real.inj
      rw [mk.injEq]
      exact ⟨Value.name.inj (h .radio), hwhole (h .mcc), hwhole (h .mnc), hwhole (h .lac),
        hwhole (h .cid), hwhole (h .psc), hreal (h .lon), hreal (h .lat), hreal (h .range),
        hwhole (h .samples), Value.text.inj (h .changeable), hwhole (h .created),
        hwhole (h .updated)⟩

/-- What a field says in a column. -/
def readValue (c : Column) (s : String) : Except ValueFault Value :=
  (({} : Draft).set c s).map fun d => d.value c

/-- What an empty field says is what an empty draft holds. -/
theorem readValue_empty (c : Column) : readValue c "" = .ok (({} : Draft).value c) := by
  unfold readValue
  rw [set_empty]
  rfl

/-- A field that is read gives its column what it says. -/
theorem readValue_of_set (h : d.set c s = .ok d') : readValue c s = .ok (d'.value c) := by
  unfold readValue
  cases c with
  | radio | changeable | averageSignal => cases h; rfl
  | _ =>
    obtain ⟨value, hread, rfl⟩ := map_eq_ok_iff.1 h
    rw [set, hread]
    rfl

/-- A field that is read leaves every other column as it is. -/
theorem value_of_set (h : d.set c s = .ok d') (hne : other ≠ c) :
    d'.value other = d.value other := by
  cases c with
  | radio | changeable | averageSignal =>
    cases h
    cases other <;> first | rfl | exact absurd rfl hne
  | _ =>
    obtain ⟨value, -, rfl⟩ := map_eq_ok_iff.1 h
    cases other <;> first | rfl | exact absurd rfl hne

/-- Whether a field reads depends on no draft. -/
theorem exists_set {v : Value} (h : readValue c s = .ok v) (d : Draft) :
    ∃ d', d.set c s = .ok d' := by
  obtain ⟨d₀, hset, -⟩ := map_eq_ok_iff.1 h
  cases c with
  | radio | changeable | averageSignal => exact ⟨_, rfl⟩
  | _ =>
    obtain ⟨value, hread, -⟩ := map_eq_ok_iff.1 hset
    exact ⟨_, map_eq_ok_iff.2 ⟨value, hread, rfl⟩⟩

/-! ## Many fields -/

/-- A draft after some fields, each with its column, are read. -/
def setAll (d : Draft) (pairs : List (Column × String)) : Except ValueFault Draft :=
  pairs.foldlM (fun d p => d.set p.1 p.2) d

/-- What a column has in `d'`, given its field if it has one: what the field says, or what it has in
`d`. -/
def Takes (d d' : Draft) (c : Column) : Option String → Prop
  | some s => readValue c s = .ok (d'.value c)
  | none => d'.value c = d.value c

/-- One field is read: the column that it has to itself has what the field says, and the others are
told of the draft behind it as of the draft before it. -/
theorem takes_cons_iff {d₁ : Draft} {pairs : List (Column × String)} (hset : d.set c s = .ok d₁)
    (hlookup : pairs.lookup c = none) (other : Column) :
    Takes d d' other (((c, s) :: pairs).lookup other) ↔ Takes d₁ d' other (pairs.lookup other) := by
  by_cases hc : other = c
  · subst hc
    rw [List.lookup_cons_self, hlookup, Takes, Takes, readValue_of_set hset]
    exact ⟨fun h => (Except.ok.inj h).symm, fun h => congrArg Except.ok h.symm⟩
  · rw [List.lookup_cons, beq_eq_false_iff_ne.2 hc]
    cases pairs.lookup other with
    | some s => exact Iff.rfl
    | none => rw [Takes, Takes, value_of_set hset hc]

/-- **Many fields**, with different columns, are read if each column has what its field says. -/
theorem setAll_eq_ok_iff {pairs : List (Column × String)} (hnodup : (pairs.map Prod.fst).Nodup) :
    d.setAll pairs = .ok d' ↔ ∀ c, Takes d d' c (pairs.lookup c) := by
  induction pairs generalizing d with
  | nil =>
    constructor
    · intro h c
      cases h
      rfl
    · intro h
      rw [ext_value fun c => (h c).symm]
      rfl
  | cons p pairs ih =>
    obtain ⟨column, s⟩ := p
    rw [List.map_cons, List.nodup_cons] at hnodup
    -- no later field has this column, so what it is given stays
    have hlookup : pairs.lookup column = none := by
      rw [List.lookup_eq_none_iff]
      intro q hq
      have hne : column ≠ q.1 := by
        rintro rfl
        exact hnodup.1 (List.mem_map.2 ⟨q, hq, rfl⟩)
      simpa using hne
    unfold setAll
    rw [List.foldlM_cons, bind_eq_ok_iff]
    constructor
    · rintro ⟨d₁, hset, hrest⟩ c
      exact (takes_cons_iff hset hlookup c).2 ((ih hnodup.2).1 hrest c)
    · intro h
      have hread := h column
      rw [List.lookup_cons_self, Takes] at hread
      obtain ⟨d₁, hset⟩ := exists_set hread d
      exact ⟨d₁, hset, (ih hnodup.2).2 fun c => (takes_cons_iff hset hlookup c).1 (h c)⟩

/-! ## Two ways to give fields their columns -/

/-- Reading by place gives the fields to the columns in order. -/
theorem readPlaces_eq_ok_iff :
    readPlaces place d columns fields = .ok d' ↔ d.setAll (columns.zip fields) = .ok d' := by
  induction columns generalizing place d fields with
  | nil => constructor <;> (intro h; cases h; rfl)
  | cons c columns ih =>
    cases fields with
    | nil => constructor <;> (intro h; cases h; rfl)
    | cons s fields =>
      unfold readPlaces setAll
      rw [List.zip_cons_cons, List.foldlM_cons, bind_eq_ok_iff, bind_eq_ok_iff]
      exact exists_congr fun d₁ => and_congr setAt_eq_ok_iff ih

/-- The fields under names that mean a column of data, each with its column. -/
def columnFields (names fields : List String) : List (Column × String) :=
  (names.zip fields).filterMap fun p => (Column.dataOfName? p.1).map fun c => (c, p.2)

theorem columnFields_of_unknown (hname : Column.dataOfName? name = none) :
    columnFields (name :: names) (s :: fields) = columnFields names fields := by
  simp [columnFields, hname]

theorem columnFields_of_column (hname : Column.dataOfName? name = some c) :
    columnFields (name :: names) (s :: fields) = (c, s) :: columnFields names fields := by
  simp [columnFields, hname]

/-- If no field is missing, the columns are the ones that the names mean. -/
theorem map_fst_columnFields (hlong : names.length ≤ fields.length) :
    (columnFields names fields).map Prod.fst = names.filterMap Column.dataOfName? := by
  induction names generalizing fields with
  | nil => rfl
  | cons name names ih =>
    cases fields with
    | nil => exact absurd hlong (Nat.not_succ_le_zero _)
    | cons s fields =>
      have ih := ih (Nat.le_of_succ_le_succ hlong)
      cases hname : Column.dataOfName? name with
      | none => rw [columnFields_of_unknown hname, List.filterMap_cons_none hname, ih]
      | some c =>
        rw [columnFields_of_column hname, List.filterMap_cons_some hname, List.map_cons, ih]

/-- Reading by name gives the fields to the columns that the names mean, if none is missing and no
column comes twice. -/
theorem readNames_eq_ok_iff (honce : Column.NamedOnce names)
    (hmet : ∀ c ∈ names.filterMap Column.dataOfName?, c ∉ met)
    (hlong : names.length ≤ fields.length) :
    readNames place met d names fields = .ok d' ↔
      d.setAll (columnFields names fields) = .ok d' := by
  induction names generalizing place met d fields with
  | nil => constructor <;> (intro h; cases h; rfl)
  | cons name names ih =>
    cases fields with
    | nil => exact absurd hlong (Nat.not_succ_le_zero _)
    | cons s fields =>
      have hlong := Nat.le_of_succ_le_succ hlong
      cases hname : Column.dataOfName? name with
      | none =>
        rw [Column.NamedOnce, List.filterMap_cons_none hname] at honce
        rw [List.filterMap_cons_none hname] at hmet
        rw [readNames_of_unknown hname, columnFields_of_unknown hname]
        exact ih honce hmet hlong
      | some c =>
        rw [Column.NamedOnce, List.filterMap_cons_some hname, List.nodup_cons] at honce
        rw [List.filterMap_cons_some hname, List.forall_mem_cons] at hmet
        have hmet' : ∀ other ∈ names.filterMap Column.dataOfName?, other ∉ c :: met := by
          intro other hother
          rw [List.mem_cons, not_or]
          exact ⟨fun h => honce.1 (h ▸ hother), hmet.2 other hother⟩
        rw [readNames_of_column hname hmet.1, columnFields_of_column hname]
        unfold setAll
        rw [List.foldlM_cons, bind_eq_ok_iff, bind_eq_ok_iff]
        exact exists_congr fun d₁ => and_congr setAt_eq_ok_iff (ih honce.2 hmet' hlong)

end Draft

namespace Column

theorem mem_data_iff : c ∈ data ↔ c ≠ .averageSignal := by
  cases c <;> decide

/-- A name means a column of data exactly if it is the column's name. -/
theorem dataOfName?_eq_some_iff (hc : c ∈ data) : dataOfName? name = some c ↔ name = c.name := by
  constructor
  · intro h
    exact (name_of_dataOfName? h).symm
  · rintro rfl
    rw [dataOfName?_name, if_neg (mem_data_iff.1 hc)]

/-- No column of data comes twice exactly if no name of one does. -/
theorem namedOnce_iff : NamedOnce names ↔ ∀ c ∈ data, names.count c.name ≤ 1 := by
  have hcount : ∀ c ∈ data, (names.filterMap dataOfName?).count c = names.count c.name := by
    intro c hc
    rw [List.count_filterMap, List.count]
    congr 1
    funext name
    rw [Bool.eq_iff_iff, beq_iff_eq, beq_iff_eq, dataOfName?_eq_some_iff hc]
  unfold NamedOnce
  rw [List.nodup_iff_count_le_one]
  constructor
  · intro h c hc
    rw [← hcount c hc]
    exact h c
  · intro h c
    by_cases hc : c ∈ data
    · rw [hcount c hc]
      exact h c hc
    · rw [List.count_eq_zero_of_not_mem]
      · exact Nat.zero_le 1
      · intro hmem
        obtain ⟨name, -, hname⟩ := List.mem_filterMap.1 hmem
        exact hc (List.mem_of_find?_eq_some hname)

end Column

namespace Draft

variable {d : Draft}

/-- The field of a column is looked up by the name of the column. -/
theorem lookup_columnFields (hc : c ∈ Column.data) (names fields : List String) :
    (columnFields names fields).lookup c = (names.zip fields).lookup c.name := by
  induction names generalizing fields with
  | nil => rfl
  | cons name names ih =>
    cases fields with
    | nil => rfl
    | cons s fields =>
      rw [List.zip_cons_cons, List.lookup_cons]
      cases hname : Column.dataOfName? name with
      | none =>
        have hne : c.name ≠ name := by
          rintro rfl
          exact absurd (hname.symm.trans ((Column.dataOfName?_eq_some_iff hc).2 rfl)) nofun
        rw [columnFields_of_unknown hname, beq_eq_false_iff_ne.2 hne]
        exact ih fields
      | some other =>
        rw [columnFields_of_column hname, List.lookup_cons]
        have hsame : (c == other) = (c.name == name) := by
          rw [Bool.eq_iff_iff, beq_iff_eq, beq_iff_eq, eq_comm (a := c.name),
            ← Column.dataOfName?_eq_some_iff hc, hname, Option.some.injEq, eq_comm]
        rw [hsame, ih fields]

end Draft

/-! ## The row by place -/

/-- A row with every column of data in its place: of each the field under its name, and an empty
field if the header lacks the name. -/
def rearranged (header row : List String) : List String :=
  Column.data.map fun c => ((header.zip row).lookup c.name).getD ""

namespace Draft

variable {d : Draft} {place : Nat} {met columns : List Column} {fault : RowFault}

theorem lookup_rearranged (hc : c ∈ Column.data) (header row : List String) :
    (Column.data.zip (rearranged header row)).lookup c =
      some (((header.zip row).lookup c.name).getD "") := by
  have hzip : Column.data.zip (rearranged header row) =
      Column.data.map fun c => (c, ((header.zip row).lookup c.name).getD "") :=
    (congrArg (List.zip · _) (List.map_id _).symm).trans List.zip_map'
  rw [hzip]
  exact List.lookup_graph _ hc

/-- An empty field and a missing one say the same of an empty draft. -/
theorem takes_getD_iff (o : Option String) :
    Takes {} d c (some (o.getD "")) ↔ Takes {} d c o := by
  cases o with
  | some s => exact Iff.rfl
  | none =>
    rw [Option.getD_none, Takes, Takes, readValue_empty]
    exact ⟨fun h => (Except.ok.inj h).symm, fun h => congrArg Except.ok h.symm⟩

/-- **The drafts of the two rows** are the same. -/
theorem ofNamedRow_eq_ok_iff (honce : Column.NamedOnce header)
    (hlong : header.length ≤ row.length) :
    ofNamedRow header row = .ok d ↔ ofRow (rearranged header row) = .ok d := by
  have hnamed : ((columnFields header row).map Prod.fst).Nodup := by
    rw [map_fst_columnFields hlong]
    exact honce
  have hplaced : ((Column.data.zip (rearranged header row)).map Prod.fst).Nodup := by
    have hlength : (rearranged header row).length = Column.data.length := List.length_map _
    rw [List.map_fst_zip (Nat.le_of_eq hlength.symm)]
    decide
  rw [ofNamedRow, ofRow, readPlaces_eq_ok_iff, setAll_eq_ok_iff hplaced,
    readNames_eq_ok_iff honce (fun _ _ => List.not_mem_nil) hlong, setAll_eq_ok_iff hnamed]
  refine forall_congr' fun c => ?_
  by_cases hc : c ∈ Column.data
  · rw [lookup_columnFields hc, lookup_rearranged hc, takes_getD_iff]
  · -- the reserved column holds nothing, whatever is read
    rw [Column.mem_data_iff, not_not] at hc
    subst hc
    have htakes : ∀ o, Takes {} d .averageSignal o := fun o => by cases o <;> rfl
    exact iff_of_true (htakes _) (htakes _)

/-! ## Rows that do not fit their columns -/

theorem isDecoding_of_setAt {s : String} {d : Draft} (h : d.setAt place c s = .error fault) :
    fault.isDecoding = true := by
  unfold setAt at h
  split at h <;> cases h
  rfl

theorem isDecoding_of_readPlaces (h : readPlaces place d columns fields = .error fault) :
    fault.isDecoding = true := by
  induction columns generalizing place d fields with
  | nil => cases h
  | cons c columns ih =>
    cases fields with
    | nil => cases h
    | cons s fields =>
      unfold readPlaces at h
      cases hset : d.setAt place c s with
      | error other =>
        rw [hset] at h
        cases h
        exact isDecoding_of_setAt hset
      | ok d₁ =>
        rw [hset] at h
        exact ih h

theorem isDecoding_of_readNames (h : readNames place met d names fields = .error fault) :
    fault.isDecoding = true := by
  induction names generalizing place met d fields with
  | nil => cases h
  | cons name names ih =>
    rw [readNames.eq_def] at h
    cases hname : Column.dataOfName? name with
    | none =>
      simp only [hname] at h
      cases fields with
      | nil => cases h; rfl
      | cons s fields => exact ih h
    | some c =>
      simp only [hname] at h
      by_cases hmet : c ∈ met
      · rw [if_pos hmet] at h
        cases h
        rfl
      rw [if_neg hmet] at h
      cases fields with
      | nil =>
        by_cases hradio : c = .radio
        · rw [if_pos hradio] at h
          cases h
          rfl
        · rw [if_neg hradio] at h
          exact ih h
      | cons s fields =>
        dsimp only at h
        cases hset : d.setAt place c s with
        | error other =>
          rw [hset] at h
          cases h
          exact isDecoding_of_setAt hset
        | ok d₁ =>
          rw [hset] at h
          exact ih h

end Draft

/-! ## Whole rows -/

namespace Cell

theorem ofFields_some (header row : List String) :
    ofFields (some header) row = Draft.ofNamedRow header row >>= Draft.toCell := rfl

theorem ofFields_none (row : List String) :
    ofFields none row = Draft.ofRow row >>= Draft.toCell := rfl

/-- **The order of columns and foreign columns do not matter.** If a header names no column of data
twice, a row that is not shorter than it is read by name as the rearranged row is read by place: as
the same cell or with the same fault, or neither fits its columns. If a header names a column of
data twice, every row is rejected. -/
theorem ofFields_rearranged (header row : List String) :
    ((∀ c ∈ Column.data, header.count c.name ≤ 1) → header.length ≤ row.length →
      ofFields (some header) row = ofFields none (rearranged header row) ∨
      ∃ fault other, ofFields (some header) row = .error fault ∧
        ofFields none (rearranged header row) = .error other ∧
        fault.isDecoding = true ∧ other.isDecoding = true) ∧
    ((∃ c ∈ Column.data, 2 ≤ header.count c.name) →
      ∃ fault, ofFields (some header) row = .error fault ∧ fault.isDecoding = true) := by
  constructor
  · intro honce hlong
    have hdrafts : ∀ d, Draft.ofNamedRow header row = .ok d ↔
        Draft.ofRow (rearranged header row) = .ok d := fun d =>
      Draft.ofNamedRow_eq_ok_iff (Column.namedOnce_iff.2 honce) hlong
    rw [ofFields_some, ofFields_none]
    cases hnamed : Draft.ofNamedRow header row with
    | ok d =>
      rw [(hdrafts d).1 hnamed]
      exact Or.inl rfl
    | error fault =>
      cases hplaced : Draft.ofRow (rearranged header row) with
      | ok d => exact absurd (hnamed.symm.trans ((hdrafts d).2 hplaced)) nofun
      | error other =>
        exact Or.inr ⟨fault, other, rfl, rfl, Draft.isDecoding_of_readNames hnamed,
          Draft.isDecoding_of_readPlaces hplaced⟩
  · rintro ⟨c, hc, htwice⟩
    rw [ofFields_some]
    cases hnamed : Draft.ofNamedRow header row with
    | ok d =>
      have honce := Column.namedOnce_iff.1 (Draft.namedOnce_of_readNames hnamed).1 c hc
      omega
    | error fault => exact ⟨fault, rfl, Draft.isDecoding_of_readNames hnamed⟩

/-- Seven columns of data in another order, with two foreign columns between them. -/
def shuffledHeader : List String :=
  ["cell", "net", "provider", "lat", "area", "lon", "mcc", "radio", "note"]

/-- A row under this header, with a field too many. -/
def shuffledRow : List String :=
  ["86355", "2", "a", "52", "801", "13", "262", "LTE", "b", "c"]

/-- The row reads as the one by place, longitude before latitude; with a second column of cell
numbers it is rejected. -/
theorem ofFields_rearranged_shuffled :
    (∃ cell, ofFields (some shuffledHeader) shuffledRow = .ok cell ∧
      ofFields none ["LTE", "262", "2", "801", "86355", "", "13", "52", "", "", "", "", ""] =
        .ok cell) ∧
    ∃ fault, ofFields (some (shuffledHeader ++ ["cell"])) shuffledRow = .error fault ∧
      fault.isDecoding = true := by
  constructor
  · have hplaced : rearranged shuffledHeader shuffledRow =
        ["LTE", "262", "2", "801", "86355", "", "13", "52", "", "", "", "", ""] := by
      decide +kernel
    have hok : (ofFields none (rearranged shuffledHeader shuffledRow)).isOk = true := by
      decide +kernel
    obtain hsame | ⟨fault, other, -, hother, -⟩ :=
      (ofFields_rearranged shuffledHeader shuffledRow).1 (by decide +kernel) (by decide)
    · rw [hsame, hplaced]
      rw [hplaced] at hok
      cases hcell : ofFields none
          ["LTE", "262", "2", "801", "86355", "", "13", "52", "", "", "", "", ""] with
      | ok cell => exact ⟨cell, rfl, rfl⟩
      | error fault =>
        rw [hcell] at hok
        exact absurd hok Bool.false_ne_true
    · rw [hother] at hok
      exact absurd hok Bool.false_ne_true
  · exact (ofFields_rearranged (shuffledHeader ++ ["cell"]) shuffledRow).2
      ⟨.cid, by decide, by decide +kernel⟩

end Cell

end CellExchange
