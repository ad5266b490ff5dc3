import CellExchange.Proofs.Import.Account
import CellExchange.Proofs.Store.Identity

/-! # Imports at the same time

Several imports may go on at the same time in one store. Each commits its batches one after another,
a batch is stored as a whole, and at any time any of the imports may be the next to commit: the
batches of all of them come in an order that keeps the order of each (`Interleaving`).

**Imports at the same time lose nothing** (`commitAll_interleaving`): every identity of a cell has
one row, which tells of the first sighting what the first cell of the identity told, and of the last
one what the last cell told, in the order in which the batches were committed. If no two imports
have cells of one identity, the order of the rows is all that depends on it: the cells of an
identity then come in one order, which is that of their import (`Interleaving.cellsOf_flatten`). -/

namespace CellExchange

/-- The orders in which queues can be served: at each step the first of some queue is next, and when
all queues are empty nothing more comes. -/
inductive Interleaving {α : Type} : List (List α) → List α → Prop where
  /-- All queues are empty. -/
  | done {queues : List (List α)} (empty : ∀ queue ∈ queues, queue = []) : Interleaving queues []
  /-- One queue is served, and then the queues go on. -/
  | next {before after : List (List α)} {first : α} {rest order : List α} :
      Interleaving (before ++ rest :: after) order →
        Interleaving (before ++ (first :: rest) :: after) (first :: order)

namespace Interleaving

variable {α : Type} {queues : List (List α)} {order : List α}

/-- All that is queued is served, each element as often as it is queued. -/
theorem perm (h : Interleaving queues order) : order.Perm queues.flatten := by
  induction h with
  | done empty => rw [List.flatten_eq_nil_iff.2 empty]
  | @next before after first rest order _ ih =>
    rw [List.flatten_append, List.flatten_cons] at ih ⊢
    rw [List.cons_append]
    exact (ih.cons first).trans List.perm_middle.symm

variable {imports : List (List (List Cell))} {commits : List (List Cell)}

/-- The cells that are committed are those of the batches of the imports. -/
theorem mem_flatten (h : Interleaving imports commits) {c : Cell} :
    c ∈ commits.flatten ↔ ∃ batches ∈ imports, ∃ batch ∈ batches, c ∈ batch := by
  simp only [List.mem_flatten, h.perm.mem_iff]
  constructor
  · rintro ⟨batch, ⟨batches, himport, hbatch⟩, hc⟩
    exact ⟨batches, himport, batch, hbatch, hc⟩
  · rintro ⟨batches, himport, batch, hbatch, hc⟩
    exact ⟨batch, ⟨batches, himport, hbatch⟩, hc⟩

/-- Whether no two imports have cells of one identity. -/
def IsDisjoint (imports : List (List (List Cell))) : Prop :=
  imports.Pairwise fun a b => ∀ c ∈ a.flatten, ∀ d ∈ b.flatten, c.toCellKey ≠ d.toCellKey

instance (imports : List (List (List Cell))) : Decidable (IsDisjoint imports) :=
  inferInstanceAs (Decidable (List.Pairwise _ _))

/-- An import that has committed a batch has no more identities than before. -/
theorem IsDisjoint.tail {before after : List (List (List Cell))} {batch : List Cell}
    {rest : List (List Cell)} (h : IsDisjoint (before ++ (batch :: rest) :: after)) :
    IsDisjoint (before ++ rest :: after) := by
  have hrest : ∀ c ∈ rest.flatten, c ∈ (batch :: rest).flatten :=
    fun c hc => List.mem_append_right batch hc
  obtain ⟨hbefore, hcons, hacross⟩ := List.pairwise_append.1 h
  obtain ⟨hmine, hafter⟩ := List.pairwise_cons.1 hcons
  refine List.pairwise_append.2 ⟨hbefore, List.pairwise_cons.2 ⟨?_, hafter⟩, ?_⟩
  · exact fun b hb c hc => hmine b hb c (hrest c hc)
  · rintro a ha b hb c hc d hd
    obtain rfl | hb := List.mem_cons.1 hb
    · exact hacross a ha _ List.mem_cons_self c hc d (hrest d hd)
    · exact hacross a ha b (List.mem_cons_of_mem _ hb) c hc d hd

/-- **The cells of an identity come in the order of their import**, if no other import has any. -/
theorem cellsOf_flatten (h : Interleaving imports commits) (disjoint : IsDisjoint imports)
    (k : CellKey) : cellsOf k commits.flatten = cellsOf k imports.flatten.flatten := by
  induction h with
  | done empty => rw [List.flatten_eq_nil_iff.2 empty]
  | @next before after batch rest order _ ih =>
    have hrest := ih disjoint.tail
    simp only [cellsOf, List.flatten_append, List.flatten_cons, List.filter_append] at hrest ⊢
    rw [hrest]
    -- a batch with cells of the identity moves in front of the imports that have none
    by_cases hbatch : batch.filter (fun c => c.toCellKey = k) = []
    · rw [hbatch, List.nil_append, List.nil_append]
    · obtain ⟨c, hc⟩ := List.exists_mem_of_ne_nil _ hbatch
      obtain ⟨hmem, hkey⟩ := List.mem_filter.1 hc
      have hbefore : before.flatten.flatten.filter (fun c => c.toCellKey = k) = [] := by
        rw [List.filter_eq_nil_iff]
        intro d hd hdkey
        obtain ⟨other, hother, hd⟩ := List.mem_flatten.1 hd
        obtain ⟨a, ha, hother⟩ := List.mem_flatten.1 hother
        refine (List.pairwise_append.1 disjoint).2.2 a ha _ List.mem_cons_self d
          (List.mem_flatten.2 ⟨other, hother, hd⟩) c (List.mem_append_left _ hmem) ?_
        rw [of_decide_eq_true hkey, of_decide_eq_true hdkey]
      rw [hbefore, List.nil_append, List.nil_append, List.append_assoc]

end Interleaving

namespace CellRow

/-! ## Rows of sightings -/

/-- What a row tells of the last sighting of its cell. -/
def latest (r : CellRow) : Instant × Int32 × Option Double × Option Double × Int32 × Int32 :=
  (r.modified, r.samples, r.lat, r.lon, r.psc, r.range)

/-- What a row tells of the first sighting of its cell. -/
def earliest (r : CellRow) : Bool × Instant := (r.changeable, r.created)

/-- After sightings a row tells of the last one, if there is one. -/
theorem map_latest_after (o : Option CellRow) (cells : List Cell) :
    (after o cells).map latest =
      (cells.getLast?.map fun c => (ofCell c).latest).or (o.map latest) := by
  cases cells with
  | nil => rfl
  | cons first rest =>
    rw [after, List.getLast?_cons, ← List.getLastD_eq_getLast?]
    rfl

/-- After sightings a row tells of the first one, if there was no row before. -/
theorem map_earliest_after (o : Option CellRow) (cells : List Cell) :
    (after o cells).map earliest =
      (o.map earliest).or (cells.head?.map fun c => (ofCell c).earliest) := by
  cases cells with
  | nil => exact (Option.or_none).symm
  | cons first rest => cases o <;> rfl

end CellRow

/-! ## Committing -/

/-- Commits batches one after another. -/
def commitAll {σ : Type} [CellStore σ] : List (List Cell) → Action σ Unit
  | [] => return
  | batch :: rest => do
    CellStore.upsert batch
    commitAll rest

/-- Batches that are committed are stored cell by cell. -/
theorem commitAll_ok {s : MemoryStore} (h : s.IsReliable) (batches : List (List Cell)) :
    ∃ left, commitAll batches s = .ok () left ∧ left.rows = s.rows.putAll batches.flatten := by
  induction batches generalizing s with
  | nil => exact ⟨s, rfl, rfl⟩
  | cons batch rest ih =>
    obtain ⟨left, hrest, hrows⟩ := ih (h.store batch)
    refine ⟨left, ?_, ?_⟩
    · rw [commitAll]
      simp only [bind, EStateM.bind, MemoryStore.upsert_ok (h _ (Nat.le_refl _)) batch, hrest]
    · rw [hrows, List.flatten_cons, CellTable.putAll_append]
      rfl

/-- **Imports at the same time lose nothing and mix nothing up.** Their batches are committed in any
order that keeps the order of each import. Then the identities of the rows are those that were there
and those of the cells of all batches, and each has one row. What a row tells of the last sighting
is what the last cell of its identity tells, in the order of the commits, and stays as it was if
there is none; what it tells of the first sighting stays if it was there, and otherwise is what the
first cell of its identity tells. Rows of other identities stay as they are. Rows that were there
keep their places, and new ones follow in the order in which their identities first come. If no two
imports have cells of one identity, every order leaves the same rows, up to their order. -/
theorem commitAll_interleaving (start : MemoryStore) {imports : List (List (List Cell))}
    {commits : List (List Cell)} (distinct : (start.rows.map CellRow.identity).Nodup)
    (reliable : start.IsReliable) (interleaved : Interleaving imports commits) :
    let cells := commits.flatten
    ∃ left, commitAll commits start = .ok () left ∧
      (∀ i, i ∈ left.rows.map CellRow.identity ↔ i ∈ start.rows.map CellRow.identity ∨
        ∃ batches ∈ imports, ∃ batch ∈ batches, ∃ c ∈ batch, c.toCellKey.identity = i) ∧
      (left.rows.map CellRow.identity).Nodup ∧
      (∀ k, (left.rows.row? k).map CellRow.latest =
        ((cellsOf k cells).getLast?.map fun c => (CellRow.ofCell c).latest).or
          ((start.rows.row? k).map CellRow.latest)) ∧
      (∀ k, (left.rows.row? k).map CellRow.earliest =
        ((start.rows.row? k).map CellRow.earliest).or
          ((cellsOf k cells).head?.map fun c => (CellRow.ofCell c).earliest)) ∧
      left.rows.others cells = start.rows.others cells ∧
      left.rows.map CellRow.identity = start.rows.map CellRow.identity ++
        CellTable.newIdentities (start.rows.map CellRow.identity) cells ∧
      (Interleaving.IsDisjoint imports → ∀ otherCommits, Interleaving imports otherCommits →
        ∃ otherLeft, commitAll otherCommits start = .ok () otherLeft ∧
          otherLeft.rows.Perm left.rows) := by
  intro cells
  obtain ⟨left, hcommit, hrows⟩ := commitAll_ok reliable commits
  have hidentities := CellTable.map_identity_putAll start.rows cells
  refine ⟨left, hcommit, fun i => ?_, ?_, fun k => ?_, fun k => ?_, ?_, ?_, ?_⟩
  · rw [hrows, CellTable.mem_identity_putAll]
    refine or_congr_right ⟨?_, ?_⟩
    · rintro ⟨c, hc, hi⟩
      obtain ⟨batches, himport, batch, hbatch, hc⟩ := interleaved.mem_flatten.1 hc
      exact ⟨batches, himport, batch, hbatch, c, hc, hi⟩
    · rintro ⟨batches, himport, batch, hbatch, c, hc, hi⟩
      exact ⟨c, interleaved.mem_flatten.2 ⟨batches, himport, batch, hbatch, hc⟩, hi⟩
  · rw [hrows]
    exact CellTable.nodup_identity_putAll distinct cells
  · rw [hrows, CellTable.row?_putAll]
    exact CellRow.map_latest_after _ _
  · rw [hrows, CellTable.row?_putAll]
    exact CellRow.map_earliest_after _ _
  · rw [hrows]
    exact CellTable.others_putAll start.rows cells
  · rw [hrows, hidentities]
  · intro disjoint otherCommits hother
    obtain ⟨otherLeft, hotherCommit, hotherRows⟩ := commitAll_ok reliable otherCommits
    refine ⟨otherLeft, hotherCommit, ?_⟩
    rw [hotherRows, hrows]
    refine CellTable.perm_putAll distinct fun k => ?_
    rw [hother.cellsOf_flatten disjoint, interleaved.cellsOf_flatten disjoint]

/-- A cell that is sighted at some second. -/
def sightedAt (cid : Int64) (changeable : Bool) (samples : Int32) (second : Int) : Cell where
  radio := .lte
  mcc := 262
  mnc := 1
  lac := 5
  cid := cid
  psc := -1
  lat := .ofInt 52
  lon := .ofInt 13
  range := 100
  samples := samples
  changeable := changeable
  created := .ofSeconds second
  modified := .ofSeconds second

/-- The batches of two imports, which both sight the second of three cells. -/
def bothSight : List (List (List Cell)) :=
  [[[sightedAt 1 false 2 100, sightedAt 2 false 3 200]],
    [[sightedAt 2 true 4 300], [sightedAt 3 true 5 400]]]

/-- The first import commits between the two batches of the second one: the cell that both sight
tells of its last sighting what the first import told, and of its first one what the second import
told. Where the second import has a cell of its own only, it does not matter which of the two
commits first. -/
theorem commitAll_interleaving_bothSight :
    (∃ left, commitAll [[sightedAt 2 true 4 300], [sightedAt 1 false 2 100, sightedAt 2 false 3 200],
        [sightedAt 3 true 5 400]] ({ rows := [.ofCell (sightedAt 1 true 1 0)] } : MemoryStore) =
          .ok () left ∧
      left.rows.map CellRow.identity = (List.range' 1 3).map (fun n => (2, 262, 1, 5, .ofNat n)) ∧
      (left.rows.row? (sightedAt 2 true 4 300).toCellKey).map CellRow.latest =
        some (CellRow.ofCell (sightedAt 2 false 3 200)).latest ∧
      (left.rows.row? (sightedAt 2 true 4 300).toCellKey).map CellRow.earliest =
        some (true, .ofSeconds 300)) ∧
    ∃ left other, commitAll [[sightedAt 1 false 2 100, sightedAt 2 false 3 200],
        [sightedAt 3 true 5 400]] ({} : MemoryStore) = .ok () left ∧
      commitAll [[sightedAt 3 true 5 400], [sightedAt 1 false 2 100, sightedAt 2 false 3 200]]
        ({} : MemoryStore) = .ok () other ∧
      other.rows.Perm left.rows := by
  have hreliable : ∀ rows, ({ rows } : MemoryStore).IsReliable :=
    fun _ => MemoryStore.isReliable_of_failAfter rfl
  have hdone : Interleaving [[], ([] : List (List Cell))] [] := .done (by decide)
  -- the second import goes on, then the first one, and then the second one again
  have hthird := @Interleaving.next _ [[]] [] [sightedAt 3 true 5 400] _ _ hdone
  have hsecond := @Interleaving.next _ [] _
    [sightedAt 1 false 2 100, sightedAt 2 false 3 200] _ _ hthird
  have hfirst : Interleaving bothSight _ :=
    @Interleaving.next _ [[[sightedAt 1 false 2 100, sightedAt 2 false 3 200]]] _
      [sightedAt 2 true 4 300] _ _ hsecond
  constructor
  · obtain ⟨left, hcommit, -, -, hlatest, hearliest, -, hidentity, -⟩ :=
      commitAll_interleaving { rows := [.ofCell (sightedAt 1 true 1 0)] } (by decide +kernel)
        (hreliable _) hfirst
    refine ⟨left, hcommit, ?_, ?_, ?_⟩
    · rw [hidentity]
      decide +kernel
    · rw [hlatest]
      decide +kernel
    · rw [hearliest]
      decide +kernel
  · -- what is left when the second import has committed its first batch, in the other order
    have hlast := @Interleaving.next _ [] _
      [sightedAt 1 false 2 100, sightedAt 2 false 3 200] _ _ hdone
    have hother := @Interleaving.next _ [[[sightedAt 1 false 2 100, sightedAt 2 false 3 200]]] []
      [sightedAt 3 true 5 400] _ _ hlast
    obtain ⟨left, hcommit, -, -, -, -, -, -, hperm⟩ :=
      commitAll_interleaving {} (by decide +kernel) (hreliable _) hsecond
    obtain ⟨other, hotherCommit, hrows⟩ := hperm (by decide +kernel) _ hother
    exact ⟨left, other, hcommit, hotherCommit, hrows⟩

end CellExchange
