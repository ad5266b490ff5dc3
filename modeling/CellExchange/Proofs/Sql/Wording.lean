import CellExchange.Sql.Statement
import Mathlib

/-! # The texts of statements

A statement is written in pieces, and in its text a value is only the number of its place. So **the
text of an `insert` depends on nothing but the table and the number of cells** (`text_insert`): the
field of cell `i` in column `j`, both counted from 0, has the number `13 * i + j + 1`, and among the
values of the statement the one at that place is the value of that cell in that column
(`getElem?_values_insert`). The text of a `select` of selected rows is that of the five conditions
that every selection has, and of one more for each of its bounds (`text_select`).

Pieces are numbered on from the pieces before them (`textFrom_append`); what is repeated with a
separator takes as many numbers each time (`textFrom_separated`). -/

namespace CellExchange.Sql

namespace Fragment

variable {next : Nat}

/-! ## Numbered pieces -/

/-- The text of some pieces whose values are numbered from a given number on. -/
def textFrom (next : Nat) (fragments : List Fragment) : String := appendTo next "" fragments

/-- What stands before some pieces does not change their text. -/
theorem appendTo_eq (next : Nat) (before : String) (fragments : List Fragment) :
    appendTo next before fragments = before ++ textFrom next fragments := by
  unfold textFrom
  induction fragments generalizing next before with
  | nil => simp [appendTo]
  | cons fragment rest ih =>
    cases fragment with
    | words s =>
      rw [appendTo, appendTo, ih, ih _ ("" ++ s), String.empty_append, String.append_assoc]
    | value v =>
      rw [appendTo, appendTo, ih, ih _ ("" ++ "$" ++ Numeral.text next)]
      simp only [String.empty_append, String.append_assoc]

theorem text_eq_textFrom (fragments : List Fragment) : text fragments = textFrom 1 fragments := rfl

@[simp] theorem textFrom_nil : textFrom next [] = "" := rfl

@[simp] theorem textFrom_words (s : String) (rest : List Fragment) :
    textFrom next (words s :: rest) = s ++ textFrom next rest := by
  rw [textFrom, appendTo, String.empty_append, appendTo_eq]

@[simp] theorem textFrom_value (v : Value) (rest : List Fragment) :
    textFrom next (value v :: rest) = "$" ++ Numeral.text next ++ textFrom (next + 1) rest := by
  rw [textFrom, appendTo, String.empty_append, appendTo_eq]

/-- Words at the end are the text. -/
theorem textFrom_last_words (s : String) : textFrom next [words s] = s := by
  rw [textFrom_words, textFrom_nil, String.append_empty]

@[simp] theorem values_nil : values [] = [] := rfl

@[simp] theorem values_words (s : String) (rest : List Fragment) :
    values (words s :: rest) = values rest := rfl

@[simp] theorem values_value (v : Value) (rest : List Fragment) :
    values (value v :: rest) = v :: values rest := rfl

/-- **Numbering goes on** from the pieces before. -/
theorem textFrom_append (next : Nat) (first second : List Fragment) :
    textFrom next (first ++ second) =
      textFrom next first ++ textFrom (next + (values first).length) second := by
  induction first generalizing next with
  | nil => exact String.empty_append.symm
  | cons fragment rest ih =>
    cases fragment with
    | words s => rw [List.cons_append, textFrom_words, textFrom_words, ih, String.append_assoc]; rfl
    | value v =>
      have hnext : next + 1 + (values rest).length = next + (values (value v :: rest)).length := by
        rw [values_value, List.length_cons]
        omega
      rw [List.cons_append, textFrom_value, textFrom_value, ih, hnext, ← String.append_assoc]

/-! ## Pieces with a separator -/

theorem separated_cons_cons (separator : String) (first second : List Fragment)
    (rest : List (List Fragment)) :
    separated separator (first :: second :: rest) =
      first ++ words separator :: separated separator (second :: rest) := rfl

theorem separated_cons (separator : String) (first : List Fragment)
    (more : List (List Fragment)) :
    separated separator (first :: more) =
      first ++ more.flatMap fun p => words separator :: p := by
  induction more generalizing first with
  | nil => exact (List.append_nil first).symm
  | cons second more ih => rw [separated_cons_cons, ih, List.flatMap_cons, List.cons_append]

/-- Further pieces each have the separator before them. -/
theorem separated_append (separator : String) {parts : List (List Fragment)} (hne : parts ≠ [])
    (more : List (List Fragment)) :
    separated separator (parts ++ more) =
      separated separator parts ++ more.flatMap fun p => words separator :: p := by
  induction parts with
  | nil => exact absurd rfl hne
  | cons first rest ih =>
    cases rest with
    | nil => exact separated_cons separator first more
    | cons second rest =>
      rw [List.cons_append, List.cons_append, separated_cons_cons, separated_cons_cons,
        ← List.cons_append, ih (List.cons_ne_nil second rest), List.append_assoc, List.cons_append]

theorem values_separated (separator : String) (parts : List (List Fragment)) :
    values (separated separator parts) = parts.flatMap values := by
  induction parts with
  | nil => rfl
  | cons first rest ih =>
    cases rest with
    | nil => exact (List.append_nil _).symm
    | cons second rest =>
      rw [separated_cons_cons, values_append, values_words, ih, List.flatMap_cons (x := first)]

/-- **What is repeated takes as many numbers each time**, if all parts have as many values and read
the same but for their numbers. -/
theorem textFrom_separated (separator : String) (width : Nat) (wording : Nat → String)
    {parts : List (List Fragment)} (hvalues : ∀ p ∈ parts, (values p).length = width)
    (htext : ∀ p ∈ parts, ∀ next, textFrom next p = wording next) (next : Nat) :
    textFrom next (separated separator parts) = separator.intercalate
      ((List.range parts.length).map fun i => wording (next + width * i)) := by
  induction parts generalizing next with
  | nil => rfl
  | cons first rest ih =>
    rw [List.forall_mem_cons] at hvalues htext
    cases rest with
    | nil => simp [separated, htext.1]
    | cons second rest =>
      -- the numbers of the other parts begin behind those of the first one
      have hrange : (List.range (first :: second :: rest).length).map
            (fun i => wording (next + width * i)) =
          wording next :: (List.range (second :: rest).length).map
            fun i => wording (next + width + width * i) := by
        rw [List.length_cons, List.range_succ_eq_map, List.map_cons, List.map_map]
        refine congrArg _ (List.map_congr_left fun i _ => congrArg wording ?_)
        rw [Nat.mul_succ]
        omega
      have hne : (List.range (second :: rest).length).map
          (fun i => wording (next + width + width * i)) ≠ [] := by simp
      rw [separated_cons_cons, textFrom_append, textFrom_words, htext.1, hvalues.1,
        ih hvalues.2 htext.2 (next + width), hrange, String.intercalate_cons_of_ne_nil hne,
        String.append_assoc]

end Fragment

namespace Statement

variable {cells : List Cell} {c : Cell} {k : TableColumn} {i j : Nat}

/-! ## Storing cells -/

/-- The number of a value in the text of a statement. -/
def placeholder (number : Nat) : String := "$" ++ Numeral.text number

/-- The numbers of the values of one cell, from a given one on, between brackets. -/
def placeholders (next : Nat) : String :=
  "(" ++ String.intercalate ", " ((List.range 13).map fun j => placeholder (next + j)) ++ ")"

/-- The text of an `insert` of a number of cells: the numbers of cell `i`, from 0, begin behind
those of the cells before it. -/
def insertText (table : TableName) (count : Nat) : String :=
  "insert into " ++ table.name ++ " (" ++ TableColumn.names TableColumn.all ++ ") VALUES " ++
    String.intercalate ", " ((List.range count).map fun i => placeholders (1 + 13 * i)) ++
    onConflict

theorem values_tuple (c : Cell) :
    Fragment.values (tuple c) = TableColumn.all.map fun k => k.ofCell c := by
  rw [tuple, List.cons_append, Fragment.values_words, Fragment.values_append,
    Fragment.values_separated]
  rfl

theorem length_values_tuple (c : Cell) : (Fragment.values (tuple c)).length = 13 := by
  rw [values_tuple]
  rfl

theorem textFrom_tuple (c : Cell) (next : Nat) :
    Fragment.textFrom next (tuple c) = placeholders next := by
  have hcolumns : Fragment.textFrom next
        (Fragment.separated ", " (TableColumn.all.map fun k => [.value (k.ofCell c)])) =
      String.intercalate ", " ((List.range 13).map fun j => placeholder (next + j)) := by
    rw [Fragment.textFrom_separated ", " 1 placeholder]
    · simp [TableColumn.all]
    · simp
    · simp [placeholder]
  rw [tuple, List.cons_append, Fragment.textFrom_words, Fragment.textFrom_append, hcolumns,
    Fragment.textFrom_last_words, placeholders, String.append_assoc]

/-- The values of an `insert` are those of its cells, one cell after another. -/
theorem values_insert (table : TableName) (cells : List Cell) :
    (insert table cells).values =
      cells.flatMap fun c => TableColumn.all.map fun k => k.ofCell c := by
  rw [values, fragments, Fragment.values_append, Fragment.values_append, Fragment.values_separated,
    List.flatMap_map]
  simp [values_tuple]

theorem length_values_insert (table : TableName) (cells : List Cell) :
    (insert table cells).values.length = 13 * cells.length := by
  rw [values_insert]
  induction cells with
  | nil => rfl
  | cons c rest ih =>
    rw [List.flatMap_cons, List.length_append, ih, List.length_cons, List.length_map]
    exact (Nat.mul_succ 13 rest.length).symm ▸ Nat.add_comm _ _

/-- **The values stand in the order of the columns**: the one of cell `i` in column `j`, both from
0, is behind `13 * i + j` others. -/
theorem getElem?_values_insert (table : TableName) {cells : List Cell} {i j : Nat} {c : Cell}
    {k : TableColumn} (hc : cells[i]? = some c) (hk : TableColumn.all[j]? = some k) :
    (insert table cells).values[13 * i + j]? = some (k.ofCell c) := by
  rw [values_insert]
  have hj : j < 13 := (List.getElem?_eq_some_iff.1 hk).1
  induction cells generalizing i with
  | nil => cases hc
  | cons first rest ih =>
    rw [List.flatMap_cons]
    cases i with
    | zero =>
      obtain rfl : first = c := Option.some.inj hc
      rw [Nat.mul_zero, Nat.zero_add, List.getElem?_append_left hj, List.getElem?_map, hk]
      rfl
    | succ i =>
      have hlength : (TableColumn.all.map fun k => k.ofCell first).length = 13 := rfl
      have hplace : 13 * (i + 1) + j = 13 + (13 * i + j) := by omega
      have hbehind : 13 ≤ 13 + (13 * i + j) := Nat.le_add_right 13 _
      rw [hplace, List.getElem?_append_right (hlength.symm ▸ hbehind), hlength,
        Nat.add_sub_cancel_left]
      exact ih hc

/-- **The text of an `insert`** depends on the table and the number of cells only. -/
theorem text_insert (table : TableName) (cells : List Cell) :
    (insert table cells).text = insertText table cells.length := by
  have htuples : Fragment.textFrom 1 (Fragment.separated ", " (cells.map tuple)) =
      String.intercalate ", "
        ((List.range cells.length).map fun i => placeholders (1 + 13 * i)) := by
    rw [Fragment.textFrom_separated ", " 13 placeholders, List.length_map]
    · simp [length_values_tuple]
    · simp [textFrom_tuple]
  rw [text, Fragment.text_eq_textFrom, fragments, List.append_assoc, List.singleton_append,
    Fragment.textFrom_words, Fragment.textFrom_append, htuples, Fragment.textFrom_last_words]
  unfold insertText
  simp only [String.append_assoc]

/-! ## Reading rows -/

/-- The bounds of a selection, each with the way in which the time of the last change is compared
with it. -/
def bounds (s : Selection) : List (Comparison × Instant) :=
  (s.since.map fun t => (.atLeast, t)).toList ++ (s.before.map fun t => (.below, t)).toList

/-- The text of a `select` of selected rows. Three values stand before those of the bounds, the
limit and the offset behind them. -/
def selectText (table : TableName) (s : Selection) : String :=
  "select " ++ TableColumn.names TableColumn.all ++ newLine 12 ++ "from " ++ table.name ++
    " where " ++ "cid <> $1 and lat is not null and lon is not null and lat <> $2 and lon <> $3" ++
    String.join ((bounds s).mapIdx fun i bound =>
      " and " ++ ("modified" ++ bound.1.sign) ++ placeholder (4 + i)) ++
    " order by id limit " ++ placeholder (4 + (bounds s).length) ++ " offset " ++
    placeholder (4 + (bounds s).length + 1)

/-- A selection has five conditions, and one for each of its bounds. -/
theorem conditions_eq (s : Selection) :
    s.conditions = ({} : Selection).conditions ++
      (bounds s).map fun bound => .compare .modified bound.1 (.time bound.2.microseconds) := by
  obtain ⟨since, before⟩ := s
  cases since <;> cases before <;> rfl

theorem textFrom_conditions :
    Fragment.textFrom 1 (Fragment.separated " and "
        (({} : Selection).conditions.map Condition.fragments)) =
      "cid <> $1 and lat is not null and lon is not null and lat <> $2 and lon <> $3" := by
  decide +kernel

theorem values_conditions :
    Fragment.values (Fragment.separated " and "
        (({} : Selection).conditions.map Condition.fragments)) =
      [.big aggregateCell, .real unknownCoordinate, .real unknownCoordinate] := rfl

/-- The pieces that the bounds add. -/
def boundFragments (s : Selection) : List Fragment :=
  (bounds s).flatMap fun bound =>
    [.words " and ", .words ("modified" ++ bound.1.sign), .value (.time bound.2.microseconds)]

theorem values_boundFragments (s : Selection) :
    Fragment.values (boundFragments s) =
      (bounds s).map fun bound => .time bound.2.microseconds := by
  obtain ⟨since, before⟩ := s
  cases since <;> cases before <;> rfl

theorem textFrom_boundFragments (s : Selection) :
    Fragment.textFrom 4 (boundFragments s) =
      String.join ((bounds s).mapIdx fun i bound =>
        " and " ++ ("modified" ++ bound.1.sign) ++ placeholder (4 + i)) := by
  obtain ⟨since, before⟩ := s
  cases since <;> cases before <;> simp [boundFragments, bounds, placeholder, String.append_assoc,
      -String.reduceAppend]

/-- The pieces of a `select` of selected rows. -/
theorem fragments_select (table : TableName) (s : Selection) (limit offset : Int) :
    (select table s.conditions limit offset).fragments =
      .words ("select " ++ TableColumn.names TableColumn.all ++ newLine 12 ++ "from " ++
          table.name ++ " where ") ::
        (Fragment.separated " and " (({} : Selection).conditions.map Condition.fragments) ++
          boundFragments s ++
          [.words " order by id limit ", .value (.big (.ofInt limit)), .words " offset ",
            .value (.big (.ofInt offset))]) := by
  have hbase : ({} : Selection).conditions.map Condition.fragments ≠ [] := List.cons_ne_nil _ _
  rw [fragments, conditions_eq s, List.map_append, Fragment.separated_append " and " hbase,
    List.map_map, List.flatMap_map, List.append_assoc, List.singleton_append]
  rfl

/-- **The text of a `select`** of selected rows depends on the table and on which bounds there
are. -/
theorem text_select (table : TableName) (s : Selection) (limit offset : Int) :
    (select table s.conditions limit offset).text = selectText table s := by
  rw [text, Fragment.text_eq_textFrom, fragments_select, Fragment.textFrom_words,
    Fragment.textFrom_append, Fragment.textFrom_append, textFrom_conditions,
    Fragment.values_append, values_conditions, values_boundFragments]
  have hbounds : ∀ n : Nat, 1 + (3 + n) = 4 + n := fun n => (Nat.add_assoc 1 3 n).symm
  unfold selectText placeholder
  simp only [List.length_append, List.length_map, List.length_cons, List.length_nil, Nat.reduceAdd,
    hbounds, textFrom_boundFragments, placeholder, Fragment.textFrom_words,
    Fragment.textFrom_value, Fragment.textFrom_nil, String.append_empty, String.append_assoc]

/-- The values of a `select` of selected rows: those of the five conditions, the bounds, the limit
and the offset. -/
theorem values_select (table : TableName) (s : Selection) (limit offset : Int) :
    (select table s.conditions limit offset).values =
      [Value.big aggregateCell, Value.real unknownCoordinate, Value.real unknownCoordinate] ++
        (bounds s).map (fun bound => Value.time bound.2.microseconds) ++
        [Value.big (.ofInt limit), Value.big (.ofInt offset)] := by
  rw [values, fragments_select, Fragment.values_words, Fragment.values_append,
    Fragment.values_append, values_conditions, values_boundFragments, Fragment.values_words,
    Fragment.values_value, Fragment.values_words, Fragment.values_value, Fragment.values_nil]

end Statement

end CellExchange.Sql
