import CellExchange.Proofs.Store.Statements
import Mathlib

/-! # Transactions

What a server that takes some statements and refuses others makes of them (`Server.contents`). A
transaction works on the tables as they were when it began, and what it changes counts only from the
`commit` on. A statement that is refused ends the transaction without effect.

Statements are run up to the first one that the server refuses (`Server.runAll_cases`). While
`insert`s are taken they are pending and nothing counts yet (`Contents.takeAll_inserts`), so **a
transaction that is not taken as a whole changes nothing** (`Server.committed_given_refused`). -/

namespace CellExchange.Sql

/-- The rows of all tables. -/
abbrev Tables := TableName → CellTable

/-- The tables after a statement; only an `insert` changes rows, and only those of its table. -/
def Tables.after (t : Tables) : Statement → Tables
  | .insert table cells =>
    Function.update t table (Statement.effect (t table) (.insert table cells))
  | _ => t

/-- The tables of a database, as everyone sees them and as a transaction does. -/
structure Contents where
  /-- The rows that count. -/
  committed : Tables
  /-- The rows as the transaction under way sees them, if there is one. -/
  pending : Option Tables

namespace Contents

/-- The contents after a statement that is taken. -/
def take (d : Contents) : Statement → Contents
  | .start => { d with pending := some d.committed }
  | .commit => ⟨d.pending.getD d.committed, none⟩
  | statement =>
    match d.pending with
    | some t => { d with pending := some (t.after statement) }
    | none => { d with committed := d.committed.after statement }

/-- The contents after a statement that is refused. -/
def refuse (d : Contents) : Contents := { d with pending := none }

/-- The contents after statements that are all taken. -/
def takeAll (d : Contents) : List Statement → Contents
  | [] => d
  | statement :: rest => (d.take statement).takeAll rest

theorem takeAll_append (d : Contents) (first second : List Statement) :
    d.takeAll (first ++ second) = (d.takeAll first).takeAll second := by
  induction first generalizing d with
  | nil => rfl
  | cons statement rest ih => exact ih (d.take statement)

/-- An `insert` in a transaction is pending. -/
theorem take_insert (t u : Tables) (table : TableName) (cells : List Cell) :
    (⟨t, some u⟩ : Contents).take (.insert table cells) =
      ⟨t, some (Function.update u table ((u table).putAll cells))⟩ := by
  rw [← Statement.effect_insert (u table) table cells]
  rfl

/-- **`insert`s in a transaction** are pending, the cells of all. -/
theorem takeAll_inserts (t u : Tables) (table : TableName) (parts : List (List Cell)) :
    (⟨t, some u⟩ : Contents).takeAll (parts.map (.insert table)) =
      ⟨t, some (Function.update u table ((u table).putAll parts.flatten))⟩ := by
  induction parts generalizing u with
  | nil => exact congrArg _ (congrArg some (Function.update_eq_self table u).symm)
  | cons part rest ih =>
    rw [List.map_cons, takeAll, take_insert, ih, Function.update_idem, Function.update_self,
      List.flatten_cons, CellTable.putAll_append]

end Contents

/-- The statements of a transaction that stores cells, those of each part with one statement. -/
def Statement.transaction (table : TableName) (parts : List (List Cell)) : List Statement :=
  .start :: parts.map (.insert table) ++ [.commit]

/-! ## Whole transactions -/

section Whole

variable {table : TableName} {parts : List (List Cell)} {before after : List Statement}
  {refused : Statement}

/-- **A transaction that is taken as a whole** stores the cells of all parts. -/
theorem Contents.takeAll_transaction (d : Contents) (table : TableName)
    (parts : List (List Cell)) :
    d.takeAll (Statement.transaction table parts) =
      ⟨Function.update d.committed table ((d.committed table).putAll parts.flatten), none⟩ := by
  rw [Statement.transaction, takeAll_append]
  -- `start` has made the tables that count the pending ones
  show ((⟨d.committed, some d.committed⟩ : Contents).takeAll (parts.map (.insert table))).take
    .commit = _
  rw [takeAll_inserts]
  rfl

/-- Before a statement of a transaction there is nothing, or its beginning and the first parts. -/
theorem Statement.before_transaction
    (h : transaction table parts = before ++ refused :: after) :
    before = [] ∨ ∃ n, before = .start :: (parts.take n).map (.insert table) := by
  cases before with
  | nil => exact Or.inl rfl
  | cons first rest =>
    rw [transaction, List.cons_append, List.cons_append, List.cons.injEq] at h
    obtain ⟨rfl, hrest⟩ := h
    have hlength : rest.length ≤ (parts.map (Statement.insert table)).length := by
      have hlengths := congrArg List.length hrest
      simp only [List.length_append, List.length_cons, List.length_nil] at hlengths
      omega
    refine Or.inr ⟨rest.length, ?_⟩
    have htake := congrArg (List.take rest.length) hrest
    rw [List.take_append_of_le_length hlength, List.take_left, ← List.map_take] at htake
    rw [htake]

/-- **Nothing counts before the end** of a transaction. -/
theorem Contents.committed_takeAll_before (d : Contents)
    (h : Statement.transaction table parts = before ++ refused :: after) :
    (d.takeAll before).committed = d.committed := by
  rcases Statement.before_transaction h with rfl | ⟨n, rfl⟩
  · rfl
  · show ((⟨d.committed, some d.committed⟩ : Contents).takeAll
      ((parts.take n).map (.insert table))).committed = d.committed
    rw [takeAll_inserts]

/-- The end of a transaction is its last statement. -/
theorem Statement.commit_not_mem_before
    (h : transaction table parts = before ++ refused :: after) : commit ∉ before := by
  rcases before_transaction h with rfl | ⟨n, rfl⟩
  · exact List.not_mem_nil
  · rw [List.mem_cons, List.mem_map]
    rintro (hcommit | ⟨part, -, hcommit⟩) <;> cases hcommit

end Whole

namespace Server

variable {s : Server} {statement : Statement} {statements : List Statement}

/-! ## Runs of statements -/

/-- A server that was given further statements. -/
def given (s : Server) (statements : List Statement) : Server :=
  { s with statements := s.statements ++ statements.toArray }

@[simp] theorem given_nil (s : Server) : s.given [] = s := by
  simp [given]

theorem given_given (s : Server) (first second : List Statement) :
    (s.given first).given second = s.given (first ++ second) := by
  simp [given]

/-- Whether a server takes a statement as its next one. -/
def takes (s : Server) (statement : Statement) : Bool :=
  !s.refuses (s.statements.size + 1) statement

/-- Whether a server takes statements one after another, up to the last one. -/
def takesAll (s : Server) : List Statement → Bool
  | [] => true
  | statement :: rest => s.takes statement && (s.given [statement]).takesAll rest

/-- One statement is run, and kept in any case. -/
theorem run_apply (statement : Statement) (s : Server) :
    run statement s = if s.takes statement then .ok () (s.given [statement])
      else .error (.of .statement) (s.given [statement]) := by
  have hgiven : { s with statements := s.statements.push statement } = s.given [statement] := by
    rw [given, Array.push_eq_append]
  have htakes : s.takes statement =
      !(s.given [statement]).refuses (s.given [statement]).statements.size statement := by
    rw [takes, given, Array.size_append]
    rfl
  rw [htakes, ← hgiven]
  simp only [run, bind, EStateM.bind, modify, modifyGet, MonadStateOf.modifyGet,
    EStateM.modifyGet, get, getThe, MonadStateOf.get, EStateM.get]
  cases refuses _ _ statement <;> rfl

theorem runAll_cons_of_takes (h : s.takes statement = true) (rest : List Statement) :
    runAll (statement :: rest) s = runAll rest (s.given [statement]) := by
  simp only [runAll, bind, EStateM.bind, run_apply, if_pos h]

theorem runAll_cons_of_not_takes (h : s.takes statement = false) (rest : List Statement) :
    runAll (statement :: rest) s = .error (.of .statement) (s.given [statement]) := by
  simp only [runAll, bind, EStateM.bind, run_apply, h, Bool.false_eq_true, if_false]

/-- **Statements are run up to the first one that is refused.** -/
theorem runAll_cases (statements : List Statement) (s : Server) :
    (s.takesAll statements = true ∧ runAll statements s = .ok () (s.given statements)) ∨
      ∃ before refused after, statements = before ++ refused :: after ∧ s.takesAll before = true ∧
        (s.given before).takes refused = false ∧
        runAll statements s = .error (.of .statement) (s.given (before ++ [refused])) := by
  induction statements generalizing s with
  | nil => exact Or.inl ⟨rfl, by rw [given_nil]; rfl⟩
  | cons statement rest ih =>
    cases hfirst : s.takes statement with
    | false =>
      right
      rw [runAll_cons_of_not_takes hfirst]
      refine ⟨[], statement, rest, rfl, rfl, ?_, rfl⟩
      rw [given_nil]
      exact hfirst
    | true =>
      rw [runAll_cons_of_takes hfirst]
      rcases ih (s.given [statement]) with ⟨htakes, hrun⟩ | ⟨before, refused, after, h⟩
      · left
        rw [hrun, given_given, takesAll, hfirst, htakes]
        exact ⟨rfl, rfl⟩
      · obtain ⟨rfl, htakes, hrefused, hrun⟩ := h
        rw [given_given] at hrefused hrun
        refine Or.inr ⟨statement :: before, refused, after, rfl, ?_, hrefused, hrun⟩
        rw [takesAll, hfirst, htakes]
        rfl

/-! ## What a server makes of them -/

/-- What a server makes of a statement with a number. -/
def react (s : Server) (d : Contents) (p : Statement × Nat) : Contents :=
  if s.refuses p.2 p.1 then d.refuse else d.take p.1

/-- What a server made of the statements that it was given, from the first contents on. -/
def contents (s : Server) (first : Contents) : Contents :=
  (s.statements.toList.zipIdx 1).foldl s.react first

/-- **One more statement** is taken, or ends the transaction. -/
theorem contents_given (s : Server) (first : Contents) (statement : Statement) :
    (s.given [statement]).contents first =
      if s.takes statement then (s.contents first).take statement
      else (s.contents first).refuse := by
  have hlog : (s.given [statement]).statements.toList.zipIdx 1 =
      s.statements.toList.zipIdx 1 ++ [(statement, s.statements.size + 1)] := by
    rw [given, Array.toList_append, List.zipIdx_append, Array.length_toList, Nat.add_comm 1]
    rfl
  rw [contents, hlog, List.foldl_append]
  show s.react (s.contents first) (statement, s.statements.size + 1) = _
  rw [react, takes]
  cases s.refuses (s.statements.size + 1) statement <;> rfl

/-- **Statements that are taken** have their effects one after another. -/
theorem contents_given_of_takesAll (first : Contents) (h : s.takesAll statements = true) :
    (s.given statements).contents first = (s.contents first).takeAll statements := by
  induction statements generalizing s with
  | nil => rw [given_nil]; rfl
  | cons statement rest ih =>
    rw [takesAll, Bool.and_eq_true] at h
    rw [← List.singleton_append, ← given_given, ih h.2, contents_given, if_pos h.1]
    rfl

/-- **A transaction that is not taken as a whole** changes nothing. -/
theorem committed_given_refused (first : Contents) {table : TableName} {parts : List (List Cell)}
    {before after : List Statement} {refused : Statement}
    (h : Statement.transaction table parts = before ++ refused :: after)
    (htakes : s.takesAll before = true) (hrefused : (s.given before).takes refused = false) :
    ((s.given (before ++ [refused])).contents first).committed = (s.contents first).committed := by
  rw [← given_given, contents_given, hrefused, contents_given_of_takesAll first htakes]
  exact Contents.committed_takeAll_before (s.contents first) h

end Server

end CellExchange.Sql
