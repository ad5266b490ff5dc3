import CellExchange.Proofs.Sql.Transaction
import CellExchange.Proofs.Sql.Wording
import CellExchange.Proofs.Store.Batched
import CellExchange.Proofs.Store.LastCells
import Mathlib

/-! # Storing a batch in a database

What a store in a database sends for a batch, and what comes of it
(`DatabaseStore.upsert_transaction`): one transaction with the last cell of each identity, in order
and cut into parts of 5041 cells, each part with one statement. A statement says which columns its
values are for, with the numbers of the values, so its text depends on the number of cells only. The
transaction counts if the server takes all of its statements; the first one that it refuses is the
last one it is sent, and then nothing counts. -/

namespace CellExchange.DatabaseStore

open Sql

/-- A request to the server, as it is run. -/
theorem upsert_ok {batch : List Cell} {server left : Server} {table : TableName}
    (h : Server.runAll (statements table batch) server = .ok () left) :
    CellStore.upsert batch (⟨server, table⟩ : DatabaseStore) = .ok () ⟨left, table⟩ := by
  show ask (fun table => Server.runAll (statements table batch)) ⟨server, table⟩ = _
  simp only [ask, h]

theorem upsert_error {batch : List Cell} {server left : Server} {table : TableName} {f : Failure}
    (h : Server.runAll (statements table batch) server = .error f left) :
    CellStore.upsert batch (⟨server, table⟩ : DatabaseStore) = .error f ⟨left, table⟩ := by
  show ask (fun table => Server.runAll (statements table batch)) ⟨server, table⟩ = _
  simp only [ask, h]

/-- **A batch is stored in one transaction, or not at all.** The last cells of the identities of a
batch are cut, in order, into parts of 5041 cells, the last part having what is left; no identity is
in two of these cells. The transaction has one statement for each part. It takes 13 values for each
cell, one for each of the columns that it names, in their order, and no more than 65535 values in
all; its text is settled by the table and the number of cells.

If the server takes all statements, the cells count from then on. Otherwise storing the batch fails
at the first statement that the server refuses: no later statement is sent, so that the `commit` is
sent only behind statements that were all taken, and the tables stay as they were. -/
theorem upsert_transaction (table : TableName) (batch : List Cell) :
    ∃ parts : List (List Cell),
      parts.flatten = lastPerKey batch ∧
      (parts.flatten.map Cell.toCellKey).Nodup ∧
      parts.length = (lastPerKey batch).length ⌈/⌉ 5041 ∧
      Batched 5041 parts ∧
      (∀ part ∈ parts,
        (Statement.insert table part).text = Statement.insertText table part.length ∧
        (Statement.insert table part).values.length = 13 * part.length ∧
        (Statement.insert table part).values.length ≤ 65535 ∧
        ∀ i j c k, part[i]? = some c → TableColumn.all[j]? = some k →
          (Statement.insert table part).values[13 * i + j]? = some (k.ofCell c)) ∧
      ∀ (server : Server) (first : Contents),
        (server.takesAll (Statement.transaction table parts) = true ∧
          let left := server.given (Statement.transaction table parts)
          CellStore.upsert batch (⟨server, table⟩ : DatabaseStore) = .ok () ⟨left, table⟩ ∧
          (left.contents first).committed =
            Function.update (server.contents first).committed table
              (((server.contents first).committed table).putAll (lastPerKey batch))) ∨
        ∃ before refused after,
          Statement.transaction table parts = before ++ refused :: after ∧
          server.takesAll before = true ∧ (server.given before).takes refused = false ∧
          .commit ∉ before ∧
          let left := server.given (before ++ [refused])
          CellStore.upsert batch (⟨server, table⟩ : DatabaseStore) =
            .error (.of .statement) ⟨left, table⟩ ∧
          (left.contents first).committed = (server.contents first).committed := by
  have hsize : chunkSize = 5041 := by decide
  have hflatten : (chunks chunkSize (lastPerKey batch).length (lastPerKey batch)).flatten =
      lastPerKey batch := flatten_chunks (by decide) (Nat.le_refl _)
  have hbatched : Batched 5041 (chunks chunkSize (lastPerKey batch).length (lastPerKey batch)) :=
    hsize ▸ batched_chunks (by decide) (Nat.le_refl _)
  have hstatements : statements table batch = Statement.transaction table
      (chunks chunkSize (lastPerKey batch).length (lastPerKey batch)) := rfl
  generalize chunks chunkSize (lastPerKey batch).length (lastPerKey batch) = parts at *
  refine ⟨parts, hflatten, ?_, ?_, hbatched, ?_, ?_⟩
  · rw [hflatten]
    exact nodup_lastPerKey batch
  · rw [hbatched.length_eq, hflatten]
  · intro part hpart
    have hvalues := Statement.length_values_insert table part
    have hlength := (hbatched.length_le (by decide) part hpart).2
    refine ⟨Statement.text_insert table part, hvalues, ?_, ?_⟩
    · omega
    · intro i j c k hc hk
      exact Statement.getElem?_values_insert table hc hk
  · intro server first
    rcases Server.runAll_cases (Statement.transaction table parts) server with
      ⟨htakes, hrun⟩ | ⟨before, refused, after, hsplit, htakes, hrefused, hrun⟩
    · refine Or.inl ⟨htakes, upsert_ok (hstatements ▸ hrun), ?_⟩
      rw [Server.contents_given_of_takesAll first htakes, Contents.takeAll_transaction, hflatten]
    · refine Or.inr ⟨before, refused, after, hsplit, htakes, hrefused,
        Statement.commit_not_mem_before hsplit, upsert_error (hstatements ▸ hrun), ?_⟩
      exact Server.committed_given_refused first hsplit htakes hrefused

/-- A server that refuses the second statement has been sent two, and its tables stay empty. -/
theorem upsert_transaction_second_refused :
    let server : Server := { refusedNumbers := fun number => number == 2 }
    let empty : Contents := ⟨fun _ => [], none⟩
    ∃ left, CellStore.upsert [CellTable.firstSeen, CellTable.seenAgain]
        (⟨server, .cell⟩ : DatabaseStore) = .error (.of .statement) ⟨left, .cell⟩ ∧
      left.statements.size = 2 ∧ (left.contents empty).committed = empty.committed := by
  intro server empty
  have hsecond : ∀ a b rest, server.takesAll (a :: b :: rest) = false := fun _ _ _ => rfl
  obtain ⟨parts, -, -, -, -, -, hrun⟩ :=
    upsert_transaction .cell [CellTable.firstSeen, CellTable.seenAgain]
  rcases hrun server empty with ⟨htakes, -⟩ | ⟨before, refused, -, -, htakes, hrefused, -, h⟩
  · -- a transaction has a second statement, its end if there is no other
    rcases parts with _ | ⟨part, rest⟩
    · exact nomatch htakes
    · exact nomatch htakes.symm.trans (hsecond _ _ _)
  · rcases before with _ | ⟨first, _ | ⟨second, rest⟩⟩
    · exact nomatch hrefused
    · exact ⟨server.given [first, refused], h.1, rfl, h.2⟩
    · exact nomatch htakes.symm.trans (hsecond _ _ _)

end CellExchange.DatabaseStore
