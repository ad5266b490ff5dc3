import CellExchange.Bucket.Basic
import Mathlib

/-! # The order of answers

Of some parts under way, an order of answers takes some (`AnswerOrder.answered`) and leaves the others
(`AnswerOrder.unanswered`). **Each part is answered or not** (`AnswerOrder.perm_answered`), so how many
are left does not depend on the order, and nothing is left when all are answered. If answers come in
the order in which the parts were put, the first parts are those that are answered
(`AnswerOrder.answered_oldestFirst`). -/

namespace CellExchange

namespace AnswerOrder

variable {order : AnswerOrder} {count : Nat} {flight : List Nat}

/-- Of some parts, the first `count` that are answered, in that order. -/
def answered (order : AnswerOrder) : (count : Nat) → (flight : List Nat) → List Nat
  | 0, _ => []
  | _ + 1, [] => []
  | count + 1, oldest :: rest =>
    let number : Nat := order oldest rest
    number :: answered order count ((oldest :: rest).erase number)

/-- The others, oldest first. -/
def unanswered (order : AnswerOrder) : (count : Nat) → (flight : List Nat) → List Nat
  | 0, flight => flight
  | _ + 1, [] => []
  | count + 1, oldest :: rest =>
    let number : Nat := order oldest rest
    unanswered order count ((oldest :: rest).erase number)

/-- Each part is answered or not. -/
theorem perm_answered (order : AnswerOrder) (count : Nat) (flight : List Nat) :
    (order.answered count flight ++ order.unanswered count flight).Perm flight := by
  induction count generalizing flight with
  | zero => exact List.Perm.refl flight
  | succ count ih =>
    cases flight with
    | nil => exact List.Perm.nil
    | cons oldest rest =>
      have hmem : (order oldest rest : Nat) ∈ oldest :: rest := (order oldest rest).2
      exact ((ih _).cons _).trans (List.perm_cons_erase hmem).symm

theorem length_unanswered (order : AnswerOrder) (count : Nat) (flight : List Nat) :
    (order.unanswered count flight).length = flight.length - count := by
  induction count generalizing flight with
  | zero => rfl
  | succ count ih =>
    cases flight with
    | nil => exact (Nat.zero_sub _).symm
    | cons oldest rest =>
      have hmem : (order oldest rest : Nat) ∈ oldest :: rest := (order oldest rest).2
      rw [unanswered, ih, List.length_erase_of_mem hmem, List.length_cons, Nat.add_sub_cancel,
        Nat.add_sub_add_right]

theorem length_answered (order : AnswerOrder) (hcount : count ≤ flight.length) :
    (order.answered count flight).length = count := by
  have hlength := (order.perm_answered count flight).length_eq
  rw [List.length_append, length_unanswered] at hlength
  omega

/-- When all parts are answered, none is left. -/
theorem unanswered_length (order : AnswerOrder) (flight : List Nat) :
    order.unanswered flight.length flight = [] := by
  rw [← List.length_eq_zero_iff, length_unanswered, Nat.sub_self]

theorem perm_answered_length (order : AnswerOrder) (flight : List Nat) :
    (order.answered flight.length flight).Perm flight := by
  have hperm := order.perm_answered flight.length flight
  rwa [unanswered_length, List.append_nil] at hperm

theorem mem_of_mem_answered {number : Nat} (h : number ∈ order.answered count flight) :
    number ∈ flight :=
  (order.perm_answered count flight).mem_iff.1 (List.mem_append_left _ h)

theorem mem_of_mem_unanswered {number : Nat} (h : number ∈ order.unanswered count flight) :
    number ∈ flight :=
  (order.perm_answered count flight).mem_iff.1 (List.mem_append_right _ h)

theorem answered_oldestFirst (count : Nat) (flight : List Nat) :
    oldestFirst.answered count flight = flight.take count ∧
      oldestFirst.unanswered count flight = flight.drop count := by
  induction count generalizing flight with
  | zero => exact ⟨rfl, rfl⟩
  | succ count ih =>
    cases flight with
    | nil => exact ⟨rfl, rfl⟩
    | cons oldest rest =>
      rw [answered, unanswered, oldestFirst, List.erase_cons_head, (ih rest).1, (ih rest).2]
      exact ⟨rfl, rfl⟩

end AnswerOrder

end CellExchange
