import CellExchange.Bucket.Key
import CellExchange.Job

/-! # Buckets

A bucket holds objects under keys. An object is made in several requests (`BucketCall`): the upload
is begun, parts are put, and the upload is completed or aborted; only completing it makes an object
visible, which replaces one that had the key before. The bucket may refuse any request, and it keeps
every request in order.

Several parts may be put before the first of them is answered, and the answers come in any order
(`AnswerOrder`). -/

namespace CellExchange

/-- A request in the making of an object. -/
inductive BucketCall where
  /-- The upload is begun. -/
  | create
  /-- A part is put; parts are counted from 1. -/
  | part (number : Nat)
  /-- The upload becomes an object. -/
  | complete
  /-- The upload is given up. -/
  | abort
  deriving DecidableEq, Repr

/-- A request to a bucket. -/
structure BucketRequest where
  /-- What is asked. -/
  call : BucketCall
  /-- The key of the object. -/
  key : ObjectKey
  /-- The bytes of a part. -/
  body : Option ByteArray := none

/-- The order in which parts under way are answered: of some parts, which are given by their numbers
with the oldest first, the part that is answered before the others. Since no part is put twice, the
same parts are never under way again, so each way in which answers can come is such an order. -/
abbrev AnswerOrder := (oldest : Nat) → (rest : List Nat) → {number : Nat // number ∈ oldest :: rest}

/-- Parts are answered in the order in which they were put. -/
def AnswerOrder.oldestFirst : AnswerOrder := fun oldest _ => ⟨oldest, List.mem_cons_self⟩

/-- A bucket. -/
structure Bucket where
  /-- Which requests are refused. -/
  refuses : BucketCall → Bool := fun _ => false
  /-- The order in which parts under way are answered. -/
  answersFirst : AnswerOrder := .oldestFirst
  /-- The objects. -/
  objects : List (ObjectKey × ByteArray) := []
  /-- The requests, in order. -/
  requests : Array BucketRequest := #[]

namespace Bucket

/-- The object of a key. -/
def get? (b : Bucket) (key : ObjectKey) : Option ByteArray := b.objects.lookup key

/-- The bucket with an object under a key. -/
def put (b : Bucket) (key : ObjectKey) (object : ByteArray) : Bucket :=
  { b with objects := (key, object) :: b.objects.filter fun p => p.1 != key }

/-- A request, and whether it is granted. -/
def request (r : BucketRequest) : Action Bucket Bool := do
  modify fun b => { b with requests := b.requests.push r }
  return !(← get).refuses r.call

/-- A request that has to be granted. -/
def demand (r : BucketRequest) : Action Bucket Unit := do
  if !(← request r) then throw (.of .bucket)

end Bucket

end CellExchange
