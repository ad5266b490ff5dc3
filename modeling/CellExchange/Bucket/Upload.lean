import CellExchange.Bucket.Basic
import CellExchange.Files

/-! # Uploading in parts

A file is uploaded while it is read. Bytes are gathered until a part is full (`Transfer.write`); a
full part is put without waiting for it, and only when `maxInFlight` parts are under way does the
upload wait before it goes on, until enough of them are answered, whichever they are
(`Transfer.wait`). That is where a part that failed shows while the file is still being read; the
others show at the end.

If reading fails or a part is found to have failed while the file is read, the upload is aborted. At
the end the rest is put as the last part, all parts are waited for, and the upload is completed; if
completing fails, the upload is aborted too. -/

namespace CellExchange

/-- The size of every part but the last: the least that a bucket takes. -/
def partSize : Nat := 5242880

/-- How many parts may be under way. -/
def maxInFlight : Nat := 4

/-- An upload under way. -/
structure Transfer where
  /-- The key of the object to be. -/
  key : ObjectKey
  /-- The bytes of the part that is not full yet. -/
  buffer : ByteArray := .empty
  /-- The parts that were put. -/
  parts : Array ByteArray := #[]
  /-- The numbers of the parts under way, oldest first. -/
  flight : List Nat := []
  /-- How many bytes of the file were taken. -/
  total : Nat := 0

namespace Transfer

/-- The full parts at the start of some bytes, and the rest. -/
def fullParts (bytes : ByteArray) : List ByteArray × ByteArray :=
  let count := bytes.size / partSize
  ((List.range count).map fun i => bytes.extract (i * partSize) ((i + 1) * partSize),
    bytes.extract (count * partSize) bytes.size)

/-- Puts a part without waiting for the answer. -/
def put (t : Transfer) (part : ByteArray) : Action Bucket Transfer := do
  let number := t.parts.size + 1
  let _ ← Bucket.request ⟨.part number, t.key, some part⟩
  return { t with parts := t.parts.push part, flight := t.flight ++ [number] }

/-- Puts parts one after another. -/
def putAll (t : Transfer) : List ByteArray → Action Bucket Transfer
  | [] => return t
  | part :: rest => do (← t.put part).putAll rest

/-- Takes bytes of the file. -/
def write (t : Transfer) (bytes : ByteArray) : Action Bucket Transfer := do
  let (parts, rest) := fullParts (t.buffer ++ bytes)
  { t with buffer := rest, total := t.total + bytes.size }.putAll parts

/-- The parts still under way when `count` of some parts were answered; nothing if one of those was
refused. -/
def settle (b : Bucket) : (count : Nat) → (flight : List Nat) → Option (List Nat)
  | 0, flight => some flight
  | _ + 1, [] => some []
  | count + 1, oldest :: rest =>
    let number : Nat := b.answersFirst oldest rest
    if b.refuses (.part number) then none else settle b count ((oldest :: rest).erase number)

/-- How many of some parts have to be answered until fewer than `limit` are under way, or none. -/
def awaited (limit : Nat) (flight : List Nat) : Nat := flight.length - (limit - 1)

/-- Waits until fewer than `limit` parts are under way, or none. -/
def wait (t : Transfer) (limit : Nat) : Action Bucket Transfer := do
  match settle (← get) (awaited limit t.flight) t.flight with
  | some flight => return { t with flight }
  | none => throw (.of .bucket)

/-- Reads the file to its end. -/
def copy (t : Transfer) (fault : Option FileFault) : List ByteArray → Action Bucket Transfer
  | [] =>
    match fault with
    | some fault => throw (.of (.file fault))
    | none => return t
  | bytes :: rest => do
    let t ← t.wait maxInFlight
    (← t.write bytes).copy fault rest

/-- The object that the parts make. -/
def object (t : Transfer) : ByteArray := t.parts.foldl (· ++ ·) .empty

/-- Puts the rest, waits for all parts and completes the upload. -/
def finish (t : Transfer) : Action Bucket Unit := do
  let t ← if t.buffer.size = 0 then pure t else t.put t.buffer
  let t ← t.wait 0
  if ← Bucket.request ⟨.complete, t.key, none⟩ then
    modify (·.put t.key t.object)
  else
    Bucket.demand ⟨.abort, t.key, none⟩
    throw (.of .bucket)

/-- Copies a file into an upload that was begun, and tells how many bytes it has. -/
def run (key : ObjectKey) (file : Reads) : Job Bucket Nat := fun j =>
  match Job.act (Transfer.copy { key } file.fault file.pieces) j with
  | .ok t j => (Job.act t.finish >>= fun _ => pure t.total : Job Bucket Nat) j
  | .error failure j =>
    match Job.act (Bucket.demand ⟨.abort, key, none⟩) j with
    | .ok _ j => .error failure j
    | .error _ j => .error failure { j with events := j.events.push .abortFailed }

end Transfer

namespace Bucket

/-- Uploads a file under the key of its name. -/
def upload (path : String) (file : Except FileFault Reads) : Job Bucket ObjectKey := do
  let key ← Job.ofExcept (ObjectKey.ofPath path)
  let reads ← Job.within (.open path) (Job.ofExcept (file.mapError .file))
  Job.act (demand ⟨.create, key, none⟩)
  let total ← Job.within (.upload key.text) (Transfer.run key reads)
  Job.tell (.uploadedBytes total key.text)
  return key

end Bucket

end CellExchange
