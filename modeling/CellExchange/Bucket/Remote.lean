import CellExchange.Bucket.Basic
import CellExchange.Url

/-! # Buckets of a storage service

How a bucket of a storage service is addressed. Every object that is made in it gets the storage
class of the bucket's settings, which goes as the value of a header with each request; control
characters cannot stand in one. -/

namespace CellExchange

/-- A bucket of a storage service. -/
structure RemoteBucket where
  /-- The name of the bucket. -/
  name : String
  /-- The storage class of its objects. -/
  storageClass : String
  deriving DecidableEq, Repr

namespace RemoteBucket

/-- Whether a character may stand in the value of a header. -/
def isHeaderChar (c : Char) : Bool := c == '\t' || (32 ≤ c.toNat && c.toNat ≠ 127)

/-- A bucket with a storage class that can be sent. -/
def make (name storageClass : String) : Except Failure RemoteBucket :=
  if storageClass.toList.all isHeaderChar then .ok ⟨name, storageClass⟩
  else .error ((Failure.of .headerValue).within .storageClass)

/-- The storage class as it arrives with a request: blanks around it are lost. -/
def sentClass (b : RemoteBucket) : String := Text.trimmed b.storageClass

/-- Whether a character of a key stands for itself in a path. -/
def isKeyChar (c : Char) : Bool :=
  (c.toNat < 128 && c.isAlphanum) || ['-', '.', '_', '~', '/'].contains c

/-- The address of an object, on a host that stands for the storage service. -/
def address (b : RemoteBucket) (key : ObjectKey) : Except AddressFault Url :=
  Url.parse ("http://storage/" ++ b.name ++ "/" ++
    String.ofList (Percent.encode isKeyChar key.text.toList))

/-- What a request adds to the address of its object; `upload` names the upload. -/
def queryOf (upload : String) : BucketCall → List (String × String)
  | .create => [("uploads", "")]
  | .part number => [("partNumber", Numeral.text number), ("uploadId", upload)]
  | .complete => [("uploadId", upload)]
  | .abort => [("uploadId", upload)]

/-- What is asked of the storage service by a request. -/
def target (b : RemoteBucket) (upload : String) (r : BucketRequest) : String :=
  match b.address r.key with
  | .ok address => (address.addQuery (queryOf upload r.call)).target
  | .error _ => ""

end RemoteBucket

end CellExchange
