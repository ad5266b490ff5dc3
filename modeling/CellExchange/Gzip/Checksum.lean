/-! # The checksum of gzip members

The cyclic redundancy check of 32 bits that ends a gzip member: the remainder of the data as a
polynomial over two elements, bits taken from the lowest, with all bits flipped before and after. -/

namespace CellExchange.Gzip

/-- The polynomial, lowest power in the highest bit. -/
def polynomial : UInt32 := 0xEDB88320

/-- One bit of division. -/
def divideBit (r : UInt32) : UInt32 :=
  if r &&& 1 = 1 then (r >>> 1) ^^^ polynomial else r >>> 1

/-- Eight bits of division. -/
def divideByte (r : UInt32) : UInt32 := Nat.repeat divideBit 8 r

/-- The remainders of the numbers of one byte. -/
def remainders : Array UInt32 := (Array.range 256).map fun n => divideByte (UInt32.ofNat n)

/-- The remainder after one more byte. -/
def checksumStep (r : UInt32) (b : UInt8) : UInt32 :=
  remainders.getD ((r ^^^ b.toUInt32) &&& 0xFF).toNat 0 ^^^ (r >>> 8)

/-- The checksum of some bytes. -/
def checksum (data : ByteArray) : UInt32 := data.foldl checksumStep 0xFFFFFFFF ^^^ 0xFFFFFFFF

end CellExchange.Gzip
