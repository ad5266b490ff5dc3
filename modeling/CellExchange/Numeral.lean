/-! # Numerals of whole numbers

How whole numbers are written and read. `render` writes decimal digits, with a minus sign before a
negative number. `read` accepts an optional sign and decimal digits, or, after a lower-case `0x`, an
optional sign and hexadecimal digits, and answers with a value of a given interval.

Reading goes from left to right and stops at the first fault, so a numeral that has both leaves the
interval and holds a foreign character is refused for whichever comes first. At one place the
foreign character wins over the multiplication that makes room for it (`readDigits`). -/

namespace CellExchange

namespace Numeral

/-- Why a numeral is refused. -/
inductive Fault where
  /-- There is nothing to read. -/
  | empty
  /-- A character is no digit, or a sign stands alone. -/
  | invalidDigit
  /-- The number is above the interval. -/
  | tooLarge
  /-- The number is below the interval. -/
  | tooSmall
  deriving DecidableEq, Repr

/-- What a refusal says. -/
def Fault.message : Fault → String
  | .empty => "cannot parse integer from empty string"
  | .invalidDigit => "invalid digit found in string"
  | .tooLarge => "number too large to fit in target type"
  | .tooSmall => "number too small to fit in target type"

/-! ## Writing -/

/-- The decimal digits of a natural number, without leading zeros. -/
def digits (n : Nat) : List Char := Nat.toDigits 10 n

/-- A whole number in decimal. -/
def render (n : Int) : List Char :=
  if n < 0 then '-' :: digits n.natAbs else digits n.natAbs

/-- A whole number in decimal, as a string. -/
def text (n : Int) : String := String.ofList (render n)

/-- A natural number in decimal with zeros before it up to a width. -/
def padded (width n : Nat) : List Char :=
  let ds := digits n
  List.replicate (width - ds.length) '0' ++ ds

/-! ## Reading -/

/-- The value of a digit of the given radix, which is at most 16. -/
def digit? (radix : Nat) (c : Char) : Option Nat :=
  let n := c.toNat
  let d := if 48 ≤ n ∧ n ≤ 57 then n - 48
    else if 97 ≤ n ∧ n ≤ 102 then n - 87
    else if 65 ≤ n ∧ n ≤ 70 then n - 55
    else radix
  if d < radix then some d else none

/-- An interval of whole numbers, both ends included. -/
structure Interval where
  /-- The least number. -/
  least : Int
  /-- The greatest number. -/
  greatest : Int
  deriving DecidableEq, Repr

/-- The numbers of 32 bits with a sign. -/
def Interval.int32 : Interval := ⟨-2147483648, 2147483647⟩

/-- The numbers of 64 bits with a sign. -/
def Interval.int64 : Interval := ⟨-9223372036854775808, 9223372036854775807⟩

/-- A number, if it lies in the interval. -/
def Interval.check (range : Interval) (n : Int) : Except Fault Int :=
  if n < range.least then .error .tooSmall
  else if range.greatest < n then .error .tooLarge
  else .ok n

/-- The number that `acc` becomes as the digits are read, each moving it one place and adding to it
or, below zero, taking away. The number has to stay in the interval at every step. -/
def readDigits (range : Interval) (radix : Nat) (negative : Bool) (acc : Int) :
    List Char → Except Fault Int
  | [] => .ok acc
  | c :: rest =>
    match digit? radix c with
    | none => .error .invalidDigit
    | some d => do
      let moved ← range.check (acc * radix)
      let next ← range.check (if negative then moved - d else moved + d)
      readDigits range radix negative next rest

/-- A numeral without a radix mark: an optional sign, then at least one digit. -/
def readSigned (range : Interval) (radix : Nat) : List Char → Except Fault Int
  | [] => .error .empty
  | ['+'] => .error .invalidDigit
  | ['-'] => .error .invalidDigit
  | '+' :: rest => readDigits range radix false 0 rest
  | '-' :: rest => readDigits range radix true 0 rest
  | cs => readDigits range radix false 0 cs

/-- A numeral: hexadecimal after `0x`, decimal otherwise. -/
def read (range : Interval) : List Char → Except Fault Int
  | '0' :: 'x' :: rest => readSigned range 16 rest
  | cs => readSigned range 10 cs

end Numeral

end CellExchange
