import CellExchange.Double.Basic
import CellExchange.Numeral

/-! # Decimal text of numbers

A decimal is digits and a power of ten (`Decimal`). `Decimal.nearest` is the number nearest to it.
`read?` reads decimal text: an optional sign, digits with at most one point among them, an optional
exponent, or one of the words for infinity and not-a-number in any case.

`shortest` goes the other way: of all decimals that a number is nearest to, it takes those with the
fewest digits, of these the one nearest to the number, and of two equally near the greater. `text`
writes it without an exponent and without needless zeros. Where no decimal of 17 digits reads back,
the exact value is written; it always reads back. -/

namespace CellExchange

/-- A decimal: `digits · 10 ^ exponent`. -/
structure Decimal where
  /-- The digits, as one whole number. -/
  digits : Nat
  /-- The power of ten. -/
  exponent : Int
  deriving DecidableEq, Repr

namespace Decimal

/-- The number nearest to a decimal. Decimals beyond every finite number, and those below half the
least positive one, are told apart by their size before any power of ten is taken. -/
def nearest (negative : Bool) (d : Decimal) : Double :=
  if d.digits = 0 then .ofUnits negative 0
  else if 400 < d.exponent then .infinite negative
  else if d.exponent + (d.digits.log2 + 1 : Nat) < -400 then .ofUnits negative 0
  else if 0 ≤ d.exponent then
    .ofQuotient negative (d.digits * Nat.pow 10 d.exponent.toNat * unitsPerOne) 1
  else
    .ofQuotient negative (d.digits * unitsPerOne) (Nat.pow 10 (-d.exponent).toNat)

/-- The same value without zeros at the end of the digits behind the point. -/
def trimZeros (fuel : Nat) (d : Decimal) : Decimal :=
  match fuel with
  | 0 => d
  | fuel + 1 =>
    if d.exponent < 0 ∧ d.digits % 10 = 0 then trimZeros fuel ⟨d.digits / 10, d.exponent + 1⟩ else d

/-- A decimal in positional notation: no point after a whole number, at least one digit before it.
-/
def render (d : Decimal) : List Char :=
  let ds := Numeral.digits d.digits
  if 0 ≤ d.exponent then
    if d.digits = 0 then ['0'] else ds ++ List.replicate d.exponent.toNat '0'
  else
    let places := (-d.exponent).toNat
    let all := List.replicate (places + 1 - ds.length) '0' ++ ds
    all.take (all.length - places) ++ '.' :: all.drop (all.length - places)

end Decimal

namespace Double

/-! ## Reading -/

/-- The value of a run of decimal digits. -/
def digitsValue (cs : List Char) : Nat := cs.foldl (fun n c => 10 * n + (c.toNat - 48)) 0

/-- The value of the digits of an exponent. Past five digits it only grows no further: no number
tells such exponents apart. -/
def exponentValue (cs : List Char) : Nat :=
  cs.foldl (fun n c => if n < 65536 then 10 * n + (c.toNat - 48) else n) 0

/-- The exponent at the end of a decimal text: nothing, or an `e`, an optional sign and digits. -/
def readExponent? : List Char → Option Int
  | [] => some 0
  | c :: rest =>
    if c = 'e' ∨ c = 'E' then
      let (negative, ds) := match rest with
        | '-' :: ds => (true, ds)
        | '+' :: ds => (false, ds)
        | ds => (false, ds)
      if ds.isEmpty ∨ !ds.all Char.isDigit then none
      else some (if negative then -(exponentValue ds : Int) else exponentValue ds)
    else none

/-- A decimal without a sign: digits, a point with digits, an exponent. -/
def readDecimal? (cs : List Char) : Option Decimal :=
  let whole := cs.takeWhile Char.isDigit
  let rest := cs.dropWhile Char.isDigit
  let (fraction, rest) := match rest with
    | '.' :: r => (r.takeWhile Char.isDigit, r.dropWhile Char.isDigit)
    | r => ([], r)
  if whole.isEmpty && fraction.isEmpty then none
  else (readExponent? rest).map fun e => ⟨digitsValue (whole ++ fraction), e - fraction.length⟩

/-- The words for numbers that have no digits. -/
def readWord? (negative : Bool) (cs : List Char) : Option Double :=
  match String.ofList (cs.map Char.toLower) with
  | "inf" => some (.infinite negative)
  | "infinity" => some (.infinite negative)
  | "nan" => some .nan
  | _ => none

/-- A number without its sign. -/
def readMagnitude? (negative : Bool) (cs : List Char) : Option Double :=
  match readDecimal? cs with
  | some d => some (d.nearest negative)
  | none => readWord? negative cs

/-- The number nearest to a decimal text. -/
def read? : List Char → Option Double
  | '-' :: cs => readMagnitude? true cs
  | '+' :: cs => readMagnitude? false cs
  | cs => readMagnitude? false cs

/-! ## Writing -/

/-- How many digits stand before the point of a count of units, less one; negative for a value below
one. -/
def tensExponent (units : Nat) : Int :=
  if unitsPerOne ≤ units then (Numeral.digits (units / unitsPerOne)).length - 1
  else -((Numeral.digits ((unitsPerOne - 1) / units)).length : Int)

/-- The two decimals on the grid of `10 ^ exponent` between which a count of units lies, the lower
one first. They are the same if it is on the grid. -/
def gridNeighbours (units : Nat) (exponent : Int) : Decimal × Decimal :=
  let num := if 0 ≤ exponent then units else units * Nat.pow 10 (-exponent).toNat
  let den := if 0 ≤ exponent then unitsPerOne * Nat.pow 10 exponent.toNat else unitsPerOne
  (⟨num / den, exponent⟩, ⟨(num + den - 1) / den, exponent⟩)

/-- Whether the upper neighbour on a grid is at least as near as the lower one. -/
def upperIsNear (units : Nat) (exponent : Int) : Bool :=
  let num := if 0 ≤ exponent then units else units * Nat.pow 10 (-exponent).toNat
  let den := if 0 ≤ exponent then unitsPerOne * Nat.pow 10 exponent.toNat else unitsPerOne
  den ≤ 2 * (num % den)

/-- The nearest decimal on a grid that reads back as the given number, if one does. -/
def onGrid? (units : Nat) (exponent : Int) : Option Decimal :=
  let number := ofUnits false units
  let (low, high) := gridNeighbours units exponent
  let lowReads := low.nearest false == number
  let highReads := high.nearest false == number
  if lowReads && highReads then some (if upperIsNear units exponent then high else low)
  else if highReads then some high
  else if lowReads then some low
  else none

/-- The exact value of a count of units. -/
def exact (units : Nat) : Decimal := ⟨units * Nat.pow 5 1074, -1074⟩

/-- The shortest decimal that reads back as the given count of units. -/
def shortest (units : Nat) : Decimal :=
  let top := tensExponent units
  ((List.range 17).findSome? fun n : Nat => onGrid? units (top - (n : Int))).getD (exact units)

/-- The text of a magnitude. -/
def magnitudeText (units : Nat) : List Char :=
  if units = 0 then ['0'] else ((shortest units).trimZeros 1100).render

/-- A number in decimal. -/
def render : Double → List Char
  | .nan => ['N', 'a', 'N']
  | .infinite negative => (if negative then ['-'] else []) ++ ['i', 'n', 'f']
  | .finite negative units _ => (if negative then ['-'] else []) ++ magnitudeText units

/-- A number in decimal, as a string. -/
def text (x : Double) : String := String.ofList x.render

end Double

end CellExchange
