/-! # Numbers of double precision

Coordinates and ranges are binary floating-point numbers of 64 bits. A finite one is a sign and a
magnitude, and every magnitude is a whole multiple of the least positive number 2⁻¹⁰⁷⁴, the *unit*;
so a number is held exactly, as a count of units (`Double.finite`). A count is `Representable` when
at most 53 of its binary digits are significant and it stays below 2¹⁰²⁴.

Comparisons are comparisons of counts. Not-a-number compares with nothing, and the two zeros are
equal. `roundUnits` is the one place that rounds: a quotient goes to the nearest representable
count, and a quotient halfway between two goes to the one with the even significand. -/

namespace CellExchange

/-- How many units make one: 2¹⁰⁷⁴. -/
def unitsPerOne : Nat := Nat.pow 2 1074

/-- The spacing, in units, of the numbers around a count of units: 1 up to 53 binary digits, and
twice as much for each digit more. -/
def spacing (units : Nat) : Nat := Nat.pow 2 (units.log2 - 52)

/-- A count of units that a number can have: a multiple of its own spacing, below 2¹⁰²⁴. -/
def Representable (units : Nat) : Prop := units < Nat.pow 2 2098 ∧ spacing units ∣ units

instance (units : Nat) : Decidable (Representable units) :=
  inferInstanceAs (Decidable (_ ∧ _))

/-- A floating-point number of 64 bits. -/
inductive Double where
  /-- Not a number. -/
  | nan
  /-- An infinity. -/
  | infinite (negative : Bool)
  /-- A sign and a count of units. -/
  | finite (negative : Bool) (units : Nat) (representable : Representable units)
  deriving DecidableEq

namespace Double

/-- The number with the given sign and count of units; an infinity if the count is too great. -/
def ofUnits (negative : Bool) (units : Nat) : Double :=
  if h : Representable units then .finite negative units h else .infinite negative

/-- The number nearest to a whole number of at most 53 binary digits, which is that number. -/
def ofInt (n : Int) : Double := ofUnits (n < 0) (n.natAbs * unitsPerOne)

instance : Inhabited Double := ⟨ofInt 0⟩

/-! ## Comparing -/

/-- The value of a finite number, in units. -/
def signedUnits (negative : Bool) (units : Nat) : Int := if negative then -units else units

/-- Whether a number is at least `low` and at most `high`. -/
def within (low high : Int) : Double → Bool
  | .finite negative units _ =>
    low * unitsPerOne ≤ signedUnits negative units &&
      signedUnits negative units ≤ high * unitsPerOne
  | _ => false

/-- Whether a number equals a whole number. -/
def isWhole (n : Int) : Double → Bool
  | .finite negative units _ => signedUnits negative units == n * unitsPerOne
  | _ => false

/-- The order in which a database sorts numbers: not-a-number equals itself and is above all others.
-/
def order : Double → Double → Ordering
  | .nan, .nan => .eq
  | .nan, _ => .gt
  | _, .nan => .lt
  | .infinite s, .infinite t => compare (signedUnits s 1) (signedUnits t 1)
  | .infinite s, .finite .. => if s then .lt else .gt
  | .finite .., .infinite t => if t then .gt else .lt
  | .finite s m _, .finite t n _ => compare (signedUnits s m) (signedUnits t n)

/-- The whole part of a number, its fraction dropped; zero for a number without one. -/
def wholePart : Double → Int
  | .finite negative units _ => signedUnits negative (units / unitsPerOne)
  | _ => 0

/-! ## Rounding -/

/-- The whole number nearest to a quotient; of two equally near, the even one. -/
def roundQuotient (num den : Nat) : Nat :=
  let q := num / den
  let twice := 2 * (num % den)
  if twice < den then q else if den < twice then q + 1 else q + q % 2

/-- The count of units nearest to a quotient, with at most 53 significant binary digits. -/
def roundUnits (num den : Nat) : Nat :=
  let step := spacing (num / den)
  roundQuotient num (den * step) * step

/-- The number nearest to a quotient of units. -/
def ofQuotient (negative : Bool) (num den : Nat) : Double :=
  ofUnits negative (roundUnits num den)

end Double

end CellExchange
